import DsspBot.Lib.Firsts
import DsspBot.Worker.Selector

/-!
# Resolution — a roster against the portal's list

`resolve_against` keeps going after an entry it cannot resolve and collapses repeats only once both
entries are canonical. What it returns is the resolved ids in the order of their first occurrence,
or one problem for each entry that stands for nobody.
-/

namespace DsspBot

open Firsts (firsts)

/-! ## Whom an entry stands for -/

section Resolution

variable (toUppercase : String → String) (available : List TraineeInfo)

/-- How many rows of the list bear the entry's name; an entry without one bears the empty name. -/
def bearers (entry : TraineeRef) : Nat :=
  available.countP fun row =>
    decide (normalizeName toUppercase row.name = normalizeName toUppercase (entry.name.getD ""))

/-- The entry's id occurs in the list, or it has none and exactly one row bears its name. -/
def Resolvable (entry : TraineeRef) : Prop :=
  match entry.id with
  | some id => ∃ row ∈ available, row.id = id
  | none => bearers toUppercase available entry = 1

instance (entry : TraineeRef) : Decidable (Resolvable toUppercase available entry) :=
  match entry with
  | ⟨some id, _⟩ => inferInstanceAs (Decidable (∃ row ∈ available, row.id = id))
  | ⟨none, name⟩ => inferInstanceAs (Decidable (bearers toUppercase available ⟨none, name⟩ = 1))

/-- The id an entry stands for. -/
def StandsFor (entry : TraineeRef) (id : String) : Prop :=
  Resolvable toUppercase available entry ∧
    match entry.id with
    | some wanted => id = wanted
    | none => ∃ row ∈ available, row.id = id ∧
        normalizeName toUppercase row.name = normalizeName toUppercase (entry.name.getD "")

/-- What is said about an entry that stands for nobody. -/
def complaint (index : Nat) (entry : TraineeRef) : String :=
  let label := (keyOf entry).getD ("#" ++ Nat.repr index)
  let count := bearers toUppercase available entry
  if entry.id.isSome then s!"{label}: no trainee with that id on the portal"
  else if count = 0 then s!"{label}: no trainee with that name on the portal"
  else s!"{label}: {count} trainees share that name — give the trainee id"

variable {toUppercase available}

theorem bearers_eq_length (entry : TraineeRef) :
    bearers toUppercase available entry =
      (findByName toUppercase available (entry.name.getD "")).length :=
  List.countP_eq_length_filter

variable (toUppercase available) in
/-- One entry resolves to the id it stands for, or it stands for nobody and is complained about. -/
theorem resolveEntry_cases (index : Nat) (entry : TraineeRef) :
    (∃ found, resolveEntry toUppercase available index entry = .ok found ∧
      StandsFor toUppercase available entry found.id) ∨
      (resolveEntry toUppercase available index entry =
          .error (complaint toUppercase available index entry) ∧
        ¬Resolvable toUppercase available entry) := by
  have hcount : bearers toUppercase available entry =
      (findByName toUppercase available (entry.name.getD "")).length := bearers_eq_length entry
  cases hid : entry.id with
  | some id =>
      cases hfound : findById available id with
      | some found =>
          have hrow := findById_eq_some hfound
          refine Or.inl ⟨found, by simp [resolveEntry, hid, hfound], ?_⟩
          simp only [StandsFor, Resolvable, hid]
          exact ⟨⟨found, hrow⟩, hrow.2⟩
      | none =>
          refine Or.inr ⟨by simp [resolveEntry, complaint, hid, hfound], ?_⟩
          simp only [Resolvable, hid]
          rintro ⟨row, hrow, heq⟩
          exact findById_eq_none hfound row hrow heq
  | none =>
      cases hnamed : findByName toUppercase available (entry.name.getD "") with
      | nil =>
          have hzero : bearers toUppercase available entry = 0 := by simp [hcount, hnamed]
          exact Or.inr ⟨by simp [resolveEntry, complaint, hid, hnamed, hzero],
            by simp [Resolvable, hid, hzero]⟩
      | cons found rest =>
          cases rest with
          | nil =>
              have hone : bearers toUppercase available entry = 1 := by simp [hcount, hnamed]
              have hmem : found ∈ findByName toUppercase available (entry.name.getD "") := by
                simp [hnamed]
              have hparts := List.mem_filter.1 hmem
              refine Or.inl ⟨found, by simp [resolveEntry, hid, hnamed], ?_⟩
              simp only [StandsFor, Resolvable, hid]
              exact ⟨hone, found, hparts.1, rfl, by simpa using hparts.2⟩
          | cons other more =>
              have hmany :
                  bearers toUppercase available entry = (found :: other :: more).length := by
                simp [hcount, hnamed]
              exact Or.inr ⟨by simp [resolveEntry, complaint, hid, hnamed, hmany],
                by simp [Resolvable, hid, hmany]⟩

/-- An entry stands for one id at most. -/
theorem StandsFor.unique {entry : TraineeRef} {id id' : String}
    (h : StandsFor toUppercase available entry id)
    (h' : StandsFor toUppercase available entry id') : id = id' := by
  rcases h with ⟨hres, h⟩
  rcases h' with ⟨-, h'⟩
  cases hid : entry.id with
  | some wanted =>
      rw [hid] at h h'
      exact h.trans h'.symm
  | none =>
      simp only [Resolvable, hid] at hres
      rw [hid] at h h'
      rcases h with ⟨row, hrow, rfl, hname⟩
      rcases h' with ⟨row', hrow', rfl, hname'⟩
      -- Both rows are the one that bears the name.
      have hlength := (bearers_eq_length entry).symm.trans hres
      rcases List.length_eq_one_iff.1 hlength with ⟨only, honly⟩
      have hbears : ∀ r ∈ available,
          normalizeName toUppercase r.name = normalizeName toUppercase (entry.name.getD "") →
            r = only := by
        intro r hr hrname
        have hmem : r ∈ findByName toUppercase available (entry.name.getD "") :=
          List.mem_filter.2 ⟨hr, by simpa using hrname⟩
        simpa [honly] using hmem
      rw [hbears row hrow hname, hbears row' hrow' hname']

/-! ## The pass over the roster -/

variable (toUppercase available) in
/-- What each entry comes to, its position beside it. -/
def verdicts (trainees : List (TraineeRef × Nat)) : List (Except String TraineeInfo) :=
  trainees.map fun entry => resolveEntry toUppercase available entry.2 entry.1

def foundId : Except String TraineeInfo → Option String
  | .ok found => some found.id
  | .error _ => none

def problem : Except String TraineeInfo → Option String
  | .ok _ => none
  | .error text => some text

theorem resolveFrom_eq_foldl (index : Nat) (acc : Resolved) (trainees : List TraineeRef) :
    resolveFrom toUppercase available index acc trainees =
      (verdicts toUppercase available (trainees.zipIdx index)).foldl Resolved.add acc := by
  induction trainees generalizing index acc with
  | nil => rfl
  | cons entry rest ih => exact ih (index + 1) _

/-- The accumulated ids are the found ones in the order of their first occurrence. -/
theorem foldl_add_resolved (acc : Resolved) (rs : List (Except String TraineeInfo)) :
    (rs.foldl Resolved.add acc).resolved =
      acc.resolved ++ (firsts id acc.seen (rs.filterMap foundId)).map byId := by
  induction rs generalizing acc with
  | nil => simp [firsts]
  | cons r rs ih =>
      cases r with
      | error text =>
          have hskip := ih (acc.add (.error text))
          simpa [Resolved.add, foundId, List.filterMap_cons] using hskip
      | ok found =>
          by_cases hseen : found.id ∈ acc.seen
          · have hadd : acc.add (.ok found) = acc := by simp [Resolved.add, hseen]
            have hid : id found.id ∈ acc.seen := hseen
            have hdrop := Firsts.firsts_cons_of_seen hid (rs.filterMap foundId)
            calc
              ((Except.ok found :: rs).foldl Resolved.add acc).resolved
                  = (rs.foldl Resolved.add acc).resolved := by rw [List.foldl_cons, hadd]
              _ = _ := by
                rw [ih acc, ← hdrop]
                rfl
          · have hid : id found.id ∉ acc.seen := hseen
            have hkeep := Firsts.firsts_cons_of_fresh hid (rs.filterMap foundId)
            have hadd : acc.add (.ok found) =
                { acc with
                  resolved := acc.resolved ++ [byId found.id]
                  seen := found.id :: acc.seen } := by
              simp [Resolved.add, hseen, byId]
            calc
              ((Except.ok found :: rs).foldl Resolved.add acc).resolved
                  = acc.resolved ++ [byId found.id] ++
                      (firsts id (found.id :: acc.seen) (rs.filterMap foundId)).map byId := by
                    rw [List.foldl_cons, hadd, ih]
              _ = acc.resolved ++
                    (firsts id acc.seen (found.id :: rs.filterMap foundId)).map byId := by
                    rw [hkeep]
                    simp
              _ = _ := rfl

theorem foldl_add_problems (acc : Resolved) (rs : List (Except String TraineeInfo)) :
    (rs.foldl Resolved.add acc).problems = acc.problems ++ rs.filterMap problem := by
  induction rs generalizing acc with
  | nil => simp
  | cons r rs ih =>
      cases r with
      | error text => simpa [Resolved.add, problem] using ih (acc.add (.error text))
      | ok found =>
          have hskip := ih (acc.add (.ok found))
          simpa [problem, acc.add_ok_problems found, List.filterMap_cons] using hskip

/-- One problem for each entry that stands for nobody, in order. -/
theorem problems_eq (trainees : List (TraineeRef × Nat)) :
    (verdicts toUppercase available trainees).filterMap problem =
      (trainees.filter fun entry => decide (¬Resolvable toUppercase available entry.1)).map
        fun entry => complaint toUppercase available entry.2 entry.1 := by
  induction trainees with
  | nil => rfl
  | cons entry rest ih =>
      rcases resolveEntry_cases toUppercase available entry.2 entry.1 with
        ⟨found, hok, hstands, -⟩ | ⟨herror, hnot⟩
      · simpa [verdicts, hok, problem, hstands, List.filterMap_cons] using ih
      · simpa [verdicts, herror, problem, hnot] using ih

/-- Where every entry stands for somebody, these are the found ids. -/
theorem foundIds_of_resolvable {trainees : List (TraineeRef × Nat)}
    (h : ∀ entry ∈ trainees, Resolvable toUppercase available entry.1) :
    List.Forall₂ (StandsFor toUppercase available) (trainees.map Prod.fst)
      ((verdicts toUppercase available trainees).filterMap foundId) := by
  induction trainees with
  | nil => exact .nil
  | cons entry rest ih =>
      have hrest := ih fun e he => h e (List.mem_cons_of_mem _ he)
      rcases resolveEntry_cases toUppercase available entry.2 entry.1 with
        ⟨found, hok, hstands⟩ | ⟨-, hnot⟩
      · have hfound : (verdicts toUppercase available (entry :: rest)).filterMap foundId =
            found.id :: (verdicts toUppercase available rest).filterMap foundId := by
          simp [verdicts, hok, foundId]
        rw [hfound]
        exact .cons hstands hrest
      · exact absurd (h entry List.mem_cons_self) hnot

theorem standsFor_forall₂_unique {trainees : List TraineeRef} {ids ids' : List String}
    (h : List.Forall₂ (StandsFor toUppercase available) trainees ids)
    (h' : List.Forall₂ (StandsFor toUppercase available) trainees ids') : ids' = ids := by
  induction h generalizing ids' with
  | nil =>
      cases h'
      rfl
  | cons hentry _ ih =>
      cases h' with
      | cons hentry' hrest => rw [hentry'.unique hentry, ih hrest]

theorem StandsFor.listed {entry : TraineeRef} {id : String}
    (h : StandsFor toUppercase available entry id) : ∃ row ∈ available, row.id = id := by
  rcases h with ⟨hres, h⟩
  cases hid : entry.id with
  | some wanted =>
      simp only [Resolvable, hid] at hres h
      exact h ▸ hres
  | none =>
      rw [hid] at h
      rcases h with ⟨row, hrow, heq, -⟩
      exact ⟨row, hrow, heq⟩

theorem listed_of_forall₂ {trainees : List TraineeRef} {ids : List String}
    (h : List.Forall₂ (StandsFor toUppercase available) trainees ids) :
    ∀ id ∈ ids, ∃ row ∈ available, row.id = id := by
  induction h with
  | nil => simp
  | cons hentry _ ih =>
      intro id hid
      rcases List.mem_cons.1 hid with rfl | hid
      · exact hentry.listed
      · exact ih id hid

/-- The answer read off the verdicts on the entries. -/
theorem resolveAgainst_eq (trainees : List TraineeRef) :
    resolveAgainst toUppercase available trainees =
      if ((verdicts toUppercase available trainees.zipIdx).filterMap problem).isEmpty then
        .ok
          (((verdicts toUppercase available trainees.zipIdx).filterMap foundId).eraseDups.map byId)
      else .error ((verdicts toUppercase available trainees.zipIdx).filterMap problem) := by
  have hproblems : (resolveFrom toUppercase available 0 {} trainees).problems =
      (verdicts toUppercase available trainees.zipIdx).filterMap problem := by
    rw [resolveFrom_eq_foldl, foldl_add_problems]
    exact List.nil_append _
  have hresolved : (resolveFrom toUppercase available 0 {} trainees).resolved =
      ((verdicts toUppercase available trainees.zipIdx).filterMap foundId).eraseDups.map byId := by
    rw [resolveFrom_eq_foldl, foldl_add_resolved, ← Firsts.firsts_id]
    exact List.nil_append _
  simp only [resolveAgainst, hproblems, hresolved]

/-- No problem is left exactly when every entry stands for somebody. -/
theorem problems_eq_nil_iff (trainees : List TraineeRef) :
    (verdicts toUppercase available trainees.zipIdx).filterMap problem = [] ↔
      ∀ entry ∈ trainees, Resolvable toUppercase available entry := by
  rw [problems_eq, List.map_eq_nil_iff, List.filter_eq_nil_iff]
  constructor
  · intro h entry hentry
    rcases List.mem_iff_getElem?.1 hentry with ⟨i, hi⟩
    simpa using h (entry, i) (List.mem_zipIdx_iff_getElem?.2 hi)
  · intro h entry hentry
    have hmem : entry.1 ∈ trainees := List.fst_mem_of_mem_zipIdx hentry
    simpa using h entry.1 hmem

end Resolution

/-- Resolving a roster succeeds exactly when every entry stands for one listed trainee, and then
yields their ids without repeats, in order. Otherwise it names every entry that does not. -/
theorem resolution_is_exact (toUppercase : String → String) (available : List TraineeInfo)
    (trainees : List TraineeRef) :
    ((∃ resolved, resolveAgainst toUppercase available trainees = .ok resolved) ↔
        ∀ entry ∈ trainees, Resolvable toUppercase available entry) ∧
      (∀ resolved, resolveAgainst toUppercase available trainees = .ok resolved →
        ∃ ids, (∀ others, List.Forall₂ (StandsFor toUppercase available) trainees others ↔
            others = ids) ∧
          resolved = ids.eraseDups.map byId ∧ ids.eraseDups.Nodup ∧
          (∀ id ∈ ids.eraseDups, ∃ row ∈ available, row.id = id) ∧
          ∀ id ∈ ids, id ∈ ids.eraseDups) ∧
      ∀ problems, resolveAgainst toUppercase available trainees = .error problems →
        problems = (trainees.zipIdx.filter fun entry =>
            decide (¬Resolvable toUppercase available entry.1)).map
          fun entry => complaint toUppercase available entry.2 entry.1 := by
  rw [resolveAgainst_eq]
  refine ⟨?_, ?_, ?_⟩
  · rw [← problems_eq_nil_iff]
    constructor
    · rintro ⟨resolved, hok⟩
      split at hok
      · next hempty => simpa using hempty
      · cases hok
    · intro hempty
      exact ⟨_, if_pos (by simp [hempty])⟩
  · intro resolved hok
    split at hok
    · next hempty =>
        cases hok
        have hall := (problems_eq_nil_iff trainees).1 (by simpa using hempty)
        have hids : List.Forall₂ (StandsFor toUppercase available) trainees
            ((verdicts toUppercase available trainees.zipIdx).filterMap foundId) := by
          have hindexed : ∀ entry ∈ trainees.zipIdx,
              Resolvable toUppercase available entry.1 :=
            fun entry hentry => hall entry.1 (List.fst_mem_of_mem_zipIdx hentry)
          simpa using foundIds_of_resolvable hindexed
        refine ⟨_, ?_, rfl, ?_, ?_, fun id hid => List.mem_eraseDups.2 hid⟩
        · intro others
          constructor
          · exact fun hothers => standsFor_forall₂_unique hids hothers
          · rintro rfl
            exact hids
        · rw [← Firsts.firsts_id]
          simpa using Firsts.nodup_firsts id []
            ((verdicts toUppercase available trainees.zipIdx).filterMap foundId)
        · intro id hid
          exact listed_of_forall₂ hids id (List.mem_eraseDups.1 hid)
    · cases hok
  · intro problems herror
    split at herror
    · cases herror
    · cases herror
      exact problems_eq _

end DsspBot

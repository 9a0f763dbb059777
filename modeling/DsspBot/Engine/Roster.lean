import Mathlib.Data.List.Nodup
import DsspBot.Protocol
import DsspBot.Queue

/-!
# Roster — queue keys and the collapse of repeats

A roster is a set: repeats are collapsed before anything is counted. The key written to the file
is a plain string; the comparison that collapses repeats is tagged by where the key came from.
-/

namespace DsspBot

abbrev Task := QueueTask TraineeRef

/-- The key a trainee is queued under: id first, then name, then its position. -/
def queueKey (trainee : TraineeRef) (index : Nat) : String :=
  -- The position is 0-based, as the source's `enumerate`.
  (trainee.id.or trainee.name).getD ("#" ++ Nat.repr index)

/-- Which namespace a trainee's key belongs to. -/
inductive QueueKey
  | id (value : String)
  | name (value : String)
  | position (index : Nat)
  deriving DecidableEq, Repr

def keyNamespace (trainee : TraineeRef) (index : Nat) : QueueKey :=
  match trainee.id, trainee.name with
  | some id, _ => .id id
  | none, some name => .name name
  | none, none => .position index

/-- One pass over the roster from position `index`, remembering the keys already seen. -/
def dedupeFrom : Nat → List QueueKey → List TraineeRef → List (String × TraineeRef)
  | _, _, [] => []
  | index, seen, trainee :: rest =>
      -- The position counts the entries that are dropped too.
      if keyNamespace trainee index ∈ seen then
        dedupeFrom (index + 1) seen rest
      else
        (queueKey trainee index, trainee) ::
          dedupeFrom (index + 1) (keyNamespace trainee index :: seen) rest

def dedupe (trainees : List TraineeRef) : List (String × TraineeRef) :=
  dedupeFrom 0 [] trainees

def toTask (entry : String × TraineeRef) : Task :=
  { id := entry.1, payload := entry.2 }

/-- The tasks a roster is queued as. -/
def queuedTasks (trainees : List TraineeRef) : List Task :=
  (dedupe trainees).map toTask

/-- The id a row falls back to when a reply names nobody. -/
def fallbackId (task : Task) : String :=
  task.payload.id.getD ""

def fallbackName (task : Task) : String :=
  task.payload.name.getD ""

/-! ## The tasks are pairwise distinct -/

/-- Every entry of the pass comes from a position not before its start and an unseen key. -/
theorem mem_dedupeFrom {trainees : List TraineeRef} {index : Nat} {seen : List QueueKey}
    {entry : String × TraineeRef} (h : entry ∈ dedupeFrom index seen trainees) :
    ∃ i, index ≤ i ∧ entry.1 = queueKey entry.2 i ∧ keyNamespace entry.2 i ∉ seen := by
  -- The keys seen and the position grow along the list, so both vary in the induction.
  induction trainees generalizing index seen with
  | nil => simp [dedupeFrom] at h
  | cons trainee rest ih =>
      unfold dedupeFrom at h
      by_cases hseen : keyNamespace trainee index ∈ seen
      · rw [if_pos hseen] at h
        rcases ih h with ⟨i, hi, hkey, hfresh⟩
        exact ⟨i, by omega, hkey, hfresh⟩
      · rw [if_neg hseen] at h
        rcases List.mem_cons.1 h with rfl | h
        · exact ⟨index, Nat.le_refl _, rfl, hseen⟩
        · rcases ih h with ⟨i, hi, hkey, hfresh⟩
          exact ⟨i, by omega, hkey, fun hmem => hfresh (List.mem_cons_of_mem _ hmem)⟩

/-- Nobody is dropped for good: whoever is dropped shares the key of an entry that is kept. -/
theorem exists_mem_dedupeFrom {trainees : List TraineeRef} {index i : Nat} {seen : List QueueKey}
    {trainee : TraineeRef} (h : trainees[i]? = some trainee)
    (hfresh : keyNamespace trainee (index + i) ∉ seen) :
    ∃ entry ∈ dedupeFrom index seen trainees, ∃ j,
      keyNamespace entry.2 j = keyNamespace trainee (index + i) := by
  induction trainees generalizing index seen i with
  | nil => simp at h
  | cons first rest ih =>
      unfold dedupeFrom
      cases i with
      | zero =>
          have heq : first = trainee := by simpa using h
          subst heq
          rw [if_neg (by simpa using hfresh)]
          exact ⟨_, List.mem_cons_self, index, rfl⟩
      | succ i =>
          have htail : rest[i]? = some trainee := by simpa using h
          have hindex : index + (i + 1) = index + 1 + i := by omega
          rw [hindex] at hfresh ⊢
          by_cases hseen : keyNamespace first index ∈ seen
          · rw [if_pos hseen]
            exact ih htail hfresh
          · rw [if_neg hseen]
            -- A repeat of the first entry is covered by it, anybody else by the rest of the pass.
            by_cases hsame : keyNamespace first index = keyNamespace trainee (index + 1 + i)
            · exact ⟨_, List.mem_cons_self, index, hsame⟩
            · have hfresh' : keyNamespace trainee (index + 1 + i) ∉
                  keyNamespace first index :: seen := by
                simp [hfresh, Ne.symm hsame]
              rcases ih htail hfresh' with ⟨entry, hentry, j, hj⟩
              exact ⟨entry, List.mem_cons_of_mem _ hentry, j, hj⟩

theorem repr_injective {m n : Nat} (h : Nat.repr m = Nat.repr n) : m = n := by
  have hdigits : Nat.toDigits 10 m = Nat.toDigits 10 n := by
    have hchars := congrArg String.toList h
    simpa only [Nat.toList_repr] using hchars
  have hvalue := congrArg (fun ds => Nat.ofDigitChars 10 ds 0) hdigits
  calc
    m = Nat.ofDigitChars 10 (Nat.toDigits 10 m) 0 := by simp
    _ = Nat.ofDigitChars 10 (Nat.toDigits 10 n) 0 := hvalue
    _ = n := by simp

/-- For one selector, equal keys come from the same namespaced key. -/
theorem keyNamespace_eq_of_queueKey_eq {trainee : TraineeRef} {i j : Nat}
    (h : queueKey trainee i = queueKey trainee j) :
    keyNamespace trainee i = keyNamespace trainee j := by
  -- Only a position can differ between the two keys, and the text determines it.
  rcases trainee with ⟨id, name⟩
  cases id with
  | some id => rfl
  | none =>
      cases name with
      | some name => rfl
      | none =>
          have hrepr : Nat.repr i = Nat.repr j := by simpa [queueKey] using h
          simp [keyNamespace, repr_injective hrepr]

theorem dedupeFrom_nodup (trainees : List TraineeRef) (index : Nat) (seen : List QueueKey) :
    (dedupeFrom index seen trainees).Nodup := by
  induction trainees generalizing index seen with
  | nil => simp [dedupeFrom]
  | cons trainee rest ih =>
      unfold dedupeFrom
      by_cases hseen : keyNamespace trainee index ∈ seen
      · rw [if_pos hseen]
        exact ih _ _
      · rw [if_neg hseen]
        refine List.nodup_cons.2 ⟨?_, ih _ _⟩
        intro hmem
        -- The same entry later in the pass would have been seen under this entry's key.
        rcases mem_dedupeFrom hmem with ⟨i, -, hkey, hfresh⟩
        have heq := keyNamespace_eq_of_queueKey_eq hkey
        exact hfresh (by simp [← heq])

/-- Whatever the roster, no two queued tasks are the same. -/
theorem queuedTasks_nodup (trainees : List TraineeRef) : (queuedTasks trainees).Nodup := by
  refine (dedupeFrom_nodup trainees 0 []).map ?_
  rintro ⟨key, trainee⟩ ⟨key', trainee'⟩ h
  simpa [toTask] using h

/-! ## Rosters of distinct ids -/

/-- The ids a roster names, for a roster whose entries all carry one. -/
structure DistinctIds (trainees : List TraineeRef) (ids : List String) : Prop where
  named : trainees.map (·.id) = ids.map some
  nodup : ids.Nodup

theorem dedupeFrom_of_distinct {trainees : List TraineeRef} {ids : List String} {index : Nat}
    {seen : List QueueKey} (h : DistinctIds trainees ids)
    (hseen : ∀ id ∈ ids, QueueKey.id id ∉ seen) :
    dedupeFrom index seen trainees = ids.zip trainees := by
  induction trainees generalizing ids index seen with
  | nil => simp [dedupeFrom]
  | cons trainee rest ih =>
      rcases h with ⟨hnamed, hnodup⟩
      cases ids with
      | nil => simp at hnamed
      | cons id ids =>
          have hparts : trainee.id = some id ∧ rest.map (·.id) = ids.map some := by
            simpa using hnamed
          -- Every entry has an id, so its key is that id and was not seen.
          have hkey : keyNamespace trainee index = .id id := by
            rcases trainee with ⟨tid, tname⟩
            cases hparts.1
            rfl
          have hnot := List.nodup_cons.1 hnodup
          unfold dedupeFrom
          rw [hkey, if_neg (hseen id (by simp))]
          have hqueue : queueKey trainee index = id := by simp [queueKey, hparts.1]
          rw [hqueue, ih ⟨hparts.2, hnot.2⟩]
          · rfl
          · intro id' hid' hmem
            rcases List.mem_cons.1 hmem with heq | hmem
            · cases heq
              exact hnot.1 hid'
            · exact hseen id' (by simp [hid']) hmem

/-- A roster of distinct ids is queued as it stands, each entry under its own id. -/
theorem queuedTasks_of_distinct {trainees : List TraineeRef} {ids : List String}
    (h : DistinctIds trainees ids) :
    (queuedTasks trainees).map (·.id) = ids ∧
      ∀ task ∈ queuedTasks trainees, task.payload.id = some task.id := by
  have hlength : ids.length = trainees.length := by
    simpa using (congrArg List.length h.named).symm
  have htasks : queuedTasks trainees = (ids.zip trainees).map toTask := by
    unfold queuedTasks dedupe
    rw [dedupeFrom_of_distinct h (by simp)]
  constructor
  · calc
      (queuedTasks trainees).map (·.id) = (ids.zip trainees).map Prod.fst := by
        simp [htasks, toTask, Function.comp_def]
      _ = ids := List.map_fst_zip (by omega)
  · rw [htasks]
    intro task htask
    -- An entry pairs the id and the trainee found at one position of the two lists.
    rcases List.mem_map.1 htask with ⟨⟨id, trainee⟩, hmem, rfl⟩
    rcases List.mem_iff_getElem.1 hmem with ⟨i, hi, heq⟩
    have hi' : i < ids.length ∧ i < trainees.length := by
      simp at hi
      omega
    have hpair : ids.get ⟨i, hi'.1⟩ = id ∧ trainees.get ⟨i, hi'.2⟩ = trainee := by
      simpa using heq
    have hget := congrArg (fun xs => xs[i]?) h.named
    simp only [List.getElem?_map, List.getElem?_eq_getElem hi'.1, List.getElem?_eq_getElem hi'.2,
      Option.map_some, Option.some.injEq] at hget
    rw [← hpair.1, ← hpair.2]
    exact hget

/-- The roster a resume builds names exactly the ids it was built from. -/
theorem distinctIds_byId {ids : List String} (h : ids.Nodup) :
    DistinctIds (ids.map fun id => ({ id := some id, name := none } : TraineeRef)) ids :=
  ⟨by simp [Function.comp_def], h⟩

end DsspBot

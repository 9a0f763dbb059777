import DsspBot.Lib.Words
import DsspBot.Worker.EndToEnd

/-!
# Selector — who a roster entry names

The command resolves a roster against the portal's list before the batch, and the worker resolves
each trainee it is sent against the same list. Over printable ASCII both follow one rule for names.
They differ in what they make of an id that is padded or blank, and of a name that is blank.
-/

namespace DsspBot

open Words (words trim)

/-! ## Names -/

/-- Printable ASCII, the space included. -/
def Printable (value : String) : Prop :=
  ∀ c ∈ value.toList, 0x20 ≤ c.toNat ∧ c.toNat ≤ 0x7E

instance (value : String) : Decidable (Printable value) :=
  List.decidableBAll (fun c : Char => 0x20 ≤ c.toNat ∧ c.toNat ≤ 0x7E) value.toList

theorem splitWhitespace_eq (value : String) :
    splitWhitespace value = (words isWhitespace value.toList).map String.ofList := rfl

theorem splitSpace_eq (value : String) :
    splitSpace value = (words isspace value.toList).map String.ofList := rfl

theorem toList_strip (value : String) : (strip value).toList = trim isspace value.toList :=
  String.toList_ofList

/-- Among printable characters both languages see one separator, the space. -/
theorem isWhitespace_of_printable {c : Char} (h : 0x20 ≤ c.toNat ∧ c.toNat ≤ 0x7E) :
    isWhitespace c = isspace c := by
  have hcontrol : ¬(0x1C ≤ c.toNat ∧ c.toNat ≤ 0x1F) := by omega
  simp [isspace, hcontrol]

theorem splitWhitespace_of_printable {value : String} (h : Printable value) :
    splitWhitespace value = splitSpace value := by
  rw [splitWhitespace_eq, splitSpace_eq]
  exact congrArg _ (Words.words_congr fun c hc => isWhitespace_of_printable (h c hc))

/-- The name rule of both sides over printable names. -/
def canonicalName (value : String) : String :=
  (" ".intercalate (splitSpace value)).toUpper

theorem mem_intercalate {c : Char} {parts : List String} (h : c ∈ (" ".intercalate parts).toList) :
    c = ' ' ∨ ∃ part ∈ parts, c ∈ part.toList := by
  induction parts with
  | nil => simp at h
  | cons first rest ih =>
      cases rest with
      | nil =>
          rw [String.intercalate_singleton] at h
          exact Or.inr ⟨first, List.mem_cons_self, h⟩
      | cons second rest =>
          rw [String.intercalate_cons_cons, String.toList_append, String.toList_append] at h
          rcases List.mem_append.1 h with hfront | hback
          · rcases List.mem_append.1 hfront with hfirst | hspace
            · exact Or.inr ⟨first, List.mem_cons_self, hfirst⟩
            · exact Or.inl (by simpa using hspace)
          · rcases ih hback with hspace | ⟨part, hpart, hc⟩
            · exact Or.inl hspace
            · exact Or.inr ⟨part, List.mem_cons_of_mem first hpart, hc⟩

theorem printable_collapsed {value : String} (h : Printable value) :
    Printable (" ".intercalate (splitSpace value)) := by
  intro c hc
  rcases mem_intercalate hc with rfl | ⟨part, hpart, hc⟩
  · decide
  · rw [splitSpace_eq] at hpart
    rcases List.mem_map.1 hpart with ⟨word, hword, rfl⟩
    rw [String.toList_ofList] at hc
    exact h c (Words.mem_of_mem_words hword hc)

/-- Blanks around a name do not count. -/
theorem canonicalName_strip (value : String) :
    canonicalName (strip value) = canonicalName value := by
  unfold canonicalName
  rw [splitSpace_eq, splitSpace_eq, toList_strip, Words.words_trim]

theorem strip_eq_empty_iff (value : String) : strip value = "" ↔ splitSpace value = [] := by
  rw [splitSpace_eq, List.map_eq_nil_iff, Words.words_eq_nil_iff, ← Words.trim_eq_nil_iff,
    ← toList_strip, String.toList_eq_nil_iff]

theorem toUpper_eq_empty_iff (value : String) : value.toUpper = "" ↔ value = "" := by
  rw [← String.toList_eq_nil_iff, ← String.toList_eq_nil_iff]
  unfold String.toUpper
  rw [String.toList_map, List.map_eq_nil_iff]

theorem intercalate_ne_empty {first : String} {rest : List String} (h : first ≠ "") :
    " ".intercalate (first :: rest) ≠ "" := by
  intro hempty
  have hlist := String.toList_eq_nil_iff.2 hempty
  cases rest with
  | nil =>
      rw [String.intercalate_singleton] at hempty
      exact h hempty
  | cons second rest =>
      rw [String.intercalate_cons_cons, String.toList_append, String.toList_append] at hlist
      simp at hlist

theorem collapsed_eq_empty_iff (value : String) :
    " ".intercalate (splitSpace value) = "" ↔ splitSpace value = [] := by
  constructor
  · intro h
    cases hparts : splitSpace value with
    | nil => rfl
    | cons first rest =>
        rw [hparts] at h
        refine absurd h (intercalate_ne_empty ?_)
        have hfirst : first ∈ (words isspace value.toList).map String.ofList := by
          rw [← splitSpace_eq, hparts]
          exact List.mem_cons_self
        rcases List.mem_map.1 hfirst with ⟨word, hword, rfl⟩
        intro hempty
        have hnil : word = [] := by
          rw [← String.toList_ofList (l := word), hempty]
          rfl
        exact Words.ne_nil_of_mem_words hword hnil
  · intro h
    rw [h]
    rfl

/-- A name is blank exactly if nothing of it is left. -/
theorem canonicalName_eq_empty_iff (value : String) :
    canonicalName value = "" ↔ strip value = "" := by
  rw [strip_eq_empty_iff, canonicalName, toUpper_eq_empty_iff, collapsed_eq_empty_iff]

section Resolving

variable {toUppercase : String → String}

theorem normalizeName_of_printable
    (hrust : ∀ value, Printable value → toUppercase value = value.toUpper) {value : String}
    (h : Printable value) : normalizeName toUppercase value = canonicalName value := by
  unfold normalizeName
  rw [splitWhitespace_of_printable h, hrust _ (printable_collapsed h)]
  rfl

/-- The rows that bear a name. -/
def named (list : List TraineeInfo) (name : String) : List TraineeInfo :=
  list.filter fun row => decide (canonicalName row.name = canonicalName name)

/-! ## The command's resolver -/

theorem findByName_of_printable
    (hrust : ∀ value, Printable value → toUppercase value = value.toUpper)
    {list : List TraineeInfo} (hlist : ∀ row ∈ list, Printable row.name) {name : String}
    (hname : Printable name) : findByName toUppercase list name = named list name := by
  unfold findByName named
  refine List.filter_congr ?_
  intro row hrow
  rw [normalizeName_of_printable hrust (hlist row hrow), normalizeName_of_printable hrust hname]

theorem findById_eq_some {list : List TraineeInfo} {id : String} {row : TraineeInfo}
    (h : findById list id = some row) : row ∈ list ∧ row.id = id := by
  unfold findById at h
  have hmem := List.mem_of_find?_eq_some h
  have hid := List.find?_some h
  exact ⟨List.mem_reverse.1 hmem, by simpa using hid⟩

theorem findById_eq_none {list : List TraineeInfo} {id : String} (h : findById list id = none) :
    ∀ row ∈ list, row.id ≠ id := by
  intro row hrow
  have hnone := List.find?_eq_none.1 h row (List.mem_reverse.2 hrow)
  simpa using hnone

/-- One entry is its own batch. -/
theorem resolveAgainst_singleton (list : List TraineeInfo) (entry : TraineeRef) :
    resolveAgainst toUppercase list [entry] =
      match resolveEntry toUppercase list 0 entry with
      | .ok found => .ok [{ id := some found.id, name := none }]
      | .error problem => .error [problem] := by
  unfold resolveAgainst resolveFrom resolveFrom
  cases resolveEntry toUppercase list 0 entry with
  | ok found => simp [Resolved.add]
  | error problem => simp [Resolved.add]

/-- Whom the command takes an entry for: the row with the id, or the only row with the name. -/
def CommandPicks (list : List TraineeInfo) (entry : TraineeRef) (id : String) : Prop :=
  match entry.id with
  | some wanted => id = wanted ∧ ∃ row ∈ list, row.id = wanted
  | none => ∃ row, named list (entry.name.getD "") = [row] ∧ row.id = id

theorem printable_name {entry : TraineeRef} (h : ∀ name, entry.name = some name → Printable name) :
    Printable (entry.name.getD "") := by
  cases hname : entry.name with
  | none => exact fun c hc => absurd hc List.not_mem_nil
  | some name => exact h name hname

/-- A single entry is resolved to the id it picks, and refused if it picks none. -/
theorem resolveAgainst_cases
    (hrust : ∀ value, Printable value → toUppercase value = value.toUpper)
    {list : List TraineeInfo} (hlist : ∀ row ∈ list, Printable row.name) {entry : TraineeRef}
    (hname : ∀ name, entry.name = some name → Printable name) :
    (∃ id, (∀ x, CommandPicks list entry x ↔ x = id) ∧
      resolveAgainst toUppercase list [entry] = .ok [{ id := some id, name := none }]) ∨
      ((∀ x, ¬CommandPicks list entry x) ∧
        ∃ problems, resolveAgainst toUppercase list [entry] = .error problems) := by
  rw [resolveAgainst_singleton]
  unfold CommandPicks resolveEntry
  cases hid : entry.id with
  | some wanted =>
      cases hfound : findById list wanted with
      | some found =>
          rcases findById_eq_some hfound with ⟨hrow, hwanted⟩
          refine Or.inl ⟨wanted, ?_, ?_⟩
          · exact fun x => ⟨fun h => h.1, fun h => ⟨h, found, hrow, hwanted⟩⟩
          · simp only [hfound, hwanted]
      | none =>
          refine Or.inr ⟨?_, ?_⟩
          · rintro x ⟨-, row, hrow, hwanted⟩
            exact findById_eq_none hfound row hrow hwanted
          · simp only [hfound]
            exact ⟨_, rfl⟩
  | none =>
      have hnamed := findByName_of_printable hrust hlist (printable_name hname)
      simp only [hnamed]
      rcases hrows : named list (entry.name.getD "") with _ | ⟨found, _ | ⟨other, more⟩⟩
      · refine Or.inr ⟨?_, _, rfl⟩
        rintro x ⟨row, hrow, -⟩
        cases hrow
      · refine Or.inl ⟨found.id, ?_, rfl⟩
        intro x
        constructor
        · rintro ⟨row, hrow, rfl⟩
          cases hrow
          rfl
        · exact fun h => ⟨found, rfl, h.symm⟩
      · refine Or.inr ⟨?_, _, rfl⟩
        rintro x ⟨row, hrow, -⟩
        cases hrow

end Resolving

/-! ## The worker's resolver -/

/-- Whom the worker takes an entry for: the id is stripped, and only a blank one leaves it to the
name, which must not be blank. -/
def WorkerPicks (list : List TraineeInfo) (entry : TraineeRef) (id : String) : Prop :=
  let wanted := strip (entry.id.getD "")
  let name := entry.name.getD ""
  if wanted ≠ "" then id = wanted ∧ ∃ row ∈ list, row.id = wanted
  else strip name ≠ "" ∧ ∃ row, named list name = [row] ∧ row.id = id

section Worker

variable {Soup Tag : Type} {lib : Libraries Soup Tag} {pages : PageReader Soup} {portal : Portal}

theorem PortalClient.normalizeName_of_printable
    (hpython : ∀ value, Printable value → lib.upper value = value.toUpper) {value : String}
    (h : Printable value) : PortalClient.normalizeName lib value = canonicalName value :=
  hpython _ (printable_collapsed h)

theorem filter_normalizeName
    (hpython : ∀ value, Printable value → lib.upper value = value.toUpper)
    {list : List TraineeInfo} (hlist : ∀ row ∈ list, Printable row.name) {name : String}
    (hname : Printable name) :
    (list.filter fun row => decide (PortalClient.normalizeName lib row.name =
      PortalClient.normalizeName lib (strip name))) = named list name := by
  have hstripped : Printable (strip name) := by
    intro c hc
    rw [toList_strip] at hc
    exact hname c (Words.mem_of_mem_trim hc)
  refine List.filter_congr ?_
  intro row hrow
  rw [PortalClient.normalizeName_of_printable hpython (hlist row hrow),
    PortalClient.normalizeName_of_printable hpython hstripped, canonicalName_strip]

/-- With this list from the portal, the worker resolves an entry to the id it picks, and raises if
it picks none. -/
theorem resolveTrainee_cases
    (hpython : ∀ value, Printable value → lib.upper value = value.toUpper)
    {before after : List Issued} {list : List TraineeInfo}
    (hlisted : (PortalClient.listTrainees lib pages portal).run.run before = (.ok list, after))
    (hlist : ∀ row ∈ list, Printable row.name) {entry : TraineeRef}
    (hname : ∀ name, entry.name = some name → Printable name) :
    (∃ found after', (∀ x, WorkerPicks list entry x ↔ x = found.id) ∧
      (PortalClient.resolveTrainee lib pages portal entry).run.run before = (.ok found, after')) ∨
      ((∀ x, ¬WorkerPicks list entry x) ∧ ∃ e after',
        (PortalClient.resolveTrainee lib pages portal entry).run.run before =
          (.error e, after')) := by
  unfold WorkerPicks PortalClient.resolveTrainee
  by_cases hwanted : strip (entry.id.getD "") ≠ ""
  · simp only [hwanted, if_true, ne_eq, not_false_eq_true]
    rw [Raising.run_bind_of_ok hlisted]
    cases hfound : list.find? fun row => decide (row.id = strip (entry.id.getD "")) with
    | some found =>
        have hid : found.id = strip (entry.id.getD "") := by simpa using List.find?_some hfound
        refine Or.inl ⟨found, after, ?_, rfl⟩
        intro x
        rw [hid]
        exact ⟨fun h => h.1, fun h => ⟨h, found, List.mem_of_find?_eq_some hfound, hid⟩⟩
    | none =>
        refine Or.inr ⟨?_, _, _, rfl⟩
        rintro x ⟨-, row, hrow, hid⟩
        have hnone := List.find?_eq_none.1 hfound row hrow
        simp [hid] at hnone
  · simp only [hwanted, if_false]
    by_cases hblank : strip (entry.name.getD "") = ""
    · -- A blank name is refused before the portal is asked.
      simp only [hblank, if_true]
      refine Or.inr ⟨?_, _, _, rfl⟩
      exact fun x h => h.1 rfl
    · simp only [hblank, if_false]
      rw [Raising.run_bind_of_ok hlisted, filter_normalizeName hpython hlist (printable_name hname)]
      rcases hrows : named list (entry.name.getD "") with _ | ⟨found, _ | ⟨other, more⟩⟩
      · refine Or.inr ⟨?_, _, _, rfl⟩
        rintro x ⟨-, row, hrow, -⟩
        cases hrow
      · refine Or.inl ⟨found, after, ?_, rfl⟩
        intro x
        constructor
        · rintro ⟨-, row, hrow, rfl⟩
          cases hrow
          rfl
        · exact fun h => ⟨hblank, found, rfl, h.symm⟩
      · refine Or.inr ⟨?_, _, _, rfl⟩
        rintro x ⟨-, row, hrow, -⟩
        cases hrow

/-! ## Where the two agree -/

variable {toUppercase : String → String}

/-- The command and the worker make the same of an entry: the same id, or a failure of both. -/
structure ResolvedAlike (toUppercase : String → String) (lib : Libraries Soup Tag)
    (pages : PageReader Soup) (portal : Portal) (list : List TraineeInfo) (before : List Issued)
    (entry : TraineeRef) : Prop where
  resolved : ∀ id,
    resolveAgainst toUppercase list [entry] = .ok [{ id := some id, name := none }] ↔
      ∃ found after,
        (PortalClient.resolveTrainee lib pages portal entry).run.run before = (.ok found, after) ∧
          found.id = id
  failed : (∃ problems, resolveAgainst toUppercase list [entry] = .error problems) ↔
    ∃ e after,
      (PortalClient.resolveTrainee lib pages portal entry).run.run before = (.error e, after)

/-- Exactly one row bears this name, and the name is not blank. -/
def NamesOnly (list : List TraineeInfo) (name : String) (row : TraineeInfo) : Prop :=
  strip name ≠ "" ∧ named list name = [row]

/-- The entries both resolve alike on a list.
* With an id that is not blank: it is not padded, or the list has neither it nor its stripped form.
* With a blank id, which the worker passes over for the name: nobody on the list has it and the name
  picks nobody, or somebody has it and the name picks a row with it.
* With no id: the name is not blank, or the list has no row or several with a blank name. -/
def AlikeOn (list : List TraineeInfo) (entry : TraineeRef) : Prop :=
  let name := entry.name.getD ""
  match entry.id with
  | some id =>
      if strip id ≠ "" then strip id = id ∨ ∀ row ∈ list, row.id ≠ id ∧ row.id ≠ strip id
      else ((∀ row ∈ list, row.id ≠ id) ∧ ∀ row, ¬NamesOnly list name row) ∨
        ((∃ row ∈ list, row.id = id) ∧ ∃ row, NamesOnly list name row ∧ row.id = id)
  | none => strip name ≠ "" ∨ ∀ row, list.filter (fun row => decide (strip row.name = "")) ≠ [row]

/-- Both make the same of an entry exactly if they pick the same. -/
theorem resolvedAlike_iff_picks
    (hrust : ∀ value, Printable value → toUppercase value = value.toUpper)
    (hpython : ∀ value, Printable value → lib.upper value = value.toUpper)
    {before after : List Issued} {list : List TraineeInfo}
    (hlisted : (PortalClient.listTrainees lib pages portal).run.run before = (.ok list, after))
    (hlist : ∀ row ∈ list, Printable row.name) {entry : TraineeRef}
    (hname : ∀ name, entry.name = some name → Printable name) :
    ResolvedAlike toUppercase lib pages portal list before entry ↔
      ∀ id, CommandPicks list entry id ↔ WorkerPicks list entry id := by
  rcases resolveAgainst_cases hrust hlist hname with
    ⟨mine, hmine, hcommand⟩ | ⟨hmine, problems, hcommand⟩ <;>
  rcases resolveTrainee_cases hpython hlisted hlist hname with
    ⟨found, left, htheirs, hworker⟩ | ⟨htheirs, e, left, hworker⟩
  · -- Both resolve it, so it depends on the two ids.
    constructor
    · intro h id
      rcases (h.resolved mine).1 hcommand with ⟨found', left', hrun, hid⟩
      rw [hworker] at hrun
      cases hrun
      rw [hmine, htheirs, hid]
    · intro h
      have heq : mine = found.id := (htheirs mine).1 ((h mine).1 ((hmine mine).2 rfl))
      refine ⟨?_, ?_⟩
      · intro id
        rw [hcommand, hworker]
        constructor
        · intro hid
          cases hid
          exact ⟨found, left, rfl, heq.symm⟩
        · rintro ⟨found', left', hrun, hid⟩
          cases hrun
          rw [heq, hid]
      · rw [hcommand, hworker]
        exact iff_of_false (by rintro ⟨problems, h⟩; cases h) (by rintro ⟨e, left', h⟩; cases h)
  · -- The command resolves it, and the worker raises.
    constructor
    · intro h
      rcases (h.resolved mine).1 hcommand with ⟨found', left', hrun, -⟩
      rw [hworker] at hrun
      cases hrun
    · intro h
      exact absurd ((h mine).1 ((hmine mine).2 rfl)) (htheirs mine)
  · -- The command refuses it, and the worker resolves it.
    constructor
    · intro h
      rcases h.failed.1 ⟨problems, hcommand⟩ with ⟨e, left', hrun⟩
      rw [hworker] at hrun
      cases hrun
    · intro h
      exact absurd ((h found.id).2 ((htheirs found.id).2 rfl)) (hmine found.id)
  · -- Both fail.
    constructor
    · exact fun _ id => iff_of_false (hmine id) (htheirs id)
    · intro _
      refine ⟨?_, iff_of_true ⟨problems, hcommand⟩ ⟨e, left, hworker⟩⟩
      intro id
      rw [hcommand, hworker]
      exact iff_of_false (fun h => by cases h) (by rintro ⟨found, left', h, -⟩; cases h)

/-- A name that is blank picks nobody for the worker, and whoever has a blank name for the
command. -/
theorem named_of_blank {list : List TraineeInfo} {name : String} (h : strip name = "") :
    named list name = list.filter fun row => decide (strip row.name = "") := by
  have hempty := (canonicalName_eq_empty_iff name).2 h
  refine List.filter_congr ?_
  intro row _
  exact decide_eq_decide.2 (hempty ▸ canonicalName_eq_empty_iff row.name)

/-- The two pick the same exactly under the condition. -/
theorem picks_alike_iff {list : List TraineeInfo} {entry : TraineeRef} :
    (∀ id, CommandPicks list entry id ↔ WorkerPicks list entry id) ↔ AlikeOn list entry := by
  unfold CommandPicks WorkerPicks AlikeOn
  cases hid : entry.id with
  | none =>
      have hblank : strip ((none : Option String).getD "") = "" := by decide
      simp only [hblank, ne_eq, not_true_eq_false, if_false]
      by_cases hname : strip (entry.name.getD "") = ""
      · rw [named_of_blank hname]
        simp only [hname, not_true_eq_false, false_and, iff_false, false_or]
        constructor
        · intro h row hrow
          exact h row.id ⟨row, hrow, rfl⟩
        · rintro h id ⟨row, hrow, -⟩
          exact h row hrow
      · simp [hname]
  | some id =>
      have hget : (some id).getD "" = id := rfl
      simp only [hget]
      by_cases hstripped : strip id = ""
      · -- The command goes by the id, the worker by the name.
        simp only [hstripped, ne_eq, not_true_eq_false, if_false]
        constructor
        · intro h
          by_cases hrow : ∃ row ∈ list, row.id = id
          · rcases (h id).1 ⟨rfl, hrow⟩ with ⟨hname, row, honly, hrowId⟩
            exact Or.inr ⟨hrow, row, ⟨hname, honly⟩, hrowId⟩
          · refine Or.inl ⟨fun row hmem hrowId => hrow ⟨row, hmem, hrowId⟩, ?_⟩
            intro row honly
            exact hrow ((h row.id).2 ⟨honly.1, row, honly.2, rfl⟩).2
        · rintro (⟨hnone, hnobody⟩ | ⟨hrow, row, honly, rfl⟩) x
          · constructor
            · rintro ⟨-, row, hmem, hrowId⟩
              exact absurd hrowId (hnone row hmem)
            · rintro ⟨hname, row, honly, -⟩
              exact absurd ⟨hname, honly⟩ (hnobody row)
          · constructor
            · rintro ⟨rfl, -⟩
              exact ⟨honly.1, row, honly.2, rfl⟩
            · rintro ⟨-, found, hfound, rfl⟩
              rw [honly.2, List.singleton_inj] at hfound
              exact ⟨congrArg TraineeInfo.id hfound.symm, hrow⟩
      · simp only [hstripped, ne_eq, not_false_eq_true, if_true]
        constructor
        · intro h
          by_cases hsame : strip id = id
          · exact Or.inl hsame
          · refine Or.inr ?_
            intro row hmem
            refine ⟨?_, ?_⟩
            · intro hrowId
              exact hsame ((h id).1 ⟨rfl, row, hmem, hrowId⟩).1.symm
            · intro hrowId
              exact hsame ((h (strip id)).2 ⟨rfl, row, hmem, hrowId⟩).1
        · rintro (hsame | hnone) x
          · rw [hsame]
          · constructor
            · rintro ⟨-, row, hmem, hrowId⟩
              exact absurd hrowId (hnone row hmem).1
            · rintro ⟨-, row, hmem, hrowId⟩
              exact absurd hrowId (hnone row hmem).2

/-- Over printable names, the command and the worker resolve an entry alike exactly under the
condition on its id, its name and the list. -/
theorem resolved_alike_iff
    (hrust : ∀ value, Printable value → toUppercase value = value.toUpper)
    (hpython : ∀ value, Printable value → lib.upper value = value.toUpper)
    {before after : List Issued} {list : List TraineeInfo}
    (hlisted : (PortalClient.listTrainees lib pages portal).run.run before = (.ok list, after))
    (hlist : ∀ row ∈ list, Printable row.name) {entry : TraineeRef}
    (hname : ∀ name, entry.name = some name → Printable name) :
    ResolvedAlike toUppercase lib pages portal list before entry ↔ AlikeOn list entry :=
  (resolvedAlike_iff_picks hrust hpython hlisted hlist hname).trans picks_alike_iff

end Worker

/-! ### One trainee on the list -/

def upperLibraries : Libraries String String :=
  { plainLibraries with upper := String.toUpper }

def graceList : List TraineeInfo :=
  [{ id := "7", name := "Grace" }]

def listIssued : List Issued :=
  [.get "https://portal/Trainee?pgsize=10000&page=1&keywords="]

theorem graceList_listed :
    (PortalClient.listTrainees upperLibraries plainPages (plainPortal "form")).run.run [] =
      (.ok graceList, listIssued) := rfl

theorem graceList_printable : ∀ row ∈ graceList, Printable row.name := by
  decide

/-- The command refuses a padded id, and the worker would have found its trainee. -/
theorem padded_id_resolved_apart :
    Printable " 7 " ∧
      resolveAgainst String.toUpper graceList [{ id := some " 7 " }] =
        .error [" 7 : no trainee with that id on the portal"] ∧
        (PortalClient.resolveTrainee upperLibraries plainPages (plainPortal "form")
          { id := some " 7 " }).run.run [] = (.ok { id := "7", name := "Grace" }, listIssued) ∧
          ¬ResolvedAlike String.toUpper upperLibraries plainPages (plainPortal "form") graceList []
            { id := some " 7 " } := by
  have hworker : (PortalClient.resolveTrainee upperLibraries plainPages (plainPortal "form")
      { id := some " 7 " }).run.run [] = (.ok { id := "7", name := "Grace" }, listIssued) :=
    rfl
  have hcommand : resolveAgainst String.toUpper graceList [{ id := some " 7 " }] =
      .error [" 7 : no trainee with that id on the portal"] := by
    decide +kernel
  refine ⟨by decide, hcommand, hworker, ?_⟩
  intro h
  rcases h.failed.1 ⟨_, hcommand⟩ with ⟨e, after, hrun⟩
  rw [hworker] at hrun
  cases hrun

/-- A name with its blanks and its case changed is the same name to both. -/
theorem padded_name_resolved_alike :
    ResolvedAlike String.toUpper upperLibraries plainPages (plainPortal "form") graceList []
      { name := some " grace " } := by
  refine (resolved_alike_iff (fun _ _ => rfl) (fun _ _ => rfl) graceList_listed
    graceList_printable ?_).2 (Or.inl (by decide))
  intro name hname
  cases hname
  decide

end DsspBot

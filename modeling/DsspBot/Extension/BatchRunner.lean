import DsspBot.Extension.TrainingDate
import DsspBot.Lib.Firsts
import Mathlib.Data.List.Forall2

/-!
# BatchRunner — the extension's own roster

Before a batch the extension looks every input up among the trainees on the portal: a number is an
id, everything else is a name. The names are kept in a map, where the last trainee of a name stands
for all of that name.
-/

namespace DsspBot

namespace Extension

/-! ## The roster -/

structure Trainee where
  id : String
  traineeId : String
  sn : String := ""
  applicationDate : String := ""
  name : String
  dob : String := ""
  course : String := ""
  phone : String := ""
  email : String := ""
  trainingSessions : String := ""
  assessmentScore : String := ""
  lastModified : String := ""
  modifiedBy : String := ""
  profileUrl : String := ""
  deriving DecidableEq, Repr

/-- A session without its trainee. -/
structure BatchSession where
  trainingDate : String
  instructorId : String
  instructorLabel : Option String := none
  trainingTypeId : String
  trainingTypeLabel : Option String := none
  deriving DecidableEq, Repr

structure BatchTask where
  trainee : Trainee
  session : BatchSession
  deriving DecidableEq, Repr

structure BatchRequest where
  traineeIds : List String
  session : BatchSession
  deriving DecidableEq, Repr

namespace BatchRunner

/-- A `Map` of the trainees by a key, which keeps the last of those that share it. -/
def mapGet (available : List Trainee) (key : Trainee → String) (value : String) : Option Trainee :=
  available.findRev? fun trainee => decide (key trainee = value)

/-- A trainee that is not on the list, known by the number alone. -/
def unlisted (input : String) : Trainee :=
  { id := input, traineeId := input, name := s!"Trainee {input}" }

structure Resolving where
  tasks : List BatchTask := []
  missing : List String := []
  queued : List String := []

section Building

variable (unicode : Unicode) (available : List Trainee) (session : BatchSession)

/-- The trainee that an input is looked up as. -/
def lookup (traineeInput : String) : Option Trainee :=
  let input := trim traineeInput
  if isNumeric input then mapGet available (·.id) input
  else mapGet available (fun trainee => normalizeName unicode trainee.name)
    (normalizeName unicode input)

/-- One turn of the loop over the inputs. -/
def resolve (acc : Resolving) (traineeInput : String) : Resolving :=
  let input := trim traineeInput
  let trainee := lookup unicode available traineeInput
  if trainee.isNone && !isNumeric input then
    { acc with missing := acc.missing ++ [traineeInput] }
  else
    let resolvedId := (trainee.map (·.id)).getD input
    if resolvedId ∈ acc.queued then acc
    else
      { acc with
        queued := resolvedId :: acc.queued
        tasks := acc.tasks ++ [{ trainee := trainee.getD (unlisted input), session := session }] }

end Building

def buildTasks (unicode : Unicode) (available : List Trainee) (request : BatchRequest) :
    Except AutomationError (List BatchTask) :=
  let acc := request.traineeIds.foldl (resolve unicode available request.session) {}
  if acc.missing.isEmpty then .ok acc.tasks
  else .error (.traineeNotFound (", ".intercalate acc.missing))

/-- `start`, up to the point where the engine takes over. -/
def prepare (unicode : Unicode) (opened : Except AutomationError Unit)
    (trainees : Except AutomationError (List Trainee)) (request : BatchRequest) :
    Except AutomationError (List BatchTask) := do
  let trainingDate ← formatTrainingDate request.session.trainingDate
  opened
  let available ← trainees
  buildTasks unicode available
    { request with session := { request.session with trainingDate := trainingDate } }

/-! ## Whom an input stands for -/

section Standing

variable (unicode : Unicode) (available : List Trainee)

/-- An id rather than a name. -/
def Numeric (traineeInput : String) : Prop :=
  isNumeric (trim traineeInput) = true

instance (traineeInput : String) : Decidable (Numeric traineeInput) :=
  inferInstanceAs (Decidable (isNumeric (trim traineeInput) = true))

/-- The trainees on the portal that bear the name. -/
def bearers (traineeInput : String) : List Trainee :=
  available.filter fun trainee =>
    decide (normalizeName unicode trainee.name = normalizeName unicode (trim traineeInput))

/-- A number stands for itself, a name for the only trainee that bears it. -/
def StandsFor (traineeInput id : String) : Prop :=
  (Numeric traineeInput → id = trim traineeInput) ∧
    (¬Numeric traineeInput →
      ∃ trainee, bearers unicode available traineeInput = [trainee] ∧ trainee.id = id)

/-- Nobody is guessed: what is queued is what the inputs stand for, each id once and in the order of
its first occurrence, and a name that stands for nobody or for several fails the batch. -/
def NeverGuesses (traineeIds : List String) (result : Except AutomationError (List BatchTask)) :
    Prop :=
  (∀ tasks, result = .ok tasks → ∃ ids,
      List.Forall₂ (StandsFor unicode available) traineeIds ids ∧
        tasks.map (·.trainee.id) = ids.eraseDups) ∧
    ((∃ input ∈ traineeIds, ¬Numeric input ∧ (bearers unicode available input).length ≠ 1) →
      ∃ e, result = .error e)

end Standing

/-! ## What the loop leaves -/

section Loop

variable {unicode : Unicode} {available : List Trainee} {session : BatchSession}

/-- The input names somebody who is not on the portal. -/
def Missing (unicode : Unicode) (available : List Trainee) (traineeInput : String) : Prop :=
  ¬Numeric traineeInput ∧ bearers unicode available traineeInput = []

instance (traineeInput : String) : Decidable (Missing unicode available traineeInput) :=
  inferInstanceAs (Decidable (_ ∧ _))

/-- The trainee that an input is queued as. -/
def chosen (unicode : Unicode) (available : List Trainee) (traineeInput : String) : Trainee :=
  (lookup unicode available traineeInput).getD (unlisted (trim traineeInput))

theorem mapGet_eq_head? (key : Trainee → String) (value : String) :
    mapGet available key value =
      (available.filter fun trainee => decide (key trainee = value)).reverse.head? := by
  unfold mapGet
  rw [List.findRev?_eq_find?_reverse, ← List.filter_reverse, List.head?_filter]

theorem lookup_of_numeric {traineeInput : String} (h : Numeric traineeInput) :
    lookup unicode available traineeInput = mapGet available (·.id) (trim traineeInput) := by
  unfold Numeric at h
  simp [lookup, h]

/-- A name is looked up as the last of those who bear it. -/
theorem lookup_of_name {traineeInput : String} (h : ¬Numeric traineeInput) :
    lookup unicode available traineeInput =
      (bearers unicode available traineeInput).reverse.head? := by
  unfold Numeric at h
  simp [lookup, h, mapGet_eq_head?, bearers]

theorem missing_iff {traineeInput : String} :
    Missing unicode available traineeInput ↔
      lookup unicode available traineeInput = none ∧ ¬Numeric traineeInput := by
  unfold Missing
  constructor
  · rintro ⟨hname, hnone⟩
    exact ⟨by rw [lookup_of_name hname, hnone]; rfl, hname⟩
  · rintro ⟨hnone, hname⟩
    rw [lookup_of_name hname, List.head?_eq_none_iff, List.reverse_eq_nil_iff] at hnone
    exact ⟨hname, hnone⟩

theorem chosen_id_of_numeric {traineeInput : String} (h : Numeric traineeInput) :
    (chosen unicode available traineeInput).id = trim traineeInput := by
  unfold chosen
  rw [lookup_of_numeric h]
  cases hfound : mapGet available (·.id) (trim traineeInput) with
  | none => rfl
  | some trainee =>
      unfold mapGet at hfound
      rw [List.findRev?_eq_find?_reverse] at hfound
      simpa using List.find?_some hfound

theorem chosen_of_bearer {traineeInput : String} {trainee : Trainee} (h : ¬Numeric traineeInput)
    (hone : bearers unicode available traineeInput = [trainee]) :
    chosen unicode available traineeInput = trainee := by
  unfold chosen
  rw [lookup_of_name h, hone]
  rfl

theorem resolve_of_missing {traineeInput : String}
    (h : Missing unicode available traineeInput) (acc : Resolving) :
    resolve unicode available session acc traineeInput =
      { acc with missing := acc.missing ++ [traineeInput] } := by
  rcases missing_iff.1 h with ⟨hnone, hname⟩
  have hword : isNumeric (trim traineeInput) = false := by simpa [Numeric] using hname
  unfold resolve
  simp [hnone, hword]

theorem resolve_of_found {traineeInput : String}
    (h : ¬Missing unicode available traineeInput) (acc : Resolving) :
    resolve unicode available session acc traineeInput =
      if (chosen unicode available traineeInput).id ∈ acc.queued then acc
      else
        { acc with
          queued := (chosen unicode available traineeInput).id :: acc.queued
          tasks := acc.tasks ++
            [{ trainee := chosen unicode available traineeInput, session := session }] } := by
  have hid : ((lookup unicode available traineeInput).map (·.id)).getD (trim traineeInput) =
      (chosen unicode available traineeInput).id := by
    unfold chosen
    cases lookup unicode available traineeInput <;> rfl
  have hkept : ((lookup unicode available traineeInput).isNone &&
      !isNumeric (trim traineeInput)) = false := by
    rw [missing_iff] at h
    unfold Numeric at h
    cases hlookup : lookup unicode available traineeInput with
    | none => simpa [hlookup] using h
    | some trainee => rfl
  unfold resolve
  simp only [hid, hkept]
  rfl

/-- The ids that the inputs found are queued as, repeats included. -/
def foundIds (unicode : Unicode) (available : List Trainee) (traineeIds : List String) :
    List String :=
  (traineeIds.filter fun input => decide (¬Missing unicode available input)).map
    fun input => (chosen unicode available input).id

theorem foundIds_cons_of_missing {input : String} (h : Missing unicode available input)
    (rest : List String) :
    foundIds unicode available (input :: rest) = foundIds unicode available rest := by
  unfold foundIds
  rw [List.filter_cons_of_neg (by simpa using h)]

theorem foundIds_cons_of_found {input : String} (h : ¬Missing unicode available input)
    (rest : List String) :
    foundIds unicode available (input :: rest) =
      (chosen unicode available input).id :: foundIds unicode available rest := by
  unfold foundIds
  rw [List.filter_cons_of_pos (by simpa using h), List.map_cons]

theorem foldl_resolve_missing (unicode : Unicode) (available : List Trainee)
    (session : BatchSession) (acc : Resolving) (traineeIds : List String) :
    (traineeIds.foldl (resolve unicode available session) acc).missing =
      acc.missing ++ traineeIds.filter fun input => decide (Missing unicode available input) := by
  induction traineeIds generalizing acc with
  | nil => simp
  | cons input rest ih =>
      rw [List.foldl_cons, ih]
      by_cases hmissing : Missing unicode available input
      · rw [resolve_of_missing hmissing]
        simp [hmissing]
      · rw [resolve_of_found hmissing]
        split <;> simp [hmissing]

/-- The loop queues what it finds, each id once and at its first occurrence. -/
theorem foldl_resolve_tasks (unicode : Unicode) (available : List Trainee)
    (session : BatchSession) (acc : Resolving) (traineeIds : List String) :
    (traineeIds.foldl (resolve unicode available session) acc).tasks.map (·.trainee.id) =
      acc.tasks.map (·.trainee.id) ++
        Firsts.firsts id acc.queued (foundIds unicode available traineeIds) := by
  induction traineeIds generalizing acc with
  | nil => simp [Firsts.firsts, foundIds]
  | cons input rest ih =>
      rw [List.foldl_cons, ih]
      by_cases hmissing : Missing unicode available input
      · rw [resolve_of_missing hmissing, foundIds_cons_of_missing hmissing]
      · rw [resolve_of_found hmissing, foundIds_cons_of_found hmissing]
        by_cases hseen : (chosen unicode available input).id ∈ acc.queued
        · have hskip : id (chosen unicode available input).id ∈ acc.queued := hseen
          rw [if_pos hseen, Firsts.firsts_cons_of_seen hskip]
        · have hkeep : id (chosen unicode available input).id ∉ acc.queued := hseen
          rw [if_neg hseen, Firsts.firsts_cons_of_fresh hkeep]
          simp

end Loop

/-! ## Nobody is guessed -/

section Guessing

variable {unicode : Unicode} {available : List Trainee} {request : BatchRequest}

theorem buildTasks_of_missing
    (h : ∃ input ∈ request.traineeIds, Missing unicode available input) :
    ∃ e, buildTasks unicode available request = .error e := by
  rcases h with ⟨input, hinput, hmissing⟩
  have hlisted := foldl_resolve_missing unicode available request.session {} request.traineeIds
  have hsome : (request.traineeIds.filter fun input =>
      decide (Missing unicode available input)) ≠ [] :=
    List.ne_nil_of_mem (List.mem_filter.2 ⟨hinput, by simpa using hmissing⟩)
  unfold buildTasks
  simp [hlisted, hsome]

theorem buildTasks_of_found
    (h : ∀ input ∈ request.traineeIds, ¬Missing unicode available input) :
    ∃ tasks, buildTasks unicode available request = .ok tasks ∧
      tasks.map (·.trainee.id) =
        (request.traineeIds.map fun input => (chosen unicode available input).id).eraseDups := by
  have hlisted := foldl_resolve_missing unicode available request.session {} request.traineeIds
  have htasks := foldl_resolve_tasks unicode available request.session {} request.traineeIds
  have hnone : (request.traineeIds.filter fun input =>
      decide (Missing unicode available input)) = [] := by
    rw [List.filter_eq_nil_iff]
    intro input hinput
    simpa using h input hinput
  have hall : foundIds unicode available request.traineeIds =
      request.traineeIds.map fun input => (chosen unicode available input).id := by
    unfold foundIds
    rw [List.filter_eq_self.2 fun input hinput => by simpa using h input hinput]
  have hids : (request.traineeIds.foldl (resolve unicode available request.session) {}).tasks.map
      (·.trainee.id) =
        (request.traineeIds.map fun input => (chosen unicode available input).id).eraseDups := by
    rw [htasks, hall, List.map_nil, List.nil_append, Firsts.firsts_id]
  unfold buildTasks
  simp [hlisted, hnone, hids]

theorem standsFor_chosen {input : String}
    (h : Numeric input ∨ (bearers unicode available input).length = 1) :
    StandsFor unicode available input (chosen unicode available input).id := by
  refine ⟨fun hnumeric => chosen_id_of_numeric hnumeric, ?_⟩
  intro hname
  have hone : (bearers unicode available input).length = 1 := h.resolve_left hname
  rcases List.length_eq_one_iff.1 hone with ⟨trainee, htrainee⟩
  exact ⟨trainee, htrainee, by rw [chosen_of_bearer hname htrainee]⟩

/-- Exactly when nobody is guessed: some name stands for nobody, or no name stands for several. -/
theorem buildTasks_neverGuesses_iff (unicode : Unicode) (available : List Trainee)
    (request : BatchRequest) :
    NeverGuesses unicode available request.traineeIds (buildTasks unicode available request) ↔
      (∃ input ∈ request.traineeIds, ¬Numeric input ∧ bearers unicode available input = []) ∨
        ∀ input ∈ request.traineeIds, ¬Numeric input →
          (bearers unicode available input).length ≤ 1 := by
  by_cases hmissing : ∃ input ∈ request.traineeIds, Missing unicode available input
  · rcases buildTasks_of_missing hmissing with ⟨e, he⟩
    refine iff_of_true ⟨?_, fun _ => ⟨e, he⟩⟩ (Or.inl hmissing)
    intro tasks htasks
    rw [he] at htasks
    cases htasks
  · have hfound : ∀ input ∈ request.traineeIds, ¬Missing unicode available input :=
      fun input hinput hnobody => hmissing ⟨input, hinput, hnobody⟩
    rcases buildTasks_of_found hfound with ⟨tasks, hok, hids⟩
    constructor
    · rintro ⟨-, hfails⟩
      refine Or.inr ?_
      intro input hinput hname
      by_contra hseveral
      rcases hfails ⟨input, hinput, hname, by omega⟩ with ⟨e, he⟩
      rw [hok] at he
      cases he
    · rintro (hnobody | hfew)
      · exact absurd hnobody hmissing
      · -- A name that is not missing has a bearer, and now it has no second one.
        have hone : ∀ input ∈ request.traineeIds,
            Numeric input ∨ (bearers unicode available input).length = 1 := by
          intro input hinput
          by_cases hnumeric : Numeric input
          · exact Or.inl hnumeric
          · have hsome : bearers unicode available input ≠ [] :=
              fun hnone => hfound input hinput ⟨hnumeric, hnone⟩
            have hpos := List.length_pos_of_ne_nil hsome
            have hle := hfew input hinput hnumeric
            exact Or.inr (by omega)
        refine ⟨?_, ?_⟩
        · intro tasks' htasks'
          obtain rfl : tasks = tasks' := Except.ok.inj (hok.symm.trans htasks')
          refine ⟨_, ?_, hids⟩
          rw [List.forall₂_map_right_iff, List.forall₂_same]
          exact fun input hinput => standsFor_chosen (hone input hinput)
        · rintro ⟨input, hinput, hname, hnot⟩
          exact absurd ((hone input hinput).resolve_left hname) hnot

end Guessing

/-! ## One session for all -/

section Session

variable {unicode : Unicode} {available : List Trainee} {session : BatchSession}

theorem foldl_resolve_session (acc : Resolving) (traineeIds : List String)
    (h : ∀ task ∈ acc.tasks, task.session = session) :
    ∀ task ∈ (traineeIds.foldl (resolve unicode available session) acc).tasks,
      task.session = session := by
  induction traineeIds generalizing acc with
  | nil => exact h
  | cons input rest ih =>
      rw [List.foldl_cons]
      apply ih
      by_cases hmissing : Missing unicode available input
      · rw [resolve_of_missing hmissing]
        exact h
      · rw [resolve_of_found hmissing]
        split
        · exact h
        · intro task htask
          rcases List.mem_append.1 htask with hold | hnew
          · exact h task hold
          · rw [List.mem_singleton.1 hnew]

/-- Every queued task carries the request's date as it is written. -/
theorem prepare_dates {opened : Except AutomationError Unit}
    {trainees : Except AutomationError (List Trainee)} {request : BatchRequest}
    {tasks : List BatchTask} (h : prepare unicode opened trainees request = .ok tasks) :
    ∀ task ∈ tasks, ∃ date, Names request.session.trainingDate date ∧ 1000 ≤ date.year ∧
      task.session.trainingDate = date.text := by
  unfold prepare at h
  cases hdate : formatTrainingDate request.session.trainingDate with
  | error e =>
      rw [hdate] at h
      cases h
  | ok trainingDate =>
      rcases formatTrainingDate_ok_iff.1 hdate with ⟨date, hnames, hlate, rfl⟩
      rw [hdate] at h
      cases opened with
      | error e => cases h
      | ok _ =>
          cases trainees with
          | error e => cases h
          | ok available =>
              simp only [bind, Except.bind, buildTasks] at h
              split at h
              · cases h
                intro task htask
                have hsession := foldl_resolve_session {} request.traineeIds (by simp) task htask
                exact ⟨date, hnames, hlate, by rw [hsession]⟩
              · cases h

end Session

/-! ### Two trainees of one name -/

/-- What the runtime makes of plain letters. -/
def plainUnicode : Unicode where
  nfkc := id
  toLowerCase name := String.ofList (name.toList.map Char.toLower)

def namesakes : List Trainee :=
  [{ id := "1", traineeId := "1", name := "Ada Obi" },
    { id := "2", traineeId := "2", name := "ADA  OBI" }]

def namesakeRequest : BatchRequest :=
  { traineeIds := ["Ada Obi"]
    session := { trainingDate := "2026-08-14", instructorId := "10", trainingTypeId := "1" } }

theorem namesake_is_guessed :
    ¬∀ (unicode : Unicode) (available : List Trainee) (request : BatchRequest),
      NeverGuesses unicode available request.traineeIds
        (buildTasks unicode available request) := by
  intro h
  have hseveral : ¬Numeric "Ada Obi" ∧ (bearers plainUnicode namesakes "Ada Obi").length ≠ 1 := by
    decide +kernel
  have hids : ((buildTasks plainUnicode namesakes namesakeRequest).toOption.map fun tasks =>
      tasks.map (·.trainee.id)) = some ["2"] := by
    decide +kernel
  have hinput : "Ada Obi" ∈ namesakeRequest.traineeIds := List.mem_singleton.2 rfl
  rcases (h plainUnicode namesakes namesakeRequest).2 ⟨_, hinput, hseveral⟩ with ⟨e, he⟩
  rw [he] at hids
  cases hids

end BatchRunner

end Extension

end DsspBot

import DsspBot.Extension.AutomationEngine
import DsspBot.Extension.TrainingDate

/-!
# PortalAdapter — what the content script does with a trainee's form

In the portal's tab an adapter keeps one form prepared at a time, with the trainee it was loaded
for. It loads forms and posts them in the background: a command that waits for the network is a
process, and other commands may be taken up while it waits. What a document looks like, whether a
form is valid and what an answer to a post says are the business of whoever reads pages.
-/

namespace DsspBot

namespace Extension

/-! ## The training form -/

structure FormOption where
  value : String
  /-- Without the spaces around it. -/
  label : String
  disabled : Bool := false
  deriving DecidableEq, Repr

structure FormSelect where
  id : String
  name : String
  options : List FormOption
  selected : Option FormOption := none
  deriving DecidableEq, Repr

structure FormInput where
  name : String
  value : String
  deriving DecidableEq, Repr

/-- What `getTrainingFormFields` finds in a loaded document. -/
structure TrainingForm where
  trainingDate : FormInput
  instructor : FormSelect
  trainingType : FormSelect
  /-- As `toUpperCase` gives it. -/
  method : String := "POST"
  /-- Where it is sent to, unless that is no address. -/
  action : Option String
  /-- Whatever else is sent along. -/
  others : List (String × String) := []
  /-- One of its fields is a file. -/
  hasFile : Bool := false
  deriving DecidableEq, Repr

/-- A session with its trainee. -/
structure TrainingSession where
  traineeId : String
  session : BatchSession
  deriving DecidableEq, Repr

namespace AutomationError

def missingData (field : String) : AutomationError :=
  { message := s!"Required training data is missing: {field}"
    code := .missingData
    recoverable := false }

def portalStructure (message : String) : AutomationError :=
  { message := message, code := .portalStructureChanged, recoverable := false }

def network (message : String) : AutomationError :=
  { message := message, code := .network, recoverable := true }

def timeout (operation : String) (timeoutMs : Nat) : AutomationError :=
  { message := s!"Timed out after {timeoutMs}ms: {operation}"
    code := .timeout
    recoverable := true }

def portalUnavailable (message : String) : AutomationError :=
  { message := message, code := .portalUnavailable, recoverable := true }

end AutomationError

/-- A label that is asked for must be the option's own; without one, a label may stand for a
value. -/
def FormOption.matches (selectedValue : String) (selectedLabel : Option String)
    (option : FormOption) : Bool :=
  match selectedLabel with
  | some label => decide (option.value = selectedValue ∧ option.label = label)
  | none => decide (option.value = selectedValue ∨ option.label = selectedValue)

def FormSelect.usable (select : FormSelect) : List FormOption :=
  select.options.filter fun option => !option.disabled && !(trim option.value).isEmpty

def selectFormOption (select : FormSelect) (selectedValue : String)
    (selectedLabel : Option String) : Except AutomationError FormSelect :=
  match select.usable.find? (·.matches selectedValue selectedLabel) with
  | some option =>
      -- Assigning the value selects the first option that has it.
      .ok { select with selected := select.options.find? fun other => other.value = option.value }
  | none =>
      let name := if select.name.isEmpty then select.id else select.name
      .error (.validation s!"The selected value is not present in {name}.")

/-- What has been filled in when an error is thrown stays. -/
def fillTrainingFormFields (form : TrainingForm) (session : BatchSession) :
    TrainingForm × Except AutomationError Unit :=
  match formatTrainingDate session.trainingDate with
  | .error error => (form, .error error)
  | .ok date =>
      let form := { form with trainingDate := { form.trainingDate with value := date } }
      match selectFormOption form.instructor session.instructorId session.instructorLabel with
      | .error error => (form, .error error)
      | .ok instructor =>
          let form := { form with instructor := instructor }
          match selectFormOption form.trainingType session.trainingTypeId
              session.trainingTypeLabel with
          | .error error => (form, .error error)
          | .ok trainingType => ({ form with trainingType := trainingType }, .ok ())

def validateFields (checkValidity : TrainingForm → Bool) (form : TrainingForm) :
    TrainingForm × Except AutomationError Unit :=
  match formatTrainingDate form.trainingDate.value with
  | .error error => (form, .error error)
  | .ok date =>
      let form := { form with trainingDate := { form.trainingDate with value := date } }
      if form.trainingDate.name.isEmpty || form.instructor.name.isEmpty ||
          form.trainingType.name.isEmpty then
        (form, .error (.portalStructure "A required training control has no form field name."))
      else if checkValidity form then (form, .ok ())
      else (form, .error (.validation "The DSSP training form is not valid."))

/-- The three fields are what the session says. -/
structure TrainingForm.Holds (form : TrainingForm) (session : BatchSession) : Prop where
  date : formatTrainingDate session.trainingDate = .ok form.trainingDate.value
  instructor : ∃ option ∈ form.instructor.usable,
    option.matches session.instructorId session.instructorLabel = true ∧
      form.instructor.selected.map (·.value) = some option.value
  trainingType : ∃ option ∈ form.trainingType.usable,
    option.matches session.trainingTypeId session.trainingTypeLabel = true ∧
      form.trainingType.selected.map (·.value) = some option.value

section Forms

variable {form : TrainingForm} {session : BatchSession}

theorem selectFormOption_ok {select selected : FormSelect} {value : String} {label : Option String}
    (h : selectFormOption select value label = .ok selected) :
    ∃ option ∈ selected.usable, option.matches value label = true ∧
      selected.selected.map (·.value) = some option.value := by
  unfold selectFormOption at h
  split at h
  · next option hfind =>
      cases h
      have hmem : option ∈ select.usable := List.mem_of_find?_eq_some hfind
      refine ⟨option, hmem, List.find?_some hfind, ?_⟩
      have hsome : (select.options.find? fun other => other.value = option.value).isSome := by
        rw [List.find?_isSome]
        exact ⟨option, List.mem_of_mem_filter hmem, by simp⟩
      rcases Option.isSome_iff_exists.1 hsome with ⟨first, hfirst⟩
      have hvalue : first.value = option.value := by simpa using List.find?_some hfirst
      simp [hfirst, hvalue]
  · cases h

theorem holds_of_filled (h : (fillTrainingFormFields form session).2 = .ok ()) :
    (fillTrainingFormFields form session).1.Holds session := by
  unfold fillTrainingFormFields at h ⊢
  split at h
  · cases h
  · next date hdate =>
      dsimp only at h ⊢
      split at h
      · cases h
      · next instructor hinstructor =>
          split at h
          · cases h
          · next trainingType htype =>
              exact ⟨hdate, selectFormOption_ok hinstructor, selectFormOption_ok htype⟩

/-- A date that has been brought into its format stays as it is. -/
theorem formatTrainingDate_formatted {value text : String}
    (h : formatTrainingDate value = .ok text) : formatTrainingDate text = .ok text := by
  rcases formatTrainingDate_ok_iff.1 h with ⟨date, -, hlate, rfl⟩
  exact formatTrainingDate_ok_iff.2 ⟨date, .of_text date, hlate, rfl⟩

/-- Validating a form that is filled in changes nothing. -/
theorem validated_of_holds {checkValidity : TrainingForm → Bool} (h : form.Holds session) :
    (validateFields checkValidity form).1 = form := by
  unfold validateFields
  rw [formatTrainingDate_formatted h.date]
  dsimp only
  split
  · rfl
  · split <;> rfl

end Forms

/-! ## The adapter -/

/-- The answer to a post. -/
structure SubmissionSnapshot where
  status : Nat
  url : String
  body : String
  redirected : Bool
  deriving DecidableEq, Repr

/-- How pages are read. -/
structure PageReading where
  checkValidity : TrainingForm → Bool
  isLoginPage : SubmissionSnapshot → Bool
  submissionOutcome : SubmissionSnapshot → Except AutomationError SubmissionOutcome

/-- A form that has been loaded, and for whom. -/
structure PreparedTrainingForm where
  traineeId : String
  fields : TrainingForm
  deriving DecidableEq, Repr

/-- What has been posted, and for whose sake. -/
structure Post where
  task : BatchTask
  form : PreparedTrainingForm
  deriving DecidableEq, Repr

structure DSSPPortalAdapter where
  currentTrainee : Option Trainee := none
  preparedForm : Option PreparedTrainingForm := none
  preparedFormTraineeId : Option String := none
  /-- The last answer to a post. Which post it was is kept for the record. -/
  submission : Option (Nat × SubmissionSnapshot) := none
  /-- Everything that has been sent to the portal. -/
  posts : List Post := []
  /-- Every answer that has been kept, with its post. -/
  replies : List (Nat × SubmissionSnapshot) := []
  deriving DecidableEq

/-- A command of the engine, as it crosses to the tab. -/
inductive PortalCommand
  | isPage
  | initializeSession
  | sessionReady
  | prepareTrainee (trainee : Trainee)
  | fillForm (session : TrainingSession)
  | validateForm
  /-- The task is kept for the record: the command itself carries nothing. -/
  | submitForm (task : BatchTask)
  | waitResult
  deriving DecidableEq, Repr

/-- How far the tab is with a command. -/
inductive Process
  | received (command : PortalCommand)
  /-- It looks whether the page is the portal's. -/
  | checking
  /-- It loads the list of the trainees. -/
  | listing
  /-- It loads the form of this trainee. -/
  | loading (trainee : Trainee)
  /-- It waits for the answer to this post. -/
  | posting (index : Nat)
  /-- What it answers is settled, and has not reached the engine yet. -/
  | answering (answer : Answer)
  | over
  deriving DecidableEq, Repr

/-- What a process has been waiting for. -/
inductive Landing
  | checked (portal : Bool)
  | listed (trainees : Except AutomationError (List Trainee))
  | loaded (form : Except AutomationError TrainingForm)
  /-- The portal answers the post. -/
  | answered (snapshot : SubmissionSnapshot)
  /-- Nobody knows whether it has been received. -/
  | broken (message : String)
  deriving DecidableEq

namespace DSSPPortalAdapter

variable (reading : PageReading) (adapter : DSSPPortalAdapter)

def reply : Except AutomationError Unit → Answer
  | .ok () => .done
  | .error error => .failure error

def openTrainee (trainee : Trainee) : DSSPPortalAdapter :=
  { adapter with currentTrainee := some trainee, submission := none }

/-- The form that is kept was found in a document that was not the login page. -/
def isTrainingSessionReady : Bool :=
  adapter.preparedForm.isSome

def prepareTrainee (trainee : Trainee) : DSSPPortalAdapter × Process :=
  let opened := adapter.openTrainee trainee
  if opened.preparedFormTraineeId = some trainee.id && opened.isTrainingSessionReady then
    (opened, .answering .done)
  else (opened, .loading trainee)

def fillTrainingForm (session : TrainingSession) : DSSPPortalAdapter × Answer :=
  match adapter.preparedForm with
  | none => (adapter, .failure (.missingData "training form"))
  | some prepared =>
      if adapter.currentTrainee.map (·.id) = some session.traineeId ∧
          adapter.preparedFormTraineeId = some session.traineeId then
        let filled := fillTrainingFormFields prepared.fields session.session
        ({ adapter with preparedForm := some { prepared with fields := filled.1 } }, reply filled.2)
      else
        (adapter, .failure (.portalStructure
          "The prepared training form does not belong to the selected trainee."))

def validateTrainingForm : DSSPPortalAdapter × Answer :=
  match adapter.preparedForm with
  | none => (adapter, .failure (.missingData "training form"))
  | some prepared =>
      let validated := validateFields reading.checkValidity prepared.fields
      ({ adapter with preparedForm := some { prepared with fields := validated.1 } },
        reply validated.2)

def submitTrainingForm (task : BatchTask) : DSSPPortalAdapter × Process :=
  match adapter.preparedForm with
  | none => (adapter, .answering (.failure (.missingData "training form")))
  | some prepared =>
      if prepared.fields.action.isNone then
        (adapter, .answering (.failure (.network "Failed to construct 'URL': Invalid URL")))
      else if prepared.fields.method ≠ "POST" then
        (adapter, .answering (.failure (.portalStructure
          s!"The Log New Training form uses unsupported method {prepared.fields.method}.")))
      else if prepared.fields.hasFile then
        (adapter, .answering (.failure (.portalStructure
          "The training form contains an unsupported file field.")))
      else
        ({ adapter with posts := adapter.posts ++ [{ task := task, form := prepared }] },
          .posting adapter.posts.length)

def waitForSubmissionResult : Answer :=
  match adapter.submission with
  | some (_, snapshot) =>
      match reading.submissionOutcome snapshot with
      | .ok outcome => .outcome outcome
      | .error error => .failure error
  | none => .failure (.timeout "waiting for the DSSP response" 0)

/-- A command up to where it waits for something, or has its answer. -/
def start : PortalCommand → DSSPPortalAdapter × Process
  | .isPage => (adapter, .checking)
  | .initializeSession => (adapter, .listing)
  | .sessionReady => (adapter, .answering (.told adapter.isTrainingSessionReady))
  | .prepareTrainee trainee => adapter.prepareTrainee trainee
  | .fillForm session => (adapter.fillTrainingForm session).map id .answering
  | .validateForm => (adapter.validateTrainingForm reading).map id .answering
  | .submitForm task => adapter.submitTrainingForm task
  | .waitResult => (adapter, .answering (adapter.waitForSubmissionResult reading))

/-- What a process does once it has what it has been waiting for. -/
def land : Process → Landing → Option (DSSPPortalAdapter × Process)
  | .checking, .checked portal => some (adapter, .answering (.told portal))
  | .listing, .listed (.error error) => some (adapter, .answering (.failure error))
  | .listing, .listed (.ok []) =>
      some (adapter, .answering (.failure (.missingData "trainees on the Trainee Logs page")))
  | .listing, .listed (.ok (trainee :: _)) =>
      some ({ adapter with currentTrainee := some trainee }, .loading trainee)
  | .loading _, .loaded (.error error) => some (adapter, .answering (.failure error))
  | .loading trainee, .loaded (.ok fields) =>
      some
        ({ adapter with
            preparedForm := some { traineeId := trainee.id, fields := fields }
            preparedFormTraineeId := some trainee.id },
          .answering .done)
  | .posting index, .answered snapshot =>
      if reading.isLoginPage snapshot then some (adapter, .answering (.failure .sessionExpired))
      else
        some
          ({ adapter with
              submission := some (index, snapshot)
              replies := adapter.replies ++ [(index, snapshot)] },
            .answering .done)
  | .posting _, .broken message => some (adapter, .answering (.failure (.network message)))
  | _, _ => none

end DSSPPortalAdapter

/-! ## What the adapter keeps -/

namespace DSSPPortalAdapter

/-- The prepared form belongs to whom it is noted for. -/
def Owned (adapter : DSSPPortalAdapter) : Prop :=
  adapter.preparedFormTraineeId = adapter.preparedForm.map (·.traineeId)

/-- Nothing that has been sent or answered is forgotten. -/
structure Grows (adapter adapter' : DSSPPortalAdapter) : Prop where
  owned : adapter.Owned → adapter'.Owned
  posts : adapter.posts <+: adapter'.posts
  replies : adapter.replies ⊆ adapter'.replies

section Keeping

variable {reading : PageReading} {adapter : DSSPPortalAdapter}

theorem Grows.post_at {adapter' : DSSPPortalAdapter} (h : Grows adapter adapter') {index : Nat}
    {post : Post} (hpost : adapter.posts[index]? = some post) :
    adapter'.posts[index]? = some post := by
  rcases h.posts with ⟨rest, heq⟩
  rw [← heq, List.getElem?_append_left (List.getElem?_eq_some_iff.1 hpost).1]
  exact hpost

theorem Grows.refl (adapter : DSSPPortalAdapter) : Grows adapter adapter :=
  ⟨id, List.prefix_rfl, fun _ h => h⟩

/-- Taking up a submission posts the prepared form, or fails. -/
theorem submitTrainingForm_cases (adapter : DSSPPortalAdapter) (task : BatchTask) :
    (∃ error, adapter.submitTrainingForm task = (adapter, .answering (.failure error))) ∨
      ∃ prepared, adapter.preparedForm = some prepared ∧
        adapter.submitTrainingForm task =
          ({ adapter with posts := adapter.posts ++ [{ task := task, form := prepared }] },
            .posting adapter.posts.length) := by
  unfold submitTrainingForm
  split
  · exact .inl ⟨_, rfl⟩
  · next prepared hprepared =>
      split
      · exact .inl ⟨_, rfl⟩
      · split
        · exact .inl ⟨_, rfl⟩
        · split
          · exact .inl ⟨_, rfl⟩
          · exact .inr ⟨prepared, hprepared, rfl⟩

theorem grows_start (command : PortalCommand) :
    Grows adapter (adapter.start reading command).1 := by
  cases command with
  | prepareTrainee trainee =>
      simp only [start, prepareTrainee]
      split <;> exact ⟨id, List.prefix_rfl, fun _ h => h⟩
  | fillForm session =>
      simp only [start, fillTrainingForm]
      split
      · exact .refl adapter
      · next prepared hprepared =>
          split
          · refine ⟨fun h => ?_, List.prefix_rfl, fun _ h => h⟩
            simpa [Owned, hprepared] using h
          · exact .refl adapter
  | validateForm =>
      simp only [start, validateTrainingForm]
      split
      · exact .refl adapter
      · next prepared hprepared =>
          refine ⟨fun h => ?_, List.prefix_rfl, fun _ h => h⟩
          simpa [Owned, hprepared] using h
  | submitForm task =>
      rcases adapter.submitTrainingForm_cases task with
        ⟨error, hfailed⟩ | ⟨prepared, -, hposted⟩
      · rw [start, hfailed]
        exact .refl adapter
      · rw [start, hposted]
        exact ⟨id, List.prefix_append _ _, fun _ h => h⟩
  | _ => exact .refl adapter

theorem posts_start {command : PortalCommand} (h : ∀ task, command ≠ .submitForm task) :
    (adapter.start reading command).1.posts = adapter.posts := by
  cases command with
  | submitForm task => exact absurd rfl (h task)
  | prepareTrainee trainee =>
      simp only [start, prepareTrainee]
      split <;> rfl
  | fillForm session =>
      simp only [start, fillTrainingForm]
      split
      · rfl
      · split <;> rfl
  | validateForm =>
      simp only [start, validateTrainingForm]
      split <;> rfl
  | _ => rfl

/-- Only a submission posts, and it posts the prepared form. -/
theorem mem_posts_start {command : PortalCommand} {post : Post}
    (h : post ∈ (adapter.start reading command).1.posts) :
    post ∈ adapter.posts ∨
      command = .submitForm post.task ∧ adapter.preparedForm = some post.form := by
  by_cases hsubmit : ∃ task, command = .submitForm task
  · rcases hsubmit with ⟨task, rfl⟩
    rcases adapter.submitTrainingForm_cases task with
      ⟨error, hfailed⟩ | ⟨prepared, hprepared, hposted⟩
    · rw [start, hfailed] at h
      exact .inl h
    · rw [start, hposted] at h
      rcases List.mem_append.1 h with hmem | hmem
      · exact .inl hmem
      · rw [List.mem_singleton.1 hmem]
        exact .inr ⟨rfl, hprepared⟩
  · rw [posts_start fun task heq => hsubmit ⟨task, heq⟩] at h
    exact .inl h

/-- Nothing but filling in can spoil a form that is right. -/
theorem preparedForm_start {command : PortalCommand} {prepared : PreparedTrainingForm}
    {session : BatchSession} (hfill : ∀ session, command ≠ .fillForm session)
    (hprepared : adapter.preparedForm = some prepared) (hholds : prepared.fields.Holds session) :
    (adapter.start reading command).1.preparedForm = some prepared := by
  cases command with
  | prepareTrainee trainee =>
      simp only [start, prepareTrainee]
      split <;> exact hprepared
  | fillForm session => exact absurd rfl (hfill session)
  | validateForm => simp [start, validateTrainingForm, hprepared, validated_of_holds hholds]
  | submitForm task =>
      rcases adapter.submitTrainingForm_cases task with
        ⟨error, hfailed⟩ | ⟨_, -, hposted⟩
      · rwa [start, hfailed]
      · rwa [start, hposted]
  | _ => exact hprepared

/-- Taking up a command may forget the last answer to a post, but does not change it. -/
theorem submission_start {command : PortalCommand} {last : Nat × SubmissionSnapshot}
    (h : (adapter.start reading command).1.submission = some last) :
    adapter.submission = some last := by
  cases command with
  | prepareTrainee trainee =>
      simp only [start, prepareTrainee] at h
      split at h <;> cases h
  | fillForm session =>
      simp only [start, fillTrainingForm] at h
      split at h
      · exact h
      · split at h <;> exact h
  | validateForm =>
      simp only [start, validateTrainingForm] at h
      split at h <;> exact h
  | submitForm task =>
      rcases adapter.submitTrainingForm_cases task with
        ⟨error, hfailed⟩ | ⟨_, -, hposted⟩
      · rwa [start, hfailed] at h
      · rwa [start, hposted] at h
  | _ => exact h

/-- A form that has been filled in for its trainee is right. -/
theorem fillTrainingForm_done {session : TrainingSession} (howned : adapter.Owned)
    (h : (adapter.fillTrainingForm session).2 = .done) :
    ∃ prepared, (adapter.fillTrainingForm session).1.preparedForm = some prepared ∧
      prepared.traineeId = session.traineeId ∧ prepared.fields.Holds session.session := by
  unfold fillTrainingForm at h ⊢
  split at h
  · cases h
  · next prepared hprepared =>
      split at h
      · next hcheck =>
          have howner : some session.traineeId = some prepared.traineeId := by
            rw [← hcheck.2, howned, hprepared]
            rfl
          have hfilled : (fillTrainingFormFields prepared.fields session.session).2 = .ok () := by
            cases heq : (fillTrainingFormFields prepared.fields session.session).2 with
            | error error => simp [heq, reply] at h
            | ok => rfl
          have hholds := holds_of_filled hfilled
          rw [if_pos hcheck]
          -- What has been filled in is not to be computed.
          generalize fillTrainingFormFields prepared.fields session.session = filled at hholds ⊢
          exact ⟨_, rfl, (Option.some.inj howner).symm, hholds⟩
      · cases h

/-- Nothing that is taken up is left for later. -/
theorem start_begun {command next : PortalCommand} :
    (adapter.start reading command).2 ≠ .received next := by
  cases command with
  | prepareTrainee trainee =>
      simp only [start, prepareTrainee]
      split <;> simp
  | submitForm task =>
      rcases adapter.submitTrainingForm_cases task with
        ⟨error, hfailed⟩ | ⟨prepared, -, hposted⟩
      · simp [start, hfailed]
      · simp [start, hposted]
  | _ => simp [start]

/-- Only a submission waits for the answer to a post, to a new one, and nothing is answered yet. -/
theorem posting_start (command : PortalCommand) :
    (adapter.start reading command).1.replies = adapter.replies ∧
      ((adapter.start reading command).1.posts = adapter.posts ∧
          (∀ index, (adapter.start reading command).2 ≠ .posting index) ∨
        ∃ post, (adapter.start reading command).1.posts = adapter.posts ++ [post] ∧
          (adapter.start reading command).2 = .posting adapter.posts.length) := by
  cases command with
  | prepareTrainee trainee =>
      simp only [start, prepareTrainee]
      split <;> exact ⟨rfl, .inl ⟨rfl, by simp⟩⟩
  | fillForm session =>
      simp only [start, fillTrainingForm]
      split
      · exact ⟨rfl, .inl ⟨rfl, by simp⟩⟩
      · split <;> exact ⟨rfl, .inl ⟨rfl, by simp⟩⟩
  | validateForm =>
      simp only [start, validateTrainingForm]
      split <;> exact ⟨rfl, .inl ⟨rfl, by simp⟩⟩
  | submitForm task =>
      rcases adapter.submitTrainingForm_cases task with
        ⟨error, hfailed⟩ | ⟨prepared, -, hposted⟩
      · rw [start, hfailed]
        exact ⟨rfl, .inl ⟨rfl, by simp⟩⟩
      · rw [start, hposted]
        exact ⟨rfl, .inr ⟨_, rfl, rfl⟩⟩
  | _ => exact ⟨rfl, .inl ⟨rfl, by simp [start]⟩⟩

theorem submission_of_confirmed {reference : Option String}
    (h : adapter.waitForSubmissionResult reading = .outcome (.confirmed reference)) :
    ∃ index snapshot, adapter.submission = some (index, snapshot) ∧
      reading.submissionOutcome snapshot = .ok (.confirmed reference) := by
  unfold waitForSubmissionResult at h
  split at h
  · next index snapshot hsubmission =>
      split at h
      · next outcome hread =>
          cases h
          exact ⟨index, snapshot, hsubmission, hread⟩
      · cases h
  · cases h

/-- What a process leads to that has got what it has been waiting for. -/
inductive Lands (adapter : DSSPPortalAdapter) : Process → DSSPPortalAdapter × Process → Prop
  | answers {process : Process} {answer : Answer} (hbegun : ∀ command, process ≠ .received command)
      (hdone : answer ≠ .done) (houtcome : ∀ outcome, answer ≠ .outcome outcome) :
      Lands adapter process (adapter, .answering answer)
  | lists {trainee : Trainee} :
      Lands adapter .listing ({ adapter with currentTrainee := some trainee }, .loading trainee)
  | loads {trainee : Trainee} {fields : TrainingForm} :
      Lands adapter (.loading trainee)
        ({ adapter with
            preparedForm := some { traineeId := trainee.id, fields := fields }
            preparedFormTraineeId := some trainee.id },
          .answering .done)
  | records {index : Nat} {snapshot : SubmissionSnapshot} :
      Lands adapter (.posting index)
        ({ adapter with
            submission := some (index, snapshot)
            replies := adapter.replies ++ [(index, snapshot)] },
          .answering .done)

theorem lands_of_land {process : Process} {landing : Landing} {result : DSSPPortalAdapter × Process}
    (h : adapter.land reading process landing = some result) : Lands adapter process result := by
  unfold land at h
  split at h
  case h_4 =>
    cases h
    exact .lists
  case h_6 =>
    cases h
    exact .loads
  case h_7 =>
    split at h <;> cases h
    · exact .answers (by simp) (by simp) (by simp)
    · exact .records
  case h_9 => cases h
  all_goals
    cases h
    exact .answers (by simp) (by simp) (by simp)

section Landed

variable {process : Process} {result : DSSPPortalAdapter × Process}

theorem Lands.grows (h : Lands adapter process result) : Grows adapter result.1 := by
  cases h with
  | answers => exact .refl adapter
  | lists => exact ⟨id, List.prefix_rfl, fun _ hmem => hmem⟩
  | loads => exact ⟨fun _ => rfl, List.prefix_rfl, fun _ hmem => hmem⟩
  | records => exact ⟨id, List.prefix_rfl, fun _ hmem => List.mem_append_left _ hmem⟩

theorem Lands.posts (h : Lands adapter process result) : result.1.posts = adapter.posts := by
  cases h <;> rfl

theorem Lands.preparedForm (h : Lands adapter process result)
    (hloading : ∀ trainee, process ≠ .loading trainee) :
    result.1.preparedForm = adapter.preparedForm := by
  cases h with
  | loads => exact absurd rfl (hloading _)
  | _ => rfl

theorem Lands.submission (h : Lands adapter process result)
    (hposting : ∀ index, process ≠ .posting index) :
    result.1.submission = adapter.submission := by
  cases h with
  | records => exact absurd rfl (hposting _)
  | _ => rfl

/-- A command that has not been taken up cannot land. -/
theorem Lands.begun (h : Lands adapter process result) :
    (∀ command, process ≠ .received command) ∧ ∀ command, result.2 ≠ .received command := by
  cases h with
  | answers hbegun => exact ⟨hbegun, by simp⟩
  | _ => simp

end Landed

end Keeping

end DSSPPortalAdapter

end Extension

end DsspBot

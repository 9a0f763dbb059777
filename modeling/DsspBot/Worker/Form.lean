import DsspBot.Lib.Pattern
import DsspBot.Worker.Dates
import DsspBot.Worker.Options

/-!
# Form — what the worker reads off the portal's pages

The training form is found by its id, and its controls by selectors, labels or the words in their
names, inside the form only. The payload names four fields, whatever else the form holds.
-/

namespace DsspBot

/-- What the language knows about letters. -/
structure TextLibrary where
  lower : String → String
  /-- The value of a digit, in any script. -/
  decimal : Char → Option Nat

/-! ## Patterns -/

/-- The letters that one lower-case letter of a pattern stands for when case is ignored. -/
def ignoringCase (letter c : Char) : Bool :=
  decide (c = letter ∨ c = letter.toUpper) ||
    match letter with
    | 'i' => decide (c = 'İ' ∨ c = 'ı')
    | 's' => decide (c = 'ſ')
    | 'k' => decide (c.toNat = 0x212A)
    | _ => false

def spelled (text : String) : Pattern Char :=
  .word (text.toList.map ignoringCase)

/-- `\s*`. -/
def spaces : Pattern Char := .many isspace

def INSTRUCTOR_RE : Pattern Char := spelled "instructor"

def TRAINING_TYPE_RE : Pattern Char := .both (spelled "training") (.both spaces (spelled "type"))

def TRAINING_DATE_RE : Pattern Char :=
  .either (.both (spelled "training") (.both spaces (spelled "date")))
    (.both (spelled "date") (.both (.many fun c => decide (c ≠ '\n')) (spelled "yyyy")))

def FINAL_ASSESSMENT_RE : Pattern Char :=
  .both (spelled "final") (.both spaces (spelled "assessment"))

def ENROLLED_TRAINEES_RE : Pattern Char :=
  .both (spelled "enrolled") (.both (.both (.one isspace) spaces) (spelled "trainees"))

/-- The part of `TRAINEE_ID_RE` in front of the id. -/
def TRAINEE_ID_KEY : Pattern Char :=
  .both (.one fun c => decide (c = '?' ∨ c = '&' ∨ c = '/')) (spelled "traineeid=")

def traineeIdFromHref (text : TextLibrary) (href : String) : Option String :=
  href.toList.tails.findSome? fun tail => (TRAINEE_ID_KEY.rests tail).head?.bind fun rest =>
    let digits := rest.takeWhile fun c => (text.decimal c).isSome
    if digits.isEmpty then none else some (String.ofList digits)

/-! ## Selectors -/

def TRAINEE_TABLE : List Compound :=
  [{ tag := some "tbody" }, { tag := some "table", tests := [.hasClass "table-checkable"] }]

def TRAINEE_ROW_SELECTOR : Selector := [({ tag := some "tr" }, TRAINEE_TABLE)]

def TRAINEE_TABLE_SELECTOR : Selector :=
  [({ tag := some "tbody" },
    [{ tag := some "table", tests := [.hasClass "table-checkable"] }])]

def TRAINEE_ID_LINK_SELECTOR : Selector := [just "a" [.contains "href" "TraineeId="]]

def TRAINING_LOG_LINK_SELECTOR : Selector :=
  [just "a" [.contains "href" "/Trainee/TrainingLog?", .contains "href" "TraineeId="],
    just "a" [.contains "href" "/Trainee/TrainingLog/", .contains "href" "TraineeId="]]

def TRAINING_FORM_SELECTOR : Selector := [just "form" [.id "frmtraininglog"]]

def LOGOUT_SELECTOR : Selector :=
  [just "form" [.id "logoutForm"], just "a" [.contains "href" "/Account/LogOff"],
    just "form" [.contains "action" "/Account/LogOff"],
    just "a" [.contains "href" "/Account/Logout"],
    just "form" [.contains "action" "/Account/Logout"]]

def HEADING_SELECTOR : Selector :=
  [just "h1" [], just "h2" [], ({ tests := [.hasClass "page-title"] }, [])]

def TRAINING_DATE_SELECTORS : List Selector :=
  [[({ tests := [.id "TrainingDate"] }, [])], [just "input" [.equals "name" "TrainingDate"]],
    [({ tests := [.id "Date"] }, [])], [just "input" [.equals "name" "Date"]]]

/-- By id and by name, for each of these spellings. -/
def selectSelectors (spellings : List String) : List Selector :=
  spellings.flatMap fun key => [[just "select" [.id key]], [just "select" [.equals "name" key]]]

def INSTRUCTOR_SELECTORS : List Selector :=
  selectSelectors ["Instructor", "InstructorId", "InstructorID"]

def TRAINING_TYPE_SELECTORS : List Selector :=
  selectSelectors ["TrainingOptionId", "TrainingType", "TrainingTypeId", "TrainingTypeID"]

def TRAINEE_ID_SELECTOR : Selector :=
  [just "input" [.id "TraineeId"], just "input" [.equals "name" "TraineeId"]]

namespace HtmlDocument

variable (text : TextLibrary) (doc : HtmlDocument)

/-! ## The trainee list -/

def cellText (cells : List Tag) (index : Nat) : String :=
  (cells[index]?.map fun cell => strip (doc.getText cell)).getD ""

def rowTrainee (row : Tag) : Option TraineeInfo :=
  let cells := doc.select row [just "td" []]
  let link := fun selector =>
    ((doc.selectOne row selector).bind fun a => doc.get a "href").filter (· ≠ "")
  let href := (link TRAINING_LOG_LINK_SELECTOR).or (link TRAINEE_ID_LINK_SELECTOR)
  (traineeIdFromHref text (href.getD "")).map fun id =>
    { id := id
      name := doc.cellText cells 2
      sn := doc.cellText cells 0
      course := doc.cellText cells 4
      trainingSessions := doc.cellText cells 7 }

def getTrainees : List TraineeInfo :=
  (doc.select 0 TRAINEE_ROW_SELECTOR).filterMap (doc.rowTrainee text)

def hasAuthenticatedMarker : Bool :=
  (doc.selectOne 0 TRAINEE_TABLE_SELECTOR).isSome || (doc.selectOne 0 LOGOUT_SELECTOR).isSome ||
    (doc.select 0 HEADING_SELECTOR).any fun heading =>
      ENROLLED_TRAINEES_RE.search (doc.getText heading).toList

/-! ## The controls of the form -/

def queryFirst (t : Tag) (selectors : List Selector) : Option Tag :=
  selectors.findSome? (doc.selectOne t)

/-- `[a-z0-9]` when case is ignored. -/
def identityLetter (c : Char) : Bool :=
  decide (('a' ≤ c ∧ c ≤ 'z') ∨ ('A' ≤ c ∧ c ≤ 'Z') ∨ ('0' ≤ c ∧ c ≤ '9') ∨ c ∈ ['İ', 'ı', 'ſ'] ∨
    c.toNat = 0x212A)

/-- Every run of other letters becomes one space. -/
def blankOut (name : List Char) : List Char :=
  name.foldr
    (fun c rest =>
      if identityLetter c then c :: rest
      else if rest.head? = some ' ' then rest
      else ' ' :: rest) []

def identity (element : Tag) : String :=
  let id := (doc.get element "id").getD ""
  let name := (doc.get element "name").getD ""
  text.lower (String.ofList (blankOut (id.toList ++ ' ' :: name.toList)))

def tokenControl (t : Tag) (tag : String) (tokens : List String) : Option Tag :=
  (doc.findAll t tag).find? fun element =>
    tokens.all fun token => decide (token.toList <:+: (doc.identity text element).toList)

def labelText (label : Tag) : String :=
  " ".intercalate (splitSpace (doc.getText label))

def labelledControl (t : Tag) (tag : String) (pattern : Pattern Char) : Option Tag :=
  (doc.findAll t "label").findSome? fun label =>
    if pattern.search (doc.labelText label).toList then
      let named := ((doc.get label "for").filter (· ≠ "")).bind (doc.findById t)
      let control := (named.or (doc.find label tag)).or
        ((doc.parent label).bind fun p => doc.find p tag)
      control.filter fun control => decide (doc.name control = tag)
    else
      none

def findInstructorSelect (t : Tag) : Option Tag :=
  ((doc.queryFirst t INSTRUCTOR_SELECTORS).or
    (doc.labelledControl t "select" INSTRUCTOR_RE)).or
      (doc.tokenControl text t "select" ["instructor"])

def findTrainingTypeSelect (t : Tag) : Option Tag :=
  ((doc.queryFirst t TRAINING_TYPE_SELECTORS).or
    (doc.labelledControl t "select" TRAINING_TYPE_RE)).or
      (doc.tokenControl text t "select" ["training", "type"])

def findTrainingDateInput (t : Tag) : Option Tag :=
  ((doc.queryFirst t TRAINING_DATE_SELECTORS).or
    (doc.labelledControl t "input" TRAINING_DATE_RE)).or
      (doc.tokenControl text t "input" ["training", "date"])

/-- Not this form's: in no form or in another one, or assigned to another one. -/
def misowned (form control : Tag) : Bool :=
  decide (doc.findParent control "form" ≠ some form ∨
    (doc.get control "form").or (doc.get form "id") ≠ doc.get form "id")

/-- One round of the loop over the three controls. -/
def requireControl (form : Tag) (control : Option Tag) (name tag : String) :
    Except PyException Tag :=
  match control with
  | none => .error (.portal (.elementNotFound name))
  | some control =>
      if decide (doc.name control ≠ tag) || doc.misowned form control ||
          doc.hasAttr control "disabled" then
        .error (.portal (.portalStructure
          s!"{name} is not an enabled control of the training form."))
      else
        .ok control

structure FormFields where
  form : Tag
  trainingDate : Tag
  instructor : Tag
  trainingType : Tag
  deriving DecidableEq, Repr

def getTrainingFormFields : Except PyException FormFields :=
  match doc.select 0 TRAINING_FORM_SELECTOR with
  | [] => .error (.portal (.elementNotFound "Log New Training form"))
  | _ :: _ :: _ =>
      .error (.portal (.portalStructure "Multiple Log New Training forms were found."))
  | [form] => do
      let trainingDate ← doc.requireControl form (doc.findTrainingDateInput text form)
        "Training Date input" "input"
      let instructor ← doc.requireControl form (doc.findInstructorSelect text form)
        "Instructor select" "select"
      let trainingType ← doc.requireControl form (doc.findTrainingTypeSelect text form)
        "Training Type select" "select"
      return { form := form, trainingDate := trainingDate, instructor := instructor
               trainingType := trainingType }

def getFormOptions : Except PyException (List FormOption × List FormOption) := do
  let fields ← doc.getTrainingFormFields text
  let instructors := doc.getSelectOptions fields.instructor
  let trainingTypes := doc.getSelectOptions fields.trainingType
  if instructors.isEmpty then
    throw (.portal (.missingData "Instructor options"))
  else if trainingTypes.isEmpty then
    throw (.portal (.missingData "Training Type options"))
  else
    return (instructors, trainingTypes)

/-! ## The payload -/

/-- The keys of a session that the protocol of the host never sends. -/
structure SessionExtras where
  instructorLabel : Option String := none
  trainingTypeLabel : Option String := none
  /-- Assessment marks came with the session. -/
  finalAssessments : Bool := false
  deriving DecidableEq, Repr

/-- The form's own trainee is not the one it was opened for. -/
def strangeIdentity (form control : Tag) : Bool :=
  decide (doc.get control "id" ≠ some "TraineeId") ||
    decide (doc.get control "name" ≠ some "TraineeId") ||
    decide (text.lower ((doc.get control "type").getD "") ≠ "hidden") ||
    doc.misowned form control || doc.hasAttr control "disabled"

/-- `re.fullmatch(r"[0-9]+", trainee_id)`. -/
def isNumeric (traineeId : String) : Bool :=
  !traineeId.toList.isEmpty && traineeId.toList.all fun c => decide ('0' ≤ c ∧ c ≤ '9')

def checkIdentity (form : Tag) (traineeId : String) : Except PyException Unit :=
  match doc.select form TRAINEE_ID_SELECTOR with
  | [control] =>
      if doc.strangeIdentity text form control then
        .error (.portal (.portalStructure "Invalid training form TraineeId control."))
      else if !isNumeric traineeId || decide (doc.get control "value" ≠ some traineeId) then
        .error (.portal (.portalStructure
          "The training form trainee ID does not match the current record."))
      else
        .ok ()
  | _ =>
      .error (.portal (.portalStructure "The training form must have one TraineeId control."))

def buildFormPayload (extras : SessionExtras) (session : SessionInput) (traineeId : String) :
    Except PyException (List (String × String)) := do
  let fields ← doc.getTrainingFormFields text
  doc.checkIdentity text fields.form traineeId
  let trainingType ← doc.selectFormOption fields.trainingType session.trainingType
    extras.trainingTypeLabel
  -- Option 4 asks for assessment marks, which are not supported.
  if decide (trainingType.value = "4") || FINAL_ASSESSMENT_RE.search trainingType.label.toList ||
      extras.finalAssessments then
    throw (.portal (.validation "Final-assessment submissions are not supported."))
  else
    let trainingDate ← formatTrainingDate text.decimal session.trainingDate
    let instructor ← doc.selectFormOption fields.instructor session.instructor
      extras.instructorLabel
    return [("LogDetails[TraineeId]", traineeId), ("LogDetails[TrainingDate]", trainingDate),
      ("LogDetails[InstructorId]", instructor.value),
      ("LogDetails[TrainingOptionId]", trainingType.value)]

end HtmlDocument

/-- The worker's own readings of a page. -/
def pageReader (text : TextLibrary) (extras : HtmlDocument.SessionExtras) :
    PageReader HtmlDocument where
  getTrainees doc := .ok (doc.getTrainees text)
  getFormOptions doc := doc.getFormOptions text
  buildFormPayload doc session traineeId := doc.buildFormPayload text extras session traineeId
  hasAuthenticatedMarker doc := .ok doc.hasAuthenticatedMarker

end DsspBot

import DsspBot.Cli.Batch
import DsspBot.Lib.Json
import DsspBot.Lib.Raising
import DsspBot.Worker.Errors

/-!
# Portal — the worker's client of the portal

The client talks HTTP through a browser context. What the portal answers, and where a library
raises, is the surroundings' choice at every single call; what was asked of the portal is kept in
order, a POST included as soon as it is attempted.
-/

namespace DsspBot

/-! ## The libraries -/

structure Url where
  scheme : String
  netloc : String
  path : String
  query : String
  deriving DecidableEq, Repr

/-- The library functions the worker calls, each free to raise. -/
structure Libraries (Soup Tag : Type) where
  parseHtml : String → Except LibraryError Soup
  select : Soup → String → Except LibraryError (List Tag)
  selectOne : Soup → String → Except LibraryError (Option Tag)
  getText : Tag → Except LibraryError String
  loads : String → Except LibraryError Json
  dumps : List (String × Option String) → Except LibraryError String
  urlparse : String → Except LibraryError Url
  parseQs : String → Except LibraryError (List (String × List String))
  urljoin : String → String → Except LibraryError String
  urlencode : List (String × String) → Except LibraryError String
  quote : String → String
  /-- `repr` of a string, for error texts. -/
  repr : String → String
  upper : String → String

/-- What the worker reads off the portal's own pages: the trainee list, the form and the login.
None of it is asked once a submission has been attempted. -/
structure PageReader (Soup : Type) where
  getTrainees : Soup → Except PyException (List TraineeInfo)
  getFormOptions : Soup → Except PyException (List FormOption × List FormOption)
  buildFormPayload : Soup → SessionInput → String → Except PyException (List (String × String))
  hasAuthenticatedMarker : Soup → Except PyException Bool

/-- A response whose every access may raise: `url`, `status` and `headers` are read more than once,
so they are told which access it is. -/
structure HttpResponse where
  text : Except LibraryError String
  url : Nat → Except LibraryError String
  status : Nat → Except LibraryError Nat
  ok : Except LibraryError Bool
  headers : Nat → Except LibraryError (List (String × String))

inductive Issued
  | get (url : String)
  | post (action data : String)
  deriving DecidableEq, Repr

/-- How the portal and the machine behave during one request to the worker. -/
structure Portal where
  origin : String
  start : List Issued → Except LibraryError Unit
  get : List Issued → Except LibraryError HttpResponse
  post : List Issued → Except LibraryError HttpResponse
  goto : Except LibraryError Unit
  /-- The pages seen at the login window until its deadline. -/
  looks : List (Except LibraryError (String × String))
  dumpDir : Option String
  write : String → String → Except LibraryError Unit

/-! ## Python's exceptions over what was issued -/

abbrev Py (α : Type) := Raising (List Issued) PyException α

def raise {α : Type} (e : PortalError) : Py α :=
  throw (.portal e)

/-- A function of the worker that issues nothing. -/
def Py.ofExcept {α : Type} : Except PyException α → Py α
  | .ok a => pure a
  | .error e => throw e

def call {α : Type} (result : Except LibraryError α) : Py α :=
  Py.ofExcept (result.mapError .library)

/-- Ask the portal. The request is on record whatever comes back. -/
def request (issued : Issued) (answer : List Issued → Except LibraryError HttpResponse) :
    Py HttpResponse := do
  let before ← get
  -- Recorded before the answer, so an exception does not take it back.
  set (before ++ [issued])
  call (answer before)

/-- Replace the exceptions of a block; `except` clauses that do not apply raise them again. -/
def Py.rescue {α : Type} (block : Py α) (handler : PyException → PyException) : Py α :=
  tryCatch block fun e => throw (handler e)

/-- An `if` without an `else`. -/
def onlyIf (condition : Bool) (block : Py Unit) : Py Unit :=
  if condition then block else pure ()

/-- `except PlaywrightError`. -/
def onPlaywright (handler : String → PortalError) : PyException → PyException
  | .library (.playwright text) => .portal (handler text)
  | e => e

/-! ## Text -/

/-- Python's notion of whitespace adds four control characters to Unicode's. -/
def isspace (c : Char) : Bool :=
  isWhitespace c || decide (0x1C ≤ c.toNat ∧ c.toNat ≤ 0x1F)

def strip (value : String) : String :=
  String.ofList ((value.toList.dropWhile isspace).reverse.dropWhile isspace).reverse

def splitSpace (value : String) : List String :=
  ((value.toList.splitOnP isspace).filter fun word => !word.isEmpty).map String.ofList

section Worker

variable {Soup Tag : Type} (lib : Libraries Soup Tag) (pages : PageReader Soup) (portal : Portal)

/-! ## Reading a result page -/

def LOGIN_FORM_SELECTOR : String := "#loginForm, form[action*=\"/Account/Login\"]"
def VALIDATION_MESSAGE_SELECTOR : String := ".validation-summary-errors, .field-validation-error"

/-- A URL that cannot be parsed counts as a login page. -/
def isLoginPage (soup : Soup) (href : String) : Except LibraryError Bool :=
  match lib.urlparse href with
  | .error _ => .ok true
  | .ok url =>
      -- An empty path is read as the root.
      if (if url.path = "" then "/" else url.path).startsWith "/Account/Login" then .ok true
      else (lib.selectOne soup LOGIN_FORM_SELECTOR).map Option.isSome

def validationMessage (soup : Soup) : Except LibraryError (Option String) := do
  let elements ← lib.select soup VALIDATION_MESSAGE_SELECTOR
  let texts ← elements.mapM lib.getText
  let messages := (texts.map fun text => " ".intercalate (splitSpace text)).filter (· ≠ "")
  return if messages.isEmpty then none else some (" ".intercalate messages)

structure JsonMessage where
  success : Option Bool := none
  message : Option String := none
  deriving DecidableEq, Repr

/-- The first of these keys whose value is neither missing nor null. -/
def firstPresent (fields : List (String × Json)) : List String → Option Json
  | [] => none
  | key :: keys =>
      match Json.field fields key with
      | none => firstPresent fields keys
      | some .null => firstPresent fields keys
      | some value => some value

def messageFromJson (body : String) : Except LibraryError (Option JsonMessage) :=
  match lib.loads body with
  | .error (.value _) => .ok none
  | .error (.type _) => .ok none
  | .error e => .error e
  | .ok (.object fields) =>
      -- A key that is present wins even when its value is null, so this is not `firstPresent`.
      let success :=
        (Json.field fields "IsSuccessful").or
          ((Json.field fields "success").or (Json.field fields "Success"))
      let message := firstPresent fields ["message", "Message", "error", "Error"]
      .ok (some
        { success := match success with
            | some (.bool value) => some value
            | _ => none
          message := match message with
            | some (.string value) => some value
            | _ => none })
  | .ok _ => .ok none

structure SubmissionOutcome where
  outcome : String
  reference : Option String := none
  message : Option String := none
  deriving DecidableEq, Repr

/-- Classification only: it never submits again. -/
def submissionOutcome (body finalUrl : String) (status : Nat) :
    Except PyException SubmissionOutcome := do
  let soup ← (lib.parseHtml body).mapError .library
  let login ← (isLoginPage lib soup finalUrl).mapError .library
  if login then
    -- The login page came in answer to the POST, so the attempt is admitted.
    throw (.portal (.sessionExpired true))
  else if 300 ≤ status ∧ status < 400 then
    return { outcome := "indeterminate"
             message := some s!"DSSP returned HTTP {status} without a verified submission result." }
  else
    let json ← (messageFromJson lib body).mapError .library
    let validation ← (validationMessage lib soup).mapError .library
    let success := json.bind (·.success)
    -- Any sign of refusal outweighs a success flag.
    if success = some false ∨ validation.isSome ∨ 400 ≤ status then
      let detail := ((json.bind (·.message)).filter (· ≠ "")).or validation
      return { outcome := "rejected"
               message := some (detail.getD s!"DSSP returned HTTP {status}.") }
    else if 200 ≤ status ∧ status < 300 ∧ success = some true then
      return { outcome := "confirmed", reference := some finalUrl }
    else
      return { outcome := "indeterminate"
               message := some s!"DSSP returned HTTP {status} without a recognizable result." }

/-! ## The client -/

namespace PortalClient

def traineePageUrl : String := portal.origin ++ "/Trainee"
def traineeListUrl : String := portal.origin ++ "/Trainee?pgsize=10000&page=1&keywords="

def trainingFormUrl (traineeId : String) : String :=
  portal.origin ++ "/Trainee/TrainingLog?TraineeId=" ++ lib.quote traineeId

/-- Open the browser context if there is none yet. -/
def start : Py Unit := do
  let issued ← get
  call (portal.start issued)

/-- A dump that fails to write is logged; only an unforeseen exception gets out. -/
def dump (name body : String) : Py Unit :=
  if portal.dumpDir.isNone then pure ()
  else
    match portal.write name body with
    | .ok () => pure ()
    | .error (.os _) => pure ()
    | .error (.value _) => pure ()
    | .error e => throw (.library e)

structure Page (Soup : Type) where
  soup : Soup
  finalUrl : String
  body : String
  status : Nat

/-- A GET that carries the login cookies. The login check comes before the status. -/
def fetch (url evidence : String) : Py (Page Soup) := do
  start portal
  let answered ← Py.rescue
    (do
      let resp ← request (.get url) portal.get
      let body ← call resp.text
      return (resp, body))
    (onPlaywright fun exc => .network s!"GET {url} failed: {exc}")
  let resp := answered.1
  let body := answered.2
  let finalUrl ← call (resp.url 0)
  -- The page is kept as evidence before anything is made of it.
  onlyIf (decide (evidence ≠ "")) (dump portal evidence body)
  let soup ← call (lib.parseHtml body)
  let login ← call (isLoginPage lib soup finalUrl)
  onlyIf login (raise (.sessionExpired false))
  let ok ← call resp.ok
  onlyIf (!ok) (do
    let status ← call (resp.status 0)
    raise (.network s!"DSSP returned HTTP {status} for {url}"))
  let status ← call (resp.status 1)
  return { soup := soup, finalUrl := finalUrl, body := body, status := status }

def listTrainees : Py (List TraineeInfo) := do
  let page ← fetch lib portal (traineeListUrl portal) "trainee-list.html"
  Py.ofExcept (pages.getTrainees page.soup)

/-- With no trainee id, the form of the first trainee shows the same options. -/
def formTrainee (traineeId : Option String) : Py String :=
  match traineeId.filter (· ≠ "") with
  | some traineeId => pure traineeId
  | none => do
      let trainees ← listTrainees lib pages portal
      match trainees with
      | [] => raise (.missingData "a trainee to load form options")
      | first :: _ => pure first.id

def getFormOptions (traineeId : Option String) : Py (List FormOption × List FormOption) := do
  let traineeId ← formTrainee lib pages portal traineeId
  let page ← fetch lib portal (trainingFormUrl lib portal traineeId)
    s!"training-form-{traineeId}.html"
  Py.ofExcept (pages.getFormOptions page.soup)

/-- The portal's name rule; the case mapping is Unicode's own. -/
def normalizeName (value : String) : String :=
  lib.upper (" ".intercalate (splitSpace value))

/-- By id when given, else by normalized name; an ambiguous name stops the job. -/
def resolveTrainee (trainee : TraineeRef) : Py TraineeInfo := do
  let traineeId := strip (trainee.id.getD "")
  if traineeId ≠ "" then
    let trainees ← listTrainees lib pages portal
    -- The first of several rows with this id is taken.
    match trainees.find? fun candidate => decide (candidate.id = traineeId) with
    | some candidate => pure candidate
    | none => raise (.traineeNotFound s!"No trainee with id {traineeId} on the portal.")
  else
    let name := strip (trainee.name.getD "")
    if name = "" then
      raise (.missingData "trainee id or name")
    else
      let target := normalizeName lib name
      let trainees ← listTrainees lib pages portal
      let shown := lib.repr name
      match trainees.filter fun t => decide (normalizeName lib t.name = target) with
      | [found] => pure found
      | [] => raise (.traineeNotFound s!"No trainee named {shown} on the portal.")
      | found :: other :: more =>
          let count := (found :: other :: more).length
          raise (.traineeNotFound
            (s!"Ambiguous trainee match: {count} trainees named {shown}. " ++
              "Provide the trainee id."))

/-- Everything before the POST: whom it is about, where it goes and what it says. -/
structure Prepared where
  resolved : TraineeInfo
  action : String
  data : String

/-- Whether the form's URL is not the one that was asked for. -/
def wrongForm (expected actual : Url) (traineeId : String) : Except LibraryError Bool :=
  if (actual.scheme, actual.netloc, actual.path) ≠
      (expected.scheme, expected.netloc, expected.path) then
    -- The path decides before the query is looked at.
    .ok true
  else
    (lib.parseQs actual.query).map fun query =>
      decide (((query.find? fun entry => decide (entry.1 = "TraineeId")).map (·.2)) ≠
        some [traineeId])

def prepare (trainee : TraineeRef) (session : SessionInput) : Py Prepared := do
  let resolved ← resolveTrainee lib pages portal trainee
  let traineeId := resolved.id
  let page ← fetch lib portal (trainingFormUrl lib portal traineeId)
    s!"training-form-{traineeId}.html"
  let expected ← call (lib.urlparse (trainingFormUrl lib portal traineeId))
  let actual ← call (lib.urlparse page.finalUrl)
  let wrong ← call (wrongForm lib expected actual traineeId)
  onlyIf wrong
    (raise (.portalStructure "The training form URL does not match the current record."))
  let payload ← Py.ofExcept (pages.buildFormPayload page.soup session traineeId)
  let action ← call (lib.urljoin (portal.origin ++ "/") "/Trainee/LogTraining")
  let data ← call (lib.urlencode payload)
  -- The context is opened once more, right before the POST.
  start portal
  return { resolved := resolved, action := action, data := data }

/-- The one POST, without redirects. -/
def commit (prepared : Prepared) : Py HttpResponse :=
  let traineeId := prepared.resolved.id
  -- A Playwright failure here is a network error; that code never proves the request unsent.
  Py.rescue (request (.post prepared.action prepared.data) portal.post)
    (onPlaywright fun exc =>
      .network s!"submitting training for trainee {traineeId} failed: {exc}")

def header (headers : List (String × String)) (name : String) : Option String :=
  (headers.find? fun entry => decide (entry.1 = name)).map (·.2)

/-- What is dumped of the response before its body is read. -/
def dumpMetadata (traineeId : String) (resp : HttpResponse) : Py Unit := do
  let status ← call (resp.status 0)
  let contentType ← call (resp.headers 0)
  let location ← call (resp.headers 1)
  let text ← call (lib.dumps
    [("status", some (Nat.repr status)), ("content_type", header contentType "content-type"),
      ("location", header location "location")])
  let _url ← call (resp.url 0)
  dump portal s!"submit-response-{traineeId}.metadata.json" text

/-- A redirect's location, read again and resolved against the response's own URL. -/
def joinLocation (resp : HttpResponse) : Py String := do
  let base ← call (resp.url 3)
  let headers ← call (resp.headers 3)
  match header headers "location" with
  | some location => call (lib.urljoin base location)
  -- The second read of the headers may differ from the first.
  | none => throw (.library (.other "'location'"))

def resultUrl (resp : HttpResponse) (redirected : Bool) : Py String := do
  let url ← call (resp.url 2)
  if redirected then
    let headers ← call (resp.headers 2)
    if (header headers "location").any (· ≠ "") then joinLocation lib resp else pure url
  else
    pure url

/-- Everything after the POST: its response is evidence, never permission to submit again. -/
def classify (traineeId : String) (resp : HttpResponse) : Py SubmissionOutcome := do
  onlyIf portal.dumpDir.isSome (dumpMetadata lib portal traineeId resp)
  -- The POST is out: a body that cannot be read leaves its result unknown.
  let body ← Py.rescue (call resp.text) fun _ =>
    .portal (.confirmationUnknown
      ("DSSP returned a response, but its body could not be read. " ++
        "The submission may have been delivered; inspect training history, do not retry."))
  let _url ← call (resp.url 1)
  dump portal s!"submit-response-{traineeId}.html" body
  let seen ← call (resp.status 1)
  let redirected := decide (300 ≤ seen ∧ seen < 400)
  let finalUrl ← resultUrl lib resp redirected
  let status ← call (resp.status 2)
  Py.ofExcept (submissionOutcome lib body finalUrl status)

/-- Prepare, commit exactly once, then classify. -/
def submitTraining (trainee : TraineeRef) (session : SessionInput) :
    Py (TraineeInfo × SubmissionOutcome) := do
  let prepared ← prepare lib pages portal trainee session
  let resp ← commit portal prepared
  let outcome ← classify lib portal prepared.resolved.id resp
  return (prepared.resolved, outcome)

def awaitLogin : List (Except LibraryError (String × String)) → Py Unit
  | [] => raise (.sessionExpired false)
  | look :: looks => do
      let seen ← call look
      let soup ← call (lib.parseHtml seen.1)
      let login ← call (isLoginPage lib soup seen.2)
      -- Still on the login page: look again until the deadline.
      if login then awaitLogin looks
      else
        let marked ← Py.ofExcept (pages.hasAuthenticatedMarker soup)
        if marked then pure () else awaitLogin looks

/-- Open the trainee page and wait for the operator to sign in. -/
def ensureSession : Py Unit := do
  start portal
  Py.rescue (call portal.goto) (onPlaywright fun exc =>
    let url := traineePageUrl portal
    .network s!"could not open {url}: {exc}")
  awaitLogin lib pages portal.looks

end PortalClient

end Worker

end DsspBot

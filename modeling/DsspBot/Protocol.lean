import DsspBot.Report

/-!
# Protocol — the wire messages shared with the worker

One JSON object per line. The fields kept here are the ones some modelled function reads;
optional fields stay optional, because a missing field is a case of its own.
-/

namespace DsspBot

/-- Protocol version, sent on every request and checked on every reply. -/
def V : Nat := 1

namespace Op

def ping : String := "ping"
def ensureSession : String := "ensure_session"
def listTrainees : String := "list_trainees"
def getFormOptions : String := "get_form_options"
def submitTraining : String := "submit_training"

end Op

/-- Trainee selector: by id when given, else by name. -/
structure TraineeRef where
  id : Option String := none
  name : Option String := none
  deriving DecidableEq, Repr

/-- Training details for one submission. -/
structure SessionInput where
  trainingDate : String
  instructor : String
  trainingType : String
  deriving DecidableEq, Repr

structure Request where
  v : Nat := V
  jobId : String
  op : String
  traineeId : Option String := none
  trainee : Option TraineeRef := none
  session : Option SessionInput := none
  deriving DecidableEq, Repr

namespace Request

def ensureSession (jobId : String) : Request :=
  { jobId := jobId, op := Op.ensureSession }

def listTrainees (jobId : String) : Request :=
  { jobId := jobId, op := Op.listTrainees }

def getFormOptions (jobId : String) (traineeId : Option String) : Request :=
  { jobId := jobId, op := Op.getFormOptions, traineeId := traineeId }

def submitTraining (jobId : String) (trainee : TraineeRef) (session : SessionInput) : Request :=
  { jobId := jobId, op := Op.submitTraining, trainee := some trainee, session := some session }

/-- The explicit trainee id a request carries, if any. -/
def asksFor (req : Request) : Option String :=
  req.trainee.bind (·.id)

@[simp] theorem asksFor_submitTraining (jobId : String) (trainee : TraineeRef)
    (session : SessionInput) : (submitTraining jobId trainee session).asksFor = trainee.id := rfl

end Request

/-- Status of a worker line: the startup handshake, or a reply. -/
inductive Status
  | ok
  | error
  | ready
  deriving DecidableEq, Repr

/-- One row of the portal's trainee list. -/
structure TraineeInfo where
  id : String
  name : String
  sn : String := ""
  course : String := ""
  trainingSessions : String := ""
  deriving DecidableEq, Repr

/-- One option of the training form. -/
structure FormOption where
  value : String
  label : String
  deriving DecidableEq, Repr

/-- The trainee a reply names. -/
structure TraineeResolved where
  id : String
  name : String
  deriving DecidableEq, Repr

/-- A parsed worker response. -/
structure Response where
  v : Nat := V
  jobId : String := ""
  op : String := ""
  status : Status
  errorCode : Option String := none
  message : Option String := none
  provesNothingSubmitted : Option Bool := none
  pong : Option Bool := none
  authenticated : Option Bool := none
  count : Option Nat := none
  trainees : Option (List TraineeInfo) := none
  instructors : Option (List FormOption) := none
  trainingTypes : Option (List FormOption) := none
  trainee : Option TraineeResolved := none
  attempts : Option Nat := none
  outcome : Option String := none
  reference : Option String := none
  deriving DecidableEq, Repr

namespace Response

/-- The short form that goes into error texts. -/
def summary (resp : Response) : String :=
  match resp.status with
  | .ok =>
      match resp.outcome with
      | some outcome => s!"ok outcome={outcome}"
      | none =>
          match resp.count with
          | some count => s!"ok count={count}"
          | none => "ok"
  | .error =>
      let code := resp.errorCode.getD "?"
      let proves := resp.provesNothingSubmitted.getD false
      s!"error code={code} proves_nothing_submitted={proves}"
  | .ready => "ready"

end Response

/-- What one exchange with the worker yields: a reply, or a transport error. -/
abbrev Reply := Except String Response

end DsspBot

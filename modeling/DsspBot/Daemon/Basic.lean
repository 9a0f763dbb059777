import DsspBot.Cli.Batch

/-!
# Daemon — batches behind a local HTTP endpoint

One daemon serves batches one after another. A request runs on its own thread: it may start a batch,
read the form options, or control the batch that runs. A control request first looks up the current
controller and only later takes that controller's pause lock, so that between the two the batch may
end and another may begin. A step of the daemon is what one thread does between two points where
another may act.
-/

namespace DsspBot

/-! ## What is published -/

structure Progress where
  state : String
  total : Nat
  processed : Nat
  successful : Nat
  failed : Nat
  skipped : Nat
  indeterminate : Nat
  remaining : Nat
  pauseRequested : Bool := false
  stopRequested : Bool := false
  currentTraineeName : Option String := none
  deriving DecidableEq, Repr

def progressOf (state : String) (total : Nat) (results : List TrainingResult)
    (name : Option String) : Progress :=
  { state := state
    total := total
    processed := results.length
    successful := countOutcome .success results
    failed := countOutcome .failed results
    skipped := countOutcome .skipped results
    indeterminate := countOutcome .indeterminate results
    remaining := total - results.length
    currentTraineeName := name }

/-- What an accepted control shows at once. -/
def Progress.command (p : Progress) : ControlRequest → Progress
  | .pause => { p with pauseRequested := true }
  | .resume => { p with pauseRequested := false }
  | .stop => { p with pauseRequested := false, stopRequested := true }

/-- The phases of a batch that is not over. -/
def LIVE_STATES : List String :=
  ["initializing", "submitting", "loading_trainee", "retrying", "paused"]

/-- The state behind the daemon's own lock. A controller is known by the batch it belongs to. -/
structure DaemonState where
  busy : Bool := false
  progress : Progress
  report : Option BatchReport := none
  control : Option Nat := none

namespace DaemonState

variable (state : DaemonState)

/-- Close the controls; a batch that looks alive is shown as stopped. -/
def clearControl : DaemonState :=
  let p := { state.progress with pauseRequested := false }
  { state with
    control := none
    progress :=
      if p.state ∈ LIVE_STATES then { p with state := "stopped", currentTraineeName := none }
      else p }

end DaemonState

/-- The phase a checkpoint is published as. -/
def phaseOf (cp : BatchCheckpoint) : String :=
  match cp.status with
  | .finished => "complete"
  | .aborted => "stopped"
  | .paused => "paused"
  | _ => if cp.inFlight.isSome then "submitting" else "loading_trainee"

/-- What a batch thread publishes after a save. A terminal phase also closes the controls. -/
def DaemonState.publish (state : DaemonState) (names : List TraineeInfo) (cp : BatchCheckpoint) :
    DaemonState :=
  let phase := phaseOf cp
  -- Only a trainee the portal listed has a name to show.
  let name := (cp.inFlight.bind (findById names)).map (·.name)
  let shown :=
    { progressOf phase cp.total cp.results name with stopRequested := state.progress.stopRequested }
  if phase = "complete" ∨ phase = "stopped" then
    { state with progress := shown, control := none }
  else
    { state with progress := { shown with pauseRequested := state.progress.pauseRequested } }

/-! ## Requests and replies -/

def Plan.resumed : Plan → Bool
  | .fresh => false
  | .resume _ _ _ => true

/-- Whom a plan runs, what it carries and how many it still owes. -/
def Plan.work (trainees : List TraineeRef) : Plan → List TraineeRef × List TrainingResult × Nat
  | .fresh => (trainees, [], 0)
  | .resume roster carried owed => (roster, carried, owed)

structure BatchRequest where
  trainees : List TraineeRef
  session : SessionInput
  resume : Bool := false
  deriving DecidableEq, Repr

inductive Body
  | error (message : String)
  | progress (shown : Progress)
  | batchId (id : String)
  | options (instructors trainingTypes : List FormOption)
  deriving DecidableEq, Repr

structure HttpReply where
  code : Nat
  body : Body
  deriving DecidableEq, Repr

def httpError (code : Nat) (message : String) : HttpReply :=
  { code := code, body := .error message }

/-- The endpoints that need the worker. -/
inductive Endpoint
  | batch
  | formOptions
  deriving DecidableEq, Repr

inductive DaemonEvent
  /-- A control request was answered about the controller it captured, if there was one. -/
  | controlled (captured : Option Nat) (c : ControlRequest) (reply : HttpReply)
  | answered (endpoint : Endpoint) (reply : HttpReply)
  | factory (made : Bool)
  | requested (req : Request)

/-! ## The state of the daemon -/

/-- A batch thread. Its place among all batches so far is the identity of its controller. -/
structure DaemonRun where
  batch : Batch
  owed : Nat
  names : List TraineeInfo
  engine : Engine

/-- What `start` knows of a batch that the gate let through. -/
structure Admission where
  batchId : String
  session : SessionInput
  wanted : List TraineeRef
  carried : List TrainingResult
  owed : Nat

abbrev Answer := Option (Endpoint × HttpReply)

/-- Who holds the daemon's only worker slot, and how far it is. -/
inductive Holder
  | nobody
  | starting (req : BatchRequest)
  | connecting (a : Admission)
  | ensuring (a : Admission)
  | listing (a : Admission)
  | launching (a : Admission) (resolved : List TraineeRef) (names : List TraineeInfo)
  | spawning (a : Admission)
  | running
  /-- The batch thread is over, its controls not yet closed. -/
  | leaving (answer : Answer)
  | formConnecting
  | formEnsuring
  | formReading
  /-- The worker is being shut down. -/
  | tearingDown (answer : Answer)
  | releasing (answer : Answer)

/-- The batch of the last controller may still be controlled. -/
def Holder.engaged : Holder → Bool
  | .spawning _ => true
  | .running => true
  | .leaving _ => true
  | _ => false

structure Daemon where
  state : DaemonState
  holder : Holder := .nobody
  store : CheckpointStore
  runs : List DaemonRun := []
  /-- Control requests that captured a controller and wait for its lock. -/
  captured : List (Nat × ControlRequest) := []
  log : List DaemonEvent := []

inductive DaemonInput
  | control (c : ControlRequest)
  | serve (index : Nat)
  | post (req : BatchRequest)
  | getFormOptions
  | guarded (batchId : String) (saves : GuardSaves)
  | factory (result : Except String Unit) (id : String)
  | reply (reply : Reply) (id : String)
  | clock (now : String)
  | spawned (result : Except String Unit)
  | engine (input : Input)
  | unwind
  | tick

namespace Daemon

variable (d : Daemon)

def emit (event : DaemonEvent) : Daemon :=
  { d with log := d.log ++ [event] }

def answer (endpoint : Endpoint) (reply : HttpReply) : Daemon :=
  d.emit (.answered endpoint reply)

/-! ## Controls -/

/-- `apply_control`: capture the current controller, or refuse at once. -/
def applyControl (c : ControlRequest) : Daemon :=
  match d.state.control with
  -- Captured now, served later: the batch may be over by then.
  | some id => { d with captured := d.captured ++ [(id, c)] }
  | none =>
      d.emit (.controlled none c
        (httpError 409 "no controllable batch (idle, finished, form-options, or admission)"))

/-- The engine of the current batch thread holds its own pause lock at times. A thread that panicked
while holding it is taken to close its controls before anybody is served. -/
def lockHeld (id : Nat) : Bool :=
  d.holder.engaged && decide (id + 1 = d.runs.length) && d.runs[id]?.any (·.engine.lockHeld)

/-- An accepted control sets the flags and shows them. -/
def accept (id : Nat) (run : DaemonRun) (c : ControlRequest) (control : BatchControl) : Daemon :=
  let engine := { run.engine with
    control := some control, log := run.engine.log ++ [.controlled c true] }
  let shown := d.state.progress.command c
  { d with
    runs := d.runs.set id { run with engine := engine }
    state := { d.state with progress := shown } }.emit
      (.controlled (some id) c { code := 200, body := .progress shown })

/-- `control_captured`: under the lock, a controller that is no longer the current one, or is
closed, is refused. -/
def controlCaptured (id : Nat) (c : ControlRequest) : Option Daemon :=
  -- Served only once the engine lets go of its pause lock.
  if d.lockHeld id then
    none
  else
    d.runs[id]?.bind fun run => run.engine.control.map fun control =>
      -- Compared under the lock, because the controller may have changed since the capture.
      if d.state.control = some id then
        match control.request c with
        | .ok control => d.accept id run c control
        | .error text => d.emit (.controlled (some id) c (httpError 409 text))
      else
        d.emit (.controlled (some id) c (httpError 409 "batch is no longer controllable"))

def serve (index : Nat) : Option Daemon :=
  d.captured[index]?.bind fun request =>
    { d with captured := d.captured.eraseIdx index }.controlCaptured request.1 request.2

/-! ## Admission -/

def acquire (endpoint : Endpoint) (holder : Holder) : Daemon :=
  if d.state.busy then
    d.answer endpoint (httpError 503 "a batch or form-options worker is already running")
  else
    { d with holder := holder, state := { d.state with busy := true } }

/-- `return error(..)` before there is a worker to shut down. -/
def reject (endpoint : Endpoint) (reply : HttpReply) : Daemon :=
  { d with holder := .releasing (some (endpoint, reply)) }

/-- The answer is settled once there is one, and given when it has been shut down. -/
def dismissWorker (endpoint : Endpoint) (reply : HttpReply) : Daemon :=
  { d with holder := .tearingDown (some (endpoint, reply)) }

def isBlank (value : String) : Bool :=
  value.toList.all isWhitespace

def badBatch (wanted : List TraineeRef) (session : SessionInput) : Bool :=
  (wanted.any fun trainee => ((keyOf trainee).map isBlank).getD true) ||
    [session.trainingDate, session.instructor, session.trainingType].any isBlank

/-- A resume with nothing left to run is answered from the file alone. -/
def nothingToRun (previous : BatchCheckpoint) (batchId : String) (carried : List TrainingResult)
    (owed : Nat) : Daemon :=
  let report := BatchReport.build carried previous.startedAt previous.updatedAt (decide (0 < owed))
  let phase := if 0 < owed then "stopped" else "complete"
  { d with
    state := { d.state with
      progress := progressOf phase report.total report.results none
      report := some report }
    holder := .releasing (some (.batch, { code := 202, body := .batchId batchId })) }

/-- What `start` makes of a plan, up to the point where it needs a worker. -/
def planned (req : BatchRequest) (batchId : String) (start : Start) : Daemon :=
  let wanted := (start.plan.work req.trainees).1
  let carried := (start.plan.work req.trainees).2.1
  let owed := (start.plan.work req.trainees).2.2
  -- An empty roster is only acceptable from a resume.
  if wanted.isEmpty && !start.plan.resumed then
    d.reject .batch (httpError 422 "trainees is empty")
  else if badBatch wanted req.session then
    d.reject .batch
      (httpError 422 "trainees need an id/name and session fields must not be empty")
  else
    match wanted, start.previous with
    -- A resume that has nobody to run never needs a worker.
    | [], some previous => d.nothingToRun previous batchId carried owed
    | _, _ =>
        { d with
          state := { d.state with
            progress := progressOf "initializing" (wanted.length + carried.length) carried none
            report := none }
          holder := .connecting
            { batchId := batchId
              session := req.session
              wanted := wanted
              carried := carried
              owed := owed } }

def guarded (req : BatchRequest) (batchId : String) (saves : GuardSaves) : Daemon :=
  match guard d.store req.resume saves with
  | (.error text, store) => { d with store := store }.reject .batch (httpError 409 text)
  | (.ok start, store) => { d with store := store }.planned req batchId start

def connected (endpoint : Endpoint) (holder : Holder) (id : String) :
    Except String Unit → Daemon
  | .error text => (d.emit (.factory false)).reject endpoint (httpError 502 text)
  | .ok () =>
      { (d.emit (.factory true)).emit (.requested (.ensureSession id)) with holder := holder }

/-- `ensure(..)?` and the request that follows it. -/
def ensured (endpoint : Endpoint) (holder : Holder) (next : Request) : Reply → Daemon
  | .error text => d.dismissWorker endpoint (httpError 502 text)
  | .ok resp =>
      -- A session that is not established ends the request, with the worker to shut down.
      if resp.status = .ok then { d.emit (.requested next) with holder := holder }
      else d.dismissWorker endpoint (httpError 502 resp.summary)

def listed (toUppercase : String → String) (a : Admission) : Reply → Daemon
  | .error text => d.dismissWorker .batch (httpError 502 text)
  | .ok resp =>
      if resp.status = .ok then
        let names := resp.trainees.getD []
        match resolveAgainst toUppercase names a.wanted with
        | .ok resolved => { d with holder := .launching a resolved names }
        | .error problems =>
            let failed := problems.length
            let asked := a.wanted.length
            let lines := "\n  - ".intercalate problems
            d.dismissWorker .batch
              (httpError 422 s!"cannot resolve {failed} of {asked} trainee(s):\n  - {lines}")
      else
        d.dismissWorker .batch (httpError 502 resp.summary)

def formRead : Reply → Daemon
  | .error text => d.dismissWorker .formOptions (httpError 502 text)
  | .ok resp =>
      if resp.status = .ok then
        d.dismissWorker .formOptions
          { code := 200
            body := .options (resp.instructors.getD []) (resp.trainingTypes.getD []) }
      else
        d.dismissWorker .formOptions (httpError 502 resp.summary)

/-! ## The batch thread -/

/-- Install a fresh controller. The engine stands at its first instruction until the thread runs,
and the time it will read there is settled now. -/
def launch (a : Admission) (resolved : List TraineeRef) (names : List TraineeInfo) (now : String) :
    Daemon :=
  let batch : Batch :=
    { session := a.session, startedAt := now, trainees := resolved, carried := a.carried }
  let run : DaemonRun :=
    { batch := batch, owed := a.owed, names := names, engine := batch.start (some {}) d.store }
  { d with
    -- From here on a control request finds this batch, though its thread has not started.
    state := { d.state with control := some d.runs.length }
    runs := d.runs ++ [run]
    holder := .spawning a }

def spawned (a : Admission) : Except String Unit → Daemon
  | .ok () =>
      { d.answer .batch { code := 202, body := .batchId a.batchId } with holder := .running }
  | .error text =>
      { d with holder := .leaving (some (.batch, httpError 500 s!"batch thread: {text}")) }

/-- The checkpoint that a step of the engine has saved. -/
def saved (run : DaemonRun) : Input → Option BatchCheckpoint
  | .write now (.ok ()) =>
      match run.engine.pc with
      | .writing site => some (run.batch.snapshot run.engine site now)
      | _ => none
  | _ => none

/-- A step of the batch thread. A save and its publication are one step: in between, the file has
changed and nothing else has. -/
def engineStep (input : Input) : Option Daemon :=
  match input with
  -- Controls reach the engine through `accept` only.
  | .request _ => none
  | _ =>
      d.runs.getLast?.bind fun run => (run.batch.step run.engine input).map fun engine =>
        { d with
          runs := d.runs.set (d.runs.length - 1) { run with engine := engine }
          store := engine.store
          state := match saved run input with
            | some cp => d.state.publish run.names cp
            | none => d.state }

/-- What the batch thread publishes once `run` has returned. -/
def finished (run : DaemonRun) : Except String BatchReport → Daemon
  | .ok report =>
      -- Whoever the resume could not place makes the report an aborted one.
      let report := { report with aborted := report.aborted || decide (0 < run.owed) }
      let phase := if report.aborted then "stopped" else "complete"
      { d with
        state := { d.state with
          control := none
          progress :=
            { progressOf phase report.total report.results none with
              stopRequested := d.state.progress.stopRequested }
          report := some report }
        holder := .leaving none }
  | .error _ =>
      { d with
        state := { d.state with
          control := none
          progress := { d.state.progress with
            pauseRequested := false, state := "stopped", currentTraineeName := none } }
        holder := .leaving none }

def finish : Option Daemon :=
  d.runs.getLast?.bind fun run =>
    match run.engine.pc with
    | .returned result => some (d.finished run result)
    | _ => none

/-- The drop of `Busy`, and with it the reply that waited for it. -/
def release (answer : Answer) : Daemon :=
  -- Only now may another batch be admitted.
  let d := { d with state := { d.state.clearControl with busy := false }, holder := .nobody }
  match answer with
  | some (endpoint, reply) => d.answer endpoint reply
  | none => d

/-! ## One step -/

def step (toUppercase : String → String) (d : Daemon) (input : DaemonInput) : Option Daemon :=
  match d.holder, input with
  | _, .control c => some (d.applyControl c)
  | _, .serve index => d.serve index
  -- Any number of requests may arrive while one of them holds the worker slot.
  | _, .post req => some (d.acquire .batch (.starting req))
  | _, .getFormOptions => some (d.acquire .formOptions .formConnecting)
  | .starting req, .guarded batchId saves => some (d.guarded req batchId saves)
  | .connecting a, .factory result id => some (d.connected .batch (.ensuring a) id result)
  | .ensuring a, .reply reply id =>
      some (d.ensured .batch (.listing a) (.listTrainees id) reply)
  | .listing a, .reply reply _ => some (d.listed toUppercase a reply)
  | .launching a resolved names, .clock now => some (d.launch a resolved names now)
  | .spawning a, .spawned result => some (d.spawned a result)
  | .running, .engine input => d.engineStep input
  | .running, .tick => d.finish
  -- The batch thread panicked, and its drop guards are next.
  | .running, .unwind => some { d with holder := .leaving none }
  | .leaving answer, .tick =>
      some { d with state := d.state.clearControl, holder := .tearingDown answer }
  | .formConnecting, .factory result id =>
      some (d.connected .formOptions .formEnsuring id result)
  | .formEnsuring, .reply reply id =>
      some (d.ensured .formOptions .formReading (.getFormOptions id none) reply)
  | .formReading, .reply reply _ => some (d.formRead reply)
  | .tearingDown answer, .tick => some { d with holder := .releasing answer }
  | .releasing answer, .tick => some (d.release answer)
  | _, _ => none

def start (store : CheckpointStore) : Daemon :=
  { state := { progress := progressOf "idle" 0 [] none }, store := store }

def Reachable (toUppercase : String → String) (store : CheckpointStore) (d : Daemon) : Prop :=
  Machine.Reaches (step toUppercase) (start store) d

end Daemon

end DsspBot

import DsspBot.Decision
import DsspBot.Engine.Roster
import DsspBot.State
import DsspBot.Lib.Machine
import DsspBot.Store

/-!
# Engine — one batch run, step by step

The run is a machine with a program counter. A step is one thing the engine does between two
points where somebody else may act: the worker may answer, a write may land or fail, the clock
may be read, an operator's request may take the pause lock. Killing the process is not a step:
whatever a prefix of a run left in the store is what the next process finds.
-/

namespace DsspBot

/-- What one run is given. -/
structure Batch where
  policy : RetryPolicy := {}
  session : SessionInput
  startedAt : String
  trainees : List TraineeRef
  carried : List TrainingResult := []
  deriving Repr

namespace Batch

variable (b : Batch)

def tasks : List Task :=
  queuedTasks b.trainees

/-- Taken as asked: the carried records are part of it. -/
def total : Nat :=
  (dedupe b.trainees).length + b.carried.length

end Batch

/-! ## The controller -/

inductive ControlRequest
  | pause
  | resume
  | stop
  deriving DecidableEq, Repr

structure BatchControl where
  pauseRequested : Bool := false
  stopRequested : Bool := false
  closed : Bool := false
  deriving DecidableEq, Repr

/-- What a pause or resume request that holds the pause lock does to the flags. -/
def BatchControl.setPause (control : BatchControl) (pause : Bool) : Except String BatchControl :=
  if control.closed then
    .error "batch is no longer controllable"
  else if control.stopRequested then
    .error "operator stop is already requested"
  else
    .ok { control with pauseRequested := pause }

/-- A stop is a latch that also withdraws a pause. -/
def BatchControl.request (control : BatchControl) : ControlRequest → Except String BatchControl
  | .pause => control.setPause true
  | .resume => control.setPause false
  | .stop =>
      if control.closed then
        .error "batch is no longer controllable"
      else
        .ok { control with stopRequested := true, pauseRequested := false }

def BatchControl.close (control : BatchControl) : BatchControl :=
  { control with closed := true }

/-! ## The state of a run -/

/-- The sites that write a checkpoint. -/
inductive WriteSite
  | pause
  | resume
  | boundaryStop
  | inFlight (task : Task)
  | settle
  | abortStop
  | lateStop
  | terminal (stopped : Bool)
  deriving DecidableEq, Repr

/-- The locals of one trainee's retry loop. -/
structure Attempt where
  jobId : String
  attempts : Nat
  retryResult : Option TrainingResult
  deriving DecidableEq, Repr

inductive Pc
  | ensureSession
  | ensuring (jobId : String)
  | loopHead
  | writing (site : WriteSite)
  | paused
  | dequeue
  | entering (task : Task)
  | admission (task : Task) (a : Attempt)
  | submitting (task : Task) (a : Attempt)
  | awaiting (task : Task) (a : Attempt)
  | backoff (task : Task) (a : Attempt)
  | abortCheck
  | completion
  | reporting
  | returned (result : Except String BatchReport)

/-- What the run did, as seen from outside. -/
inductive EngineEvent
  | requested (req : Request)
  | wrote (cp : BatchCheckpoint) (landed : Bool)
  | admitted (task : Task)
  | submitted (task : Task) (req : Request)
  | replied (task : Task) (reply : Reply)
  | slept (ms : Nat)
  | moved (source target : AutomationState) (legal : Bool)
  | controlled (c : ControlRequest) (accepted : Bool)

structure Engine where
  pc : Pc
  machine : AutomationState
  control : Option BatchControl
  results : List TrainingResult
  queue : TaskQueue TraineeRef
  aborted : Bool
  store : CheckpointStore
  log : List EngineEvent

/-- What the rest of the world decides. -/
inductive Input
  | tick
  | newId (id : String)
  | write (now : String) (result : Except String Unit)
  | reply (reply : Reply)
  | clock (now : String)
  | request (c : ControlRequest)

/-! ## Rows and reasons -/

def NOT_SUBMITTED : String := "not submitted: the run stopped before reaching it"
def OPERATOR_STOP : String := "not submitted: operator stop"

def skippedRow (reason : String) (task : Task) : TrainingResult :=
  { traineeId := fallbackId task
    traineeName := fallbackName task
    outcome := .skipped
    attempts := 0
    message := some reason }

/-- An unconfirmed submission, an expired session, or a changed portal stops the whole batch. -/
def shouldAbort (result : TrainingResult) : Bool :=
  decide (result.outcome = .indeterminate) ||
    decide (result.errorCode = some "SESSION_EXPIRED") ||
    decide (result.errorCode = some "PORTAL_STRUCTURE_CHANGED")

def abortReason (result : TrainingResult) : String :=
  if result.outcome = .indeterminate then
    let who := if result.traineeName = "" then result.traineeId else result.traineeName
    s!"batch aborted: {who} was submitted but could not be confirmed — " ++
      "verify on the portal before re-running"
  else
    let code := result.errorCode.getD "unrecoverable error"
    s!"batch aborted: {code}"

/-- Whom a reply is about: the trainee it names, else the one that was asked for. -/
def replyId (task : Task) : Reply → String
  | .ok resp => (resp.trainee.map (·.id)).getD (fallbackId task)
  | .error _ => fallbackId task

def replyName (task : Task) : Reply → String
  | .ok resp => (resp.trainee.map (·.name)).getD (fallbackName task)
  | .error _ => fallbackName task

/-- The row of a transport failure mid-submit: state unknown, so indeterminate. -/
def transportRow (task : Task) (attempts : Nat) (e : String) : TrainingResult :=
  { traineeId := fallbackId task
    traineeName := fallbackName task
    outcome := .indeterminate
    attempts := attempts
    errorCode := some "NETWORK"
    message := some s!"transport error: {e}" }

/-- The row of a reply that the portal or the retry policy settled. -/
def replyRow (task : Task) (attempts : Nat) (resp : Response) (outcome : Outcome)
    (errorCode message : Option String) : TrainingResult :=
  { traineeId := replyId task (.ok resp)
    traineeName := replyName task (.ok resp)
    outcome := outcome
    attempts := attempts
    errorCode := errorCode
    message := message }

/-! ## What each step does -/

namespace Engine

variable (e : Engine)

def stopRequested : Bool :=
  e.control.any (·.stopRequested)

def pauseRequested : Bool :=
  e.control.any (·.pauseRequested)

def emit (event : EngineEvent) : Engine :=
  { e with log := e.log ++ [event] }

/-- `let _ = transition_to`: a refused edge leaves the machine where it was. -/
def transition (target : AutomationState) : Engine :=
  match e.machine.transitionTo target with
  | .ok machine => { e with machine := machine, log := e.log ++ [.moved e.machine target true] }
  | .error _ => e.emit (.moved e.machine target false)

/-- `transition_to?`: a refused edge ends the run with its error. -/
def transitionOrReturn (target : AutomationState) (next : Pc) : Engine :=
  match e.machine.transitionTo target with
  | .ok _ => { e.transition target with pc := next }
  | .error text => { e.transition target with pc := .returned (.error text) }

def drainSkipped (reason : String) : Engine :=
  { e with results := e.results ++ e.queue.tasks.map (skippedRow reason), queue := .new }

/-- How the loop is left early: drain, remember the abort, stop the machine. -/
def abandon (reason : String) : Engine :=
  { (e.drainSkipped reason).transition .stopped with aborted := true, pc := .completion }

/-- A settled trainee's row goes to the results, and the settlement write follows. -/
def settleRow (row : TrainingResult) : Engine :=
  { e with results := e.results ++ [row], pc := .writing .settle }

/-- The pcs at which the engine holds the pause lock while something blocks. -/
def lockHeld : Bool :=
  match e.pc with
  | .writing .pause => true
  | .writing .resume => true
  | .writing .boundaryStop => true
  | .writing .lateStop => true
  | .writing (.terminal _) => true
  | .reporting => true
  | _ => false

/-- A request takes the pause lock, so it waits while the engine holds it. -/
def requested (c : ControlRequest) : Option Engine :=
  if e.lockHeld then
    none
  else
    e.control.map fun control =>
      match control.request c with
      | .ok control => { e with control := some control, log := e.log ++ [.controlled c true] }
      | .error _ => e.emit (.controlled c false)

/-! ### The loop -/

def controlBoundary : Engine :=
  if e.queue.isEmpty then { e with pc := .completion }
  else if e.stopRequested then { e with pc := .writing .boundaryStop }
  else if e.pauseRequested then { e with pc := .writing .pause }
  else { e with pc := .dequeue }

/-- The wait ends only once the pause is withdrawn or a stop is requested. -/
def woken : Option Engine :=
  if e.stopRequested then some { e with pc := .writing .boundaryStop }
  else if e.pauseRequested then none
  else some { e with pc := .writing .resume }

/-- A stop between the boundary and here is left for the next boundary to persist. -/
def dequeued : Option Engine :=
  if e.stopRequested then
    -- Nothing is taken from the queue once a stop is in.
    some { e with pc := .loopHead }
  else
    e.queue.dequeue.map fun (task, queue) =>
      { e with queue := queue, pc := .writing (.inFlight task) }

def abortChecked : Option Engine :=
  e.results.getLast?.map fun last =>
    if shouldAbort last then
      if e.stopRequested then { e with pc := .writing .abortStop }
      else e.abandon (abortReason last)
    else
      { e with pc := .loopHead }

/-- Closing: a later control is refused, and the machine completes unless it was stopped. -/
def close (stopped : Bool) : Engine :=
  -- Closed under the lock, so no control is acknowledged after this.
  let e := { e with control := e.control.map BatchControl.close }
  let e := if e.machine = .stopped then e else e.transition .complete
  { e with pc := .writing (.terminal stopped) }

/-- Completion and a late stop have one ordering point. -/
def completed : Engine :=
  -- A run that is already aborted has nothing left that a stop could change.
  if e.stopRequested && !e.aborted then { e with pc := .writing .lateStop }
  else e.close e.stopRequested

/-! ### One trainee -/

def entered (task : Task) (jobId : String) : Engine :=
  { e.transition .loadingTrainee with
    pc := .admission task { jobId := jobId, attempts := 0, retryResult := none } }

/-- Admission, not the blocking send, is serialized with stop. -/
def admissionChecked (task : Task) (a : Attempt) : Engine :=
  if e.stopRequested then
    -- A retry that was stopped keeps the row its last reply earned.
    e.settleRow (a.retryResult.getD (skippedRow OPERATOR_STOP task))
  else
    { e.emit (.admitted task) with pc := .submitting task { a with attempts := a.attempts + 1 } }

def slept (policy : RetryPolicy) (task : Task) (a : Attempt) : Engine :=
  { e.emit (.slept (policy.delayForAttempt a.attempts)) with pc := .admission task a }

/-- What one reply makes of the attempt it answers. -/
def answered (policy : RetryPolicy) (task : Task) (a : Attempt) (reply : Reply) : Engine :=
  let e := e.emit (.replied task reply)
  match reply with
  -- The reply was lost, so whether the portal has the submission is unknown.
  | .error text => e.settleRow (transportRow task a.attempts text)
  | .ok resp =>
      let row := replyRow task a.attempts resp
      match settleSubmit resp with
      | .success => (e.transition .verifying).settleRow (row .success none resp.reference)
      | .failed code message =>
          (e.transition .verifying).settleRow (row .failed (some code) (some message))
      | .indeterminate message =>
          (e.transition .verifying).settleRow (row .indeterminate resp.errorCode (some message))
      | .retry code message =>
          -- The attempt just answered is counted already.
          if policy.maxAttempts ≤ a.attempts then
            let attempts := a.attempts
            (e.transition .verifying).settleRow
              (row .failed (some code) (some s!"gave up after {attempts} attempts: {message}"))
          else
            let stopped :=
              row .failed (some code) (some s!"operator stop before retry: {message}")
            { e.transition .retrying with
              pc := .backoff task { a with retryResult := some stopped } }

end Engine

namespace Batch

variable (b : Batch) (e : Engine)

def sessionEnsured (reply : Reply) : Engine :=
  match reply with
  | .error text => { e with pc := .returned (.error text) }
  | .ok resp =>
      -- Only an established session fills the queue.
      if resp.status = .ok then
        { e with
          queue := (dedupe b.trainees).foldl (fun q entry => q.enqueue entry.1 entry.2) .new
          pc := .loopHead }
      else
        let summary := resp.summary
        { e with pc := .returned (.error s!"session not established: {summary}") }

def submit (task : Task) (a : Attempt) : Engine :=
  let req := Request.submitTraining a.jobId task.payload b.session
  { (e.transition .submitting).emit (.submitted task req) with pc := .awaiting task a }

/-- The status each site writes. -/
def statusAt : WriteSite → CheckpointStatus
  | .pause => .paused
  | .resume => .running
  | .boundaryStop => .aborted
  | .inFlight _ => .running
  | .settle => .running
  | .abortStop => .aborted
  | .lateStop => .aborted
  | .terminal _ => if e.aborted then .aborted else .finished

def inFlightAt : WriteSite → Option String
  | .inFlight task => some task.id
  | _ => none

/-- The snapshot a site hands to the checkpoint writer. -/
def snapshot (site : WriteSite) (now : String) : BatchCheckpoint :=
  { status := statusAt e site
    startedAt := b.startedAt
    updatedAt := now
    total := b.total
    results := e.results
    pending := e.queue.ids
    inFlight := inFlightAt site }

/-- Where the run goes once a write succeeded. -/
def writeLanded : WriteSite → Engine
  -- The file says paused before the machine is.
  | .pause => e.transitionOrReturn .paused .paused
  | .resume => e.transitionOrReturn .loadingTrainee .dequeue
  | .boundaryStop => e.abandon OPERATOR_STOP
  | .inFlight task => { e with pc := .entering task }
  | .settle => { e with pc := .abortCheck }
  | .abortStop => e.abandon OPERATOR_STOP
  | .lateStop => (e.abandon OPERATOR_STOP).close true
  | .terminal _ => { e with pc := .reporting }

/-- Where the run goes once a write failed. Pre-submission and boundary writes are fatal,
settlement and terminal writes are best effort unless a stop was acknowledged. -/
def writeFailed (text : String) : WriteSite → Engine
  | .pause => { e with pc := .returned (.error s!"pause checkpoint: {text}") }
  | .resume => { e with pc := .returned (.error s!"resume checkpoint: {text}") }
  | .boundaryStop => { e with pc := .returned (.error s!"stop checkpoint: {text}") }
  -- The trainee was not sent: it goes back to the front and is drained with the rest.
  | .inFlight task => ({ e with queue := e.queue.putBack task } : Engine).abandon NOT_SUBMITTED
  -- The row is kept in memory and written again with the next snapshot.
  | .settle => { e with pc := .abortCheck }
  | .abortStop => { e with pc := .returned (.error s!"stop checkpoint: {text}") }
  | .lateStop => { e with pc := .returned (.error s!"stop checkpoint: {text}") }
  | .terminal stopped =>
      if stopped then { e with pc := .returned (.error s!"stop terminal checkpoint: {text}") }
      else { e with pc := .reporting }

def wrote (site : WriteSite) (now : String) (result : Except String Unit) : Engine :=
  let cp := b.snapshot e site now
  match result with
  | .ok () =>
      writeLanded { e with store := e.store.save cp (.ok ()), log := e.log ++ [.wrote cp true] }
        site
  | .error text => writeFailed { e with log := e.log ++ [.wrote cp false] } text site

def reported (now : String) : Engine :=
  { e with pc := .returned (.ok (.build e.results b.startedAt now e.aborted)) }

/-- One step of the run, or nothing where the input is not what the engine waits for. -/
def step (b : Batch) (e : Engine) (input : Input) : Option Engine :=
  match e.pc, input with
  -- A control may arrive at any point, and waits for the lock by being refused here.
  | _, .request c => e.requested c
  | .ensureSession, .newId id =>
      some { e.emit (.requested (.ensureSession id)) with pc := .ensuring id }
  | .ensuring _, .reply reply => some (b.sessionEnsured e reply)
  | .loopHead, .tick => some e.controlBoundary
  | .writing site, .write now result => some (b.wrote e site now result)
  | .paused, .tick => e.woken
  | .dequeue, .tick => e.dequeued
  | .entering task, .newId id => some (e.entered task id)
  | .admission task a, .tick => some (e.admissionChecked task a)
  -- Admission and send are two steps, so a stop may fall between them.
  | .submitting task a, .tick => some (b.submit e task a)
  | .awaiting task a, .reply reply => some (e.answered b.policy task a reply)
  | .backoff task a, .tick => some (e.slept b.policy task a)
  | .abortCheck, .tick => e.abortChecked
  | .completion, .tick => some e.completed
  | .reporting, .clock now => some (b.reported e now)
  | _, _ => none

/-- The run at its start: nothing queued yet, and the carried records seeded first. -/
def start (control : Option BatchControl) (store : CheckpointStore) : Engine :=
  -- The carried rows are in `results` before the first write, so no write can lose them.
  ({ pc := .ensureSession
     machine := .idle
     control := control
     results := b.carried
     queue := .new
     aborted := false
     store := store
     log := [] } : Engine).transition .initializing

/-- A state of some run of the batch, begun with no control request made, or cut short. -/
def Reachable (store : CheckpointStore) (e : Engine) : Prop :=
  ∃ control : Option BatchControl, (control = none ∨ control = some {}) ∧
    Machine.Reaches b.step (b.start control store) e

end Batch

end DsspBot

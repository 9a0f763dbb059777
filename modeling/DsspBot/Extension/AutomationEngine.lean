import DsspBot.Extension.BatchRunner
import DsspBot.Lib.Binary64
import DsspBot.Lib.Machine
import DsspBot.Queue
import DsspBot.State

/-!
# AutomationEngine — the extension's own engine

The extension can run a batch by itself, against the page it is on. `run` is one asynchronous
function: what it does between two of its `await`s is one step, and `pause`, `resume` and `stop` may
be called whenever it waits. A run that has been asked to pause saves a checkpoint first, and then
waits for a signal.
-/

namespace DsspBot

namespace Extension

/-! ## What the engine reads and returns -/

namespace AutomationError

def sessionExpired : AutomationError :=
  { message := "The DSSP session has expired.", code := .sessionExpired, recoverable := false }

def duplicateRecord (message : String) : AutomationError :=
  { message := message, code := .duplicateRecord, recoverable := false }

def submission (message : String) : AutomationError :=
  { message := message, code := .submissionFailed, recoverable := false }

def confirmationUnknown (message : String) : AutomationError :=
  { message := s!"Submitted, but the result could not be confirmed: {message}"
    code := .confirmationUnknown
    recoverable := false }

/-- What a retry policy without a single attempt throws. -/
def zeroAttempts : AutomationError :=
  .submission "Retry policy executed zero attempts."

end AutomationError

inductive SubmissionOutcome
  | confirmed (reference : Option String)
  | duplicate (message : String)
  | rejected (message : String)
  deriving DecidableEq, Repr

/-- How an operation of the portal ends. -/
inductive Answer
  /-- The reply to one of the two questions. -/
  | told (value : Bool)
  | done
  | outcome (outcome : SubmissionOutcome)
  /-- A `Result` without data. -/
  | failure (error : AutomationError)
  /-- The promise is rejected. An error of another kind is one that no retry clears, and it is read
  as a failed submission. -/
  | thrown (error : AutomationError)
  deriving DecidableEq, Repr

structure TrainingResult where
  traineeId : String
  traineeName : String
  outcome : Outcome
  attempts : Nat
  errorCode : Option ErrorCode := none
  errorMessage : Option String := none
  deriving DecidableEq, Repr

structure BatchReport where
  total : Nat
  successful : Nat
  failed : Nat
  skipped : Nat
  indeterminate : Nat
  /-- A double. -/
  successRate : ℚ
  results : List TrainingResult
  deriving DecidableEq

def buildBatchReport (results : List TrainingResult) : BatchReport :=
  let count (outcome : Outcome) := results.countP fun result => decide (result.outcome = outcome)
  let successful := count .success
  let total := results.length
  { total := total
    successful := successful
    failed := count .failed
    skipped := count .skipped
    indeterminate := count .indeterminate
    successRate := if total = 0 then 0 else Binary64.round ((successful : ℚ) / (total : ℚ))
    results := results }

inductive BatchCheckpointStatus
  | running
  | paused
  | finished
  | interrupted
  deriving DecidableEq, Repr

structure BatchCheckpoint where
  status : BatchCheckpointStatus
  total : Nat
  results : List TrainingResult
  pending : List String
  deriving DecidableEq

structure AutomationEngineOptions where
  /-- Of the retry policy. -/
  maxAttempts : Nat := 3
  /-- Somebody takes the checkpoints. -/
  checkpoint : Bool := true

/-! ## The engine -/

/-- The operation of the portal that a trainee's preparation waits for. -/
inductive Preparation
  | isPortalPage
  | isTrainingSessionReady
  | initializeTrainingSession
  | prepareTrainee
  | fillTrainingForm
  | validateTrainingForm
  deriving DecidableEq, Repr

/-- What `run` waits for. -/
inductive Await
  /-- Nothing: it has not been called, or has returned. -/
  | nothing
  | initializeTrainingSession
  /-- The checkpoint of a pause. -/
  | pausing
  /-- The signal. -/
  | suspended
  /-- Its turn, after `waitWhilePaused`. -/
  | resuming
  | preparing (task : BatchTask) (attempt : Nat) (operation : Preparation)
  | retryingPrepare (task : BatchTask) (attempt : Nat)
  | submitting (task : BatchTask) (attempts : Nat)
  | verifying (task : BatchTask) (attempts attempt : Nat)
  | retryingVerify (task : BatchTask) (attempts attempt : Nat)
  /-- The checkpoint after a trainee. -/
  | recording (result : TrainingResult)
  | interTaskDelay
  /-- The last checkpoint, before it returns this. -/
  | finishing (result : Except String BatchReport)
  deriving DecidableEq

/-- Neither a pause nor the end of a run. -/
def Await.ordinary : Await → Bool
  | .nothing => false
  | .pausing => false
  | .suspended => false
  | _ => true

inductive Call
  | pause
  | resume
  | stop
  deriving DecidableEq, Repr

structure AutomationEngine where
  state : AutomationState := .idle
  queue : TaskQueue BatchTask := .new
  results : List TrainingResult := []
  stopRequested : Bool := false
  pauseRequested : Bool := false
  /-- There is a signal that wakes the run. -/
  resumeSignal : Bool := false
  running : Bool := false
  currentTrainee : Option Trainee := none
  report : Option BatchReport := none
  totalQueued : Nat := 0
  /-- What the writer has been given. -/
  checkpoints : List BatchCheckpoint := []
  await : Await := .nothing
  /-- Who has called since the run went to wait. -/
  calls : List Call := []
  /-- What every `run` has returned. -/
  returned : List (Except String BatchReport) := []

namespace AutomationEngine

variable (options : AutomationEngineOptions) (e : AutomationEngine)

def transition (next : AutomationState) : AutomationEngine :=
  if e.state.canTransition next then { e with state := next } else e

def waitFor (await : Await) : AutomationEngine :=
  { e with await := await, calls := [] }

def saveCheckpoint (status : BatchCheckpointStatus) : AutomationEngine :=
  if options.checkpoint then
    { e with
      checkpoints := e.checkpoints ++
        [{ status := status
           total := e.totalQueued
           results := e.results
           pending := e.queue.ids }] }
  else e

def addTask (task : BatchTask) : AutomationEngine :=
  { e with
    queue := e.queue.enqueue task.trainee.id task
    totalQueued := e.totalQueued + 1 }

def clearQueue : AutomationEngine :=
  { e with queue := .new, totalQueued := 0 }

/-! ## The end of a run -/

def skipped (reason : String) (task : BatchTask) : TrainingResult :=
  { traineeId := task.trainee.id
    traineeName := task.trainee.name
    outcome := .skipped
    attempts := 0
    errorMessage := some reason }

def drainQueueAsSkipped (reason : String) : AutomationEngine :=
  { e with
    queue := .new
    results := e.results ++ e.queue.tasks.map fun task => skipped reason task.payload }

/-- `finish`, on the way to an error if there is one. -/
def finish (finalState : AutomationState) (error : Option AutomationError) : AutomationEngine :=
  let report := buildBatchReport e.results
  let e := { e with currentTrainee := none }.transition finalState
  let e := { e with report := some report }.saveCheckpoint options .finished
  match error with
  | none => e.waitFor (.finishing (.ok report))
  | some error => e.waitFor (.finishing (.error error.message))

/-- Behind the loop. -/
def leave : AutomationEngine :=
  if e.stopRequested then
    (e.drainQueueAsSkipped "Batch stopped by the administrator.").finish options .stopped none
  else e.finish options .complete none

/-- An error that nobody has caught before `run` does. -/
def caught (error : AutomationError) : AutomationEngine :=
  e.finish options .stopped (some error)

def releasePause : AutomationEngine :=
  if e.resumeSignal then { e with resumeSignal := false, await := .resuming } else e

/-- `run` returns. -/
def finished (result : Except String BatchReport) : AutomationEngine :=
  let e := { e with running := false, pauseRequested := false }.releasePause
  { e.waitFor .nothing with returned := e.returned ++ [result] }

/-! ## One trainee -/

/-- Failures that prove that nothing was sent. -/
def provesNothingSubmitted (code : ErrorCode) : Bool :=
  [ErrorCode.elementNotFound, .portalNotMapped, .portalStructureChanged, .sessionExpired,
    .validationFailed, .missingData, .traineeNotFound].contains code

def settle (task : BatchTask) (attempts : Nat) (outcome : Outcome)
    (error : Option AutomationError) : TrainingResult :=
  { traineeId := task.trainee.id
    traineeName := task.trainee.name
    outcome := outcome
    attempts := attempts
    errorCode := error.map (·.code)
    errorMessage := error.map (·.message) }

/-- What `processTask` returns is pushed. -/
def record (result : TrainingResult) : AutomationEngine :=
  let e := { e with results := e.results ++ [result] }
  (e.saveCheckpoint options .running).waitFor (.recording result)

/-- The retry policy has another attempt for this error. -/
def retries (error : AutomationError) (attempt : Nat) : Bool :=
  error.recoverable && decide (attempt ≠ options.maxAttempts)

def prepareFailed (task : BatchTask) (attempt : Nat) (error : AutomationError) :
    AutomationEngine :=
  if retries options error attempt then e.waitFor (.retryingPrepare task attempt)
  else e.record options (settle task attempt .failed (some error))

def prepareSubmission (task : BatchTask) (attempt : Nat) : AutomationEngine :=
  let e := if 1 < attempt then e.transition .retrying else e
  e.waitFor (.preparing task attempt .isPortalPage)

def processTask (task : BatchTask) : AutomationEngine :=
  let e := { e with currentTrainee := some task.trainee }
  if options.maxAttempts = 0 then
    e.record options (settle task 0 .failed (some .zeroAttempts))
  else e.prepareSubmission task 1

def commitSubmission (task : BatchTask) (attempts : Nat) : AutomationEngine :=
  (e.transition .submitting).waitFor (.submitting task attempts)

def confirmSubmission (task : BatchTask) (attempts attempt : Nat) : AutomationEngine :=
  (e.transition .verifying).waitFor (.verifying task attempts attempt)

/-- The preparation goes on to this operation. -/
def prepares (task : BatchTask) (attempt : Nat) : Preparation → AutomationEngine
  | .isTrainingSessionReady =>
      (e.transition .loadingTrainee).waitFor (.preparing task attempt .isTrainingSessionReady)
  | .fillTrainingForm =>
      (e.transition .fillingForm).waitFor (.preparing task attempt .fillTrainingForm)
  | .validateTrainingForm =>
      (e.transition .validating).waitFor (.preparing task attempt .validateTrainingForm)
  | operation => e.waitFor (.preparing task attempt operation)

def prepared (task : BatchTask) (attempt : Nat) :
    Preparation → Answer → Option AutomationEngine
  | _, .thrown error => some (e.prepareFailed options task attempt error)
  | .isPortalPage, .told true => some (e.prepares task attempt .isTrainingSessionReady)
  | .isPortalPage, .told false => some (e.prepareFailed options task attempt .sessionExpired)
  | .isTrainingSessionReady, .told true => some (e.prepares task attempt .prepareTrainee)
  | .isTrainingSessionReady, .told false =>
      some (e.prepares task attempt .initializeTrainingSession)
  | .initializeTrainingSession, .done => some (e.prepares task attempt .prepareTrainee)
  | .prepareTrainee, .done => some (e.prepares task attempt .fillTrainingForm)
  | .fillTrainingForm, .done => some (e.prepares task attempt .validateTrainingForm)
  | .validateTrainingForm, .done => some (e.commitSubmission task attempt)
  | .isPortalPage, _ => none
  | .isTrainingSessionReady, _ => none
  | _, .failure error => some (e.prepareFailed options task attempt error)
  | _, _ => none

def submitted (task : BatchTask) (attempts : Nat) : Answer → Option AutomationEngine
  | .done => some (e.confirmSubmission task attempts 1)
  | .failure error =>
      let outcome := if provesNothingSubmitted error.code then .failed else .indeterminate
      some (e.record options (settle task attempts outcome (some error)))
  -- Nobody in `processTask` catches this one.
  | .thrown error => some (e.caught options error)
  | _ => none

def confirmFailed (task : BatchTask) (attempts attempt : Nat) (error : AutomationError) :
    AutomationEngine :=
  if retries options error attempt then e.waitFor (.retryingVerify task attempts attempt)
  else
    let unknown := AutomationError.confirmationUnknown error.message
    e.record options (settle task attempts .indeterminate (some unknown))

def verified (task : BatchTask) (attempts attempt : Nat) : Answer → Option AutomationEngine
  | .outcome (.confirmed _) => some (e.record options (settle task attempts .success none))
  | .outcome (.duplicate message) =>
      some (e.record options (settle task attempts .failed (some (.duplicateRecord message))))
  | .outcome (.rejected message) =>
      some (e.record options (settle task attempts .failed (some (.submission message))))
  | .failure error => some (e.confirmFailed options task attempts attempt error)
  | .thrown error => some (e.confirmFailed options task attempts attempt error)
  | _ => none

/-! ## The loop -/

/-- The promise that `waitWhilePaused` returns has not been resolved when this is over. -/
def waitWhilePaused : AutomationEngine :=
  if e.pauseRequested then
    ((e.transition .paused).saveCheckpoint options .paused).waitFor .pausing
  else e.waitFor .resuming

def loop : AutomationEngine :=
  if !e.queue.isEmpty && !e.stopRequested then e.waitWhilePaused options
  else e.leave options

/-- Once the pause is over, or has not been asked for. -/
def resumed : AutomationEngine :=
  if e.stopRequested then e.leave options
  else
    match e.queue.dequeue with
    | some (task, queue) => { e with queue := queue }.processTask options task.payload
    | none => e.leave options

def shouldAbortBatch (result : TrainingResult) : Bool :=
  decide (result.outcome = .indeterminate) || decide (result.errorCode = some .sessionExpired) ||
    decide (result.errorCode = some .portalStructureChanged)

def abortReason (result : TrainingResult) : String :=
  if result.outcome = .indeterminate then
    s!"Batch aborted: {result.traineeName} was submitted but could not be confirmed. " ++
      "Check that record on the portal before re-running."
  else "Batch aborted: the portal session is no longer usable."

/-- Once the checkpoint after a trainee has been written, or not. -/
def recorded (result : TrainingResult) : AutomationEngine :=
  if shouldAbortBatch result then
    (e.drainQueueAsSkipped (abortReason result)).leave options
  else if !e.queue.isEmpty && !e.stopRequested then e.waitFor .interTaskDelay
  else e.loop options

/-! ## Calls -/

def run : AutomationEngine :=
  if e.running then
    { e with returned := e.returned ++ [.error "Automation is already running."] }
  else
    let e :=
      { e with
        running := true
        stopRequested := false
        pauseRequested := false
        results := []
        report := none
        totalQueued := e.queue.tasks.length
        state := .idle }
    (e.transition .initializing).waitFor .initializeTrainingSession

def pause : AutomationEngine :=
  if !e.running || e.pauseRequested then e else { e with pauseRequested := true }

def resume : AutomationEngine :=
  if e.pauseRequested then { e with pauseRequested := false }.releasePause else e

def stop : AutomationEngine :=
  if e.running then
    { e with stopRequested := true, pauseRequested := false }.releasePause
  else { e with state := .idle }

def called : Call → AutomationEngine
  | .pause => e.pause
  | .resume => e.resume
  | .stop => e.stop

end AutomationEngine

/-! ## Steps -/

inductive EngineInput
  | addTask (task : BatchTask)
  | clearQueue
  | run
  | call (call : Call)
  | answered (answer : Answer)
  /-- A checkpoint has been written, or could not be. -/
  | written
  | elapsed
  | continued
  deriving DecidableEq

namespace AutomationEngine

variable (options : AutomationEngineOptions) (e : AutomationEngine)

def answered (answer : Answer) : Option AutomationEngine :=
  match e.await with
  | .initializeTrainingSession =>
      match answer with
      | .done => some (e.loop options)
      | .failure error => some (e.caught options error)
      | .thrown error => some (e.caught options error)
      | _ => none
  | .preparing task attempt operation => e.prepared options task attempt operation answer
  | .submitting task attempts => e.submitted options task attempts answer
  | .verifying task attempts attempt => e.verified options task attempts attempt answer
  | _ => none

def written : Option AutomationEngine :=
  match e.await with
  -- Only now there is something that `resume` and `stop` could call.
  | .pausing => some { e.waitFor .suspended with resumeSignal := true }
  | .recording result => some (e.recorded options result)
  | .finishing result => some (e.finished result)
  | _ => none

def elapsed : Option AutomationEngine :=
  match e.await with
  | .retryingPrepare task attempt => some (e.prepareSubmission task (attempt + 1))
  | .retryingVerify task attempts attempt =>
      some (e.confirmSubmission task attempts (attempt + 1))
  | .interTaskDelay => some (e.loop options)
  | _ => none

def step : EngineInput → Option AutomationEngine
  | .addTask task => some (e.addTask task)
  | .clearQueue => some e.clearQueue
  | .run => some e.run
  | .call call => some { e.called call with calls := e.calls ++ [call] }
  | .answered answer => e.answered options answer
  | .written => e.written options
  | .elapsed => e.elapsed options
  | .continued =>
      match e.await with
      | .resuming => some (e.resumed options)
      | _ => none

/-! ## What a step does to the flags -/

section Steps

variable {options : AutomationEngineOptions} {e e' e'' : AutomationEngine} {input : EngineInput}

/-- What the calls set and the run reads. -/
def flags (e : AutomationEngine) : Bool × Bool × Bool × Bool :=
  (e.stopRequested, e.pauseRequested, e.resumeSignal, e.running)

@[simp] theorem transition_flags (next : AutomationState) :
    (e.transition next).flags = e.flags := by
  unfold transition
  split <;> rfl

@[simp] theorem saveCheckpoint_flags (status : BatchCheckpointStatus) :
    (e.saveCheckpoint options status).flags = e.flags := by
  unfold saveCheckpoint
  split <;> rfl

/-- The run goes on to another `await`, and saves a checkpoint for a pause only if it is to
pause. -/
structure Moves (e e' : AutomationEngine) : Prop where
  flags : e'.flags = e.flags
  calls : e'.calls = []
  underway : e'.await ≠ .nothing
  awake : e'.await ≠ .suspended
  pausing : e'.await = .pausing → e.pauseRequested = true ∧ e.stopRequested = false

theorem Moves.of_flags (h : Moves e' e'') (hflags : e'.flags = e.flags) : Moves e e'' where
  flags := h.flags.trans hflags
  calls := h.calls
  underway := h.underway
  awake := h.awake
  pausing hawait := by
    have hset := h.pausing hawait
    simp only [AutomationEngine.flags, Prod.mk.injEq] at hflags
    rwa [hflags.1, hflags.2.1] at hset

theorem ne_of_ordinary {await : Await} (h : await.ordinary = true) :
    await ≠ .nothing ∧ await ≠ .suspended ∧ await ≠ .pausing := by
  cases await <;> simp [Await.ordinary] at h ⊢

theorem moves_waitFor {await : Await} (hflags : e'.flags = e.flags)
    (hordinary : await.ordinary = true) : Moves e (e'.waitFor await) where
  flags := hflags
  calls := rfl
  underway := (ne_of_ordinary hordinary).1
  awake := (ne_of_ordinary hordinary).2.1
  pausing hawait := absurd hawait (ne_of_ordinary hordinary).2.2

theorem moves_finish (finalState : AutomationState) (error : Option AutomationError) :
    Moves e (e.finish options finalState error) := by
  have hflags : ({ { e with currentTrainee := none }.transition finalState with
      report := some (buildBatchReport e.results) }.saveCheckpoint options .finished).flags =
        e.flags := by
    rw [saveCheckpoint_flags]
    exact transition_flags finalState
  unfold finish
  cases error with
  | none => exact moves_waitFor hflags rfl
  | some error => exact moves_waitFor hflags rfl

theorem moves_leave : Moves e (e.leave options) := by
  unfold leave
  split
  · exact (moves_finish .stopped none).of_flags rfl
  · exact moves_finish .complete none

theorem moves_record (result : TrainingResult) : Moves e (e.record options result) :=
  moves_waitFor (saveCheckpoint_flags .running) rfl

theorem moves_prepareFailed (task : BatchTask) (attempt : Nat) (error : AutomationError) :
    Moves e (e.prepareFailed options task attempt error) := by
  unfold prepareFailed
  split
  · exact moves_waitFor rfl rfl
  · exact moves_record _

theorem moves_prepareSubmission (task : BatchTask) (attempt : Nat) :
    Moves e (e.prepareSubmission task attempt) := by
  refine moves_waitFor ?_ rfl
  split
  · exact transition_flags .retrying
  · rfl

theorem moves_processTask (task : BatchTask) : Moves e (e.processTask options task) := by
  unfold processTask
  dsimp only
  split
  · exact (moves_record _).of_flags rfl
  · exact (moves_prepareSubmission task 1).of_flags rfl

theorem moves_prepares (task : BatchTask) (attempt : Nat) (operation : Preparation) :
    Moves e (e.prepares task attempt operation) := by
  unfold prepares
  split
  · exact moves_waitFor (transition_flags .loadingTrainee) rfl
  · exact moves_waitFor (transition_flags .fillingForm) rfl
  · exact moves_waitFor (transition_flags .validating) rfl
  · exact moves_waitFor rfl rfl

theorem moves_prepared {task : BatchTask} {attempt : Nat} {operation : Preparation}
    {answer : Answer} (h : e.prepared options task attempt operation answer = some e') :
    Moves e e' := by
  unfold prepared at h
  split at h <;> first
    | cases h; exact moves_prepareFailed task attempt _
    | cases h; exact moves_prepares task attempt _
    | cases h; exact moves_waitFor (transition_flags .submitting) rfl
    | cases h

theorem moves_submitted {task : BatchTask} {attempts : Nat} {answer : Answer}
    (h : e.submitted options task attempts answer = some e') : Moves e e' := by
  unfold submitted at h
  split at h
  · cases h
    exact moves_waitFor (transition_flags .verifying) rfl
  · cases h
    exact moves_record _
  · cases h
    exact moves_finish .stopped _
  · cases h

theorem moves_confirmFailed (task : BatchTask) (attempts attempt : Nat)
    (error : AutomationError) : Moves e (e.confirmFailed options task attempts attempt error) := by
  unfold confirmFailed
  split
  · exact moves_waitFor rfl rfl
  · exact moves_record _

theorem moves_verified {task : BatchTask} {attempts attempt : Nat} {answer : Answer}
    (h : e.verified options task attempts attempt answer = some e') : Moves e e' := by
  unfold verified at h
  split at h <;> first
    | cases h; exact moves_record _
    | cases h; exact moves_confirmFailed task attempts attempt _
    | cases h

theorem moves_loop : Moves e (e.loop options) := by
  unfold loop
  split
  · next hgoes =>
      simp only [Bool.and_eq_true, Bool.not_eq_true'] at hgoes
      unfold waitWhilePaused
      split
      · next hpause =>
          -- The loop has just found that it is not to stop.
          exact
            { flags := (saveCheckpoint_flags .paused).trans (transition_flags .paused)
              calls := rfl
              underway := nofun
              awake := nofun
              pausing := fun _ => ⟨hpause, hgoes.2⟩ }
      · exact moves_waitFor rfl rfl
  · exact moves_leave

theorem moves_resumed : Moves e (e.resumed options) := by
  unfold resumed
  split
  · exact moves_leave
  · split
    · exact (moves_processTask _).of_flags rfl
    · exact moves_leave

theorem moves_recorded (result : TrainingResult) : Moves e (e.recorded options result) := by
  unfold recorded
  split
  · exact moves_leave.of_flags rfl
  · split
    · exact moves_waitFor rfl rfl
    · exact moves_loop

/-- Everything a step can do to what a pause depends on. -/
inductive Step (e : AutomationEngine) : EngineInput → AutomationEngine → Prop
  /-- Tasks come and go, and a second run is refused. -/
  | aside {input : EngineInput} {e' : AutomationEngine} (hflags : e'.flags = e.flags)
      (hcalls : e'.calls = e.calls) (hawait : e'.await = e.await) : Step e input e'
  | started {e' : AutomationEngine} (hidle : e.running = false)
      (hflags : e'.flags = (false, false, e.resumeSignal, true))
      (hawait : e'.await = .initializeTrainingSession) : Step e .run e'
  | called (call : Call) : Step e (.call call) { e.called call with calls := e.calls ++ [call] }
  | moved {input : EngineInput} {e' : AutomationEngine} (hunderway : e.await ≠ .nothing)
      (hawake : e.await ≠ .suspended) (hpausing : e.await ≠ .pausing) (h : Moves e e') :
      Step e input e'
  /-- The signal is there. -/
  | suspended (hawait : e.await = .pausing) :
      Step e .written { e.waitFor .suspended with resumeSignal := true }
  | finished {result : Except String BatchReport} (hawait : e.await = .finishing result) :
      Step e .written (e.finished result)

theorem step_moved {await : Await} (hawait : e.await = await) (hordinary : await.ordinary = true)
    (h : Moves e e') : Step e input e' := by
  subst hawait
  rcases ne_of_ordinary hordinary with ⟨hunderway, hawake, hpausing⟩
  exact .moved hunderway hawake hpausing h

theorem step_answered {answer : Answer} (h : e.answered options answer = some e') :
    Step e (.answered answer) e' := by
  unfold answered at h
  split at h
  · next hawait =>
      have hmoves : Moves e e' := by
        split at h <;> cases h
        · exact moves_loop
        · exact moves_finish .stopped _
        · exact moves_finish .stopped _
      exact step_moved hawait rfl hmoves
  · next hawait =>
      exact step_moved hawait rfl (moves_prepared h)
  · next hawait =>
      exact step_moved hawait rfl (moves_submitted h)
  · next hawait =>
      exact step_moved hawait rfl (moves_verified h)
  · cases h

theorem step_written (h : e.written options = some e') : Step e .written e' := by
  unfold written at h
  split at h
  · next hawait =>
      cases h
      exact .suspended hawait
  · next result hawait =>
      cases h
      exact step_moved hawait rfl (moves_recorded result)
  · next result hawait =>
      cases h
      exact .finished hawait
  · cases h

theorem step_elapsed (h : e.elapsed options = some e') : Step e .elapsed e' := by
  unfold elapsed at h
  split at h
  · next task attempt hawait =>
      cases h
      exact step_moved hawait rfl (moves_prepareSubmission task (attempt + 1))
  · next task attempts attempt hawait =>
      cases h
      exact step_moved hawait rfl (moves_waitFor (transition_flags .verifying) rfl)
  · next hawait =>
      cases h
      exact step_moved hawait rfl moves_loop
  · cases h

theorem step_cases (h : e.step options input = some e') : Step e input e' := by
  cases input with
  | addTask task =>
      cases h
      exact .aside rfl rfl rfl
  | clearQueue =>
      cases h
      exact .aside rfl rfl rfl
  | run =>
      simp only [step, run, Option.some.injEq] at h
      split at h
      · cases h
        exact .aside rfl rfl rfl
      · next hidle =>
          cases h
          exact .started (by simpa using hidle) (transition_flags .initializing) rfl
  | call call =>
      cases h
      exact .called call
  | answered answer => exact step_answered h
  | written => exact step_written h
  | elapsed => exact step_elapsed h
  | continued =>
      simp only [step] at h
      split at h
      · next hawait =>
          cases h
          exact step_moved hawait rfl moves_resumed
      · cases h

end Steps

/-! ## Sleeping -/

/-- Whoever waits for the signal is to pause and not to stop, and the next call wakes it. -/
def SleepsSafely (e : AutomationEngine) : Prop :=
  e.await = .suspended →
    (e.pauseRequested = true ∧ e.stopRequested = false) ∧
      e.resume.await = .resuming ∧ e.stop.await = .resuming

/-- Among these calls there is a stop, or the last one takes the pause back. -/
def Withdrawn (calls : List Call) : Prop :=
  .stop ∈ calls ∨ calls.getLast? = some .resume

/-- A pause is still wanted when its checkpoint has been written. -/
def PausesInTime (e : AutomationEngine) (input : EngineInput) : Prop :=
  e.await = .pausing → input = .written → ¬Withdrawn e.calls

/-- What the flags say wherever the run waits. -/
structure Sound (e : AutomationEngine) : Prop where
  running : e.running = true ↔ e.await ≠ .nothing
  signal : e.resumeSignal = true ↔ e.await = .suspended
  stop : e.await = .pausing → (e.stopRequested = true ↔ .stop ∈ e.calls)
  pause : e.await = .pausing → .stop ∉ e.calls →
    (e.pauseRequested = true ↔ e.calls.getLast? ≠ some .resume)

section Sleeping

variable {options : AutomationEngineOptions} {e e' : AutomationEngine} {input : EngineInput}

/-- Away from the checkpoint of a pause, only the run and its signal matter. -/
theorem sound_of_ne_pausing (hrunning : e.running = true ↔ e.await ≠ .nothing)
    (hsignal : e.resumeSignal = true ↔ e.await = .suspended) (hawait : e.await ≠ .pausing) :
    Sound e where
  running := hrunning
  signal := hsignal
  stop := fun hpausing => absurd hpausing hawait
  pause := fun hpausing => absurd hpausing hawait

theorem sound_start : Sound {} :=
  sound_of_ne_pausing (by simp) (by simp) (by simp)

/-- The calls that are left have not taken a pause back exactly if the flags say so. -/
theorem Sound.withdrawn_iff (h : Sound e) (hawait : e.await = .pausing) :
    Withdrawn e.calls ↔ ¬(e.pauseRequested = true ∧ e.stopRequested = false) := by
  have hstop := h.stop hawait
  have hpause := h.pause hawait
  unfold Withdrawn
  by_cases hmem : Call.stop ∈ e.calls
  · simp [hmem, hstop.2 hmem]
  · have hclear : e.stopRequested = false := by simpa using mt hstop.1 hmem
    simp [hmem, hclear, hpause hmem]

theorem sleepsSafely_of (h : Sound e) (hawait : e.await = .suspended)
    (hpause : e.pauseRequested = true) (hstop : e.stopRequested = false) : SleepsSafely e := by
  have hsignal : e.resumeSignal = true := h.signal.2 hawait
  have hrunning : e.running = true := h.running.2 (by simp [hawait])
  intro _
  refine ⟨⟨hpause, hstop⟩, ?_, ?_⟩
  · simp [resume, hpause, AutomationEngine.releasePause, hsignal]
  · simp [AutomationEngine.stop, hrunning, AutomationEngine.releasePause, hsignal]

/-- Wherever the run waits but at the signal, a call only sets the flags. -/
theorem called_of_awake (hsignal : e.resumeSignal = false) (call : Call) :
    (e.called call).running = e.running ∧ (e.called call).resumeSignal = false ∧
      (e.called call).await = e.await ∧
        (e.running = true →
          ((e.called call).stopRequested = true ↔ e.stopRequested = true ∨ call = .stop) ∧
            ((e.called call).pauseRequested = true ↔ call = .pause ∨
              call ≠ .resume ∧ call ≠ .stop ∧ e.pauseRequested = true)) := by
  cases call with
  | pause =>
      simp only [called, pause]
      split
      · next hleft =>
          refine ⟨rfl, hsignal, rfl, fun hrunning => ⟨by simp, ?_⟩⟩
          simpa [hrunning] using hleft
      · exact ⟨rfl, hsignal, rfl, fun _ => ⟨by simp, by simp⟩⟩
  | resume =>
      simp only [called, resume]
      split
      · simp [releasePause, hsignal]
      · next hleft => exact ⟨rfl, hsignal, rfl, fun _ => ⟨by simp, by simpa using hleft⟩⟩
  | stop =>
      simp only [called, stop]
      split
      · simp [releasePause, hsignal]
      · next hidle => exact ⟨rfl, hsignal, rfl, fun hrunning => absurd hrunning hidle⟩

/-- A call finds the run waiting for the signal, and gives it or not. -/
theorem called_of_suspended (hrunning : e.running = true) (hawait : e.await = .suspended)
    (hsignal : e.resumeSignal = true) (call : Call) :
    (e.called call).running = true ∧
      ((e.called call).resumeSignal = true ∧ (e.called call).await = .suspended ∨
        (e.called call).resumeSignal = false ∧ (e.called call).await = .resuming) := by
  cases call with
  | pause =>
      simp only [called, pause]
      split <;> exact ⟨hrunning, Or.inl ⟨hsignal, hawait⟩⟩
  | resume =>
      simp only [called, resume]
      split
      · simp [releasePause, hsignal, hrunning]
      · exact ⟨hrunning, Or.inl ⟨hsignal, hawait⟩⟩
  | stop => simp [called, stop, releasePause, hsignal, hrunning]

theorem Sound.called (h : Sound e) (call : Call) :
    Sound { e.called call with calls := e.calls ++ [call] } := by
  by_cases hawait : e.await = .suspended
  · have hrunning : e.running = true := h.running.2 (by simp [hawait])
    have hsignal : e.resumeSignal = true := h.signal.2 hawait
    rcases called_of_suspended hrunning hawait hsignal call with
      ⟨hrun, ⟨hgiven, hat⟩ | ⟨hgiven, hat⟩⟩
    · exact sound_of_ne_pausing (by simp [hrun, hat]) (by simp [hgiven, hat]) (by simp [hat])
    · exact sound_of_ne_pausing (by simp [hrun, hat]) (by simp [hgiven, hat]) (by simp [hat])
  · have hsignal : e.resumeSignal = false := by simpa using mt h.signal.1 hawait
    rcases called_of_awake hsignal call with ⟨hrun, hnone, hat, hset⟩
    have hpausing : (e.called call).await = .pausing → e.await = .pausing ∧ e.running = true := by
      intro hpausing
      rw [hat] at hpausing
      exact ⟨hpausing, h.running.2 (by simp [hpausing])⟩
    exact
      { running := by
          rw [show (e.called call).running = _ from hrun, show (e.called call).await = _ from hat]
          exact h.running
        signal := by simp [hnone, hat, hawait]
        stop := by
          intro hp
          rcases hpausing hp with ⟨hp, hrunning⟩
          rw [(hset hrunning).1, h.stop hp]
          simp [eq_comm]
        pause := by
          intro hp hstop
          rcases hpausing hp with ⟨hp, hrunning⟩
          simp only [List.mem_append, List.mem_singleton, not_or] at hstop
          have hbefore := h.pause hp hstop.1
          rw [(hset hrunning).2]
          cases call with
          | pause => simp
          | resume => simp
          | stop => exact absurd rfl hstop.2 }

theorem Sound.moved (h : Sound e) (hunderway : e.await ≠ .nothing) (hawake : e.await ≠ .suspended)
    (hmoves : Moves e e') : Sound e' := by
  have hflags := hmoves.flags
  simp only [flags, Prod.mk.injEq] at hflags
  have hrunning : e.running = true := h.running.2 hunderway
  have hsignal : e.resumeSignal = false := by simpa using mt h.signal.1 hawake
  exact
    { running := by simp [hflags, hrunning, hmoves.underway]
      signal := by simp [hflags, hsignal, hmoves.awake]
      stop := fun hpausing => by simp [hflags, hmoves.calls, (hmoves.pausing hpausing).2]
      pause := fun hpausing _ => by simp [hflags, hmoves.calls, (hmoves.pausing hpausing).1] }

theorem Sound.aside (h : Sound e) (hflags : e'.flags = e.flags) (hcalls : e'.calls = e.calls)
    (hawait : e'.await = e.await) : Sound e' := by
  simp only [flags, Prod.mk.injEq] at hflags
  rcases hflags with ⟨hstop, hpause, hsignal, hrunning⟩
  exact
    { running := by rw [hrunning, hawait]; exact h.running
      signal := by rw [hsignal, hawait]; exact h.signal
      stop := by rw [hstop, hcalls, hawait]; exact h.stop
      pause := by rw [hpause, hcalls, hawait]; exact h.pause }

theorem Sound.step (h : Sound e) (hstep : e.step options input = some e') : Sound e' := by
  cases step_cases hstep with
  | aside hflags hcalls hawait => exact h.aside hflags hcalls hawait
  | started hidle hflags hawait =>
      simp only [flags, Prod.mk.injEq] at hflags
      have hnothing : e.await = .nothing := by simpa [hidle] using h.running
      have hsignal : e.resumeSignal = false := by simpa [hnothing] using h.signal
      exact sound_of_ne_pausing (by simp [hflags, hawait]) (by simp [hflags, hawait, hsignal])
        (by simp [hawait])
  | called call => exact h.called call
  | moved hunderway hawake _ hmoves => exact h.moved hunderway hawake hmoves
  | suspended hawait =>
      have hrunning : e.running = true := h.running.2 (by simp [hawait])
      exact sound_of_ne_pausing (by simp [waitFor, hrunning]) (by simp [waitFor]) nofun
  | finished hawait =>
      have hsignal : e.resumeSignal = false := by simpa [hawait] using h.signal
      exact sound_of_ne_pausing
        (by simp [AutomationEngine.finished, waitFor, releasePause, hsignal])
        (by simp [AutomationEngine.finished, waitFor, releasePause, hsignal]) nofun

/-- As long as a pause is still wanted when its checkpoint has been written, nobody oversleeps. -/
theorem SleepsSafely.step (h : Sound e) (hsafe : SleepsSafely e) (hintime : PausesInTime e input)
    (hstep : e.step options input = some e') : SleepsSafely e' := by
  have hsound := h.step hstep
  cases step_cases hstep with
  | aside hflags hcalls hawait =>
      intro hsuspended
      simp only [flags, Prod.mk.injEq] at hflags
      have hbefore := (hsafe (hawait ▸ hsuspended)).1
      rw [← hflags.2.1, ← hflags.1] at hbefore
      exact sleepsSafely_of hsound hsuspended hbefore.1 hbefore.2 hsuspended
  | started _ _ hawait => exact fun hsuspended => nomatch hawait.symm.trans hsuspended
  | called call =>
      intro hsuspended
      by_cases hawait : e.await = .suspended
      · have hbefore := hsafe hawait
        -- Only another request to pause leaves the run where it is.
        cases call with
        | pause =>
            have hsame : e.called .pause = e := by simp [called, pause, hbefore.1.1]
            rw [hsame] at hsound ⊢
            exact sleepsSafely_of hsound hawait hbefore.1.1 hbefore.1.2 hawait
        | resume => exact nomatch hbefore.2.1.symm.trans hsuspended
        | stop => exact nomatch hbefore.2.2.symm.trans hsuspended
      · have hsignal : e.resumeSignal = false := by simpa using mt h.signal.1 hawait
        have hat := (called_of_awake hsignal call).2.2.1
        exact absurd (hat.symm.trans hsuspended) hawait
  | moved _ _ _ hmoves => exact fun hsuspended => absurd hsuspended hmoves.awake
  | suspended hawait =>
      intro hsuspended
      have hset := mt (h.withdrawn_iff hawait).2 (hintime hawait rfl)
      rw [not_not] at hset
      exact sleepsSafely_of hsound rfl hset.1 hset.2 rfl
  | finished => exact nofun

/-- If it is not, the run waits for a call that nobody has any more reason to make. -/
theorem not_sleepsSafely (h : Sound e) (hlate : ¬PausesInTime e input)
    (hstep : e.step options input = some e') : ¬SleepsSafely e' := by
  unfold PausesInTime at hlate
  push Not at hlate
  rcases hlate with ⟨hawait, rfl, hwithdrawn⟩
  have he' : e' = { e.waitFor .suspended with resumeSignal := true } := by
    simpa [AutomationEngine.step, written, hawait] using hstep.symm
  subst he'
  exact fun hsafe => (h.withdrawn_iff hawait).1 hwithdrawn (hsafe rfl).1

end Sleeping

/-- In a run of the engine nobody oversleeps a resume or a stop if and only if no call takes a pause
back while its checkpoint is being written. -/
theorem sleeps_safely_iff {options : AutomationEngineOptions} {inputs : List EngineInput}
    {e : AutomationEngine} (hrun : Machine.run (step options) {} inputs = some e) :
    Machine.Throughout (step options) SleepsSafely {} inputs ↔
      Machine.EachStep (step options) PausesInTime {} inputs := by
  apply Machine.throughout_iff_eachStep (I := fun e => Sound e ∧ SleepsSafely e) _ _ _
    ⟨sound_start, nofun⟩ hrun
  · exact fun _ h => h.2
  · rintro e input e' ⟨hsound, hsafe⟩ hintime hstep
    exact ⟨hsound.step hstep, hsafe.step hsound hintime hstep⟩
  · rintro e input e' ⟨hsound, -⟩ hlate hstep
    exact not_sleepsSafely hsound hlate hstep

def adaTask : BatchTask where
  trainee := { id := "7", traineeId := "7", name := "Ada Obi" }
  session := { trainingDate := "2024-05-06", instructorId := "3", trainingTypeId := "4" }

/-- A pause is asked for, and taken back while its checkpoint is being written. -/
def resumedEarly : List EngineInput :=
  [.addTask adaTask, .run, .call .pause, .answered .done, .call .resume, .written]

theorem early_resume_is_slept_through :
    ¬∀ inputs e, Machine.run (step {}) {} inputs = some e → e.SleepsSafely := by
  intro h
  have hrun : Machine.run (step {}) {} resumedEarly =
      some ((Machine.run (step {}) {} resumedEarly).getD {}) := rfl
  have hsafe := h resumedEarly _ hrun rfl
  exact absurd hsafe.1.1 (by decide)

/-- The same pause, taken back once the run waits. -/
def resumedLater : List EngineInput :=
  [.addTask adaTask, .run, .call .pause, .answered .done, .written, .call .resume]

theorem later_resume_wakes :
    Machine.Throughout (step {}) SleepsSafely {} resumedLater := by
  have hrun : Machine.run (step {}) {} resumedLater =
      some ((Machine.run (step {}) {} resumedLater).getD {}) := rfl
  refine (sleeps_safely_iff hrun).2 ?_
  iterate 6
    refine (Machine.eachStep_cons rfl _).2 ⟨?_, ?_⟩
    · rintro ⟨⟩ ⟨⟩ (hstop | hlast) <;> first | cases hstop | cases hlast
  exact Machine.eachStep_nil _

end AutomationEngine

end Extension

end DsspBot

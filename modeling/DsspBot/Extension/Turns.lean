import DsspBot.Extension.AutomationEngine

/-!
# Turns — what a step of the engine does to its trainees

Between taking a trainee out of the queue and pushing its row, the engine asks the portal a number
of things and goes by the answers. This file says once what a step can do to the trainees, their
rows and the checkpoints; whatever holds of them over a run goes by these cases.
-/

namespace DsspBot

namespace Extension

/-! ## Where the run waits -/

/-- What is asked of the portal for a trainee. -/
inductive PortalCall
  | preparing (operation : Preparation)
  | submitTrainingForm
  | waitForSubmissionResult
  deriving DecidableEq, Repr

/-- The call that is waited for. -/
def Await.call : Await → Option PortalCall
  | .preparing _ _ operation => some (.preparing operation)
  | .submitting _ _ => some .submitTrainingForm
  | .verifying _ _ _ => some .waitForSubmissionResult
  | _ => none

/-- The trainee that the engine is at. -/
def Await.task : Await → Option BatchTask
  | .preparing task _ _ => some task
  | .retryingPrepare task _ => some task
  | .submitting task _ => some task
  | .verifying task _ _ => some task
  | .retryingVerify task _ _ => some task
  | _ => none

/-- Neither at a trainee, nor before or after the run. -/
def Await.between : Await → Bool
  | .initializeTrainingSession => true
  | .pausing => true
  | .suspended => true
  | .resuming => true
  | .recording _ => true
  | .interTaskDelay => true
  | _ => false

/-- Neither a definite answer nor none at all. -/
def Answer.inconclusive : Answer → Bool
  | .failure _ => true
  | .thrown _ => true
  | _ => false

/-- The run goes on by itself, rather than because of a call. -/
def EngineInput.proceeds : EngineInput → Bool
  | .answered _ => true
  | .written => true
  | .elapsed => true
  | .continued => true
  | _ => false

namespace AutomationEngine

variable (options : AutomationEngineOptions)

/-! ## What a step does to a trainee -/

/-- The answer that leads from one operation of a preparation to the next. -/
inductive Leads : Preparation → Answer → Preparation → Prop
  | portal : Leads .isPortalPage (.told true) .isTrainingSessionReady
  | ready : Leads .isTrainingSessionReady (.told true) .prepareTrainee
  | unready : Leads .isTrainingSessionReady (.told false) .initializeTrainingSession
  | initialized : Leads .initializeTrainingSession .done .prepareTrainee
  | trainee : Leads .prepareTrainee .done .fillTrainingForm
  | filled : Leads .fillTrainingForm .done .validateTrainingForm

/-- A visit goes on. -/
inductive Goes : Await → EngineInput → Await → Prop
  | asks {task : BatchTask} {attempt : Nat} {operation next : Preparation} {answer : Answer}
      (h : Leads operation answer next) :
      Goes (.preparing task attempt operation) (.answered answer) (.preparing task attempt next)
  | submits {task : BatchTask} {attempt : Nat} :
      Goes (.preparing task attempt .validateTrainingForm) (.answered .done)
        (.submitting task attempt)
  | prepareFails {task : BatchTask} {attempt : Nat} {operation : Preparation} {answer : Answer}
      (hmore : attempt ≠ options.maxAttempts) :
      Goes (.preparing task attempt operation) (.answered answer) (.retryingPrepare task attempt)
  | preparesAgain {task : BatchTask} {attempt : Nat} :
      Goes (.retryingPrepare task attempt) .elapsed (.preparing task (attempt + 1) .isPortalPage)
  | confirms {task : BatchTask} {attempts : Nat} :
      Goes (.submitting task attempts) (.answered .done) (.verifying task attempts 1)
  | confirmFails {task : BatchTask} {attempts attempt : Nat} {answer : Answer}
      (hopen : answer.inconclusive = true) (hmore : attempt ≠ options.maxAttempts) :
      Goes (.verifying task attempts attempt) (.answered answer)
        (.retryingVerify task attempts attempt)
  | confirmsAgain {task : BatchTask} {attempts attempt : Nat} :
      Goes (.retryingVerify task attempts attempt) .elapsed
        (.verifying task attempts (attempt + 1))

/-- A visit ends with a row. -/
inductive Closes : Await → Answer → TrainingResult → Prop
  | unprepared {task : BatchTask} {attempt : Nat} {operation : Preparation} {answer : Answer}
      (error : AutomationError) :
      Closes (.preparing task attempt operation) answer (settle task attempt .failed (some error))
  | unsent {task : BatchTask} {attempts : Nat} {error : AutomationError}
      (hproof : provesNothingSubmitted error.code = true) :
      Closes (.submitting task attempts) (.failure error)
        (settle task attempts .failed (some error))
  | unsure {task : BatchTask} {attempts : Nat} {error : AutomationError}
      (hproof : provesNothingSubmitted error.code = false) :
      Closes (.submitting task attempts) (.failure error)
        (settle task attempts .indeterminate (some error))
  | confirmed {task : BatchTask} {attempts attempt : Nat} (reference : Option String) :
      Closes (.verifying task attempts attempt) (.outcome (.confirmed reference))
        (settle task attempts .success none)
  | duplicate {task : BatchTask} {attempts attempt : Nat} (message : String) :
      Closes (.verifying task attempts attempt) (.outcome (.duplicate message))
        (settle task attempts .failed (some (.duplicateRecord message)))
  | rejected {task : BatchTask} {attempts attempt : Nat} (message : String) :
      Closes (.verifying task attempts attempt) (.outcome (.rejected message))
        (settle task attempts .failed (some (.submission message)))
  | unconfirmed {task : BatchTask} {attempts attempt : Nat} {answer : Answer}
      (error : AutomationError) (hopen : answer.inconclusive = true) :
      Closes (.verifying task attempts attempt) answer
        (settle task attempts .indeterminate (some (.confirmationUnknown error.message)))

/-- What a run has to show. -/
def ledger (e : AutomationEngine) :
    List TrainingResult × TaskQueue BatchTask × Nat × List BatchCheckpoint :=
  (e.results, e.queue, e.totalQueued, e.checkpoints)

/-- The checkpoints that a save adds. -/
def saved (e : AutomationEngine) (status : BatchCheckpointStatus) : List BatchCheckpoint :=
  if options.checkpoint then
    [{ status := status, total := e.totalQueued, results := e.results, pending := e.queue.ids }]
  else []

/-- A row has been pushed, and is being saved. -/
structure Records (e : AutomationEngine) (row : TrainingResult) (e' : AutomationEngine) : Prop where
  results : e'.results = e.results ++ [row]
  queue : e'.queue = e.queue
  total : e'.totalQueued = e.totalQueued
  checkpoints : e'.checkpoints = e.checkpoints ++ saved options e' .running
  await : e'.await = .recording row

/-- The run is over but for the last checkpoint. -/
structure Finishes (e : AutomationEngine) (result : Except String BatchReport)
    (e' : AutomationEngine) : Prop where
  results : e'.results = e.results
  queue : e'.queue = e.queue
  total : e'.totalQueued = e.totalQueued
  checkpoints : e'.checkpoints = e.checkpoints ++ saved options e' .finished
  await : e'.await = .finishing result

/-- Where the run is between two trainees. -/
structure Between (e : AutomationEngine) : Prop where
  task : e.await.task = none
  underway : e.await ≠ .nothing
  unfinished : ∀ result, e.await ≠ .finishing result

theorem Records.task {options : AutomationEngineOptions} {e e' : AutomationEngine}
    {row : TrainingResult} (h : Records options e row e') : e'.await.task = none := by
  rw [h.await]
  rfl

theorem Finishes.task {options : AutomationEngineOptions} {e e' : AutomationEngine}
    {result : Except String BatchReport} (h : Finishes options e result e') :
    e'.await.task = none := by
  rw [h.await]
  rfl

theorem task_of_passes {await : Await}
    (h : await ∈ [Await.pausing, .suspended, .resuming, .interTaskDelay]) : await.task = none := by
  simp only [List.mem_cons, List.not_mem_nil, or_false] at h
  rcases h with rfl | rfl | rfl | rfl <;> rfl

/-- A visit that goes on stays with its trainee. -/
theorem Goes.task {options : AutomationEngineOptions} {await await' : Await} {input : EngineInput}
    (h : Goes options await input await') :
    await.task.isSome ∧ await'.task = await.task := by
  cases h <;> exact ⟨rfl, rfl⟩

/-- Everything a step can do to the trainees, their rows and the checkpoints. -/
inductive Turn (e : AutomationEngine) : EngineInput → AutomationEngine → Prop
  | added (task : BatchTask) : Turn e (.addTask task) (e.addTask task)
  | cleared : Turn e .clearQueue e.clearQueue
  | refused {e' : AutomationEngine} (hbusy : e.running = true) (hledger : e'.ledger = e.ledger)
      (hawait : e'.await = e.await) : Turn e .run e'
  | started {e' : AutomationEngine} (hidle : e.running = false) (hresults : e'.results = [])
      (hqueue : e'.queue = e.queue) (hcheckpoints : e'.checkpoints = e.checkpoints)
      (htotal : e'.totalQueued = e.queue.tasks.length)
      (hawait : e'.await = .initializeTrainingSession) : Turn e .run e'
  | called {e' : AutomationEngine} (call : Call) (hledger : e'.ledger = e.ledger)
      (hawait : e'.await = e.await ∨ e.await = .suspended ∧ e'.await = .resuming) :
      Turn e (.call call) e'
  | goes {input : EngineInput} {e' : AutomationEngine} (h : Goes options e.await input e'.await)
      (hledger : e'.ledger = e.ledger) : Turn e input e'
  | closes {answer : Answer} {row : TrainingResult} {e' : AutomationEngine}
      (h : Closes e.await answer row) (hrecords : Records options e row e') :
      Turn e (.answered answer) e'
  /-- The promise of a submission is rejected, and the whole run with it. -/
  | lost {task : BatchTask} {attempts : Nat} {error : AutomationError} {e' : AutomationEngine}
      (hawait : e.await = .submitting task attempts)
      (hfinishes : Finishes options e (.error error.message) e') :
      Turn e (.answered (.thrown error)) e'
  | begins {task : QueueTask BatchTask} {e' : AutomationEngine} (hawait : e.await = .resuming)
      (hgoes : e.stopRequested = false) (hsome : 0 < options.maxAttempts)
      (hqueue : e.queue.tasks = task :: e'.queue.tasks)
      (hresults : e'.results = e.results) (hcheckpoints : e'.checkpoints = e.checkpoints)
      (htotal : e'.totalQueued = e.totalQueued)
      (hnext : e'.await = .preparing task.payload 1 .isPortalPage) : Turn e .continued e'
  /-- A policy without a single attempt. -/
  | unbegun {task : QueueTask BatchTask} {queue : TaskQueue BatchTask} {e' : AutomationEngine}
      (hawait : e.await = .resuming) (hgoes : e.stopRequested = false)
      (hqueue : e.queue.tasks = task :: queue.tasks)
      (hrecords : Records options { e with queue := queue }
        (settle task.payload 0 .failed (some .zeroAttempts)) e') : Turn e .continued e'
  /-- On its way between two trainees. -/
  | passes {input : EngineInput} {e' : AutomationEngine} (hinput : input.proceeds = true)
      (hbetween : Between e) (hresults : e'.results = e.results) (hqueue : e'.queue = e.queue)
      (htotal : e'.totalQueued = e.totalQueued)
      (hcheckpoints : e'.checkpoints = e.checkpoints ∨
        e'.checkpoints = e.checkpoints ++ saved options e .paused)
      (hnext : e'.await ∈ [.pausing, .suspended, .resuming, .interTaskDelay])
      (habort : ∀ row, e.await = .recording row → shouldAbortBatch row = false) : Turn e input e'
  /-- Whoever is still in the queue is skipped. -/
  | leaves {input : EngineInput} {e' : AutomationEngine} (hinput : input.proceeds = true)
      (reason : String) (hbetween : Between e)
      (hfinishes : Finishes options
        { e with
          queue := .new
          results := e.results ++ e.queue.tasks.map fun task => skipped reason task.payload }
        (.ok (buildBatchReport e'.results)) e') :
      Turn e input e'
  /-- The session could not be opened. -/
  | unopened {answer : Answer} {error : AutomationError} {e' : AutomationEngine}
      (hawait : e.await = .initializeTrainingSession)
      (hfinishes : Finishes options e (.error error.message) e') : Turn e (.answered answer) e'
  | returned {result : Except String BatchReport} {e' : AutomationEngine}
      (hawait : e.await = .finishing result) (hledger : e'.ledger = e.ledger)
      (hnext : e'.await = .nothing) : Turn e .written e'

/-! ## One lemma for each operation -/

section Turns

variable {options : AutomationEngineOptions} {e e' : AutomationEngine} {input : EngineInput}

@[simp] theorem transition_ledger (next : AutomationState) :
    (e.transition next).ledger = e.ledger := by
  unfold transition
  split <;> rfl

@[simp] theorem waitFor_ledger (await : Await) : (e.waitFor await).ledger = e.ledger := rfl

@[simp] theorem waitFor_await (await : Await) : (e.waitFor await).await = await := rfl

theorem ledger_eq_iff : e'.ledger = e.ledger ↔
    e'.results = e.results ∧ e'.queue = e.queue ∧ e'.totalQueued = e.totalQueued ∧
      e'.checkpoints = e.checkpoints := by
  simp [ledger]

theorem saved_congr (hledger : e'.ledger = e.ledger) (status : BatchCheckpointStatus) :
    saved options e' status = saved options e status := by
  rcases ledger_eq_iff.1 hledger with ⟨hresults, hqueue, htotal, -⟩
  simp [saved, hresults, hqueue, htotal]

/-- A save adds what it has to add, and nothing else changes. -/
theorem saveCheckpoint_ledger (options : AutomationEngineOptions) (hledger : e'.ledger = e.ledger)
    (status : BatchCheckpointStatus) :
    (e'.saveCheckpoint options status).ledger =
      (e.results, e.queue, e.totalQueued, e.checkpoints ++ saved options e status) := by
  rw [← saved_congr hledger]
  rcases ledger_eq_iff.1 hledger with ⟨hresults, hqueue, htotal, hcheckpoints⟩
  rw [← hresults, ← hqueue, ← htotal, ← hcheckpoints]
  unfold saveCheckpoint saved
  split <;> simp [ledger]

theorem records_record (row : TrainingResult) : Records options e row (e.record options row) := by
  have hledger : (e.record options row).ledger = _ :=
    saveCheckpoint_ledger options (e := { e with results := e.results ++ [row] }) rfl .running
  simp only [ledger, Prod.mk.injEq] at hledger
  rcases hledger with ⟨hresults, hqueue, htotal, hcheckpoints⟩
  refine ⟨hresults, hqueue, htotal, ?_, rfl⟩
  rw [hcheckpoints]
  simp [saved, hresults, hqueue, htotal]

theorem Records.of_ledger {f : AutomationEngine} {row : TrainingResult}
    (h : Records options f row e') (hledger : f.ledger = e.ledger) : Records options e row e' := by
  rcases ledger_eq_iff.1 hledger with ⟨hresults, hqueue, htotal, hcheckpoints⟩
  exact
    { results := hresults ▸ h.results
      queue := hqueue ▸ h.queue
      total := htotal ▸ h.total
      checkpoints := hcheckpoints ▸ h.checkpoints
      await := h.await }

theorem finishes_finish (finalState : AutomationState) (error : Option AutomationError) :
    Finishes options e
      (match error with
        | none => .ok (buildBatchReport e.results)
        | some error => .error error.message)
      (e.finish options finalState error) := by
  have hledger : (e.finish options finalState error).ledger =
      (e.results, e.queue, e.totalQueued, e.checkpoints ++ saved options e .finished) := by
    have hbefore : ({ { e with currentTrainee := none }.transition finalState with
        report := some (buildBatchReport e.results) } : AutomationEngine).ledger = e.ledger :=
      transition_ledger finalState
    unfold finish
    cases error <;> exact saveCheckpoint_ledger options hbefore .finished
  simp only [ledger, Prod.mk.injEq] at hledger
  rcases hledger with ⟨hresults, hqueue, htotal, hcheckpoints⟩
  refine ⟨hresults, hqueue, htotal, ?_, ?_⟩
  · rw [hcheckpoints]
    simp [saved, hresults, hqueue, htotal]
  · unfold finish
    cases error <;> rfl

theorem finishes_caught (error : AutomationError) :
    Finishes options e (.error error.message) (e.caught options error) :=
  finishes_finish .stopped (some error)

/-- Draining an empty queue skips nobody. -/
theorem finishes_leave (options : AutomationEngineOptions)
    (hleft : e.stopRequested = true ∨ e.queue.tasks = []) :
    ∃ reason, Finishes options
      { e with
        queue := .new
        results := e.results ++ e.queue.tasks.map fun task => skipped reason task.payload }
      (.ok (buildBatchReport (e.leave options).results)) (e.leave options) := by
  unfold leave
  split
  · next hstop =>
      refine ⟨"Batch stopped by the administrator.", ?_⟩
      have hfinish : Finishes options (e.drainQueueAsSkipped "Batch stopped by the administrator.")
          _ _ := finishes_finish .stopped none
      rw [hfinish.results]
      exact hfinish
  · next hstop =>
      have hempty : e.queue.tasks = [] := by simpa [hstop] using hleft
      have hnew : e.queue = .new := TaskQueue.ext hempty
      refine ⟨"", ?_⟩
      have hfinish : Finishes options e _ _ := finishes_finish .complete none
      rw [hfinish.results, hempty, List.map_nil, List.append_nil, ← hnew]
      exact hfinish

theorem turn_prepareFailed {task : BatchTask} {attempt : Nat} {operation : Preparation}
    {answer : Answer} (hawait : e.await = .preparing task attempt operation)
    (error : AutomationError) :
    Turn options e (.answered answer) (e.prepareFailed options task attempt error) := by
  unfold prepareFailed
  split
  · next hretries =>
      have hmore : attempt ≠ options.maxAttempts := by
        simp only [retries, Bool.and_eq_true, decide_eq_true_eq] at hretries
        exact hretries.2
      exact .goes (hawait ▸ .prepareFails hmore) rfl
  · exact .closes (hawait ▸ .unprepared error) (records_record _)

theorem turn_prepares {task : BatchTask} {attempt : Nat} {operation next : Preparation}
    {answer : Answer} (hawait : e.await = .preparing task attempt operation)
    (hleads : Leads operation answer next) :
    Turn options e (.answered answer) (e.prepares task attempt next) := by
  have hnext : (e.prepares task attempt next).await = .preparing task attempt next := by
    cases next <;> rfl
  refine .goes (hawait ▸ hnext ▸ .asks hleads) ?_
  unfold prepares
  split <;> simp

theorem turn_prepared {task : BatchTask} {attempt : Nat} {operation : Preparation}
    {answer : Answer} (hawait : e.await = .preparing task attempt operation)
    (h : e.prepared options task attempt operation answer = some e') :
    Turn options e (.answered answer) e' := by
  unfold prepared at h
  split at h <;> first
    | cases h; exact turn_prepareFailed hawait _
    | cases h; exact turn_prepares hawait (by constructor)
    | cases h; exact .goes (hawait ▸ .submits) (transition_ledger .submitting)
    | cases h

theorem turn_submitted {task : BatchTask} {attempts : Nat} {answer : Answer}
    (hawait : e.await = .submitting task attempts)
    (h : e.submitted options task attempts answer = some e') :
    Turn options e (.answered answer) e' := by
  unfold submitted at h
  split at h
  · cases h
    exact .goes (hawait ▸ .confirms) (transition_ledger .verifying)
  · next error =>
      cases h
      refine .closes ?_ (records_record _)
      rw [hawait]
      split
      · next hproof => exact .unsent hproof
      · next hproof => exact .unsure (by simpa using hproof)
  · cases h
    exact .lost hawait (finishes_caught _)
  · cases h

theorem turn_confirmFailed {task : BatchTask} {attempts attempt : Nat} {answer : Answer}
    (hawait : e.await = .verifying task attempts attempt) (hopen : answer.inconclusive = true)
    (error : AutomationError) :
    Turn options e (.answered answer) (e.confirmFailed options task attempts attempt error) := by
  unfold confirmFailed
  split
  · next hretries =>
      have hmore : attempt ≠ options.maxAttempts := by
        simp only [retries, Bool.and_eq_true, decide_eq_true_eq] at hretries
        exact hretries.2
      exact .goes (hawait ▸ .confirmFails hopen hmore) rfl
  · exact .closes (hawait ▸ .unconfirmed error hopen) (records_record _)

theorem turn_verified {task : BatchTask} {attempts attempt : Nat} {answer : Answer}
    (hawait : e.await = .verifying task attempts attempt)
    (h : e.verified options task attempts attempt answer = some e') :
    Turn options e (.answered answer) e' := by
  unfold verified at h
  split at h
  · cases h
    exact .closes (hawait ▸ .confirmed _) (records_record _)
  · cases h
    exact .closes (hawait ▸ .duplicate _) (records_record _)
  · cases h
    exact .closes (hawait ▸ .rejected _) (records_record _)
  · cases h
    exact turn_confirmFailed hawait rfl _
  · cases h
    exact turn_confirmFailed hawait rfl _
  · cases h

theorem between_of {await : Await} (h : await.between = true) (hawait : e.await = await) :
    Between e := by
  subst hawait
  cases heq : e.await <;> simp [heq, Await.between] at h <;>
    exact ⟨by simp [heq, Await.task], by simp [heq], by simp [heq]⟩

theorem turn_leave (hinput : input.proceeds = true) (h : Between e)
    (hleft : e.stopRequested = true ∨ e.queue.tasks = []) :
    Turn options e input (e.leave options) := by
  rcases finishes_leave options hleft with ⟨reason, hfinishes⟩
  exact .leaves hinput reason h hfinishes

theorem turn_loop (hinput : input.proceeds = true) (h : Between e)
    (habort : ∀ row, e.await = .recording row → shouldAbortBatch row = false) :
    Turn options e input (e.loop options) := by
  unfold loop
  split
  · unfold waitWhilePaused
    split
    · have hsaved := saveCheckpoint_ledger options
        (transition_ledger (e := e) .paused) .paused
      simp only [ledger, Prod.mk.injEq] at hsaved
      rcases hsaved with ⟨hresults, hqueue, htotal, hcheckpoints⟩
      exact .passes hinput h hresults hqueue htotal (.inr hcheckpoints) (by simp) habort
    · exact .passes hinput h rfl rfl rfl (.inl rfl) (by simp) habort
  · next hover =>
      refine turn_leave hinput h ?_
      simp only [Bool.and_eq_true, Bool.not_eq_true', not_and, Bool.not_eq_false] at hover
      by_cases hempty : e.queue.isEmpty = true
      · exact .inr ((TaskQueue.isEmpty_iff _).1 hempty)
      · exact .inl (hover (Bool.eq_false_iff.2 hempty))

theorem turn_resumed (hawait : e.await = .resuming) :
    Turn options e .continued (e.resumed options) := by
  have hbetween := between_of rfl hawait
  unfold resumed
  split
  · next hstop => exact turn_leave rfl hbetween (.inl hstop)
  · next hgoes =>
      have hgoes : e.stopRequested = false := by simpa using hgoes
      split
      · next task queue hdequeue =>
          have hqueue := TaskQueue.dequeue_eq_some.1 hdequeue
          unfold processTask
          dsimp only
          split
          · exact .unbegun hawait hgoes hqueue ((records_record _).of_ledger rfl)
          · next hsome =>
              exact .begins hawait hgoes (Nat.pos_of_ne_zero hsome) hqueue rfl rfl rfl rfl
      · next hdequeue =>
          have hempty : e.queue.tasks = [] := by
            cases htasks : e.queue.tasks with
            | nil => rfl
            | cons task rest => simp [TaskQueue.dequeue, htasks] at hdequeue
          exact turn_leave rfl hbetween (.inr hempty)

theorem turn_recorded {row : TrainingResult} (hawait : e.await = .recording row) :
    Turn options e .written (e.recorded options row) := by
  have hbetween := between_of rfl hawait
  unfold recorded
  split
  · have hdrained : (e.drainQueueAsSkipped (abortReason row)).queue.tasks = [] := rfl
    rcases finishes_leave options (.inr hdrained) with ⟨reason, hfinishes⟩
    refine .leaves rfl (abortReason row) hbetween ?_
    simpa [drainQueueAsSkipped] using hfinishes
  · next hgoes =>
      have habort : ∀ other, e.await = .recording other → shouldAbortBatch other = false := by
        intro other hother
        rw [hawait, Await.recording.injEq] at hother
        exact hother ▸ by simpa using hgoes
      split
      · exact .passes rfl hbetween rfl rfl rfl (.inl rfl) (by simp) habort
      · exact turn_loop rfl hbetween habort

theorem releasePause_cases : e.releasePause = e ∨
    e.releasePause = { e with resumeSignal := false, await := .resuming } := by
  unfold releasePause
  split
  · exact .inr rfl
  · exact .inl rfl

/-- A call leaves the ledger alone, and may wake the run. -/
theorem called_cases (call : Call) : (e.called call).ledger = e.ledger ∧
    ((e.called call).await = e.await ∨
      e.resumeSignal = true ∧ (e.called call).await = .resuming) := by
  cases call with
  | pause =>
      simp only [called, pause]
      split <;> exact ⟨rfl, .inl rfl⟩
  | resume =>
      simp only [called, resume, releasePause]
      split
      · split
        · next hsignal => exact ⟨rfl, .inr ⟨hsignal, rfl⟩⟩
        · exact ⟨rfl, .inl rfl⟩
      · exact ⟨rfl, .inl rfl⟩
  | stop =>
      simp only [called, stop, releasePause]
      split
      · split
        · next hsignal => exact ⟨rfl, .inr ⟨hsignal, rfl⟩⟩
        · exact ⟨rfl, .inl rfl⟩
      · exact ⟨rfl, .inl rfl⟩

theorem turn_called (hsound : Sound e) (call : Call) :
    Turn options e (.call call) { e.called call with calls := e.calls ++ [call] } := by
  rcases called_cases (e := e) call with ⟨hledger, hsame | ⟨hsignal, hwoken⟩⟩
  · exact .called call hledger (.inl hsame)
  · -- Only a run that waits for the signal can have been given it.
    exact .called call hledger (.inr ⟨hsound.signal.1 hsignal, hwoken⟩)

theorem turn_run : Turn options e .run e.run := by
  unfold run
  split
  · next hbusy => exact .refused hbusy rfl rfl
  · next hidle =>
      have hledger := transition_ledger (e := { e with
        running := true, stopRequested := false, pauseRequested := false, results := []
        report := none, totalQueued := e.queue.tasks.length, state := .idle }) .initializing
      rcases ledger_eq_iff.1 hledger with ⟨hresults, hqueue, htotal, hcheckpoints⟩
      exact .started (by simpa using hidle) hresults hqueue hcheckpoints htotal rfl

theorem turn_answered {answer : Answer} (h : e.answered options answer = some e') :
    Turn options e (.answered answer) e' := by
  unfold answered at h
  split at h
  · next hawait =>
      split at h <;> cases h
      · exact turn_loop rfl (between_of rfl hawait) (by simp [hawait])
      · exact .unopened hawait (finishes_caught _)
      · exact .unopened hawait (finishes_caught _)
  · next hawait => exact turn_prepared hawait h
  · next hawait => exact turn_submitted hawait h
  · next hawait => exact turn_verified hawait h
  · cases h

theorem turn_written (h : e.written options = some e') : Turn options e .written e' := by
  unfold written at h
  split at h
  · next hawait =>
      cases h
      exact .passes rfl (between_of rfl hawait) rfl rfl rfl (.inl rfl) (by simp) (by simp [hawait])
  · next hawait =>
      cases h
      exact turn_recorded hawait
  · next result hawait =>
      cases h
      refine .returned hawait ?_ rfl
      rcases releasePause_cases (e := { e with running := false, pauseRequested := false }) with
        hsame | hsame <;> simp [finished, hsame, ledger, waitFor]
  · cases h

theorem turn_elapsed (h : e.elapsed options = some e') : Turn options e .elapsed e' := by
  unfold elapsed at h
  split at h
  · next task attempt hawait =>
      cases h
      refine .goes (hawait ▸ .preparesAgain) ?_
      unfold prepareSubmission
      dsimp only
      split
      · exact transition_ledger .retrying
      · rfl
  · next hawait =>
      cases h
      exact .goes (hawait ▸ .confirmsAgain) (transition_ledger .verifying)
  · next hawait =>
      cases h
      exact turn_loop rfl (between_of rfl hawait) (by simp [hawait])
  · cases h

theorem turn_of_step (hsound : Sound e) (h : e.step options input = some e') :
    Turn options e input e' := by
  cases input with
  | addTask task =>
      cases h
      exact .added task
  | clearQueue =>
      cases h
      exact .cleared
  | run =>
      cases h
      exact turn_run
  | call call =>
      cases h
      exact turn_called hsound call
  | answered answer => exact turn_answered h
  | written => exact turn_written h
  | elapsed => exact turn_elapsed h
  | continued =>
      simp only [step] at h
      split at h
      · next hawait =>
          cases h
          exact turn_resumed hawait
      · cases h

end Turns

end AutomationEngine

end Extension

end DsspBot

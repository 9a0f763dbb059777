import DsspBot.Extension.DaemonClient
import DsspBot.Extension.Rows

/-!
# Shown — what the engine shows of itself

The popup polls `getProgress`. Its counts add up to what the run has been given. Its state, however,
tells less than the engine asks for. The table of transitions has one way from `loading_trainee` to
the states of a form, by `opening_form`, which the engine never asks for. A refused transition is
silent, and so a form is filled in, validated, submitted and verified under `loading_trainee`.
-/

namespace DsspBot

/-- The name that the extension uses. -/
def AutomationState.text : AutomationState → String
  | idle => "idle"
  | initializing => "initializing"
  | loadingTrainee => "loading_trainee"
  | openingForm => "opening_form"
  | fillingForm => "filling_form"
  | validating => "validating"
  | submitting => "submitting"
  | verifying => "verifying"
  | retrying => "retrying"
  | paused => "paused"
  | stopped => "stopped"
  | complete => "complete"

namespace Extension

namespace AutomationEngine

def countOutcome (e : AutomationEngine) (outcome : Outcome) : Nat :=
  e.results.countP fun result => decide (result.outcome = outcome)

def getProgress (e : AutomationEngine) : BatchProgress :=
  { state := e.state.text
    total := e.totalQueued
    processed := e.results.length
    successful := e.countOutcome .success
    failed := e.countOutcome .failed
    skipped := e.countOutcome .skipped
    indeterminate := e.countOutcome .indeterminate
    remaining := e.queue.tasks.length
    currentTraineeName := e.currentTrainee.map (·.name) }

/-! ## The states of a run -/

/-- Between the beginning of a run and its end. -/
def underway : List AutomationState :=
  [.initializing, .loadingTrainee, .retrying, .paused]

/-- The states that are shown while this is waited for. -/
def statesAt : Await → List AutomationState
  | .nothing => [.idle, .stopped, .complete]
  | .initializeTrainingSession => [.initializing]
  | .preparing _ _ .isPortalPage => underway
  | .preparing _ _ _ => [.loadingTrainee]
  | .submitting _ _ => [.loadingTrainee]
  | .verifying _ _ _ => [.loadingTrainee]
  | .retryingVerify _ _ _ => [.loadingTrainee]
  | .finishing _ => [.stopped, .complete]
  | _ => underway

structure Displays (e : AutomationEngine) : Prop where
  state : e.state ∈ statesAt e.await
  trainee : ∀ task, e.await.task = some task → e.currentTrainee = some task.trainee

section Display

variable {options : AutomationEngineOptions} {e e' : AutomationEngine} {input : EngineInput}

theorem transition_state (next : AutomationState) :
    (e.transition next).state = if e.state.canTransition next then next else e.state := by
  unfold transition
  split <;> rfl

@[simp] theorem transition_currentTrainee (next : AutomationState) :
    (e.transition next).currentTrainee = e.currentTrainee := by
  unfold transition
  split <;> rfl

@[simp] theorem saveCheckpoint_state (status : BatchCheckpointStatus) :
    (e.saveCheckpoint options status).state = e.state := by
  unfold saveCheckpoint
  split <;> rfl

@[simp] theorem saveCheckpoint_currentTrainee (status : BatchCheckpointStatus) :
    (e.saveCheckpoint options status).currentTrainee = e.currentTrainee := by
  unfold saveCheckpoint
  split <;> rfl

/-- From anywhere under way there is a way to the next trainee and to the end. -/
theorem transition_underway {next : AutomationState} (h : e.state ∈ underway)
    (hnext : next ∈ [AutomationState.loadingTrainee, .stopped, .complete]) :
    (e.transition next).state = next := by
  have hall : ∀ state ∈ underway, ∀ next ∈ [AutomationState.loadingTrainee, .stopped, .complete],
      state.canTransition next = true := by decide
  rw [transition_state, if_pos (hall _ h _ hnext)]

/-- From the trainee there is none to its form. -/
theorem transition_form {next : AutomationState} (h : e.state = .loadingTrainee)
    (hnext : next ∈ [AutomationState.fillingForm, .validating, .submitting, .verifying]) :
    (e.transition next).state = .loadingTrainee := by
  have hnone : ∀ next ∈ [AutomationState.fillingForm, .validating, .submitting, .verifying],
      AutomationState.loadingTrainee.canTransition next = false := by decide
  rw [transition_state, h, hnone next hnext]
  rfl

/-- A pause and another attempt are shown, or nothing changes. -/
theorem transition_mem_underway {next : AutomationState} (h : e.state ∈ underway)
    (hnext : next ∈ underway) : (e.transition next).state ∈ underway := by
  rw [transition_state]
  split
  · exact hnext
  · exact h

theorem displays_record (h : e.state ∈ underway) (row : TrainingResult) :
    Displays (e.record options row) where
  state := by
    show ({ e with results := e.results ++ [row] }.saveCheckpoint options .running).state ∈ underway
    rw [saveCheckpoint_state]
    exact h
  trainee := by simp [record, waitFor, Await.task]

theorem displays_finish (h : e.state ∈ underway) {finalState : AutomationState}
    (hfinal : finalState ∈ [AutomationState.stopped, .complete]) (error : Option AutomationError) :
    Displays (e.finish options finalState error) := by
  have hstate : ({ e with currentTrainee := none }.transition finalState).state = finalState :=
    transition_underway h (List.mem_cons_of_mem _ hfinal)
  have hshown : (e.finish options finalState error).state = finalState := by
    unfold finish
    cases error <;> exact (saveCheckpoint_state .finished).trans hstate
  have hfinishes : Finishes options e _ (e.finish options finalState error) :=
    finishes_finish finalState error
  have hawait := hfinishes.await
  refine ⟨?_, ?_⟩
  · rw [hshown, hawait]
    exact hfinal
  · intro task htask
    rw [hawait] at htask
    cases htask

theorem displays_leave (h : e.state ∈ underway) : Displays (e.leave options) := by
  unfold leave
  split
  · exact displays_finish (e := e.drainQueueAsSkipped _) h List.mem_cons_self none
  · exact displays_finish h (List.mem_cons_of_mem _ List.mem_cons_self) none

/-- Waiting for nothing that is a trainee's. -/
theorem displays_waitFor {await : Await} (h : e.state ∈ underway)
    (hawait : await ∈ [Await.pausing, .suspended, .resuming, .interTaskDelay]) :
    Displays (e.waitFor await) := by
  simp only [List.mem_cons, List.not_mem_nil, or_false] at hawait
  rcases hawait with rfl | rfl | rfl | rfl <;> exact ⟨h, by simp [waitFor, Await.task]⟩

theorem displays_loop (h : e.state ∈ underway) : Displays (e.loop options) := by
  unfold loop
  split
  · unfold waitWhilePaused
    split
    · refine displays_waitFor ?_ (by simp)
      rw [saveCheckpoint_state]
      exact transition_mem_underway h (by simp [underway])
    · exact displays_waitFor h (by simp)
  · exact displays_leave h

theorem displays_prepareSubmission {task : BatchTask} (h : e.state ∈ underway)
    (htrainee : e.currentTrainee = some task.trainee) (attempt : Nat) :
    Displays (e.prepareSubmission task attempt) := by
  unfold prepareSubmission
  dsimp only
  split
  · refine ⟨transition_mem_underway h (by simp [underway]), ?_⟩
    simp [waitFor, Await.task, htrainee]
  · exact ⟨h, by simp [waitFor, Await.task, htrainee]⟩

theorem displays_prepareFailed {task : BatchTask} (h : e.state ∈ underway)
    (htrainee : e.currentTrainee = some task.trainee) (attempt : Nat) (error : AutomationError) :
    Displays (e.prepareFailed options task attempt error) := by
  unfold prepareFailed
  split
  · exact ⟨h, by simp [waitFor, Await.task, htrainee]⟩
  · exact displays_record h _

/-- At a trainee's form the state is the trainee's. -/
theorem displays_form {task : BatchTask} {await : Await} {next : AutomationState}
    (h : e.state = .loadingTrainee) (htrainee : e.currentTrainee = some task.trainee)
    (hnext : next ∈ [AutomationState.fillingForm, .validating, .submitting, .verifying])
    (hstates : statesAt await = [.loadingTrainee]) (htask : await.task = some task) :
    Displays ((e.transition next).waitFor await) := by
  refine ⟨?_, ?_⟩
  · show (e.transition next).state ∈ statesAt await
    rw [hstates, transition_form h hnext]
    exact List.mem_singleton_self _
  · intro other hother
    obtain rfl : other = task := by
      simpa [waitFor, htask, eq_comm] using hother
    exact (transition_currentTrainee next).trans htrainee

/-- Before the run is over, the state is one of a run. -/
theorem Displays.underway (h : Displays e) (hover : e.await.over = false) : e.state ∈ underway := by
  have hstate := h.state
  have hall : statesAt e.await ⊆ AutomationEngine.underway := by
    cases hawait : e.await with
    | nothing => simp [hawait, Await.over] at hover
    | finishing result => simp [hawait, Await.over] at hover
    | preparing task attempt operation =>
        cases operation <;> simp [statesAt, AutomationEngine.underway]
    | _ => simp [statesAt, AutomationEngine.underway]
  exact hall hstate

theorem displays_prepares (h : Displays e) {task : BatchTask} {attempt : Nat}
    {operation next : Preparation} {answer : Answer}
    (hawait : e.await = .preparing task attempt operation) (hleads : Leads operation answer next) :
    Displays (e.prepares task attempt next) := by
  have htrainee := h.trainee task (by rw [hawait]; rfl)
  have hunderway := h.underway (by rw [hawait]; rfl)
  have hstate := h.state
  rw [hawait] at hstate
  have hown : ∀ await : Await, await.task = some task →
      ∀ other, await.task = some other → some task.trainee = some other.trainee := by
    intro await htask other hother
    rw [htask, Option.some.injEq] at hother
    rw [hother]
  cases hleads with
  | portal =>
      refine ⟨?_, fun other hother => ?_⟩
      · exact List.mem_singleton.2 (transition_underway hunderway List.mem_cons_self)
      · exact ((transition_currentTrainee _).trans htrainee).trans (hown _ rfl other hother)
  | ready => exact ⟨hstate, fun other hother => htrainee.trans (hown _ rfl other hother)⟩
  | unready => exact ⟨hstate, fun other hother => htrainee.trans (hown _ rfl other hother)⟩
  | initialized => exact ⟨hstate, fun other hother => htrainee.trans (hown _ rfl other hother)⟩
  | trainee => exact displays_form (List.mem_singleton.1 hstate) htrainee (by simp) rfl rfl
  | filled => exact displays_form (List.mem_singleton.1 hstate) htrainee (by simp) rfl rfl

theorem Displays.prepared (h : Displays e) {task : BatchTask} {attempt : Nat}
    {operation : Preparation} {answer : Answer}
    (hawait : e.await = .preparing task attempt operation)
    (hstep : e.prepared options task attempt operation answer = some e') : Displays e' := by
  have htrainee := h.trainee task (by rw [hawait]; rfl)
  have hunderway := h.underway (by rw [hawait]; rfl)
  have hstate := h.state
  rw [hawait] at hstate
  unfold AutomationEngine.prepared at hstep
  split at hstep <;> first
    | cases hstep; exact displays_prepareFailed hunderway htrainee attempt _
    | cases hstep; exact displays_prepares h hawait (by constructor)
    | cases hstep; exact displays_form (List.mem_singleton.1 hstate) htrainee (by simp) rfl rfl
    | cases hstep

theorem Displays.answered (h : Displays e) {answer : Answer}
    (hstep : e.answered options answer = some e') : Displays e' := by
  have hstate := h.state
  unfold AutomationEngine.answered at hstep
  split at hstep
  · next hawait =>
      have hunderway := h.underway (by rw [hawait]; rfl)
      split at hstep <;> cases hstep
      · exact displays_loop hunderway
      · exact displays_finish hunderway List.mem_cons_self _
      · exact displays_finish hunderway List.mem_cons_self _
  · next hawait => exact h.prepared hawait hstep
  · next task attempts hawait =>
      have htrainee := h.trainee task (by rw [hawait]; rfl)
      have hunderway := h.underway (by rw [hawait]; rfl)
      rw [hawait] at hstate
      unfold submitted at hstep
      split at hstep <;> cases hstep
      · exact displays_form (List.mem_singleton.1 hstate) htrainee (by simp) rfl rfl
      · exact displays_record hunderway _
      · exact displays_finish hunderway List.mem_cons_self _
  · next task attempts attempt hawait =>
      have htrainee := h.trainee task (by rw [hawait]; rfl)
      have hunderway := h.underway (by rw [hawait]; rfl)
      rw [hawait] at hstate
      unfold verified confirmFailed at hstep
      split at hstep <;> cases hstep
      · exact displays_record hunderway _
      · exact displays_record hunderway _
      · exact displays_record hunderway _
      all_goals
        split
        · exact ⟨hstate, by simp [waitFor, Await.task, htrainee]⟩
        · exact displays_record hunderway _
  · cases hstep

theorem Displays.written (h : Displays e) (hstep : e.written options = some e') : Displays e' := by
  have hstate := h.state
  unfold AutomationEngine.written at hstep
  split at hstep
  · next hawait =>
      cases hstep
      have hshown : Displays (e.waitFor .suspended) :=
        displays_waitFor (h.underway (by rw [hawait]; rfl)) (by simp)
      exact ⟨hshown.state, hshown.trainee⟩
  · next row hawait =>
      cases hstep
      have hunderway := h.underway (by rw [hawait]; rfl)
      unfold recorded
      split
      · exact displays_leave (e := e.drainQueueAsSkipped _) hunderway
      · split
        · exact displays_waitFor hunderway (by simp)
        · exact displays_loop hunderway
  · next result hawait =>
      cases hstep
      rw [hawait] at hstate
      refine ⟨?_, by simp [finished, waitFor, Await.task]⟩
      have hkept : (e.finished result).state = e.state := by
        rcases releasePause_cases (e := { e with running := false, pauseRequested := false }) with
          hsame | hsame <;> simp [finished, waitFor, hsame]
      rw [hkept]
      exact List.mem_cons_of_mem _ hstate
  · cases hstep

theorem Displays.elapsed (h : Displays e) (hstep : e.elapsed options = some e') : Displays e' := by
  have hstate := h.state
  unfold AutomationEngine.elapsed at hstep
  split at hstep
  · next task attempt hawait =>
      cases hstep
      exact displays_prepareSubmission (h.underway (by rw [hawait]; rfl))
        (h.trainee task (by rw [hawait]; rfl)) _
  · next task attempts attempt hawait =>
      cases hstep
      rw [hawait] at hstate
      exact displays_form (List.mem_singleton.1 hstate) (h.trainee task (by rw [hawait]; rfl))
        (by simp) rfl rfl
  · next hawait =>
      cases hstep
      exact displays_loop (h.underway (by rw [hawait]; rfl))
  · cases hstep

/-- A call changes nothing that is shown, but for a stop when there is nothing to stop. -/
theorem called_shown (call : Call) : (e.called call).currentTrainee = e.currentTrainee ∧
    ((e.called call).state = e.state ∨ e.running = false ∧ (e.called call).await = e.await ∧
      (e.called call).state = .idle) := by
  cases call with
  | pause =>
      simp only [called, pause]
      split <;> exact ⟨rfl, .inl rfl⟩
  | resume =>
      simp only [called, resume, releasePause]
      split
      · split <;> exact ⟨rfl, .inl rfl⟩
      · exact ⟨rfl, .inl rfl⟩
  | stop =>
      simp only [called, AutomationEngine.stop, releasePause]
      split
      · split <;> exact ⟨rfl, .inl rfl⟩
      · next hidle => exact ⟨rfl, .inr ⟨by simpa using hidle, rfl, rfl⟩⟩

theorem Displays.called (h : Displays e) (hsound : Sound e) (call : Call) :
    Displays { e.called call with calls := e.calls ++ [call] } := by
  rcases called_shown (e := e) call with ⟨htrainee, hstate⟩
  rcases (called_cases (e := e) call).2 with hsame | ⟨hsignal, hwoken⟩
  · refine ⟨?_, fun task htask => htrainee.trans (h.trainee task (hsame ▸ htask))⟩
    show (e.called call).state ∈ statesAt (e.called call).await
    rw [hsame]
    rcases hstate with hstate | ⟨hidle, -, hstate⟩
    · exact hstate ▸ h.state
    · have hnothing : e.await = .nothing := by simpa [hidle] using hsound.running
      rw [hstate, hnothing]
      exact List.mem_cons_self
  · have hasleep := hsound.signal.1 hsignal
    refine ⟨?_, fun task htask => by simp [hwoken, Await.task] at htask⟩
    show (e.called call).state ∈ statesAt (e.called call).await
    rw [hwoken]
    rcases hstate with hstate | ⟨-, hsame, -⟩
    · exact hstate ▸ h.underway (by rw [hasleep]; rfl)
    · simp [hwoken, hasleep] at hsame

theorem Displays.step (h : Displays e) (hsound : Sound e)
    (hstep : e.step options input = some e') : Displays e' := by
  cases input with
  | addTask task =>
      cases hstep
      exact ⟨h.state, h.trainee⟩
  | clearQueue =>
      cases hstep
      exact ⟨h.state, h.trainee⟩
  | run =>
      cases hstep
      unfold run
      split
      · exact ⟨h.state, h.trainee⟩
      · exact ⟨List.mem_singleton_self _, by simp [waitFor, Await.task]⟩
  | call call =>
      cases hstep
      exact h.called hsound call
  | answered answer => exact h.answered hstep
  | written => exact h.written hstep
  | elapsed => exact h.elapsed hstep
  | continued =>
      simp only [AutomationEngine.step] at hstep
      split at hstep
      · next hawait =>
          cases hstep
          have hunderway := h.underway (by rw [hawait]; rfl)
          unfold resumed
          split
          · exact displays_leave hunderway
          · split
            · next task queue _ =>
                let begun : AutomationEngine :=
                  { e with queue := queue, currentTrainee := some task.payload.trainee }
                unfold processTask
                dsimp only
                split
                · exact displays_record (e := begun) hunderway _
                · exact displays_prepareSubmission (e := begun) hunderway rfl 1
            · exact displays_leave hunderway
      · cases hstep

end Display

end AutomationEngine

namespace Journal

open AutomationEngine (Displays)

variable {options : AutomationEngineOptions} {j : Journal} {inputs : List EngineInput}

theorem displays_of_run (hrun : Machine.run (step options) {} inputs = some j) :
    Displays j.engine := by
  refine (Machine.Reaches.invariant (P := fun j => Kept options j ∧ Displays j.engine) ?_
    ⟨kept_start options, ⟨List.mem_cons_self, by simp [Await.task]⟩⟩ ⟨inputs, hrun⟩).2
  rintro j input j' ⟨hkept, hdisplays⟩ hstep
  refine ⟨hkept.step hstep, ?_⟩
  rcases Option.map_eq_some_iff.1 hstep with ⟨e, hengine, rfl⟩
  rw [engine_enter]
  exact hdisplays.step hkept.sound hengine

/-- While the portal is asked for anything but whether it is there, the state is `loading_trainee`
and the name is that of the trainee that is asked about; a form is never shown. -/
theorem forms_are_never_shown (hrun : Machine.run (step options) {} inputs = some j) :
    j.engine.state ∉ [AutomationState.openingForm, .fillingForm, .validating, .submitting,
        .verifying] ∧
      ∀ task, j.engine.await.task = some task →
        j.engine.getProgress.currentTraineeName = some task.trainee.name ∧
          ((∃ call, j.engine.await.call = some call ∧ call ≠ .preparing .isPortalPage) →
            j.engine.getProgress.state = "loading_trainee") := by
  have hdisplays := displays_of_run hrun
  refine ⟨?_, fun task htask => ⟨?_, ?_⟩⟩
  · have hnone : ∀ await : Await, ∀ state ∈ AutomationEngine.statesAt await,
        state ∉ [AutomationState.openingForm, .fillingForm, .validating, .submitting,
          .verifying] := by
      intro await
      cases await with
      | preparing task attempt operation =>
          cases operation <;> simp [AutomationEngine.statesAt, AutomationEngine.underway]
      | _ => simp [AutomationEngine.statesAt, AutomationEngine.underway]
    exact hnone _ _ hdisplays.state
  · simp [AutomationEngine.getProgress, hdisplays.trainee task htask]
  · rintro ⟨call, hcall, hform⟩
    have hstate := hdisplays.state
    have hloading : j.engine.state = .loadingTrainee := by
      cases hawait : j.engine.await with
      | preparing task attempt operation =>
          rw [hawait] at hstate hcall
          cases operation with
          | isPortalPage => exact absurd (Option.some.inj hcall).symm hform
          | _ => exact List.mem_singleton.1 hstate
      | submitting =>
          rw [hawait] at hstate
          exact List.mem_singleton.1 hstate
      | verifying =>
          rw [hawait] at hstate
          exact List.mem_singleton.1 hstate
      | _ => simp [hawait, Await.call] at hcall
    simp [AutomationEngine.getProgress, hloading, AutomationState.text]

theorem submission_is_not_shown :
    stoppedEarlyJournal.engine.getProgress.state = "loading_trainee" := by
  have hrun : Machine.run (step {}) {} stoppedEarly = some stoppedEarlyJournal := rfl
  exact ((forms_are_never_shown hrun).2 AutomationEngine.adaTask rfl).2 ⟨_, rfl, by decide⟩

/-- As long as the queue is not cleared under a run, the progress of a run adds up: whoever has been
given to it is processed, remains, is at the portal, or was lost when the run broke down. -/
theorem progress_adds_up (hrun : Machine.run (step options) {} inputs = some j)
    (hclear : Machine.EachStep (step options) ClearsIdle {} inputs)
    (hrunning : j.engine.running = true) :
    let progress := j.engine.getProgress
    progress.processed =
        progress.successful + progress.failed + progress.skipped + progress.indeterminate ∧
      progress.total = progress.processed + progress.remaining +
        (j.engine.await.task.toList.length + j.lost.length : ℕ) ∧
      (j.lost ≠ [] → j.engine.await.over = true) := by
  have hcovered := Covered.of_run hrun hclear
  have haccounted := hcovered.invariant.accounted
  have hunderway := hcovered.invariant.kept.sound.running.1 hrunning
  refine ⟨?_, ?_, ?_⟩
  · have htotal := total_buildBatchReport j.engine.results
    simp only [AutomationEngine.getProgress, AutomationEngine.countOutcome]
    exact_mod_cast htotal.symm
  · have hnames := congrArg List.length (haccounted.names hcovered.invariant.kept)
    have hcount := hcovered.total hunderway
    simp only [List.length_append, List.length_map] at hnames
    have hsum : j.engine.totalQueued = j.engine.results.length + j.engine.queue.tasks.length +
        (j.engine.await.task.toList.length + j.lost.length) := by
      omega
    simp only [AutomationEngine.getProgress]
    exact_mod_cast hsum
  · intro hlost
    by_contra hover
    exact hlost (haccounted.lost (by simpa using hover))

theorem early_stop_adds_up :
    (stoppedEarlyJournal.engine.getProgress.total : ℚ) =
      stoppedEarlyJournal.engine.getProgress.processed +
        stoppedEarlyJournal.engine.getProgress.remaining +
          (stoppedEarlyJournal.engine.await.task.toList.length +
            stoppedEarlyJournal.lost.length : ℕ) := by
  have hrun : Machine.run (step {}) {} stoppedEarly = some stoppedEarlyJournal := rfl
  exact (progress_adds_up hrun (clearsIdle_of_notMem (by decide)) rfl).2.1

end Journal

end Extension

end DsspBot

import DsspBot.Engine.Basic

/-!
# Step — what one step of a run can do

`Batch.Step` lists the branches of `Batch.step` with their guards. Every invariant of a run is
proved by cases on it, so the control flow of the source is taken apart once, in
`Batch.step_cases`.
-/

namespace DsspBot

/-! ## What the small operations leave alone -/

/-- The checkpoint an event hands to the writer, and whether it landed. -/
def EngineEvent.written : EngineEvent → Option (BatchCheckpoint × Bool)
  | .wrote cp landed => some (cp, landed)
  | _ => none

theorem filterMap_snoc {α β : Type} (f : α → Option β) (xs : List α) (x : α) :
    (xs ++ [x]).filterMap f = xs.filterMap f ++ (f x).toList := by
  rw [List.filterMap_append]
  cases hx : f x <;> simp [hx]

namespace Engine

variable (e : Engine)

/-- Every checkpoint handed to the writer, in order, and whether the write succeeded. -/
def writes : List (BatchCheckpoint × Bool) :=
  e.log.filterMap EngineEvent.written

variable {e} in
/-- One more event of the log is at most one more write. -/
theorem writes_of_log {e' : Engine} {ev : EngineEvent} (h : e'.log = e.log ++ [ev]) :
    e'.writes = e.writes ++ ev.written.toList := by
  unfold writes
  rw [h, filterMap_snoc]

@[simp] theorem emit_pc (ev : EngineEvent) : (e.emit ev).pc = e.pc := rfl
@[simp] theorem emit_machine (ev : EngineEvent) : (e.emit ev).machine = e.machine := rfl
@[simp] theorem emit_control (ev : EngineEvent) : (e.emit ev).control = e.control := rfl
@[simp] theorem emit_results (ev : EngineEvent) : (e.emit ev).results = e.results := rfl
@[simp] theorem emit_queue (ev : EngineEvent) : (e.emit ev).queue = e.queue := rfl
@[simp] theorem emit_aborted (ev : EngineEvent) : (e.emit ev).aborted = e.aborted := rfl
@[simp] theorem emit_store (ev : EngineEvent) : (e.emit ev).store = e.store := rfl
@[simp] theorem emit_log (ev : EngineEvent) : (e.emit ev).log = e.log ++ [ev] := rfl

/-- A transition moves the machine along a legal edge or not at all, and is logged either way. -/
theorem transition_eq (target : AutomationState) :
    ∃ machine legal, e.transition target =
      { e with machine := machine, log := e.log ++ [.moved e.machine target legal] } := by
  unfold transition
  split
  · exact ⟨_, _, rfl⟩
  · exact ⟨_, _, rfl⟩

@[simp] theorem transition_pc (t : AutomationState) : (e.transition t).pc = e.pc := by
  rcases e.transition_eq t with ⟨machine, legal, h⟩
  simp [h]

@[simp] theorem transition_control (t : AutomationState) :
    (e.transition t).control = e.control := by
  rcases e.transition_eq t with ⟨machine, legal, h⟩
  simp [h]

@[simp] theorem transition_results (t : AutomationState) :
    (e.transition t).results = e.results := by
  rcases e.transition_eq t with ⟨machine, legal, h⟩
  simp [h]

@[simp] theorem transition_queue (t : AutomationState) : (e.transition t).queue = e.queue := by
  rcases e.transition_eq t with ⟨machine, legal, h⟩
  simp [h]

@[simp] theorem transition_aborted (t : AutomationState) :
    (e.transition t).aborted = e.aborted := by
  rcases e.transition_eq t with ⟨machine, legal, h⟩
  simp [h]

@[simp] theorem transition_store (t : AutomationState) : (e.transition t).store = e.store := by
  rcases e.transition_eq t with ⟨machine, legal, h⟩
  simp [h]

/-- The log of a transition, seen through any projection that ignores machine moves. -/
theorem transition_log_filterMap {α : Type} (f : EngineEvent → Option α)
    (hf : ∀ s t legal, f (.moved s t legal) = none) (t : AutomationState) :
    (e.transition t).log.filterMap f = e.log.filterMap f := by
  rcases e.transition_eq t with ⟨machine, legal, h⟩
  simp [h, hf]

@[simp] theorem transition_writes (t : AutomationState) : (e.transition t).writes = e.writes :=
  e.transition_log_filterMap _ (fun _ _ _ => rfl) t

theorem transition_log (t : AutomationState) :
    ∃ legal, (e.transition t).log = e.log ++ [.moved e.machine t legal] := by
  rcases e.transition_eq t with ⟨machine, legal, h⟩
  exact ⟨legal, by rw [h]⟩

/-! ### Leaving the loop and settling -/

@[simp] theorem abandon_pc (reason : String) : (e.abandon reason).pc = .completion := rfl
@[simp] theorem abandon_aborted (reason : String) : (e.abandon reason).aborted = true := rfl

@[simp] theorem abandon_control (reason : String) : (e.abandon reason).control = e.control := by
  simp [abandon, drainSkipped]

@[simp] theorem abandon_results (reason : String) :
    (e.abandon reason).results = e.results ++ e.queue.tasks.map (skippedRow reason) := by
  simp [abandon, drainSkipped]

@[simp] theorem abandon_queue (reason : String) : (e.abandon reason).queue = .new := by
  simp [abandon, drainSkipped]

@[simp] theorem abandon_store (reason : String) : (e.abandon reason).store = e.store := by
  simp [abandon, drainSkipped]

theorem abandon_log_filterMap {α : Type} (f : EngineEvent → Option α)
    (hf : ∀ s t legal, f (.moved s t legal) = none) (reason : String) :
    (e.abandon reason).log.filterMap f = e.log.filterMap f :=
  (e.drainSkipped reason).transition_log_filterMap f hf .stopped

@[simp] theorem abandon_writes (reason : String) : (e.abandon reason).writes = e.writes :=
  e.abandon_log_filterMap _ (fun _ _ _ => rfl) reason

/-- Neither writes, nor sends: machine moves only. -/
theorem abandon_log (reason : String) :
    ∃ s t legal, (e.abandon reason).log = e.log ++ [.moved s t legal] := by
  rcases (e.drainSkipped reason).transition_eq .stopped with ⟨machine, legal, h⟩
  refine ⟨e.machine, .stopped, legal, ?_⟩
  unfold abandon
  rw [h]
  rfl

/-- Closing sets `closed`, moves the machine, and touches nothing else. -/
theorem close_eq (stopped : Bool) :
    ∃ machine moves, e.close stopped =
        { e with
          pc := .writing (.terminal stopped)
          machine := machine
          control := e.control.map BatchControl.close
          log := e.log ++ moves } ∧
      ∀ ev ∈ moves, ∃ s t legal, ev = .moved s t legal := by
  unfold close
  -- A stopped machine is left stopped: nothing is logged then.
  by_cases hmachine : e.machine = .stopped
  · exact ⟨e.machine, [], by simp [hmachine], by simp⟩
  · simp only [hmachine, if_false]
    rcases transition_eq { e with control := e.control.map BatchControl.close } .complete with
      ⟨machine, legal, h⟩
    refine ⟨machine, [.moved e.machine .complete legal], by rw [h], ?_⟩
    intro ev hev
    exact ⟨_, _, _, List.mem_singleton.1 hev⟩

@[simp] theorem close_pc (stopped : Bool) :
    (e.close stopped).pc = .writing (.terminal stopped) := rfl

@[simp] theorem close_control (stopped : Bool) :
    (e.close stopped).control = e.control.map BatchControl.close := by
  rcases e.close_eq stopped with ⟨machine, moves, h, -⟩
  simp [h]

@[simp] theorem close_results (stopped : Bool) : (e.close stopped).results = e.results := by
  rcases e.close_eq stopped with ⟨machine, moves, h, -⟩
  simp [h]

@[simp] theorem close_queue (stopped : Bool) : (e.close stopped).queue = e.queue := by
  rcases e.close_eq stopped with ⟨machine, moves, h, -⟩
  simp [h]

@[simp] theorem close_aborted (stopped : Bool) : (e.close stopped).aborted = e.aborted := by
  rcases e.close_eq stopped with ⟨machine, moves, h, -⟩
  simp [h]

@[simp] theorem close_store (stopped : Bool) : (e.close stopped).store = e.store := by
  rcases e.close_eq stopped with ⟨machine, moves, h, -⟩
  simp [h]

theorem close_log_filterMap {α : Type} (f : EngineEvent → Option α)
    (hf : ∀ s t legal, f (.moved s t legal) = none) (stopped : Bool) :
    (e.close stopped).log.filterMap f = e.log.filterMap f := by
  rcases e.close_eq stopped with ⟨machine, moves, h, hmoves⟩
  have hnone : moves.filterMap f = [] := by
    rw [List.filterMap_eq_nil_iff]
    intro ev hev
    rcases hmoves ev hev with ⟨s, t, legal, rfl⟩
    exact hf s t legal
  simp [h, hnone]

@[simp] theorem close_writes (stopped : Bool) : (e.close stopped).writes = e.writes :=
  e.close_log_filterMap _ (fun _ _ _ => rfl) stopped

/-! ### What the log gains -/

/-- The log was only added to, and only by events of a kind. -/
def Adds (Kind : EngineEvent → Prop) (before after : Engine) : Prop :=
  ∃ more, after.log = before.log ++ more ∧ ∀ ev ∈ more, Kind ev

namespace Adds

variable {Kind Kind' : EngineEvent → Prop} {e e' e'' : Engine}

theorem nothing (h : e'.log = e.log) : Adds Kind e e' :=
  ⟨[], by simpa using h, by simp⟩

theorem event {ev : EngineEvent} (h : e'.log = e.log ++ [ev]) (hev : Kind ev) : Adds Kind e e' :=
  ⟨[ev], h, by simpa using hev⟩

theorem trans (h : Adds Kind e e') (h' : Adds Kind e' e'') : Adds Kind e e'' := by
  rcases h with ⟨more, hlog, hkind⟩
  rcases h' with ⟨more', hlog', hkind'⟩
  refine ⟨more ++ more', by simp [hlog', hlog], ?_⟩
  intro ev hev
  rcases List.mem_append.1 hev with hev | hev
  · exact hkind ev hev
  · exact hkind' ev hev

theorem mono (h : Adds Kind e e') (hkind : ∀ ev, Kind ev → Kind' ev) : Adds Kind' e e' := by
  rcases h with ⟨more, hlog, hmore⟩
  exact ⟨more, hlog, fun ev hev => hkind ev (hmore ev hev)⟩

section Moves

variable (hmoved : ∀ s t legal, Kind (.moved s t legal))
include hmoved

theorem transition (e : Engine) (target : AutomationState) : Adds Kind e (e.transition target) := by
  rcases e.transition_log target with ⟨legal, hlog⟩
  exact event hlog (hmoved _ _ _)

theorem abandon (e : Engine) (reason : String) : Adds Kind e (e.abandon reason) := by
  rcases e.abandon_log reason with ⟨s, t, legal, hlog⟩
  exact event hlog (hmoved s t legal)

theorem close (e : Engine) (stopped : Bool) : Adds Kind e (e.close stopped) := by
  rcases e.close_eq stopped with ⟨machine, moves, hclose, hmoves⟩
  refine ⟨moves, by simp [hclose], ?_⟩
  intro ev hev
  rcases hmoves ev hev with ⟨s, t, legal, rfl⟩
  exact hmoved s t legal

end Moves

end Adds

end Engine

/-! ## Controllers -/

namespace BatchControl

/-- An accepted request found the controller open, and the stop latch never lets go. -/
theorem request_ok {control control' : BatchControl} {c : ControlRequest}
    (h : control.request c = .ok control') :
    control.closed = false ∧ control'.closed = false ∧
      (control.stopRequested = true → c = .stop) ∧
      control'.stopRequested = (control.stopRequested || decide (c = .stop)) := by
  cases c <;> simp only [request, setPause] at h <;> split at h <;> (try split at h) <;> cases h <;>
    simp_all

@[simp] theorem close_stopRequested (control : BatchControl) :
    control.close.stopRequested = control.stopRequested := rfl

@[simp] theorem close_closed (control : BatchControl) : control.close.closed = true := rfl

end BatchControl

@[simp] theorem any_stopRequested_close (control : Option BatchControl) :
    (control.map BatchControl.close).any (·.stopRequested) = control.any (·.stopRequested) := by
  cases control <;> rfl

/-! ## The branches of a step -/

namespace Batch

variable (b : Batch)

/-- One constructor for each branch, under its guards. -/
inductive Step (e : Engine) : Engine → Prop
  | accepted {c : ControlRequest} {control control' : BatchControl} (hlock : e.lockHeld = false)
      (hcontrol : e.control = some control) (h : control.request c = .ok control') :
      Step e { e with control := some control', log := e.log ++ [.controlled c true] }
  | refused {c : ControlRequest} {control : BatchControl} {text : String}
      (hlock : e.lockHeld = false) (hcontrol : e.control = some control)
      (h : control.request c = .error text) : Step e (e.emit (.controlled c false))
  | ensure {id : String} (hpc : e.pc = .ensureSession) :
      Step e { e.emit (.requested (.ensureSession id)) with pc := .ensuring id }
  | unensured {id text : String} (hpc : e.pc = .ensuring id) :
      Step e { e with pc := .returned (.error text) }
  | ensured {id : String} (hpc : e.pc = .ensuring id) :
      Step e { e with queue := { tasks := b.tasks }, pc := .loopHead }
  | emptied (hpc : e.pc = .loopHead) (hqueue : e.queue.tasks = []) :
      Step e { e with pc := .completion }
  | boundaryStopped (hpc : e.pc = .loopHead ∨ e.pc = .paused) (hstop : e.stopRequested = true) :
      Step e { e with pc := .writing .boundaryStop }
  | pausing (hpc : e.pc = .loopHead) (hqueue : e.queue.tasks ≠ [])
      (hstop : e.stopRequested = false) (hpause : e.pauseRequested = true) :
      Step e { e with pc := .writing .pause }
  | proceeding (hpc : e.pc = .loopHead) (hqueue : e.queue.tasks ≠ [])
      (hstop : e.stopRequested = false) (hpause : e.pauseRequested = false) :
      Step e { e with pc := .dequeue }
  | resuming (hpc : e.pc = .paused) (hstop : e.stopRequested = false)
      (hpause : e.pauseRequested = false) : Step e { e with pc := .writing .resume }
  | rechecked (hpc : e.pc = .dequeue) (hstop : e.stopRequested = true) :
      Step e { e with pc := .loopHead }
  | dequeued {task : Task} {queue : TaskQueue TraineeRef} (hpc : e.pc = .dequeue)
      (hstop : e.stopRequested = false) (hqueue : e.queue.tasks = task :: queue.tasks) :
      Step e { e with queue := queue, pc := .writing (.inFlight task) }
  | landed {site : WriteSite} {now : String} (hpc : e.pc = .writing site) :
      Step e (writeLanded
        { e with
          store := e.store.save (b.snapshot e site now) (.ok ())
          log := e.log ++ [.wrote (b.snapshot e site now) true] } site)
  | failed {site : WriteSite} {now text : String} (hpc : e.pc = .writing site) :
      Step e (writeFailed
        { e with log := e.log ++ [.wrote (b.snapshot e site now) false] } text site)
  | entered {task : Task} {id : String} (hpc : e.pc = .entering task) :
      Step e (e.entered task id)
  | withdrawn {task : Task} {a : Attempt} (hpc : e.pc = .admission task a)
      (hstop : e.stopRequested = true) :
      Step e (e.settleRow (a.retryResult.getD (skippedRow OPERATOR_STOP task)))
  | admitted {task : Task} {a : Attempt} (hpc : e.pc = .admission task a)
      (hstop : e.stopRequested = false) :
      Step e
        { e.emit (.admitted task) with
          pc := .submitting task { a with attempts := a.attempts + 1 } }
  | submitted {task : Task} {a : Attempt} (hpc : e.pc = .submitting task a) :
      Step e (b.submit e task a)
  | lost {task : Task} {a : Attempt} {text : String} (hpc : e.pc = .awaiting task a) :
      Step e ((e.emit (.replied task (.error text))).settleRow
        (transportRow task a.attempts text))
  | settled {task : Task} {a : Attempt} {resp : Response} {outcome : Outcome}
      {code message : Option String} (hpc : e.pc = .awaiting task a)
      (hsettle :
        (settleSubmit resp = .success ∧ outcome = .success ∧ code = none) ∨
        (∃ c m, settleSubmit resp = .failed c m ∧ outcome = .failed ∧ code = some c) ∨
        (∃ m, settleSubmit resp = .indeterminate m ∧ outcome = .indeterminate ∧
          code = resp.errorCode) ∨
        (∃ c m, settleSubmit resp = .retry c m ∧ b.policy.maxAttempts ≤ a.attempts ∧
          outcome = .failed ∧ code = some c)) :
      Step e (((e.emit (.replied task (.ok resp))).transition .verifying).settleRow
        (replyRow task a.attempts resp outcome code message))
  | retrying {task : Task} {a : Attempt} {resp : Response} {code text message : String}
      (hpc : e.pc = .awaiting task a) (hsettle : settleSubmit resp = .retry code text)
      (hattempts : a.attempts < b.policy.maxAttempts) :
      Step e
        { (e.emit (.replied task (.ok resp))).transition .retrying with
          pc := .backoff task
            { a with
              retryResult :=
                some (replyRow task a.attempts resp .failed (some code) (some message)) } }
  | slept {task : Task} {a : Attempt} (hpc : e.pc = .backoff task a) :
      Step e (e.slept b.policy task a)
  | abortStopped {last : TrainingResult} (hpc : e.pc = .abortCheck)
      (hlast : e.results.getLast? = some last) (habort : shouldAbort last = true)
      (hstop : e.stopRequested = true) : Step e { e with pc := .writing .abortStop }
  | aborted {last : TrainingResult} (hpc : e.pc = .abortCheck)
      (hlast : e.results.getLast? = some last) (habort : shouldAbort last = true)
      (hstop : e.stopRequested = false) : Step e (e.abandon (abortReason last))
  | continued {last : TrainingResult} (hpc : e.pc = .abortCheck)
      (hlast : e.results.getLast? = some last) (habort : shouldAbort last = false) :
      Step e { e with pc := .loopHead }
  | lateStopped (hpc : e.pc = .completion) (hstop : e.stopRequested = true)
      (haborted : e.aborted = false) : Step e { e with pc := .writing .lateStop }
  | closing (hpc : e.pc = .completion) (hstop : e.stopRequested = true → e.aborted = true) :
      Step e (e.close e.stopRequested)
  | reported {now : String} (hpc : e.pc = .reporting) : Step e (b.reported e now)

variable {b : Batch} {e e' : Engine}

theorem step_request {c : ControlRequest} (h : e.requested c = some e') : b.Step e e' := by
  unfold Engine.requested at h
  split at h
  · cases h
  · next hlock =>
      rcases Option.map_eq_some_iff.1 h with ⟨control, hcontrol, rfl⟩
      have hlock' : e.lockHeld = false := by simpa using hlock
      split
      · next control' hrequest => exact .accepted hlock' hcontrol hrequest
      · next text hrequest => exact .refused hlock' hcontrol hrequest

theorem step_sessionEnsured {id : String} {reply : Reply} (hpc : e.pc = .ensuring id) :
    b.Step e (b.sessionEnsured e reply) := by
  unfold sessionEnsured
  split
  · exact .unensured hpc
  · split
    · -- The queue filled entry by entry holds the batch's tasks.
      have hqueue :
          ((dedupe b.trainees).foldl (fun q entry => q.enqueue entry.1 entry.2) TaskQueue.new) =
            { tasks := b.tasks } := by
        apply TaskQueue.ext
        exact TaskQueue.tasks_foldl_enqueue TaskQueue.new (dedupe b.trainees)
      rw [hqueue]
      exact .ensured hpc
    · exact .unensured hpc

theorem step_controlBoundary (hpc : e.pc = .loopHead) : b.Step e e.controlBoundary := by
  unfold Engine.controlBoundary
  split
  · next hempty => exact .emptied hpc (by simpa using hempty)
  · next hempty =>
      have hqueue : e.queue.tasks ≠ [] := by simpa using hempty
      split
      · next hstop => exact .boundaryStopped (Or.inl hpc) hstop
      · next hstop =>
          have hstop' : e.stopRequested = false := by simpa using hstop
          split
          · next hpause => exact .pausing hpc hqueue hstop' hpause
          · next hpause => exact .proceeding hpc hqueue hstop' (by simpa using hpause)

theorem step_woken (hpc : e.pc = .paused) (h : e.woken = some e') : b.Step e e' := by
  unfold Engine.woken at h
  split at h
  · next hstop =>
      cases h
      exact .boundaryStopped (Or.inr hpc) hstop
  · next hstop =>
      split at h
      · cases h
      · next hpause =>
          cases h
          exact .resuming hpc (by simpa using hstop) (by simpa using hpause)

theorem step_dequeued (hpc : e.pc = .dequeue) (h : e.dequeued = some e') : b.Step e e' := by
  unfold Engine.dequeued at h
  split at h
  · next hstop =>
      cases h
      exact .rechecked hpc hstop
  · next hstop =>
      rcases Option.map_eq_some_iff.1 h with ⟨⟨task, queue⟩, hqueue, rfl⟩
      exact .dequeued hpc (by simpa using hstop) (TaskQueue.dequeue_eq_some.1 hqueue)

theorem step_wrote {site : WriteSite} {now : String} {result : Except String Unit}
    (hpc : e.pc = .writing site) : b.Step e (b.wrote e site now result) := by
  unfold wrote
  cases result with
  | ok _ => exact .landed hpc
  | error text => exact .failed hpc

theorem step_admissionChecked {task : Task} {a : Attempt} (hpc : e.pc = .admission task a) :
    b.Step e (e.admissionChecked task a) := by
  unfold Engine.admissionChecked
  split
  · next hstop => exact .withdrawn hpc hstop
  · next hstop => exact .admitted hpc (by simpa using hstop)

theorem step_answered {task : Task} {a : Attempt} {reply : Reply}
    (hpc : e.pc = .awaiting task a) : b.Step e (e.answered b.policy task a reply) := by
  unfold Engine.answered
  cases reply with
  | error text => exact .lost hpc
  | ok resp =>
      -- One case for each way the reply is settled. A retry splits once more on the attempts.
      simp only
      split
      · next hsettle => exact .settled hpc (Or.inl ⟨hsettle, rfl, rfl⟩)
      · next c m hsettle => exact .settled hpc (Or.inr (Or.inl ⟨c, m, hsettle, rfl, rfl⟩))
      · next m hsettle =>
          exact .settled hpc (Or.inr (Or.inr (Or.inl ⟨m, hsettle, rfl, rfl⟩)))
      · next c m hsettle =>
          split
          · next hmax =>
              exact .settled hpc (Or.inr (Or.inr (Or.inr ⟨c, m, hsettle, hmax, rfl, rfl⟩)))
          · next hmax => exact .retrying hpc hsettle (by omega)

theorem step_abortChecked (hpc : e.pc = .abortCheck) (h : e.abortChecked = some e') :
    b.Step e e' := by
  unfold Engine.abortChecked at h
  rcases Option.map_eq_some_iff.1 h with ⟨last, hlast, rfl⟩
  split
  · next habort =>
      split
      · next hstop => exact .abortStopped hpc hlast habort hstop
      · next hstop => exact .aborted hpc hlast habort (by simpa using hstop)
  · next habort => exact .continued hpc hlast (by simpa using habort)

theorem step_completed (hpc : e.pc = .completion) : b.Step e e.completed := by
  unfold Engine.completed
  split
  · next hlate =>
      have hparts : e.stopRequested = true ∧ e.aborted = false := by simpa using hlate
      exact .lateStopped hpc hparts.1 hparts.2
  · next hlate =>
      refine .closing hpc ?_
      intro hstop
      simpa [hstop] using hlate

/-- Every step of a run is one of the listed branches. -/
theorem step_cases {input : Input} (h : b.step e input = some e') : b.Step e e' := by
  -- In the order of the branches of `Batch.step`.
  unfold step at h
  split at h
  · exact step_request h
  · next hpc =>
      cases h
      exact .ensure hpc
  · next hpc =>
      cases h
      exact step_sessionEnsured hpc
  · next hpc =>
      cases h
      exact step_controlBoundary hpc
  · next hpc =>
      cases h
      exact step_wrote hpc
  · next hpc => exact step_woken hpc h
  · next hpc => exact step_dequeued hpc h
  · next hpc =>
      cases h
      exact .entered hpc
  · next hpc =>
      cases h
      exact step_admissionChecked hpc
  · next hpc =>
      cases h
      exact .submitted hpc
  · next hpc =>
      cases h
      exact step_answered hpc
  · next hpc =>
      cases h
      exact .slept hpc
  · next hpc => exact step_abortChecked hpc h
  · next hpc =>
      cases h
      exact step_completed hpc
  · next hpc =>
      cases h
      exact .reported hpc
  · cases h

/-- The invariant rule for runs of a batch. -/
theorem Reachable.invariant {P : Engine → Prop} {store : CheckpointStore}
    (hstart : ∀ control, control = none ∨ control = some {} → P (b.start control store))
    (hstep : ∀ e e', P e → b.Step e e' → P e') (h : b.Reachable store e) : P e := by
  rcases h with ⟨control, hcontrol, hreaches⟩
  refine hreaches.invariant ?_ (hstart control hcontrol)
  intro x input x' hx hx'
  exact hstep x x' hx (step_cases hx')

/-! ## What writes leave in the log -/

theorem transitionOrReturn_log_filterMap {α : Type} (f : EngineEvent → Option α)
    (hf : ∀ s t legal, f (.moved s t legal) = none) (e : Engine) (target : AutomationState)
    (next : Pc) : (e.transitionOrReturn target next).log.filterMap f = e.log.filterMap f := by
  unfold Engine.transitionOrReturn
  split <;> exact e.transition_log_filterMap f hf target

/-- After a write the log holds, besides the write itself, machine moves only. -/
theorem writeLanded_log_filterMap {α : Type} (f : EngineEvent → Option α)
    (hf : ∀ s t legal, f (.moved s t legal) = none) (e : Engine) (site : WriteSite) :
    (writeLanded e site).log.filterMap f = e.log.filterMap f := by
  cases site with
  | pause => exact transitionOrReturn_log_filterMap f hf e _ _
  | resume => exact transitionOrReturn_log_filterMap f hf e _ _
  | boundaryStop => exact e.abandon_log_filterMap f hf _
  | inFlight task => rfl
  | settle => rfl
  | abortStop => exact e.abandon_log_filterMap f hf _
  | lateStop =>
      exact ((e.abandon OPERATOR_STOP).close_log_filterMap f hf true).trans
        (e.abandon_log_filterMap f hf _)
  | terminal stopped => rfl

theorem writeFailed_log_filterMap {α : Type} (f : EngineEvent → Option α)
    (hf : ∀ s t legal, f (.moved s t legal) = none) (e : Engine) (text : String)
    (site : WriteSite) : (writeFailed e text site).log.filterMap f = e.log.filterMap f := by
  cases site with
  | inFlight task => exact Engine.abandon_log_filterMap _ f hf _
  | terminal stopped => cases stopped <;> rfl
  | _ => rfl

/-- The points a write may lead to. -/
def afterWrite : Pc → Bool
  | .paused => true
  | .dequeue => true
  | .entering _ => true
  | .abortCheck => true
  | .completion => true
  | .writing (.terminal _) => true
  | .reporting => true
  | .returned (.error _) => true
  | _ => false

theorem transitionOrReturn_afterWrite (e : Engine) (target : AutomationState) {next : Pc}
    (hnext : afterWrite next = true) :
    afterWrite (e.transitionOrReturn target next).pc = true := by
  unfold Engine.transitionOrReturn
  split
  · exact hnext
  · rfl

theorem writeLanded_afterWrite (e : Engine) (site : WriteSite) :
    afterWrite (writeLanded e site).pc = true := by
  cases site with
  | pause => exact transitionOrReturn_afterWrite e _ rfl
  | resume => exact transitionOrReturn_afterWrite e _ rfl
  | _ => simp [writeLanded, afterWrite]

theorem writeFailed_afterWrite (e : Engine) (text : String) (site : WriteSite) :
    afterWrite (writeFailed e text site).pc = true := by
  cases site with
  | terminal stopped => cases stopped <;> rfl
  | _ => simp [writeFailed, afterWrite]

/-! ## The report -/

/-- The report of a run counts the rows the run recorded. -/
theorem Reachable.report_eq {store : CheckpointStore} (h : b.Reachable store e) :
    ∀ report, e.pc = .returned (.ok report) →
      ∃ now, report = .build e.results b.startedAt now e.aborted := by
  refine h.invariant (P := fun e => ∀ report, e.pc = .returned (.ok report) →
    ∃ now, report = .build e.results b.startedAt now e.aborted) ?_ ?_
  · intro control _ report hpc
    simp [start] at hpc
  · intro x x' hx hstep report hpc
    cases hstep with
    | accepted _ _ _ => exact hx report hpc
    | refused _ _ _ => exact hx report hpc
    | @reported now _ =>
        have heq : BatchReport.build x.results b.startedAt now x.aborted = report := by
          simpa [reported] using hpc
        exact ⟨now, heq.symm⟩
    -- No write leads to a report: the clock is read in a step of its own.
    | landed _ =>
        have hafter := congrArg afterWrite hpc
        rw [writeLanded_afterWrite] at hafter
        cases hafter
    | failed _ =>
        have hafter := congrArg afterWrite hpc
        rw [writeFailed_afterWrite] at hafter
        cases hafter
    | _ => simp [Engine.emit, Engine.settleRow, Engine.entered, Engine.slept, submit] at hpc

end Batch

end DsspBot

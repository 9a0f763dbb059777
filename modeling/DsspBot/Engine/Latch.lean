import DsspBot.Engine.Resend

/-!
# Latch — what an accepted stop does to the rest of a run

A stop may land anywhere before the controls are closed, and each position leaves the loop through
different code. Whichever it is, nothing more is admitted, no pause is taken or withdrawn, the rows
that are there stay, and a run that ends in a report ends in an aborted one.
-/

namespace DsspBot

/-! ## What a step adds -/

/-- An event that may still happen once a stop was accepted. -/
def EngineEvent.allowedAfterStop : EngineEvent → Prop
  | .admitted _ => False
  -- A second stop is accepted again, and a refused control changes nothing.
  | .controlled c true => c = .stop
  | _ => True

/-- From one state of a run to a later one: a stop is never withdrawn, rows and events are only
added, and the added events are of a kind. -/
structure Onward (Kind : EngineEvent → Prop) (e e' : Engine) : Prop where
  stop : e.stopRequested = true → e'.stopRequested = true
  results : e.results <+: e'.results
  log : Engine.Adds Kind e e'

namespace Onward

variable {Kind Kind' : EngineEvent → Prop} {e e' e'' : Engine}

/-- The controller and the rows stand; only the log may gain something. -/
theorem of_adds (hcontrol : e'.control = e.control) (hresults : e'.results = e.results)
    (hadds : Engine.Adds Kind e e') : Onward Kind e e' where
  stop := by
    intro hstop
    simpa [Engine.stopRequested, hcontrol] using hstop
  results := by
    rw [hresults]
  log := hadds

theorem refl (e : Engine) : Onward Kind e e :=
  of_adds rfl rfl (.nothing rfl)

theorem trans (h : Onward Kind e e') (h' : Onward Kind e' e'') : Onward Kind e e'' :=
  ⟨fun hstop => h'.stop (h.stop hstop), h.results.trans h'.results, h.log.trans h'.log⟩

theorem mono (h : Onward Kind e e') (hkind : ∀ ev, Kind ev → Kind' ev) : Onward Kind' e e' :=
  ⟨h.stop, h.results, h.log.mono hkind⟩

/-- Going to another point of the program. -/
theorem goto (h : Onward Kind e e') (pc : Pc) : Onward Kind e { e' with pc := pc } :=
  h.trans (of_adds rfl rfl (.nothing rfl))

theorem emit (h : Onward Kind e e') {ev : EngineEvent} (hev : Kind ev) :
    Onward Kind e (e'.emit ev) :=
  h.trans (of_adds rfl rfl (.event rfl hev))

/-- A settled row comes last. -/
theorem settleRow (h : Onward Kind e e') (row : TrainingResult) :
    Onward Kind e (e'.settleRow row) :=
  ⟨h.stop, h.results.trans (List.prefix_append _ _), h.log⟩

section Moves

variable (hmoved : ∀ s t legal, Kind (.moved s t legal))
include hmoved

theorem transition (h : Onward Kind e e') (target : AutomationState) :
    Onward Kind e (e'.transition target) :=
  h.trans (of_adds (e'.transition_control target) (e'.transition_results target)
    (.transition hmoved e' target))

theorem abandon (h : Onward Kind e e') (reason : String) : Onward Kind e (e'.abandon reason) := by
  refine h.trans ⟨?_, ?_, .abandon hmoved e' reason⟩
  · intro hstop
    simpa [Engine.stopRequested] using hstop
  · rw [e'.abandon_results]
    exact List.prefix_append _ _

theorem close (h : Onward Kind e e') (stopped : Bool) : Onward Kind e (e'.close stopped) := by
  refine h.trans ⟨?_, ?_, .close hmoved e' stopped⟩
  · intro hstop
    simpa [Engine.stopRequested] using hstop
  · rw [e'.close_results]

theorem transitionOrReturn (h : Onward Kind e e') (target : AutomationState) (next : Pc) :
    Onward Kind e (e'.transitionOrReturn target next) := by
  unfold Engine.transitionOrReturn
  split
  · exact (h.transition hmoved target).goto _
  · exact (h.transition hmoved target).goto _

theorem writeLanded (h : Onward Kind e e') (site : WriteSite) :
    Onward Kind e (Batch.writeLanded e' site) := by
  cases site with
  | pause => exact h.transitionOrReturn hmoved _ _
  | resume => exact h.transitionOrReturn hmoved _ _
  | boundaryStop => exact h.abandon hmoved _
  | abortStop => exact h.abandon hmoved _
  | lateStop => exact (h.abandon hmoved _).close hmoved _
  | _ => exact h.goto _

theorem writeFailed (h : Onward Kind e e') (text : String) (site : WriteSite) :
    Onward Kind e (Batch.writeFailed e' text site) := by
  cases site with
  | inFlight task =>
      -- Putting the task back touches neither rows nor log.
      have hback : Onward Kind e { e' with queue := e'.queue.putBack task } :=
        h.trans (of_adds rfl rfl (.nothing rfl))
      exact hback.abandon hmoved _
  | terminal stopped => cases stopped <;> exact h.goto _
  | _ => exact h.goto _

end Moves

end Onward

section Run

variable {b : Batch} {store : CheckpointStore} {e e' : Engine}

/-- A step after a stop adds nothing that the stop rules out. -/
theorem Batch.Step.onward (h : b.Step e e') :
    Onward (fun ev => e.stopRequested = true → ev.allowedAfterStop) e e' := by
  have hmoved : ∀ s t legal, e.stopRequested = true →
      (EngineEvent.moved s t legal).allowedAfterStop := fun _ _ _ _ => trivial
  have hstart : Onward (fun ev => e.stopRequested = true → ev.allowedAfterStop) e e := .refl e
  have hset : ∀ control, e.control = some control → e.stopRequested = true →
      control.stopRequested = true := by
    intro control hcontrol hstop
    simpa [Engine.stopRequested, hcontrol] using hstop
  cases h with
  | @accepted c control control' _ hcontrol hrequest =>
      -- An accepted request keeps the latch, and on a latched controller it is a stop.
      have hlatch := BatchControl.request_ok hrequest
      refine ⟨?_, List.prefix_rfl, .event rfl ?_⟩
      · intro hstop
        simp [Engine.stopRequested, hlatch.2.2.2, hset control hcontrol hstop]
      · intro hstop
        exact hlatch.2.2.1 (hset control hcontrol hstop)
  | refused _ _ _ =>
      apply hstart.emit
      exact fun _ => trivial
  | ensure _ =>
      refine (hstart.emit ?_).goto _
      exact fun _ => trivial
  | ensured _ => exact .of_adds rfl rfl (.nothing rfl)
  | dequeued _ _ _ => exact .of_adds rfl rfl (.nothing rfl)
  | landed _ =>
      refine Onward.writeLanded hmoved ?_ _
      exact .of_adds rfl rfl (.event rfl fun _ => trivial)
  | failed _ =>
      refine Onward.writeFailed hmoved ?_ _ _
      exact .of_adds rfl rfl (.event rfl fun _ => trivial)
  | entered _ => exact (hstart.transition hmoved _).goto _
  | withdrawn _ _ => exact hstart.settleRow _
  | admitted _ hstop =>
      -- The one step a stop rules out, and its guard says that there is none.
      refine (hstart.emit ?_).goto _
      intro hset
      simp [hset] at hstop
  -- An admission from before the stop may still be sent.
  | submitted _ =>
      refine ((hstart.transition hmoved _).emit ?_).goto _
      exact fun _ => trivial
  | lost _ =>
      refine (hstart.emit ?_).settleRow _
      exact fun _ => trivial
  | settled _ _ =>
      refine ((hstart.emit ?_).transition hmoved _).settleRow _
      exact fun _ => trivial
  | retrying _ _ _ =>
      refine ((hstart.emit ?_).transition hmoved _).goto _
      exact fun _ => trivial
  | slept _ =>
      refine (hstart.emit ?_).goto _
      exact fun _ => trivial
  | aborted _ _ _ _ => exact hstart.abandon hmoved _
  | closing _ _ => exact hstart.close hmoved _
  | _ => exact hstart.goto _

/-- From an accepted stop on, a run only adds what the stop leaves open. -/
theorem Batch.onward_of_stop (hstop : e.stopRequested = true)
    (h : Machine.Reaches b.step e e') : Onward EngineEvent.allowedAfterStop e e' := by
  refine h.invariant ?_ (Onward.refl e)
  intro x input x' hx hstep
  -- The latch is still set, so the step adds what a stop allows.
  have hset := hx.stop hstop
  exact hx.trans ((Batch.step_cases hstep).onward.mono fun ev hev => hev hset)

/-! ## How a run ends -/

/-- The points from which no control is accepted: the run writes its last checkpoint, or is over. -/
def Pc.closing : Pc → Bool
  | .writing (.terminal _) => true
  | .reporting => true
  | .returned (.ok _) => true
  | _ => false

/-- The controls of a closing run are closed, and a stop that came in time has aborted it. -/
structure ClosedOff (e : Engine) : Prop where
  closed : ∀ control, e.control = some control → control.closed = true
  aborted : e.stopRequested = true → e.aborted = true

theorem closedOff_of_close {stopped : Bool} (h : e.stopRequested = true → e.aborted = true) :
    ClosedOff (e.close stopped) where
  closed := by
    intro control hcontrol
    rw [e.close_control] at hcontrol
    rcases Option.map_eq_some_iff.1 hcontrol with ⟨control', -, rfl⟩
    rfl
  aborted := by
    intro hstop
    rw [e.close_aborted]
    exact h (by simpa [Engine.stopRequested] using hstop)

theorem Engine.closing_transitionOrReturn (e : Engine) (target : AutomationState) {next : Pc}
    (hnext : next.closing = false) : (e.transitionOrReturn target next).pc.closing = false := by
  unfold Engine.transitionOrReturn
  split
  · exact hnext
  · rfl

/-- Only the write of a late stop, or the last write itself, leads on to a closing point. -/
theorem ClosedOff.writeLanded {site : WriteSite}
    (h : (∃ stopped, site = .terminal stopped) → ClosedOff e)
    (hclosing : (Batch.writeLanded e site).pc.closing = true) :
    ClosedOff (Batch.writeLanded e site) := by
  cases site with
  | pause =>
      have hopen := e.closing_transitionOrReturn .paused (show Pc.paused.closing = false from rfl)
      exact absurd hclosing (by simpa [Batch.writeLanded] using hopen)
  | resume =>
      have hopen :=
        e.closing_transitionOrReturn .loadingTrainee (show Pc.dequeue.closing = false from rfl)
      exact absurd hclosing (by simpa [Batch.writeLanded] using hopen)
  -- The late stop closes right behind its write, aborted by its own drain.
  | lateStop => exact closedOff_of_close fun _ => rfl
  | terminal stopped =>
      have hbefore := h ⟨stopped, rfl⟩
      exact ⟨hbefore.closed, hbefore.aborted⟩
  | _ => cases hclosing

theorem ClosedOff.writeFailed {site : WriteSite} {text : String}
    (h : (∃ stopped, site = .terminal stopped) → ClosedOff e)
    (hclosing : (Batch.writeFailed e text site).pc.closing = true) :
    ClosedOff (Batch.writeFailed e text site) := by
  cases site with
  | terminal stopped =>
      have hbefore := h ⟨stopped, rfl⟩
      cases stopped with
      | false => exact ⟨hbefore.closed, hbefore.aborted⟩
      | true => cases hclosing
  | _ => cases hclosing

theorem ClosedOff.step (h : e.pc.closing = true → ClosedOff e) (hstep : b.Step e e')
    (hclosing : e'.pc.closing = true) : ClosedOff e' := by
  cases hstep with
  | @accepted c control control' hlock hcontrol hrequest =>
      -- At a closing point the lock is held, or the controls are closed already.
      have hopen := (BatchControl.request_ok hrequest).1
      have hclosed := (h hclosing).closed control hcontrol
      simp [hopen] at hclosed
  | refused _ _ _ => exact ⟨(h hclosing).closed, (h hclosing).aborted⟩
  | @landed site now hpc =>
      refine ClosedOff.writeLanded ?_ hclosing
      rintro ⟨stopped, rfl⟩
      have hbefore := h (by simp [hpc, Pc.closing])
      exact ⟨hbefore.closed, hbefore.aborted⟩
  | @failed site now text hpc =>
      refine ClosedOff.writeFailed ?_ hclosing
      rintro ⟨stopped, rfl⟩
      have hbefore := h (by simp [hpc, Pc.closing])
      exact ⟨hbefore.closed, hbefore.aborted⟩
  | closing _ hstop => exact closedOff_of_close hstop
  | reported hpc =>
      have hbefore := h (by simp [hpc, Pc.closing])
      exact ⟨hbefore.closed, hbefore.aborted⟩
  | _ => cases hclosing

theorem Batch.Reachable.closedOff (h : b.Reachable store e) (hclosing : e.pc.closing = true) :
    ClosedOff e := by
  refine h.invariant (P := fun e => e.pc.closing = true → ClosedOff e) ?_ ?_ hclosing
  · intro control _ hstart
    simp [Batch.start, Pc.closing] at hstart
  · intro x x' hx hstep hclosing'
    exact ClosedOff.step hx hstep hclosing'

/-! ## The rows at the end -/

/-- Once a run has returned, each task that was answered has its row: the outcome of the last
answer, and as many attempts as there were answers. -/
theorem Batch.Reachable.truthful (h : b.Reachable store e) {result : Except String BatchReport}
    (hpc : e.pc = .returned result) {task : Task} {reply : Reply}
    (hreplied : EngineEvent.replied task reply ∈ e.log) :
    ∃ row ∈ e.results, RowSpec task (WriteAhead.answers task e.trace) row := by
  rcases h.sim with ⟨l, hsim⟩
  have hsound := hsim.sound
  have hidle : l.opened = none := by
    have hstage := hsim.stage.at_pc hpc
    cases result with
    | ok report => exact hstage.1.opened
    | error text => exact hstage
  have hanswered := hsim.answered_of_replied hreplied
  rw [hsim.trace]
  -- The answered task is closed by now, and its row was written when it closed.
  rcases hsound.arranged.cover (hsound.tracked.known task (Or.inr ⟨reply, hanswered⟩)) with
    ⟨entry, hentry, rfl⟩ | ⟨o, ho, -⟩ | hwaiting
  · rcases hsim.recorded with ⟨rows, hresults, hrows⟩
    rw [(hsound.tracked.closed entry hentry).answers_eq]
    rcases List.getElem_of_mem hentry with ⟨i, hi, rfl⟩
    have hi' : i < rows.length := by
      rw [← hrows.length_eq]
      exact hi
    refine ⟨rows[i], ?_, hrows.get hi hi'⟩
    rw [hresults]
    exact List.mem_append_right _ (List.getElem_mem hi')
  · simp [hidle] at ho
  · -- A waiting task has not been answered.
    have hmem := WriteAhead.mem_answers_iff.2 hanswered
    simp [(hsound.tracked.waiting task hwaiting).answers_eq] at hmem

/-- How a stopped run ends: in an error, or in an aborted report of the rows it recorded. -/
structure EndsStopped (e : Engine) : Prop where
  aborted : ∀ report, e.pc = .returned (.ok report) →
    report.aborted = true ∧ report.results = e.results
  truthful : ∀ result, e.pc = .returned result → ∀ task reply,
    EngineEvent.replied task reply ∈ e.log →
      ∃ row ∈ e.results, RowSpec task (WriteAhead.answers task e.trace) row

theorem Batch.Reachable.endsStopped (h : b.Reachable store e) (hstop : e.stopRequested = true) :
    EndsStopped e where
  aborted := by
    intro report hpc
    rcases h.report_eq report hpc with ⟨now, rfl⟩
    exact ⟨(h.closedOff (by simp [hpc, Pc.closing])).aborted hstop, rfl⟩
  truthful := fun _ hpc _ _ hreplied => h.truthful hpc hreplied

end Run

end DsspBot

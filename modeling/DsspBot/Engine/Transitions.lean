import DsspBot.Engine.Boundary

/-!
# Transitions — the edges a run asks the state machine for

The table leads to `submitting` through the form states, and the engine never enters those: it asks
for `loadingTrainee → submitting` when it sends, is refused, and goes on. Up to the first send every
edge it asks for is in the table and the machine says where the batch stands.
-/

namespace DsspBot

open AutomationState (canTransition transitionTo)

/-- The last file the run has put on disk says paused. -/
def Engine.filedPaused (e : Engine) : Prop :=
  ∃ cp, (savedIn e.log).getLast? = some cp ∧ cp.status = .paused

/-- The machine follows the batch. -/
structure Engine.Lawful (e : Engine) : Prop where
  permitted : ∀ s t legal, .moved s t legal ∈ e.log → canTransition s t = true
  reported : ∀ s t, .moved s t false ∈ e.log →
    ∃ text, transitionTo s t = .error text ∧ e.pc = .returned (.error text)
  sending : ∀ task a, e.pc = .awaiting task a → e.machine = .submitting
  paused : e.machine = .paused ↔ e.filedPaused
  stopped : e.machine = .stopped ↔ e.aborted = true
  complete : e.machine = .complete ↔ e.pc.closing = true ∧ e.aborted = false

namespace Engine

variable {e : Engine}

/-! ## What a requested edge leaves -/

theorem transition_of_permitted {target : AutomationState}
    (h : canTransition e.machine target = true) :
    e.transition target =
      { e with machine := target, log := e.log ++ [.moved e.machine target true] } := by
  simp [transition, transitionTo, h]

theorem transition_of_refused {target : AutomationState}
    (h : canTransition e.machine target = false) :
    e.transition target = e.emit (.moved e.machine target false) := by
  simp [transition, transitionTo, h]

theorem transitionOrReturn_of_permitted {target : AutomationState} {next : Pc}
    (h : canTransition e.machine target = true) :
    e.transitionOrReturn target next =
      { e with
        machine := target
        log := e.log ++ [.moved e.machine target true]
        pc := next } := by
  unfold transitionOrReturn
  rw [transition_of_permitted h]
  simp [transitionTo, h]

theorem abandon_of_permitted {reason : String} (h : canTransition e.machine .stopped = true) :
    e.abandon reason =
      { e.drainSkipped reason with
        machine := .stopped
        log := e.log ++ [.moved e.machine .stopped true]
        aborted := true
        pc := .completion } := by
  have hdrained : canTransition (e.drainSkipped reason).machine .stopped = true := h
  unfold abandon
  rw [transition_of_permitted hdrained]
  rfl

theorem close_of_stopped {stopped : Bool} (h : e.machine = .stopped) :
    e.close stopped =
      { e with
        control := e.control.map BatchControl.close
        pc := .writing (.terminal stopped) } := by
  simp [close, h]

theorem close_of_permitted {stopped : Bool} (hrunning : e.machine ≠ .stopped)
    (h : canTransition e.machine .complete = true) :
    e.close stopped =
      { e with
        control := e.control.map BatchControl.close
        machine := .complete
        log := e.log ++ [.moved e.machine .complete true]
        pc := .writing (.terminal stopped) } := by
  have hclosed : canTransition
      ({ e with control := e.control.map BatchControl.close } : Engine).machine .complete =
        true := h
  simp only [close, hrunning, if_false]
  rw [transition_of_permitted hclosed]

end Engine

/-! ## Before the first send -/

/-- The machine of a run that has sent nothing, while nobody waits and nobody stopped it. -/
def AutomationState.Underway (machine : AutomationState) : Prop :=
  machine = .initializing ∨ machine = .loadingTrainee

theorem AutomationState.Underway.permits {machine target : AutomationState}
    (h : machine.Underway)
    (htarget : target = .loadingTrainee ∨ target = .paused ∨ target = .stopped ∨
      target = .complete) : canTransition machine target = true := by
  rcases h with rfl | rfl <;> rcases htarget with rfl | rfl | rfl | rfl <;> decide

/-- Where the machine is at each point of a run that has sent nothing. -/
def Pc.Fits (machine : AutomationState) (aborted : Bool) : Pc → Prop
  | .paused => machine = .paused ∧ aborted = false
  | .writing .resume => machine = .paused ∧ aborted = false
  -- The run was stopped at the head of the loop, or while it was paused.
  | .writing .boundaryStop => (machine.Underway ∨ machine = .paused) ∧ aborted = false
  | .admission _ _ => machine = .loadingTrainee ∧ aborted = false
  | .submitting _ _ => machine = .loadingTrainee ∧ aborted = false
  | .awaiting _ _ => False
  | .backoff _ _ => False
  | .completion => machine.Underway ∧ aborted = false ∨ machine = .stopped ∧ aborted = true
  | .writing (.terminal stopped) =>
      machine = .complete ∧ aborted = false ∧ stopped = false ∨ machine = .stopped ∧ aborted = true
  | .reporting => machine = .complete ∧ aborted = false ∨ machine = .stopped ∧ aborted = true
  | .returned (.ok _) => machine = .complete ∧ aborted = false ∨ machine = .stopped ∧ aborted = true
  | .returned (.error _) =>
      (machine.Underway ∨ machine = .paused) ∧ aborted = false ∨ machine = .stopped ∧ aborted = true
  | _ => machine.Underway ∧ aborted = false

/-- An event that is no refused edge. -/
def EngineEvent.Permitted (ev : EngineEvent) : Prop :=
  ∀ s t legal, ev = .moved s t legal → legal = true ∧ canTransition s t = true

/-- A run that has sent nothing: every edge asked for so far was in the table. -/
structure Engine.Unsent (e : Engine) : Prop where
  fits : e.pc.Fits e.machine e.aborted
  permitted : ∀ ev ∈ e.log, ev.Permitted
  paused : e.machine = .paused ↔ e.filedPaused

theorem savedIn_append (log more : List EngineEvent) :
    savedIn (log ++ more) = savedIn log ++ savedIn more :=
  List.filterMap_append

namespace Engine

variable {e e' : Engine}

theorem filedPaused_of_unsaved {more : List EngineEvent} (hlog : e'.log = e.log ++ more)
    (hmore : savedIn more = []) : e'.filedPaused ↔ e.filedPaused := by
  have hsaved : savedIn e'.log = savedIn e.log := by
    calc
      savedIn e'.log = savedIn e.log ++ savedIn more := by rw [hlog, savedIn_append]
      _ = savedIn e.log := by simp [hmore]
  unfold filedPaused
  rw [hsaved]

theorem filedPaused_of_saved {cp : BatchCheckpoint} {more : List EngineEvent}
    (hlog : e'.log = e.log ++ [.wrote cp true] ++ more) (hmore : savedIn more = []) :
    e'.filedPaused ↔ cp.status = .paused := by
  have hlast : (savedIn e'.log).getLast? = some cp := by
    calc
      (savedIn e'.log).getLast? =
          (savedIn (e.log ++ [.wrote cp true]) ++ savedIn more).getLast? := by
        rw [hlog, savedIn_append]
      _ = some cp := by
        rw [hmore, List.append_nil, Watch.getLast?_savedIn_snoc]
        rfl
  unfold filedPaused
  simp [hlast]

namespace Unsent

/-- The points that have been passed without a write, and without waking anybody. -/
theorem adds (h : e.Unsent) (more : List EngineEvent) (hlog : e'.log = e.log ++ more)
    (hmore : savedIn more = []) (hpermitted : ∀ ev ∈ more, ev.Permitted)
    (hmachine : e'.machine = .paused ↔ e.machine = .paused)
    (hfits : e'.pc.Fits e'.machine e'.aborted) : e'.Unsent where
  fits := hfits
  permitted := by
    intro ev hev
    rw [hlog] at hev
    rcases List.mem_append.1 hev with hev | hev
    · exact h.permitted ev hev
    · exact hpermitted ev hev
  paused := by
    rw [filedPaused_of_unsaved hlog hmore, hmachine]
    exact h.paused

/-- A file that landed is paused if and only if the machine is from there on. -/
theorem saves (h : e.Unsent) (cp : BatchCheckpoint) (more : List EngineEvent)
    (hlog : e'.log = e.log ++ [.wrote cp true] ++ more) (hmore : savedIn more = [])
    (hpermitted : ∀ ev ∈ more, ev.Permitted)
    (hmachine : e'.machine = .paused ↔ cp.status = .paused)
    (hfits : e'.pc.Fits e'.machine e'.aborted) : e'.Unsent where
  fits := hfits
  permitted := by
    intro ev hev
    rw [hlog] at hev
    rcases List.mem_append.1 hev with hev | hev
    · rcases List.mem_append.1 hev with hev | hev
      · exact h.permitted ev hev
      · obtain rfl := List.mem_singleton.1 hev
        intro s t legal heq
        cases heq
    · exact hpermitted ev hev
  paused := by
    rw [filedPaused_of_saved hlog hmore]
    exact hmachine

/-- An event that neither saves nor moves, and going on from it. -/
theorem event (h : e.Unsent) {ev : EngineEvent} (hlog : e'.log = e.log ++ [ev])
    (hsaved : ev.saved = none) (hpermitted : ev.Permitted) (hmachine : e'.machine = e.machine)
    (hfits : e'.pc.Fits e.machine e'.aborted) : e'.Unsent := by
  refine h.adds _ hlog (by simp [savedIn, hsaved]) ?_ (by rw [hmachine])
    (by rw [hmachine]; exact hfits)
  intro ev' hev'
  obtain rfl := List.mem_singleton.1 hev'
  exact hpermitted

/-- Nothing has happened to the log and the machine. -/
theorem keeps (h : e.Unsent) (hlog : e'.log = e.log) (hmachine : e'.machine = e.machine)
    (hfits : e'.pc.Fits e'.machine e'.aborted) : e'.Unsent := by
  refine h.adds [] (by simp [hlog]) rfl ?_ (by rw [hmachine]) hfits
  intro ev hev
  cases hev

/-- Going to another point of the program. -/
theorem goto (h : e.Unsent) {pc : Pc} (hfits : pc.Fits e.machine e.aborted) :
    Unsent { e with pc := pc } :=
  h.keeps rfl rfl hfits

theorem fits_at (h : e.Unsent) {pc : Pc} (hpc : e.pc = pc) : pc.Fits e.machine e.aborted :=
  hpc ▸ h.fits

end Unsent

/-- The one event of an edge that is in the table. -/
theorem permitted_moved {source target : AutomationState}
    (h : canTransition source target = true) :
    ∀ ev ∈ [EngineEvent.moved source target true], ev.Permitted := by
  intro ev hev s t legal heq
  obtain rfl := List.mem_singleton.1 hev
  cases heq
  exact ⟨rfl, h⟩

namespace Unsent

/-- An early exit asks for an edge that every point of the loop has. -/
theorem abandon (h : e.Unsent) {x : Engine} (more : List EngineEvent) (hlog : x.log = e.log ++ more)
    (hmore : savedIn more = []) (hpermitted : ∀ ev ∈ more, ev.Permitted)
    (hmachine : x.machine = e.machine) (hunderway : x.machine.Underway) (reason : String) :
    (x.abandon reason).Unsent := by
  have hedge : canTransition x.machine .stopped = true := hunderway.permits (by simp)
  rw [abandon_of_permitted hedge]
  refine h.adds (more ++ [.moved x.machine .stopped true]) ?_ ?_ ?_ ?_ (Or.inr ⟨rfl, rfl⟩)
  · simp [hlog]
  · calc
      savedIn (more ++ [.moved x.machine .stopped true])
          = savedIn more ++ savedIn [.moved x.machine .stopped true] := savedIn_append _ _
      _ = [] := by
          rw [hmore]
          rfl
  · intro ev hev
    rcases List.mem_append.1 hev with hev | hev
    · exact hpermitted ev hev
    · exact permitted_moved hedge ev hev
  · rw [← hmachine]
    rcases hunderway with hm | hm <;> simp [hm]

end Unsent

end Engine

namespace Batch

variable {b : Batch} {e e' : Engine}

/-- A write that landed and the early exit that follows it. -/
theorem unsent_of_stopped (h : e.Unsent) {x : Engine} {cp : BatchCheckpoint}
    (hlog : x.log = e.log ++ [.wrote cp true]) (hstatus : cp.status ≠ .paused)
    (hedge : canTransition x.machine .stopped = true) (reason : String) :
    (x.abandon reason).Unsent := by
  rw [Engine.abandon_of_permitted hedge]
  refine h.saves cp [.moved x.machine .stopped true] ?_ rfl (Engine.permitted_moved hedge) ?_ ?_
  · simp [hlog]
  · simp [hstatus]
  · exact Or.inr ⟨rfl, rfl⟩

/-- What each site that lands leaves of a run that has sent nothing. -/
theorem unsent_of_landed (h : e.Unsent) {x : Engine} {site : WriteSite} {cp : BatchCheckpoint}
    (hpc : e.pc = .writing site) (hmachine : x.machine = e.machine)
    (haborted : x.aborted = e.aborted) (hlog : x.log = e.log ++ [.wrote cp true])
    (hstatus : cp.status = statusAt e site) : (writeLanded x site).Unsent := by
  have hfits := h.fits
  rw [hpc, ← hmachine, ← haborted] at hfits
  have hnone : ∀ ev ∈ ([] : List EngineEvent), ev.Permitted := by simp
  cases site with
  | pause =>
      have hedge : canTransition x.machine .paused = true := hfits.1.permits (by simp)
      simp only [writeLanded]
      rw [Engine.transitionOrReturn_of_permitted hedge]
      exact h.saves _ _ (congrArg (· ++ _) hlog) rfl (Engine.permitted_moved hedge)
        (iff_of_true rfl hstatus) ⟨rfl, hfits.2⟩
  | resume =>
      have hedge : canTransition x.machine .loadingTrainee = true := by
        rw [hfits.1]
        decide
      simp only [writeLanded]
      rw [Engine.transitionOrReturn_of_permitted hedge]
      refine h.saves _ _ (congrArg (· ++ _) hlog) rfl (Engine.permitted_moved hedge) ?_
        ⟨Or.inr rfl, hfits.2⟩
      simp [hstatus, statusAt]
  | boundaryStop =>
      have hedge : canTransition x.machine .stopped = true := by
        rcases hfits.1 with hm | hm
        · exact hm.permits (by simp)
        · rw [hm]
          decide
      exact unsent_of_stopped h hlog (by simp [hstatus, statusAt]) hedge OPERATOR_STOP
  | abortStop =>
      have hedge : canTransition x.machine .stopped = true := hfits.1.permits (by simp)
      exact unsent_of_stopped h hlog (by simp [hstatus, statusAt]) hedge OPERATOR_STOP
  | lateStop =>
      have hedge : canTransition x.machine .stopped = true := hfits.1.permits (by simp)
      have hstopped := unsent_of_stopped h hlog (by simp [hstatus, statusAt]) hedge OPERATOR_STOP
      have hmachine' : (x.abandon OPERATOR_STOP).machine = .stopped := by
        rw [Engine.abandon_of_permitted hedge]
      simp only [writeLanded]
      rw [Engine.close_of_stopped hmachine']
      exact hstopped.keeps rfl rfl (Or.inr ⟨hmachine', rfl⟩)
  | terminal stopped =>
      refine h.saves cp [] (by simp [writeLanded, hlog]) rfl hnone ?_ ?_
      · rcases hfits with ⟨hm, ha, -⟩ | ⟨hm, ha⟩ <;>
          simp [writeLanded, hm, hstatus, statusAt, ← haborted, ha]
      · rcases hfits with ⟨hm, ha, -⟩ | hm
        · exact Or.inl ⟨hm, ha⟩
        · exact Or.inr hm
  | _ =>
      -- Nothing but the point of the program changes after these.
      refine h.saves cp [] (by simp [writeLanded, hlog]) rfl hnone ?_ hfits
      rcases hfits.1 with hm | hm <;> simp [writeLanded, hm, hstatus, statusAt]

/-- What each site that fails leaves of a run that has sent nothing. -/
theorem unsent_of_failed (h : e.Unsent) {x : Engine} {site : WriteSite} {cp : BatchCheckpoint}
    (hpc : e.pc = .writing site) (hmachine : x.machine = e.machine)
    (haborted : x.aborted = e.aborted) (hlog : x.log = e.log ++ [.wrote cp false])
    (text : String) : (writeFailed x text site).Unsent := by
  have hfits := h.fits
  rw [hpc, ← hmachine, ← haborted] at hfits
  have hlost : (EngineEvent.wrote cp false).Permitted := by
    intro s t legal heq
    cases heq
  have hloses : ∀ pc : Pc, pc.Fits x.machine x.aborted → ({ x with pc := pc } : Engine).Unsent := by
    intro pc hpcfits
    exact h.event hlog rfl hlost hmachine (hmachine ▸ hpcfits)
  cases site with
  | inFlight task =>
      refine h.abandon (x := { x with queue := x.queue.putBack task }) _ hlog rfl ?_ hmachine
        hfits.1 NOT_SUBMITTED
      intro ev hev
      obtain rfl := List.mem_singleton.1 hev
      exact hlost
  | settle => exact hloses .abortCheck hfits
  | terminal stopped =>
      rcases hfits with ⟨hm, ha, rfl⟩ | hm
      · exact hloses .reporting (Or.inl ⟨hm, ha⟩)
      · cases stopped with
        | true => exact hloses _ (Or.inr hm)
        | false => exact hloses .reporting (Or.inr hm)
  | boundaryStop => exact hloses _ (Or.inl hfits)
  | resume => exact hloses _ (Or.inl ⟨Or.inr hfits.1, hfits.2⟩)
  | _ => exact hloses _ (Or.inl ⟨Or.inl hfits.1, hfits.2⟩)

/-- A trainee is loaded. -/
theorem unsent_of_entered (h : e.Unsent) (hfits : e.machine.Underway ∧ e.aborted = false)
    (task : Task) (jobId : String) : (e.entered task jobId).Unsent := by
  have hedge : canTransition e.machine .loadingTrainee = true := hfits.1.permits (by simp)
  unfold Engine.entered
  rw [Engine.transition_of_permitted hedge]
  refine h.adds [.moved e.machine .loadingTrainee true] rfl rfl (Engine.permitted_moved hedge) ?_
    ⟨rfl, hfits.2⟩
  rcases hfits.1 with hm | hm <;> simp [hm]

/-- The batch is over, and complete unless it has been stopped. -/
theorem unsent_of_closing (h : e.Unsent) (hstop : e.stopRequested = true → e.aborted = true)
    (hfits : e.machine.Underway ∧ e.aborted = false ∨ e.machine = .stopped ∧ e.aborted = true) :
    (e.close e.stopRequested).Unsent := by
  rcases hfits with ⟨hm, ha⟩ | ⟨hm, ha⟩
  · have hedge : canTransition e.machine .complete = true := hm.permits (by simp)
    have hunstopped : e.stopRequested = false := by
      by_contra hset
      simp [hstop (by simpa using hset)] at ha
    have hrunning : e.machine ≠ .stopped := by
      rcases hm with hm | hm <;> simp [hm]
    rw [Engine.close_of_permitted hrunning hedge]
    refine h.adds [.moved e.machine .complete true] rfl rfl (Engine.permitted_moved hedge) ?_
      (Or.inl ⟨rfl, ha, hunstopped⟩)
    rcases hm with hm | hm <;> simp [hm]
  · rw [Engine.close_of_stopped hm]
    exact h.keeps rfl rfl (Or.inr ⟨hm, ha⟩)

/-- Every step that sends nothing keeps the machine with the batch. -/
theorem unsent_of_step (h : e.Unsent) (hstep : b.Step e e')
    (hnot : ∀ task a, e.pc = .submitting task a → e'.pc = e.pc) : e'.Unsent := by
  have hquiet : ∀ ev : EngineEvent, (∀ s t legal, ev ≠ .moved s t legal) → ev.Permitted :=
    fun _ hev s t legal heq => absurd heq (hev s t legal)
  cases hstep with
  | accepted _ _ _ => exact h.event rfl rfl (hquiet _ (by simp)) rfl h.fits
  | refused _ _ _ => exact h.event rfl rfl (hquiet _ (by simp)) rfl h.fits
  | ensure hpc => exact h.event rfl rfl (hquiet _ (by simp)) rfl (h.fits_at hpc :)
  | unensured hpc =>
      have hfits := h.fits_at hpc
      exact h.goto (Or.inl ⟨Or.inl hfits.1, hfits.2⟩)
  | ensured hpc => exact h.keeps rfl rfl (h.fits_at hpc :)
  | emptied hpc _ => exact h.goto (Or.inl (h.fits_at hpc))
  | boundaryStopped hpc _ =>
      refine h.goto ?_
      rcases hpc with hpc | hpc
      · exact ⟨Or.inl (h.fits_at hpc).1, (h.fits_at hpc).2⟩
      · exact ⟨Or.inr (h.fits_at hpc).1, (h.fits_at hpc).2⟩
  | dequeued hpc _ _ => exact h.keeps rfl rfl (h.fits_at hpc :)
  | landed hpc => exact unsent_of_landed h hpc rfl rfl rfl rfl
  | @failed site now _ hpc =>
      exact unsent_of_failed h
        (x := { e with log := e.log ++ [.wrote (b.snapshot e site now) false] }) hpc rfl rfl rfl _
  | entered hpc => exact unsent_of_entered h (h.fits_at hpc) _ _
  | withdrawn hpc _ =>
      have hfits := h.fits_at hpc
      exact h.keeps rfl rfl ⟨Or.inr hfits.1, hfits.2⟩
  | admitted hpc _ => exact h.event rfl rfl (hquiet _ (by simp)) rfl (h.fits_at hpc :)
  | submitted hpc =>
      have hsame := hnot _ _ hpc
      rw [hpc] at hsame
      simp [submit] at hsame
  -- From here on something has been sent.
  | lost hpc => exact (h.fits_at hpc).elim
  | settled hpc _ => exact (h.fits_at hpc).elim
  | retrying hpc _ _ => exact (h.fits_at hpc).elim
  | slept hpc => exact (h.fits_at hpc).elim
  | aborted hpc _ _ _ =>
      exact h.abandon [] (by simp) rfl (by simp) rfl (h.fits_at hpc).1 _
  | lateStopped hpc _ haborted =>
      rcases h.fits_at hpc with hfits | ⟨-, hset⟩
      · exact h.goto hfits
      · simp [haborted] at hset
  | closing hpc hstop => exact unsent_of_closing h hstop (h.fits_at hpc)
  | reported hpc => exact h.goto (h.fits_at hpc :)
  | resuming hpc _ _ => exact h.goto (h.fits_at hpc :)
  | pausing hpc _ _ _ => exact h.goto (h.fits_at hpc :)
  | proceeding hpc _ _ _ => exact h.goto (h.fits_at hpc :)
  | rechecked hpc _ => exact h.goto (h.fits_at hpc :)
  | abortStopped hpc _ _ _ => exact h.goto (h.fits_at hpc :)
  | continued hpc _ _ => exact h.goto (h.fits_at hpc :)

theorem unsent_start (b : Batch) (control : Option BatchControl) (store : CheckpointStore) :
    (b.start control store).Unsent where
  fits := ⟨Or.inl rfl, rfl⟩
  permitted := by
    have hedge : canTransition .idle .initializing = true := rfl
    exact Engine.permitted_moved hedge
  paused := by
    refine iff_of_false ?_ ?_
    · intro hpaused
      cases hpaused
    · rintro ⟨cp, hlast, -⟩
      cases hlast

end Batch

/-! ## Which runs are lawful -/

theorem Engine.Unsent.lawful {e : Engine} (h : e.Unsent) : e.Lawful where
  permitted := by
    intro s t legal hmoved
    exact (h.permitted _ hmoved s t legal rfl).2
  reported := by
    intro s t hmoved
    cases (h.permitted _ hmoved s t false rfl).1
  sending := by
    intro task a hpc
    have hfits := h.fits
    rw [hpc] at hfits
    exact hfits.elim
  paused := h.paused
  stopped := by
    have hfits := h.fits
    unfold Pc.Fits AutomationState.Underway at hfits
    split at hfits <;> grind
  complete := by
    have hfits := h.fits
    unfold Pc.Fits AutomationState.Underway at hfits
    unfold Pc.closing
    split at hfits <;> grind

/-- A control request leaves the run where it is. -/
theorem Engine.requested_pc {e e' : Engine} {c : ControlRequest} (h : e.requested c = some e') :
    e'.pc = e.pc := by
  unfold Engine.requested at h
  split at h
  · cases h
  · rcases Option.map_eq_some_iff.1 h with ⟨control, -, rfl⟩
    split <;> rfl

/-- The step does not send a `submit_training` request. -/
def Engine.KeepsQuiet (e : Engine) (input : Input) : Prop :=
  input = .tick → ∀ task a, e.pc ≠ .submitting task a

/-- The first send asks for an edge that the table does not have. -/
theorem Engine.Unsent.not_lawful_submit {b : Batch} {e : Engine} {task : Task} {a : Attempt}
    (h : e.Unsent) (hpc : e.pc = .submitting task a) : ¬(b.submit e task a).Lawful := by
  intro hlawful
  have hmachine : e.machine = .loadingTrainee := by
    have hfits := h.fits
    rw [hpc] at hfits
    exact hfits.1
  have hrefused : canTransition e.machine .submitting = false := by
    rw [hmachine]
    decide
  have hasked : .moved e.machine .submitting false ∈ (b.submit e task a).log := by
    simp [Batch.submit, Engine.transition_of_refused hrefused]
  have hpermitted := hlawful.permitted _ _ _ hasked
  simp [hrefused] at hpermitted

/-- The machine follows the batch through a run, and every edge it is asked for is in the table, if
and only if the run sends nothing. -/
theorem engine_lawful_iff {b : Batch} {control : Option BatchControl} {store : CheckpointStore}
    {inputs : List Input} {e : Engine}
    (h : Machine.run b.step (b.start control store) inputs = some e) :
    Machine.Throughout b.step Engine.Lawful (b.start control store) inputs ↔
      Machine.EachStep b.step Engine.KeepsQuiet (b.start control store) inputs := by
  refine Machine.throughout_iff_eachStep (I := Engine.Unsent) (fun _ => Engine.Unsent.lawful) ?_
    ?_ (b.unsent_start control store) h
  · intro x input x' hx hquiet hstep
    refine Batch.unsent_of_step hx (Batch.step_cases hstep) ?_
    intro task a hpc
    -- Only a control request is taken there, and it moves nothing.
    cases input with
    | tick => exact absurd hpc (hquiet rfl task a)
    | request c =>
        exact Engine.requested_pc (by simpa [Batch.step, hpc] using hstep)
    | _ => simp [Batch.step, hpc] at hstep
  · intro x input x' hx hsends hstep
    simp only [Engine.KeepsQuiet, not_forall, not_not] at hsends
    rcases hsends with ⟨rfl, task, a, hpc⟩
    have hsent : b.submit x task a = x' := by simpa [Batch.step, hpc] using hstep
    exact hsent ▸ hx.not_lawful_submit hpc

/-! ## A run that sends, and one that does not -/

def soloBatch : Batch :=
  { session := { trainingDate := "2026-01-05", instructor := "Ada", trainingType := "1" }
    startedAt := "0"
    trainees := [{ id := some "7" }] }

def soloStore : CheckpointStore :=
  { path := "job.checkpoint.json", slot := .absent }

/-- The file that names the trainee lands, and the trainee is sent. -/
def soloSent : List Input :=
  [.newId "ensure", .reply (.ok { status := .ok }), .tick, .tick, .write "1" (.ok ()),
    .newId "job", .tick, .tick]

theorem soloBatch_is_not_lawful :
    ¬∀ (b : Batch) (store : CheckpointStore) (e : Engine), b.Reachable store e → e.Lawful := by
  intro h
  let e := (Machine.run soloBatch.step (soloBatch.start none soloStore) soloSent).getD
    (soloBatch.start none soloStore)
  have hreach : soloBatch.Reachable soloStore e := ⟨none, Or.inl rfl, soloSent, rfl⟩
  have hmachine : e.machine = .submitting := (h _ _ _ hreach).sending _ _ rfl
  cases hmachine

/-- The file that would name the trainee cannot be written. -/
def soloUnwritable : List Input :=
  [.newId "ensure", .reply (.ok { status := .ok }), .tick, .tick, .write "1" (.error "disk full"),
    .tick, .write "2" (.ok ()), .clock "3"]

theorem soloBatch_is_lawful_unsent :
    Machine.Throughout soloBatch.step Engine.Lawful (soloBatch.start none soloStore)
      soloUnwritable := by
  have hrun : Machine.run soloBatch.step (soloBatch.start none soloStore) soloUnwritable =
      some ((Machine.run soloBatch.step (soloBatch.start none soloStore) soloUnwritable).getD
        (soloBatch.start none soloStore)) := rfl
  refine (engine_lawful_iff hrun).2 ?_
  repeat
    refine (Machine.eachStep_cons rfl _).2 ⟨?_, ?_⟩
    · intro _ task a hpc
      cases hpc
  exact Machine.eachStep_nil _

end DsspBot

import DsspBot.Engine.Verdict

/-!
# Boundary — what the log of a run may hold around a pause

A pause is entered by one write and left by another. Read from the left, the log of a run is one
that a small monitor accepts: between a paused file and the write that resumes it nothing is sent,
and after a boundary write that failed nothing is done any more.
-/

namespace DsspBot

/-- The checkpoint an event has put on disk. -/
def EngineEvent.saved : EngineEvent → Option BatchCheckpoint
  | .wrote cp true => some cp
  | _ => none

/-- The checkpoints a log has put on disk, in order. -/
def savedIn (log : List EngineEvent) : List BatchCheckpoint :=
  log.filterMap EngineEvent.saved

/-- The running file that takes a paused batch up again: the same rows, the same queue. -/
def BatchCheckpoint.Resumes (paused cp : BatchCheckpoint) : Prop :=
  cp.status = .running ∧ cp.results = paused.results ∧ cp.pending = paused.pending

instance (paused cp : BatchCheckpoint) : Decidable (paused.Resumes cp) :=
  inferInstanceAs (Decidable (_ ∧ _ ∧ _))

/-! ## The monitor -/

/-- What the monitor remembers of the log. -/
inductive Watch
  | free
  /-- The file says paused. -/
  | parked (cp : BatchCheckpoint)
  /-- The batch was stopped while it was paused. -/
  | stopped
  /-- A boundary write failed. -/
  | failed

namespace Watch

/-- The events that may come next, and what is remembered of them. -/
def next : Watch → EngineEvent → Option Watch
  -- A control request may be answered at any time.
  | w, .controlled _ _ => some w
  | .free, .wrote cp landed =>
      if cp.status = .paused then
        if cp.inFlight = none then some (if landed then .parked cp else .failed) else none
      else
        some .free
  | .free, _ => some .free
  | .parked paused, .wrote cp landed =>
      if landed = false then some .failed
      else if paused.Resumes cp then some .free
      else if cp.status = .aborted then some .stopped
      else none
  | .parked cp, .moved _ _ _ => some (.parked cp)
  | .stopped, .wrote cp _ => if cp.status = .paused then none else some .stopped
  | .stopped, .moved _ _ _ => some .stopped
  | _, _ => none

abbrev run : Watch → List EngineEvent → Option Watch :=
  Machine.run next

/-- What the monitor makes of a write. -/
inductive Writes (cp : BatchCheckpoint) : Bool → Watch → Watch → Prop
  | paused (hpaused : cp.status = .paused) (hnobody : cp.inFlight = none) :
      Writes cp true .free (.parked cp)
  | unpaused (hpaused : cp.status = .paused) (hnobody : cp.inFlight = none) :
      Writes cp false .free .failed
  | went {landed : Bool} (hnot : cp.status ≠ .paused) : Writes cp landed .free .free
  | lost {paused : BatchCheckpoint} : Writes cp false (.parked paused) .failed
  | resumed {paused : BatchCheckpoint} (hresumes : paused.Resumes cp) :
      Writes cp true (.parked paused) .free
  | aborted {paused : BatchCheckpoint} (haborted : cp.status = .aborted) :
      Writes cp true (.parked paused) .stopped
  | ended {landed : Bool} (hnot : cp.status ≠ .paused) : Writes cp landed .stopped .stopped

theorem writes_of_next {w w' : Watch} {cp : BatchCheckpoint} {landed : Bool}
    (h : w.next (.wrote cp landed) = some w') : Writes cp landed w w' := by
  cases w with
  | free =>
      simp only [next] at h
      split at h
      · next hpaused =>
          split at h
          · next hnobody =>
              cases h
              cases landed with
              | true => exact .paused hpaused hnobody
              | false => exact .unpaused hpaused hnobody
          · cases h
      · next hnot =>
          cases h
          exact .went hnot
  | parked paused =>
      cases landed with
      | false =>
          cases h
          exact .lost
      | true =>
          simp only [next, Bool.true_eq_false, if_false] at h
          split at h
          · next hresumes =>
              cases h
              exact .resumed hresumes
          · split at h
            · next haborted =>
                cases h
                exact .aborted haborted
            · cases h
  | stopped =>
      simp only [next] at h
      split at h
      · cases h
      · next hnot =>
          cases h
          exact .ended hnot
  | failed => cases h

/-- What a state of the monitor says about the file. -/
def Tells (last : Option BatchCheckpoint) : Watch → Prop
  | .free => ∀ cp, last = some cp → cp.status ≠ .paused
  | .parked cp => last = some cp ∧ cp.status = .paused ∧ cp.inFlight = none
  | .stopped => ∀ cp, last = some cp → cp.status ≠ .paused
  | .failed => ∀ cp, last = some cp → cp.status = .paused → cp.inFlight = none

/-- An event that saves nothing leaves the last file. -/
theorem getLast?_savedIn_snoc (log : List EngineEvent) (ev : EngineEvent) :
    (savedIn (log ++ [ev])).getLast? = ev.saved.or (savedIn log).getLast? := by
  unfold savedIn
  rw [filterMap_snoc]
  cases ev.saved with
  | none => simp
  | some cp => simp

theorem Tells.next {last : Option BatchCheckpoint} {w w' : Watch} {ev : EngineEvent}
    (h : w.Tells last) (hnext : w.next ev = some w') : w'.Tells (ev.saved.or last) := by
  cases ev with
  | wrote cp landed =>
      -- A file that was saved is the last one, and one that was lost changes nothing.
      have hsaved : cp.status ≠ .paused → ∀ cp',
          (EngineEvent.wrote cp true).saved.or last = some cp' → cp'.status ≠ .paused := by
        intro hnot cp' hlast
        cases hlast
        exact hnot
      cases writes_of_next hnext with
      | paused hpaused hnobody => exact ⟨rfl, hpaused, hnobody⟩
      | unpaused hpaused hnobody =>
          intro cp' hlast hpaused'
          exact absurd hpaused' (h cp' hlast)
      | went hnot =>
          cases landed with
          | true => exact hsaved hnot
          | false => exact h
      | @lost paused =>
          intro cp' hlast _
          have hsame : paused = cp' := Option.some.inj (h.1.symm.trans hlast)
          exact hsame ▸ h.2.2
      | resumed hresumes => exact hsaved (by simp [hresumes.1])
      | aborted haborted => exact hsaved (by simp [haborted])
      | ended hnot =>
          cases landed with
          | true => exact hsaved hnot
          | false => exact h
  -- Nothing else changes the file.
  | _ => cases w <;> cases hnext <;> exact h

/-- What the monitor says after a log is true of the last file the log has saved. -/
theorem tells_of_run {log : List EngineEvent} {w : Watch} (h : run .free log = some w) :
    w.Tells (savedIn log).getLast? := by
  induction log using List.reverseRecOn generalizing w with
  | nil =>
      cases h
      intro cp hlast
      cases hlast
  | append_singleton log ev ih =>
      unfold run at h
      rw [Machine.run_append] at h
      rcases Option.bind_eq_some_iff.1 h with ⟨middle, hmiddle, hlast⟩
      have hnext : middle.next ev = some w := by simpa [Machine.run_cons] using hlast
      rw [getLast?_savedIn_snoc]
      exact (ih hmiddle).next hnext

/-- After a failed boundary write only control requests are answered. -/
theorem run_failed {log : List EngineEvent} {w : Watch} (h : run .failed log = some w) :
    w = .failed ∧ ∀ ev ∈ log, ∃ c accepted, ev = .controlled c accepted := by
  induction log with
  | nil =>
      cases h
      exact ⟨rfl, by simp⟩
  | cons ev log ih =>
      rcases Option.bind_eq_some_iff.1 h with ⟨middle, hnext, hrest⟩
      cases ev with
      | controlled c accepted =>
          cases hnext
          rcases ih hrest with ⟨hw, hall⟩
          refine ⟨hw, ?_⟩
          intro ev hev
          rcases List.mem_cons.1 hev with rfl | hev
          · exact ⟨c, accepted, rfl⟩
          · exact hall ev hev
      | _ => cases hnext

theorem run_stopped {log : List EngineEvent} {w : Watch} (h : run .stopped log = some w) :
    w = .stopped := by
  induction log with
  | nil =>
      cases h
      rfl
  | cons ev log ih =>
      rcases Option.bind_eq_some_iff.1 h with ⟨middle, hnext, hrest⟩
      have hmiddle : middle = .stopped := by
        cases ev with
        | wrote cp landed =>
            cases writes_of_next hnext with
            | ended _ => rfl
        | controlled c accepted =>
            cases hnext
            rfl
        | moved s t legal =>
            cases hnext
            rfl
        | _ => cases hnext
      subst hmiddle
      exact ih hrest

/-- The monitor is let go of a paused file by the write that resumes it. -/
theorem exists_resumes {log : List EngineEvent} {cp : BatchCheckpoint}
    (h : run (.parked cp) log = some .free) :
    ∃ resumed, EngineEvent.wrote resumed true ∈ log ∧ cp.Resumes resumed := by
  induction log with
  | nil => cases h
  | cons ev log ih =>
      rcases Option.bind_eq_some_iff.1 h with ⟨middle, hnext, hrest⟩
      -- Whatever keeps the file paused leaves the rest of the log to look through.
      have hlater : middle = .parked cp →
          ∃ resumed, EngineEvent.wrote resumed true ∈ ev :: log ∧ cp.Resumes resumed := by
        intro hmiddle
        rcases ih (hmiddle ▸ hrest) with ⟨resumed, hmem, hresumes⟩
        exact ⟨resumed, List.mem_cons_of_mem _ hmem, hresumes⟩
      cases ev with
      | controlled c accepted => exact hlater (Option.some.inj hnext).symm
      | moved s t legal => exact hlater (Option.some.inj hnext).symm
      | wrote resumed landed =>
          cases writes_of_next hnext with
          | lost => cases (run_failed hrest).1
          | resumed hresumes => exact ⟨resumed, List.mem_cons_self, hresumes⟩
          | aborted _ => cases run_stopped hrest
      | _ => cases hnext

end Watch

/-! ## The monitor follows the run -/

/-- The points between a paused file and the next write. -/
def Pc.parked : Pc → Bool
  | .paused => true
  | .writing .resume => true
  | .writing .boundaryStop => true
  | .returned (.error _) => true
  | _ => false

/-- The points past the loop. -/
def Pc.over : Pc → Bool
  | .completion => true
  | .writing .lateStop => true
  | .writing (.terminal _) => true
  | .reporting => true
  | .returned _ => true
  | _ => false

/-- What a state of the monitor says about the run. -/
def Watch.Fits (e : Engine) : Watch → Prop
  | .free => True
  | .parked cp => e.pc.parked = true ∧ cp.results = e.results ∧ cp.pending = e.queue.ids
  | .stopped => e.pc.over = true
  | .failed => ∃ text, e.pc = .returned (.error text)

/-- The monitor accepts the log so far. -/
def Watched (e : Engine) : Prop :=
  ∃ w, Watch.run .free e.log = some w ∧ w.Fits e

/-- An event that neither sends nor pauses. -/
def EngineEvent.calm : EngineEvent → Prop
  | .wrote cp _ => cp.status ≠ .paused
  | .moved _ _ _ => True
  | _ => False

/-- An event that does not pause. -/
def EngineEvent.unpausing : EngineEvent → Prop
  | .wrote cp _ => cp.status ≠ .paused
  | _ => True

theorem EngineEvent.calm.unpausing {ev : EngineEvent} (h : ev.calm) : ev.unpausing := by
  cases ev with
  | wrote cp landed => exact h
  | _ => trivial

section Follow

variable {b : Batch} {e e' : Engine}

theorem Watch.run_append_of_run {log more : List EngineEvent} {w w' : Watch}
    (h : Watch.run .free log = some w) (hmore : Watch.run w more = some w') :
    Watch.run .free (log ++ more) = some w' := by
  unfold Watch.run at *
  rw [Machine.run_append_of_run h, hmore]

theorem Watch.run_keeps {w : Watch} {more : List EngineEvent}
    (h : ∀ ev ∈ more, w.next ev = some w) : Watch.run w more = some w := by
  induction more with
  | nil => rfl
  | cons ev more ih =>
      unfold Watch.run
      rw [Machine.run_cons_of_step (h ev List.mem_cons_self)]
      exact ih fun ev' hev' => h ev' (List.mem_cons_of_mem _ hev')

theorem Watch.free_next {ev : EngineEvent} (h : ev.unpausing) :
    Watch.next .free ev = some .free := by
  cases ev with
  | wrote cp landed => simp [Watch.next, show cp.status ≠ .paused from h]
  | _ => rfl

theorem Watch.stopped_next {ev : EngineEvent} (h : ev.calm) :
    Watch.next .stopped ev = some .stopped := by
  cases ev with
  | wrote cp landed => simp [Watch.next, show cp.status ≠ .paused from h]
  | moved s t legal => rfl
  | _ => cases h

/-- Away from a paused file, the monitor is free or the run is past its loop. -/
theorem Watched.unparked (h : Watched e) {pc : Pc} (hpc : e.pc = pc) (hparked : pc.parked = false) :
    Watch.run .free e.log = some .free ∨
      Watch.run .free e.log = some .stopped ∧ pc.over = true := by
  subst hpc
  rcases h with ⟨w, hrun, hfits⟩
  cases w with
  | free => exact Or.inl hrun
  | stopped => exact Or.inr ⟨hrun, hfits⟩
  | parked cp =>
      have hparked' := hfits.1
      simp [hparked] at hparked'
  | failed =>
      rcases hfits with ⟨text, hreturned⟩
      simp [hreturned, Pc.parked] at hparked

theorem Watched.free (h : Watched e) {pc : Pc} (hpc : e.pc = pc) (hparked : pc.parked = false)
    (hover : pc.over = false) : Watch.run .free e.log = some .free := by
  rcases h.unparked hpc hparked with hfree | ⟨-, hover'⟩
  · exact hfree
  · simp [hover] at hover'

/-- A step of the loop. -/
theorem Watched.looping (h : Watched e) {pc : Pc} (hpc : e.pc = pc) (hparked : pc.parked = false)
    (hover : pc.over = false) (hadds : Engine.Adds EngineEvent.unpausing e e') : Watched e' := by
  rcases hadds with ⟨more, hlog, hmore⟩
  refine ⟨.free, ?_, trivial⟩
  rw [hlog]
  exact Watch.run_append_of_run (h.free hpc hparked hover)
    (Watch.run_keeps fun ev hev => Watch.free_next (hmore ev hev))

/-- A step past the loop. -/
theorem Watched.ending (h : Watched e) {pc : Pc} (hpc : e.pc = pc) (hparked : pc.parked = false)
    (hadds : Engine.Adds EngineEvent.calm e e') (hover : e'.pc.over = true) : Watched e' := by
  rcases hadds with ⟨more, hlog, hmore⟩
  rcases h.unparked hpc hparked with hfree | ⟨hstopped, -⟩
  · refine ⟨.free, ?_, trivial⟩
    rw [hlog]
    exact Watch.run_append_of_run hfree
      (Watch.run_keeps fun ev hev => Watch.free_next (hmore ev hev).unpausing)
  · refine ⟨.stopped, ?_, hover⟩
    rw [hlog]
    exact Watch.run_append_of_run hstopped
      (Watch.run_keeps fun ev hev => Watch.stopped_next (hmore ev hev))

/-- A control request moves nothing. -/
theorem Watched.controlled (h : Watched e) {c : ControlRequest} {accepted : Bool}
    {control : Option BatchControl} :
    Watched { e with control := control, log := e.log ++ [.controlled c accepted] } := by
  rcases h with ⟨w, hrun, hfits⟩
  refine ⟨w, Watch.run_append_of_run hrun ?_, ?_⟩
  · cases w <;> rfl
  · cases w <;> exact hfits

/-- From a paused file only to the write that follows it. -/
theorem Watched.unparking (h : Watched e) (hpc : e.pc = .paused) {pc : Pc}
    (hparked : pc.parked = true) : Watched { e with pc := pc } := by
  rcases h with ⟨w, hrun, hfits⟩
  refine ⟨w, hrun, ?_⟩
  cases w with
  | free => trivial
  | parked cp => exact ⟨hparked, hfits.2⟩
  | stopped =>
      have hover : e.pc.over = true := hfits
      simp [hpc, Pc.over] at hover
  | failed =>
      rcases hfits with ⟨text, hreturned⟩
      simp [hpc] at hreturned

/-- At a write that follows a paused file, the monitor is free or holds the file. -/
theorem Watched.at_boundary (h : Watched e) {pc : Pc} (hpc : e.pc = pc) (hover : pc.over = false) :
    Watch.run .free e.log = some .free ∨
      ∃ cp, Watch.run .free e.log = some (.parked cp) ∧ cp.results = e.results ∧
        cp.pending = e.queue.ids := by
  subst hpc
  rcases h with ⟨w, hrun, hfits⟩
  cases w with
  | free => exact Or.inl hrun
  | parked cp => exact Or.inr ⟨cp, hrun, hfits.2⟩
  | stopped =>
      have hover' : e.pc.over = true := hfits
      simp [hover] at hover'
  | failed =>
      rcases hfits with ⟨text, hreturned⟩
      simp [hreturned, Pc.over] at hover

/-! ### The writes -/

theorem Watch.run_snoc {log : List EngineEvent} {w w' : Watch} {ev : EngineEvent}
    (h : Watch.run .free log = some w) (hnext : w.next ev = some w') :
    Watch.run .free (log ++ [ev]) = some w' := by
  refine Watch.run_append_of_run h ?_
  unfold Watch.run
  rw [Machine.run_cons_of_step hnext, Machine.run_nil]

theorem Watch.next_resumes {paused cp : BatchCheckpoint} (h : paused.Resumes cp) :
    Watch.next (.parked paused) (.wrote cp true) = some .free := by
  simp [Watch.next, h]

theorem Watch.next_aborted {paused cp : BatchCheckpoint} (h : cp.status = .aborted) :
    Watch.next (.parked paused) (.wrote cp true) = some .stopped := by
  simp [Watch.next, BatchCheckpoint.Resumes, h]

theorem Engine.transitionOrReturn_eq (e : Engine) (target : AutomationState) (next : Pc) :
    ∃ pc, e.transitionOrReturn target next = { e.transition target with pc := pc } ∧
      (pc = next ∨ ∃ text, pc = .returned (.error text)) := by
  unfold Engine.transitionOrReturn
  split
  · exact ⟨next, rfl, Or.inl rfl⟩
  · next text _ => exact ⟨_, rfl, Or.inr ⟨text, rfl⟩⟩

/-- No terminal write pauses. -/
theorem snapshot_terminal_ne_paused (b : Batch) (e : Engine) (stopped : Bool) (now : String) :
    (b.snapshot e (.terminal stopped) now).status ≠ .paused := by
  change (if e.aborted = true then CheckpointStatus.aborted else .finished) ≠ .paused
  split <;> simp

theorem calm_moved (s t : AutomationState) (legal : Bool) : EngineEvent.calm (.moved s t legal) :=
  trivial

theorem unpausing_moved (s t : AutomationState) (legal : Bool) :
    EngineEvent.unpausing (.moved s t legal) :=
  trivial

/-- The machine pauses, or refuses to and ends the run: the file says paused either way. -/
theorem Watched.parking (cp : BatchCheckpoint) (hrun : Watch.run .free e.log = some (.parked cp))
    (hresults : cp.results = e.results) (hpending : cp.pending = e.queue.ids)
    (target : AutomationState) : Watched (e.transitionOrReturn target .paused) := by
  rcases e.transitionOrReturn_eq target .paused with ⟨pc, heq, hto⟩
  rcases e.transition_log target with ⟨legal, hlog⟩
  have hrun' : Watch.run .free (e.transition target).log = some (.parked cp) := by
    rw [hlog]
    exact Watch.run_snoc hrun rfl
  rw [heq]
  refine ⟨.parked cp, hrun', ?_, ?_, ?_⟩
  · rcases hto with rfl | ⟨text, rfl⟩
    · rfl
    · rfl
  · simpa using hresults
  · simpa using hpending

theorem Watched.moving (hrun : Watch.run .free e.log = some .free) (target : AutomationState)
    (next : Pc) : Watched (e.transitionOrReturn target next) := by
  rcases e.transitionOrReturn_eq target next with ⟨pc, heq, -⟩
  rcases e.transition_log target with ⟨legal, hlog⟩
  have hrun' : Watch.run .free (e.transition target).log = some .free := by
    rw [hlog]
    exact Watch.run_snoc hrun rfl
  rw [heq]
  exact ⟨.free, hrun', trivial⟩

theorem Watched.abandoned
    (hrun : Watch.run .free e.log = some .free ∨ Watch.run .free e.log = some .stopped)
    (reason : String) : Watched (e.abandon reason) := by
  rcases e.abandon_log reason with ⟨s, t, legal, hlog⟩
  unfold Watched
  rw [hlog]
  rcases hrun with hfree | hstopped
  · exact ⟨.free, Watch.run_snoc hfree rfl, trivial⟩
  · exact ⟨.stopped, Watch.run_snoc hstopped rfl, rfl⟩

theorem Watched.landed (h : Watched e) {site : WriteSite} {now : String}
    (hpc : e.pc = .writing site) :
    Watched (Batch.writeLanded
      { e with
        store := e.store.save (b.snapshot e site now) (.ok ())
        log := e.log ++ [.wrote (b.snapshot e site now) true] } site) := by
  cases site with
  | pause =>
      have hfree := h.free hpc rfl rfl
      simp only [Batch.writeLanded]
      apply Watched.parking (b.snapshot e .pause now)
      · exact Watch.run_snoc hfree rfl
      · rfl
      · rfl
  | resume =>
      simp only [Batch.writeLanded]
      rcases h.at_boundary hpc rfl with hfree | ⟨cp, hparked, hresults, hpending⟩
      · exact .moving (Watch.run_snoc hfree rfl) _ _
      · exact .moving (Watch.run_snoc hparked
          (Watch.next_resumes ⟨rfl, hresults.symm, hpending.symm⟩)) _ _
  | boundaryStop =>
      rcases h.at_boundary hpc rfl with hfree | ⟨cp, hparked, -, -⟩
      · exact .abandoned (Or.inl (Watch.run_snoc hfree rfl)) _
      · exact .abandoned (Or.inr (Watch.run_snoc hparked (Watch.next_aborted rfl))) _
  | inFlight task =>
      exact h.looping hpc rfl rfl
        (.event rfl CheckpointStatus.noConfusion)
  | settle =>
      exact h.looping hpc rfl rfl
        (.event rfl CheckpointStatus.noConfusion)
  | abortStop =>
      refine h.looping hpc rfl rfl ?_
      exact (Engine.Adds.event rfl CheckpointStatus.noConfusion).trans
        (.abandon unpausing_moved _ _)
  | lateStop =>
      refine h.ending hpc rfl ?_ rfl
      exact ((Engine.Adds.event rfl CheckpointStatus.noConfusion).trans
        (.abandon calm_moved _ _)).trans (.close calm_moved _ _)
  | terminal stopped =>
      exact h.ending hpc rfl
        (.event rfl (snapshot_terminal_ne_paused b e stopped now)) rfl

/-- A boundary write that failed ends the run, with its error. -/
theorem Watched.failed_boundary (h : Watched e) {pc : Pc} (hpc : e.pc = pc)
    (hover : pc.over = false) {cp : BatchCheckpoint} (hnot : cp.status ≠ .paused)
    (text : String) :
    Watched { e with log := e.log ++ [.wrote cp false], pc := .returned (.error text) } := by
  rcases h.at_boundary hpc hover with hfree | ⟨paused, hparked, -, -⟩
  · exact ⟨.free, Watch.run_snoc hfree (Watch.free_next hnot), trivial⟩
  · exact ⟨.failed, Watch.run_snoc hparked rfl, text, rfl⟩

theorem Watched.failed (h : Watched e) {site : WriteSite} {now text : String}
    (hpc : e.pc = .writing site) :
    Watched (Batch.writeFailed
      { e with log := e.log ++ [.wrote (b.snapshot e site now) false] } text site) := by
  cases site with
  | pause =>
      have hfree := h.free hpc rfl rfl
      exact ⟨.failed, Watch.run_snoc hfree rfl, _, rfl⟩
  | resume => exact h.failed_boundary hpc rfl CheckpointStatus.noConfusion _
  | boundaryStop => exact h.failed_boundary hpc rfl CheckpointStatus.noConfusion _
  | inFlight task =>
      -- The task goes back to the queue before the drain, and the log does not see it.
      have hwrote : Engine.Adds EngineEvent.unpausing e
          { e with
            queue := e.queue.putBack task
            log := e.log ++ [.wrote (b.snapshot e (.inFlight task) now) false] } :=
        .event rfl CheckpointStatus.noConfusion
      exact h.looping hpc rfl rfl (hwrote.trans (.abandon unpausing_moved _ _))
  | settle =>
      exact h.looping hpc rfl rfl
        (.event rfl CheckpointStatus.noConfusion)
  | abortStop =>
      exact h.looping hpc rfl rfl
        (.event rfl CheckpointStatus.noConfusion)
  | lateStop =>
      exact h.ending hpc rfl (.event rfl CheckpointStatus.noConfusion) rfl
  | terminal stopped =>
      have hnot := snapshot_terminal_ne_paused b e stopped now
      cases stopped with
      | true => exact h.ending hpc rfl (.event rfl hnot) rfl
      | false => exact h.ending hpc rfl (.event rfl hnot) rfl

/-! ### All steps -/

theorem Watched.step (h : Watched e) (hstep : b.Step e e') : Watched e' := by
  cases hstep with
  | accepted _ _ _ => exact h.controlled
  | refused _ _ _ => exact h.controlled
  | landed hpc => exact h.landed hpc
  | failed hpc => exact h.failed hpc
  -- The boundary is left from its head or from the pause.
  | boundaryStopped hpc _ =>
      rcases hpc with hhead | hpaused
      · exact h.looping hhead rfl rfl (.nothing rfl)
      · exact h.unparking hpaused rfl
  | resuming hpc _ _ => exact h.unparking hpc rfl
  | lateStopped hpc _ _ => exact h.ending hpc rfl (.nothing rfl) rfl
  | closing hpc _ => exact h.ending hpc rfl (.close calm_moved _ _) rfl
  | reported hpc => exact h.ending hpc rfl (.nothing rfl) rfl
  | ensure hpc => exact h.looping hpc rfl rfl (.event rfl trivial)
  | entered hpc =>
      exact h.looping hpc rfl rfl
        (.transition unpausing_moved _ _)
  | admitted hpc _ => exact h.looping hpc rfl rfl (.event rfl trivial)
  | submitted hpc =>
      exact h.looping hpc rfl rfl
        ((Engine.Adds.transition unpausing_moved _ _).trans (.event rfl trivial))
  | lost hpc => exact h.looping hpc rfl rfl (.event rfl trivial)
  | settled hpc _ =>
      exact h.looping hpc rfl rfl
        ((Engine.Adds.event rfl trivial).trans (.transition unpausing_moved _ _))
  | retrying hpc _ _ =>
      exact h.looping hpc rfl rfl
        ((Engine.Adds.event rfl trivial).trans (.transition unpausing_moved _ _))
  | slept hpc => exact h.looping hpc rfl rfl (.event rfl trivial)
  | aborted hpc _ _ _ =>
      exact h.looping hpc rfl rfl
        (.abandon unpausing_moved _ _)
  | unensured hpc => exact h.looping hpc rfl rfl (.nothing rfl)
  | ensured hpc => exact h.looping hpc rfl rfl (.nothing rfl)
  | emptied hpc _ => exact h.looping hpc rfl rfl (.nothing rfl)
  | pausing hpc _ _ _ => exact h.looping hpc rfl rfl (.nothing rfl)
  | proceeding hpc _ _ _ => exact h.looping hpc rfl rfl (.nothing rfl)
  | rechecked hpc _ => exact h.looping hpc rfl rfl (.nothing rfl)
  | dequeued hpc _ _ => exact h.looping hpc rfl rfl (.nothing rfl)
  | withdrawn hpc _ => exact h.looping hpc rfl rfl (.nothing rfl)
  | abortStopped hpc _ _ _ => exact h.looping hpc rfl rfl (.nothing rfl)
  | continued hpc _ _ => exact h.looping hpc rfl rfl (.nothing rfl)

end Follow

/-! ## What a run does around a pause -/

/-- How the log of a run, its last file and the point it stands at agree about pauses. -/
structure PausesSafely (e : Engine) : Prop where
  /-- Where the last file says paused, it names nobody and nobody is being worked. -/
  rests : ∀ cp, (savedIn e.log).getLast? = some cp → cp.status = .paused →
    cp.inFlight = none ∧ e.pc.working = none
  /-- Between a paused file and a later submission the pause was left by its own write. -/
  resumes : ∀ before cp between task req after,
    e.log = before ++ .wrote cp true :: (between ++ .submitted task req :: after) →
      cp.status = .paused → ∃ resumed, .wrote resumed true ∈ between ∧ cp.Resumes resumed
  /-- A pause that could not be entered or left by its write has ended the run with an error, and
  only control requests were answered since. -/
  fails : ∀ before cp after, e.log = before ++ .wrote cp false :: after →
    (cp.status = .paused ∨
      ∃ paused, (savedIn before).getLast? = some paused ∧ paused.status = .paused) →
    (∃ text, e.pc = .returned (.error text)) ∧
      ∀ ev ∈ after, ∃ c accepted, ev = .controlled c accepted

section Run

variable {b : Batch} {store : CheckpointStore} {e : Engine}

theorem watched_start (b : Batch) (control : Option BatchControl) (store : CheckpointStore) :
    Watched (b.start control store) := by
  unfold Batch.start
  rcases Engine.transition_log
    { pc := .ensureSession, machine := .idle, control := control, results := b.carried
      queue := .new, aborted := false, store := store, log := [] } .initializing with
    ⟨legal, hlog⟩
  refine ⟨.free, ?_, trivial⟩
  rw [hlog]
  rfl

theorem Batch.Reachable.watched (h : b.Reachable store e) : Watched e := by
  refine h.invariant ?_ ?_
  · intro control _
    exact watched_start b control store
  · intro x x' hx hstep
    exact hx.step hstep

theorem working_of_parked {pc : Pc} (h : pc.parked = true) : pc.working = none := by
  cases pc with
  | entering task => cases h
  | admission task a => cases h
  | submitting task a => cases h
  | awaiting task a => cases h
  | backoff task a => cases h
  | _ => rfl

theorem Watched.rests (h : Watched e) {cp : BatchCheckpoint}
    (hlast : (savedIn e.log).getLast? = some cp) (hpaused : cp.status = .paused) :
    cp.inFlight = none ∧ e.pc.working = none := by
  rcases h with ⟨w, hrun, hfits⟩
  have htells := Watch.tells_of_run hrun
  cases w with
  | free => exact absurd hpaused (htells cp hlast)
  | stopped => exact absurd hpaused (htells cp hlast)
  | parked paused =>
      have hsame : paused = cp := Option.some.inj (htells.1.symm.trans hlast)
      exact ⟨hsame ▸ htells.2.2, working_of_parked hfits.1⟩
  | failed =>
      rcases hfits with ⟨text, hreturned⟩
      exact ⟨htells cp hlast hpaused, by rw [hreturned]; rfl⟩

/-- A monitor that has seen a paused file or a failed boundary write does not see a submission
before it is free again. -/
theorem Watch.free_of_submitted {w w' : Watch} {task : Task} {req : Request}
    (h : w.next (.submitted task req) = some w') : w = .free := by
  cases w with
  | free => rfl
  | _ => cases h

/-- The monitor before and after an event of the log. -/
theorem Watched.around (h : Watched e) {before after : List EngineEvent} {ev : EngineEvent}
    (hlog : e.log = before ++ ev :: after) :
    ∃ w₀ w₁ w, Watch.run .free before = some w₀ ∧ w₀.next ev = some w₁ ∧
      Watch.run w₁ after = some w ∧ w.Fits e := by
  rcases h with ⟨w, hrun, hfits⟩
  unfold Watch.run at hrun
  rw [hlog, Machine.run_append] at hrun
  rcases Option.bind_eq_some_iff.1 hrun with ⟨w₀, hbefore, hrest⟩
  rcases Option.bind_eq_some_iff.1 hrest with ⟨w₁, hnext, hafter⟩
  exact ⟨w₀, w₁, w, hbefore, hnext, hafter, hfits⟩

theorem Watched.resumes (h : Watched e) {before between after : List EngineEvent}
    {cp : BatchCheckpoint} {task : Task} {req : Request}
    (hlog : e.log = before ++ .wrote cp true :: (between ++ .submitted task req :: after))
    (hpaused : cp.status = .paused) :
    ∃ resumed, .wrote resumed true ∈ between ∧ cp.Resumes resumed := by
  rcases h.around hlog with ⟨w₀, w₁, w, -, hwrote, hrest, -⟩
  unfold Watch.run at hrest
  rw [Machine.run_append] at hrest
  rcases Option.bind_eq_some_iff.1 hrest with ⟨w₂, hbetween, hrun₂⟩
  rcases Option.bind_eq_some_iff.1 hrun₂ with ⟨w₃, hsubmitted, -⟩
  have hfree := Watch.free_of_submitted hsubmitted
  subst hfree
  -- A paused file is written from the free state only.
  cases Watch.writes_of_next hwrote with
  | paused _ _ => exact Watch.exists_resumes hbetween
  | went hnot => exact absurd hpaused hnot
  | resumed hresumes => simp [hresumes.1] at hpaused
  | aborted haborted => simp [haborted] at hpaused
  | ended hnot => exact absurd hpaused hnot

theorem Watched.fails (h : Watched e) {before after : List EngineEvent} {cp : BatchCheckpoint}
    (hlog : e.log = before ++ .wrote cp false :: after)
    (hboundary : cp.status = .paused ∨
      ∃ paused, (savedIn before).getLast? = some paused ∧ paused.status = .paused) :
    (∃ text, e.pc = .returned (.error text)) ∧
      ∀ ev ∈ after, ∃ c accepted, ev = .controlled c accepted := by
  rcases h.around hlog with ⟨w₀, w₁, w, hbefore, hwrote, hafter, hfits⟩
  have htells := Watch.tells_of_run hbefore
  have hfailed : w₁ = .failed := by
    cases Watch.writes_of_next hwrote with
    | unpaused _ _ => rfl
    | lost => rfl
    | went hnot =>
        rcases hboundary with hpaused | ⟨paused, hlast, hpaused⟩
        · exact absurd hpaused hnot
        · exact absurd hpaused (htells paused hlast)
    | ended hnot =>
        rcases hboundary with hpaused | ⟨paused, hlast, hpaused⟩
        · exact absurd hpaused hnot
        · exact absurd hpaused (htells paused hlast)
  subst hfailed
  rcases Watch.run_failed hafter with ⟨hw, hcontrols⟩
  subst hw
  exact ⟨hfits, hcontrols⟩

theorem Batch.Reachable.pausesSafely (h : b.Reachable store e) : PausesSafely e where
  rests := fun _ hlast hpaused => h.watched.rests hlast hpaused
  resumes := fun _ _ _ _ _ _ hlog hpaused => h.watched.resumes hlog hpaused
  fails := fun _ _ _ hlog hboundary => h.watched.fails hlog hboundary

/-- No checkpoint of a run lists more rows than its total. -/
theorem Batch.Reachable.within_total (h : b.Reachable store e) {cp : BatchCheckpoint}
    {landed : Bool} (hwrite : (cp, landed) ∈ e.writes) : cp.results.length ≤ cp.total := by
  rcases h.sim with ⟨l, hsim⟩
  rcases hsim.writes _ hwrite with ⟨p, hdescribes, htasks, -⟩
  rcases hdescribes.recorded with ⟨rows, hresults, hrows⟩
  have hclosed : p.closed.length ≤ b.tasks.length := by
    rw [← htasks]
    simp [WriteAhead.Picture.tasks]
  have hqueued : b.tasks.length = (dedupe b.trainees).length := List.length_map _
  calc
    cp.results.length = b.carried.length + rows.length := by rw [hresults, List.length_append]
    _ = b.carried.length + p.closed.length := by rw [hrows.length_eq]
    _ ≤ b.total := by
      unfold Batch.total
      omega
    _ = cp.total := hdescribes.total.symm

end Run

end DsspBot

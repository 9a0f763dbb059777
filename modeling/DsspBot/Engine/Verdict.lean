import DsspBot.Engine.Latch
import DsspBot.Engine.Partition

/-!
# Verdict — how the last file and the report of a run agree

The loop is left in five ways, and each sets `aborted`, drains and writes for itself. Whichever it
was, the last write says what the report says, and only what the run itself met can abort it.
-/

namespace DsspBot

open WriteAhead (hands_pos_iff)

/-! ## What one step does to the writes and to `aborted` -/

/-- The writes that an acknowledged stop asks for. -/
def WriteSite.stops : WriteSite → Bool
  | .boundaryStop => true
  | .abortStop => true
  | .lateStop => true
  | _ => false

section Step

variable {b : Batch} {e e' : Engine}

theorem Engine.transitionOrReturn_aborted (e : Engine) (target : AutomationState) (next : Pc) :
    (e.transitionOrReturn target next).aborted = e.aborted := by
  unfold Engine.transitionOrReturn
  split
  · exact e.transition_aborted target
  · exact e.transition_aborted target

theorem writeLanded_writes (e : Engine) (site : WriteSite) :
    (Batch.writeLanded e site).writes = e.writes :=
  Batch.writeLanded_log_filterMap _ (fun _ _ _ => rfl) e site

theorem writeFailed_writes (e : Engine) (text : String) (site : WriteSite) :
    (Batch.writeFailed e text site).writes = e.writes :=
  Batch.writeFailed_log_filterMap _ (fun _ _ _ => rfl) e text site

/-- What a step does to the list of writes. -/
inductive Batch.Wrote (b : Batch) (e e' : Engine) : Prop
  | nothing (hwrites : e'.writes = e.writes)
  | landed {site : WriteSite} {now : String} (hpc : e.pc = .writing site)
      (hwrites : e'.writes = e.writes ++ [(b.snapshot e site now, true)])
      (hafter : e' = Batch.writeLanded
        { e with
          store := e.store.save (b.snapshot e site now) (.ok ())
          log := e.log ++ [.wrote (b.snapshot e site now) true] } site)
  | failed {site : WriteSite} {now text : String} (hpc : e.pc = .writing site)
      (hwrites : e'.writes = e.writes ++ [(b.snapshot e site now, false)])
      (hafter : e' = Batch.writeFailed
        { e with log := e.log ++ [.wrote (b.snapshot e site now) false] } text site)

/-- An event that is no write leaves the writes alone. -/
theorem Engine.writes_of_unwritten {ev : EngineEvent} (h : e'.log = e.log ++ [ev])
    (hunwritten : ev.written = none) : e'.writes = e.writes := by
  rw [Engine.writes_of_log h, hunwritten]
  exact List.append_nil _

theorem Engine.writes_of_written {cp : BatchCheckpoint} {landed : Bool}
    (h : e'.log = e.log ++ [.wrote cp landed]) : e'.writes = e.writes ++ [(cp, landed)] :=
  Engine.writes_of_log h

theorem Batch.writes_of_landed (b : Batch) (e : Engine) (site : WriteSite) (now : String) :
    (writeLanded
        { e with
          store := e.store.save (b.snapshot e site now) (.ok ())
          log := e.log ++ [.wrote (b.snapshot e site now) true] } site).writes =
      e.writes ++ [(b.snapshot e site now, true)] := by
  rw [writeLanded_writes]
  exact Engine.writes_of_written rfl

theorem Batch.writes_of_failed (b : Batch) (e : Engine) (site : WriteSite) (now text : String) :
    (writeFailed { e with log := e.log ++ [.wrote (b.snapshot e site now) false] } text
        site).writes = e.writes ++ [(b.snapshot e site now, false)] := by
  rw [writeFailed_writes]
  exact Engine.writes_of_written rfl

theorem Batch.Step.wrote (h : b.Step e e') : b.Wrote e e' := by
  cases h with
  | accepted _ _ _ => exact .nothing (Engine.writes_of_unwritten rfl rfl)
  | refused _ _ _ => exact .nothing (Engine.writes_of_unwritten rfl rfl)
  | ensure _ => exact .nothing (Engine.writes_of_unwritten rfl rfl)
  | landed hpc => exact .landed hpc (b.writes_of_landed e _ _) rfl
  | failed hpc => exact .failed hpc (b.writes_of_failed e _ _ _) rfl
  | entered _ => exact .nothing (e.transition_writes _)
  | admitted _ _ => exact .nothing (Engine.writes_of_unwritten rfl rfl)
  | @submitted task a _ =>
      have hsent : (b.submit e task a).writes = (e.transition .submitting).writes :=
        Engine.writes_of_unwritten rfl rfl
      exact .nothing (hsent.trans (e.transition_writes _))
  | lost _ => exact .nothing (Engine.writes_of_unwritten rfl rfl)
  | @settled task _ resp _ _ _ _ _ =>
      have hreplied : (e.emit (.replied task (.ok resp))).writes = e.writes :=
        Engine.writes_of_unwritten rfl rfl
      exact .nothing ((Engine.transition_writes _ _).trans hreplied)
  | @retrying task _ resp _ _ _ _ _ _ =>
      have hreplied : (e.emit (.replied task (.ok resp))).writes = e.writes :=
        Engine.writes_of_unwritten rfl rfl
      exact .nothing ((Engine.transition_writes _ _).trans hreplied)
  | slept _ => exact .nothing (Engine.writes_of_unwritten rfl rfl)
  | aborted _ _ _ _ => exact .nothing (e.abandon_writes _)
  | closing _ _ => exact .nothing (e.close_writes _)
  | _ => exact .nothing rfl

/-- What makes a step the one that aborts the run. -/
inductive Batch.AbortedBy (e e' : Engine) : Prop
  | stop {site : WriteSite} (hpc : e.pc = .writing site) (hstops : site.stops = true)
  | handover {cp : BatchCheckpoint} (hnamed : cp.inFlight.isSome = true)
      (hwrite : (cp, false) ∈ e'.writes)
  | row {last : TrainingResult} (hpc : e.pc = .abortCheck)
      (hlast : e.results.getLast? = some last) (habort : shouldAbort last = true)

/-- A step leaves `aborted` alone, or sets it for one of these reasons. -/
theorem Batch.Step.aborted_cases (h : b.Step e e') :
    e'.aborted = e.aborted ∨ e'.aborted = true ∧ Batch.AbortedBy e e' := by
  cases h with
  | @landed site now hpc =>
      cases site with
      | pause => exact Or.inl (Engine.transitionOrReturn_aborted _ _ _)
      | resume => exact Or.inl (Engine.transitionOrReturn_aborted _ _ _)
      | boundaryStop => exact Or.inr ⟨rfl, .stop hpc rfl⟩
      | abortStop => exact Or.inr ⟨rfl, .stop hpc rfl⟩
      | lateStop => exact Or.inr ⟨Engine.close_aborted _ _, .stop hpc rfl⟩
      | _ => exact Or.inl rfl
  | @failed site now text hpc =>
      cases site with
      | inFlight task =>
          refine Or.inr ⟨rfl, .handover (show (b.snapshot e (.inFlight task) now).inFlight.isSome =
            true from rfl) ?_⟩
          rw [b.writes_of_failed]
          exact List.mem_append_right _ List.mem_cons_self
      | terminal stopped => cases stopped <;> exact Or.inl rfl
      | _ => exact Or.inl rfl
  | entered _ => exact Or.inl (e.transition_aborted _)
  | submitted _ => exact Or.inl (e.transition_aborted _)
  | settled _ _ => exact Or.inl (Engine.transition_aborted _ _)
  | retrying _ _ _ => exact Or.inl (Engine.transition_aborted _ _)
  | aborted hpc hlast habort _ => exact Or.inr ⟨rfl, .row hpc hlast habort⟩
  | closing _ _ => exact Or.inl (e.close_aborted _)
  | _ => exact Or.inl rfl

/-- An aborted run stays aborted. -/
theorem Batch.Step.aborted_mono (h : b.Step e e') (haborted : e.aborted = true) :
    e'.aborted = true := by
  rcases h.aborted_cases with hsame | ⟨hset, -⟩
  · rw [hsame, haborted]
  · exact hset

/-- A failed write that names a trainee aborts the run. -/
theorem Batch.Wrote.failed_handover (h : b.Wrote e e') {cp : BatchCheckpoint}
    (hnamed : cp.inFlight.isSome = true) (hwrite : (cp, false) ∈ e'.writes) :
    (cp, false) ∈ e.writes ∨ e'.aborted = true := by
  cases h with
  | nothing hwrites => exact Or.inl (hwrites ▸ hwrite)
  | landed hpc hwrites _ =>
      rw [hwrites] at hwrite
      rcases List.mem_append.1 hwrite with hbefore | hnow
      · exact Or.inl hbefore
      · simp at hnow
  | @failed site now text hpc hwrites hafter =>
      rw [hwrites] at hwrite
      rcases List.mem_append.1 hwrite with hbefore | hnow
      · exact Or.inl hbefore
      · have heq : cp = b.snapshot e site now := by simpa using hnow
        -- Only the in-flight site names anybody.
        cases site with
        | inFlight task => exact Or.inr (by rw [hafter]; rfl)
        | _ => simp [heq, Batch.snapshot, Batch.inFlightAt] at hnamed

end Step

section Run

variable {b : Batch} {store : CheckpointStore} {e e' : Engine}

/-! ## What aborts a run -/

/-- The run itself met a reason to abort: a stop, a handover it could not record, or one of the rows
it added to the carried ones. -/
def Batch.HasCause (b : Batch) (e : Engine) : Prop :=
  e.stopRequested = true ∨ (∃ cp, cp.inFlight.isSome = true ∧ (cp, false) ∈ e.writes) ∨
    ∃ row ∈ e.results.drop b.carried.length, shouldAbort row = true

theorem Batch.Wrote.writes_prefix (h : b.Wrote e e') : e.writes <+: e'.writes := by
  cases h with
  | nothing hwrites => rw [hwrites]
  | landed _ hwrites _ => exact ⟨_, hwrites.symm⟩
  | failed _ hwrites _ => exact ⟨_, hwrites.symm⟩

/-- A cause is never taken back. -/
theorem Batch.HasCause.step (h : b.HasCause e) (hstep : b.Step e e') : b.HasCause e' := by
  have honward := hstep.onward
  rcases h with hstop | ⟨cp, hnamed, hwrite⟩ | ⟨row, hrow, habort⟩
  · exact Or.inl (honward.stop hstop)
  · exact Or.inr (Or.inl ⟨cp, hnamed, hstep.wrote.writes_prefix.subset hwrite⟩)
  · exact Or.inr (Or.inr ⟨row, (honward.results.drop _).subset hrow, habort⟩)

/-- The sites that write for a stop are reached by a stop only. -/
def StopSites (e : Engine) : Prop :=
  ∀ site, e.pc = .writing site → site.stops = true → e.stopRequested = true

theorem not_stops_afterWrite {pc : Pc} (h : Batch.afterWrite pc = true) {site : WriteSite}
    (hpc : pc = .writing site) : site.stops = false := by
  rw [hpc] at h
  cases site with
  | terminal stopped => rfl
  | _ => cases h

theorem StopSites.step (h : StopSites e) (hstep : b.Step e e') : StopSites e' := by
  intro site hpc hstops
  have hleaves : ∀ {found : WriteSite}, Pc.writing found = .writing site → found.stops = false →
      e'.stopRequested = true := by
    intro found hsame hnot
    cases hsame
    simp [hnot] at hstops
  cases hstep with
  | accepted hlock hcontrol hrequest =>
      exact (Batch.Step.accepted hlock hcontrol hrequest : b.Step e _).onward.stop
        (h site hpc hstops)
  | refused _ _ _ => exact h site hpc hstops
  | boundaryStopped _ hstop => exact hstop
  | abortStopped _ _ _ hstop => exact hstop
  | lateStopped _ hstop _ => exact hstop
  | landed _ =>
      have hnot := not_stops_afterWrite (Batch.writeLanded_afterWrite _ _) hpc
      simp [hnot] at hstops
  | failed _ =>
      have hnot := not_stops_afterWrite (Batch.writeFailed_afterWrite _ _ _) hpc
      simp [hnot] at hstops
  | pausing _ _ _ _ => exact hleaves hpc rfl
  | resuming _ _ _ => exact hleaves hpc rfl
  | dequeued _ _ _ => exact hleaves hpc rfl
  | withdrawn _ _ => exact hleaves hpc rfl
  | lost _ => exact hleaves hpc rfl
  | settled _ _ => exact hleaves hpc rfl
  | closing _ _ => exact hleaves hpc rfl
  | _ => cases hpc

/-- The row that is looked at for an abort is one of the run's own. -/
theorem Sim.last_own {slot₀ : Slot} {l : WorkLedger} (h : Sim b slot₀ e l)
    (hpc : e.pc = .abortCheck) {last : TrainingResult} (hlast : e.results.getLast? = some last) :
    last ∈ e.results.drop b.carried.length := by
  rcases h.recorded with ⟨rows, hresults, hrows⟩
  rcases (h.stage.at_pc hpc).fresh with ⟨done, entry, hclosed, -⟩
  -- A task was closed just before, so this run has written a row.
  have hne : rows ≠ [] := by
    intro hnil
    have hlength := hrows.length_eq
    simp [hnil, hclosed] at hlength
  have hlast' : rows.getLast? = some last := by
    rw [hresults, List.getLast?_append_of_ne_nil _ hne] at hlast
    exact hlast
  rw [hresults, List.drop_left]
  exact List.mem_of_getLast? hlast'

/-- A run is aborted for a cause of its own. -/
theorem Batch.Reachable.hasCause (h : b.Reachable store e) (haborted : e.aborted = true) :
    b.HasCause e := by
  have hall : (∃ l, Sim b store.slot e l) ∧ StopSites e ∧ (e.aborted = true → b.HasCause e) := by
    refine h.invariant (P := fun e => (∃ l, Sim b store.slot e l) ∧ StopSites e ∧
      (e.aborted = true → b.HasCause e)) ?_ ?_
    · intro control _
      refine ⟨⟨_, sim_start b control store⟩, ?_, ?_⟩
      · intro site hpc
        simp [Batch.start] at hpc
      · intro hset
        simp [Batch.start] at hset
    · rintro x x' ⟨⟨l, hsim⟩, hsites, hcause⟩ hstep
      refine ⟨hsim.step hstep, hsites.step hstep, ?_⟩
      intro hset
      rcases hstep.aborted_cases with hsame | ⟨-, hby⟩
      · exact (hcause (hsame ▸ hset)).step hstep
      · cases hby with
        | stop hpc hstops => exact Or.inl (hstep.onward.stop (hsites _ hpc hstops))
        | handover hnamed hwrite => exact Or.inr (Or.inl ⟨_, hnamed, hwrite⟩)
        | row hpc hlast habort =>
            have hown : b.HasCause x := Or.inr (Or.inr ⟨_, hsim.last_own hpc hlast, habort⟩)
            exact hown.step hstep
  exact hall.2.2 haborted

theorem Batch.Reachable.failed_handover (h : b.Reachable store e) {cp : BatchCheckpoint}
    (hnamed : cp.inFlight.isSome = true) (hwrite : (cp, false) ∈ e.writes) : e.aborted = true := by
  refine h.invariant (P := fun e => (cp, false) ∈ e.writes → e.aborted = true) ?_ ?_ hwrite
  · intro control _ hstart
    have hnone : (b.start control store).writes = [] := Engine.transition_writes _ _
    simp [hnone] at hstart
  · intro x x' hx hstep hwrite'
    rcases hstep.wrote.failed_handover hnamed hwrite' with hbefore | hset
    · exact hstep.aborted_mono (hx hbefore)
    · exact hset

/-! ## The last write -/

/-- From the last write on: it was the terminal one, and the run still holds what it said. -/
def LastWrite (b : Batch) (e : Engine) : Prop :=
  ∃ stopped now landed,
    e.writes.getLast? = some (b.snapshot e (.terminal stopped) now, landed) ∧
      (landed = true → e.store.slot = .file (.written (b.snapshot e (.terminal stopped) now)))

/-- The points past the last write. -/
def Pc.closed : Pc → Bool
  | .reporting => true
  | .returned (.ok _) => true
  | _ => false

theorem Pc.closing_of_closed {pc : Pc} (h : pc.closed = true) : pc.closing = true := by
  cases pc with
  | reporting => rfl
  | returned result =>
      cases result with
      | ok report => rfl
      | error text => cases h
  | _ => cases h

theorem LastWrite.of_eq (h : LastWrite b e) (hwrites : e'.writes = e.writes)
    (hstore : e'.store = e.store) (hresults : e'.results = e.results) (hqueue : e'.queue = e.queue)
    (haborted : e'.aborted = e.aborted) : LastWrite b e' := by
  rcases h with ⟨stopped, now, landed, hlast, hslot⟩
  have hsame : b.snapshot e' (.terminal stopped) now = b.snapshot e (.terminal stopped) now := by
    simp [Batch.snapshot, Batch.statusAt, hresults, hqueue, haborted]
  exact ⟨stopped, now, landed, by rw [hwrites, hsame, hlast], by rw [hstore, hsame]; exact hslot⟩

theorem LastWrite.step (h : e.pc.closed = true → LastWrite b e) (hstep : b.Step e e')
    (hclosed : e'.pc.closed = true) : LastWrite b e' := by
  cases hstep with
  | accepted _ _ _ =>
      exact (h hclosed).of_eq (Engine.writes_of_unwritten rfl rfl) rfl rfl rfl rfl
  | refused _ _ _ =>
      exact (h hclosed).of_eq (Engine.writes_of_unwritten rfl rfl) rfl rfl rfl rfl
  | @landed site now hpc =>
      cases site with
      | terminal stopped =>
          refine ⟨stopped, now, true, ?_, fun _ => rfl⟩
          rw [b.writes_of_landed]
          exact List.getLast?_concat
      | pause =>
          have hopen := Engine.closing_transitionOrReturn
            { e with
              store := e.store.save (b.snapshot e .pause now) (.ok ())
              log := e.log ++ [.wrote (b.snapshot e .pause now) true] } .paused
            (show Pc.paused.closing = false from rfl)
          exact absurd (Pc.closing_of_closed hclosed) (by simpa [Batch.writeLanded] using hopen)
      | resume =>
          have hopen := Engine.closing_transitionOrReturn
            { e with
              store := e.store.save (b.snapshot e .resume now) (.ok ())
              log := e.log ++ [.wrote (b.snapshot e .resume now) true] } .loadingTrainee
            (show Pc.dequeue.closing = false from rfl)
          exact absurd (Pc.closing_of_closed hclosed) (by simpa [Batch.writeLanded] using hopen)
      | _ => cases hclosed
  | @failed site now text hpc =>
      cases site with
      | terminal stopped =>
          cases stopped with
          | true => cases hclosed
          | false =>
              refine ⟨false, now, false, ?_, fun hlanded => Bool.noConfusion hlanded⟩
              rw [b.writes_of_failed]
              exact List.getLast?_concat
      | _ => cases hclosed
  | reported hpc =>
      exact (h (by simp [hpc, Pc.closed])).of_eq rfl rfl rfl rfl rfl
  | _ => cases hclosed

theorem Batch.Reachable.lastWrite (h : b.Reachable store e) (hclosed : e.pc.closed = true) :
    LastWrite b e := by
  refine h.invariant (P := fun e => e.pc.closed = true → LastWrite b e) ?_ ?_ hclosed
  · intro control _ hstart
    simp [Batch.start, Pc.closed] at hstart
  · intro x x' hx hstep hclosed'
    exact LastWrite.step hx hstep hclosed'

/-! ## Who was handed over -/

/-- In a finished ledger every task was sent. -/
theorem Sim.sent_of_finished {slot₀ : Slot} {l : WorkLedger} (h : Sim b slot₀ e l)
    (hfinished : Finished l.picture) {task : Task} (htask : task ∈ b.tasks) :
    ∃ req, EngineEvent.submitted task req ∈ e.log := by
  have hsound := h.sound
  rcases hsound.arranged.cover htask with ⟨entry, hentry, rfl⟩ | ⟨o, ho, -⟩ | hwaiting
  · -- A closed task with replies was handed over once for each of them.
    have hlength := List.length_pos_iff.2 (hfinished.closed entry hentry).1
    rw [← (hsound.tracked.closed entry hentry).hands_eq] at hlength
    have hhanded := hands_pos_iff.1 hlength
    rw [← h.trace] at hhanded
    rcases List.mem_filterMap.1 hhanded with ⟨ev, hev, hexternal⟩
    cases ev <;> simp [EngineEvent.external] at hexternal
    cases hexternal
    exact ⟨_, hev⟩
  · have hnone := hfinished.opened
    simp [WriteAhead.Ledger.picture, ho] at hnone
  · have hnone : l.waiting = [] := hfinished.waiting
    simp [hnone] at hwaiting

/-! ## The report and the file -/

/-- A row that neither left its trainee unsent nor ended the batch. -/
structure CleanRow (row : TrainingResult) : Prop where
  not_skipped : row.outcome ≠ .skipped
  not_indeterminate : row.outcome ≠ .indeterminate
  not_expired : row.errorCode ≠ some "SESSION_EXPIRED"
  not_changed : row.errorCode ≠ some "PORTAL_STRUCTURE_CHANGED"

/-- The row of a task that was worked and never halted the batch. -/
theorem RowSpec.clean {task : Task} {replies : List Reply} {row : TrainingResult}
    (h : RowSpec task replies row) (hne : replies ≠ []) (hfree : ∀ reply ∈ replies, ¬Halts reply) :
    CleanRow row := by
  have hlast := List.getLast?_eq_getLast_of_ne_nil hne
  have hkeeps : shouldAbort row = false := by
    rw [← Bool.not_eq_true, h.shouldAbort_iff]
    rintro ⟨reply, hreply, hhalts⟩
    exact hfree reply (List.mem_of_getLast? hreply) hhalts
  have hparts : (row.outcome ≠ .indeterminate ∧ row.errorCode ≠ some "SESSION_EXPIRED") ∧
      row.errorCode ≠ some "PORTAL_STRUCTURE_CHANGED" := by
    simpa [shouldAbort] using hkeeps
  exact ⟨fun hskipped => hne (h.skipped_iff.1 hskipped), hparts.1.1, hparts.1.2, hparts.2⟩

/-- What a run that returned a report has written, sent and counted. -/
structure Verdict (b : Batch) (e : Engine) (report : BatchReport) : Prop where
  /-- Where the last write succeeded, the file says what the report says. -/
  file : ∃ cp landed, e.writes.getLast? = some (cp, landed) ∧ (landed = true →
    e.store.slot = .file (.written cp) ∧
      cp.status = (if report.aborted then .aborted else .finished) ∧ cp.pending = [] ∧
        cp.inFlight = none ∧ cp.results = report.results)
  /-- A clean report covers the roster: each trainee was sent under its key. -/
  covered : report.aborted = false → ∀ i trainee, b.trainees[i]? = some trainee →
    ∃ task req j, .submitted task req ∈ e.log ∧ task ∈ b.tasks ∧
      keyNamespace task.payload j = keyNamespace trainee i
  /-- The carried rows come first, and a clean report has clean rows behind them. -/
  rows : ∃ rows, report.results = b.carried ++ rows ∧ rows.length = (dedupe b.trainees).length ∧
    (report.aborted = false → ∀ row ∈ rows, CleanRow row)
  /-- What aborts a run is its own: no carried row is among the causes. -/
  aborted : report.aborted = true ↔ b.HasCause e
  total : report.total = (dedupe b.trainees).length + b.carried.length
  counts : report.successful + report.failed + report.skipped + report.indeterminate = report.total

/-- Nobody is open and nobody waits at the end, so every task is closed. -/
theorem Sim.closed_eq {slot₀ : Slot} {l : WorkLedger} (h : Sim b slot₀ e l)
    (hclosing : Closing e.queue.tasks e.aborted l) : l.closed.map Prod.fst = b.tasks := by
  have horder := h.toTracks.arranged.order
  have hwaiting : l.waiting = [] := hclosing.waiting.trans hclosing.empty
  simpa [WriteAhead.Picture.tasks, WriteAhead.Ledger.picture, hclosing.opened, hwaiting]
    using horder

theorem Sim.rows_of_closing {slot₀ : Slot} {l : WorkLedger} (h : Sim b slot₀ e l)
    (hclosing : Closing e.queue.tasks e.aborted l) :
    ∃ rows, e.results = b.carried ++ rows ∧ rows.length = (dedupe b.trainees).length ∧
      (e.aborted = false → ∀ row ∈ rows, CleanRow row) := by
  rcases h.recorded with ⟨rows, hresults, hrows⟩
  refine ⟨rows, hresults, ?_, ?_⟩
  · calc
      rows.length = l.closed.length := hrows.length_eq.symm
      _ = (l.closed.map Prod.fst).length := (List.length_map _).symm
      _ = b.tasks.length := congrArg List.length (h.closed_eq hclosing)
      _ = (dedupe b.trainees).length := List.length_map _
  · intro haborted row hrow
    have hfinished := hclosing.finished haborted
    rcases List.getElem_of_mem hrow with ⟨i, hi, rfl⟩
    have hi' : i < l.closed.length := by
      rw [hrows.length_eq]
      exact hi
    have hentry := hfinished.closed l.closed[i] (List.getElem_mem hi')
    exact (hrows.get hi' hi).clean hentry.1 hentry.2

/-- However a run that returns a report left its loop, the last file, the report and the coverage
agree. -/
theorem terminal_verdict (h : b.Reachable store e) {report : BatchReport}
    (hpc : e.pc = .returned (.ok report)) : Verdict b e report := by
  rcases h.sim with ⟨l, hsim⟩
  rcases hsim.stage.at_pc hpc with ⟨hclosing, hresults, haborted⟩
  rcases h.report_eq report hpc with ⟨now, hreport⟩
  rcases hsim.rows_of_closing hclosing with ⟨rows, hown, hlength, hclean⟩
  have hclosed : e.pc.closed = true := by simp [hpc, Pc.closed]
  refine ⟨?_, ?_, ⟨rows, by rw [hresults, hown], hlength, by rwa [haborted]⟩, ?_, ?_, ?_⟩
  · rcases h.lastWrite hclosed with ⟨stopped, now', landed, hlast, hslot⟩
    refine ⟨_, landed, hlast, ?_⟩
    intro hlanded
    refine ⟨hslot hlanded, ?_, ?_, rfl, hresults.symm⟩
    · rw [haborted]
      rfl
    · have hqueue : e.queue.tasks = [] := hclosing.empty
      simp [Batch.snapshot, TaskQueue.ids, hqueue]
  · intro hok i trainee htrainee
    have hfinished := hclosing.finished (haborted ▸ hok)
    have hfresh : keyNamespace trainee (0 + i) ∉ ([] : List QueueKey) := List.not_mem_nil
    rcases exists_mem_dedupeFrom htrainee hfresh with ⟨entry, hentry, j, hj⟩
    have htask : toTask entry ∈ b.tasks := List.mem_map_of_mem hentry
    rcases hsim.sent_of_finished hfinished htask with ⟨req, hsent⟩
    exact ⟨toTask entry, req, j, hsent, htask, by simpa [toTask] using hj⟩
  · rw [haborted]
    constructor
    · exact h.hasCause
    · rintro (hstop | ⟨cp, hnamed, hwrite⟩ | ⟨row, hrow, habort⟩)
      · exact (h.closedOff (Pc.closing_of_closed hclosed)).aborted hstop
      · exact h.failed_handover hnamed hwrite
      · -- A row that aborts is not clean, and a run that is not aborted has clean rows only.
        by_contra hnot
        rw [hown, List.drop_left] at hrow
        have hrow' := hclean (Bool.eq_false_iff.2 hnot) row hrow
        simp [shouldAbort, hrow'.not_indeterminate, hrow'.not_expired, hrow'.not_changed] at habort
  · rw [hreport]
    change e.results.length = _
    rw [hown, List.length_append, hlength]
    omega
  · rw [hreport]
    exact build_counts_sum _ _ _ _

end Run

/-- The pair's run was cut short by a handover it could not record, and its file says so. -/
theorem terminal_verdict_of_the_pair :
    ∃ report, pairEnd.pc = .returned (.ok report) ∧ report.aborted = true ∧
      Verdict pairBatch pairEnd report :=
  ⟨_, rfl, rfl, terminal_verdict pairEnd_reachable rfl⟩

end DsspBot

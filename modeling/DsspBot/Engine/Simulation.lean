import Mathlib.Data.List.Infix
import DsspBot.Engine.Record
import DsspBot.Engine.Step

/-!
# Simulation — a run keeps the write-ahead discipline

Every state of a run is matched by a work ledger that the write-ahead moves lead to: the queue is
what waits, the rows record what is closed, the log is the trace, and the file describes what was
last saved. Whatever the discipline guarantees of its ledgers then holds of the run.
-/

namespace DsspBot

open WriteAhead (Ledger Picture Move Moves)

/-- What the worker saw of a run. -/
def EngineEvent.external : EngineEvent → Option (WriteAhead.Event Task Reply)
  | .submitted task _ => some (.handed task)
  | .replied task reply => some (.answered task reply)
  | _ => none

namespace Engine

variable (e : Engine)

def trace : List (WriteAhead.Event Task Reply) :=
  e.log.filterMap EngineEvent.external

variable {e} in
/-- One more event of the log is at most one more event of the trace. -/
theorem trace_of_log {e' : Engine} {ev : EngineEvent} (h : e'.log = e.log ++ [ev]) :
    e'.trace = e.trace ++ ev.external.toList := by
  unfold trace
  rw [h, filterMap_snoc]

@[simp] theorem transition_trace (t : AutomationState) : (e.transition t).trace = e.trace :=
  e.transition_log_filterMap _ (fun _ _ _ => rfl) t

@[simp] theorem abandon_trace (reason : String) : (e.abandon reason).trace = e.trace :=
  e.abandon_log_filterMap _ (fun _ _ _ => rfl) reason

@[simp] theorem close_trace (stopped : Bool) : (e.close stopped).trace = e.trace :=
  e.close_log_filterMap _ (fun _ _ _ => rfl) stopped

end Engine

/-! ## Where the ledger stands at each point of the program -/

/-- Closed entries that let the loop go on: none halted, and a skipped one means a latched stop. -/
def Clean (stop : Bool) (closed : List (Task × List Reply)) : Prop :=
  ∀ entry ∈ closed, (entry.2 = [] → stop = true) ∧ ∀ reply ∈ entry.2, ¬Halts reply

theorem Clean.mono {stop stop' : Bool} {closed : List (Task × List Reply)}
    (h : Clean stop closed) (hstop : stop = true → stop' = true) : Clean stop' closed :=
  fun entry hentry => ⟨fun hnil => hstop ((h entry hentry).1 hnil), (h entry hentry).2⟩

/-- Nobody is open, and the queue is what waits. -/
structure Between (queue : List Task) (l : WorkLedger) : Prop where
  opened : l.opened = none
  waiting : l.waiting = queue

structure InLoop (queue : List Task) (stop aborted : Bool) (l : WorkLedger) : Prop
    extends Between queue l where
  clean : Clean stop l.closed
  aborted_eq : aborted = false

/-- The last entry is fresh: nobody has asked yet whether it ends the batch. -/
structure AfterRow (queue : List Task) (stop aborted : Bool) (l : WorkLedger) : Prop
    extends Between queue l where
  fresh : ∃ done entry, l.closed = done ++ [entry] ∧ Clean stop done ∧
    (entry.2 = [] → stop = true) ∧ ∀ reply ∈ entry.2.dropLast, ¬Halts reply
  aborted_eq : aborted = false

/-- Out of the loop, with nothing left in the queue. -/
structure Leaving (queue : List Task) (stop aborted : Bool) (l : WorkLedger) : Prop
    extends Between queue l where
  empty : queue = []
  clean : aborted = false → Clean stop l.closed

/-- Past the last look at the stop latch. -/
structure Closing (queue : List Task) (aborted : Bool) (l : WorkLedger) : Prop
    extends Between queue l where
  empty : queue = []
  finished : aborted = false → Finished l.picture

/-- One task is being worked on, under a save that names it. -/
structure Holding (policy : RetryPolicy) (queue : List Task) (aborted : Bool) (l : WorkLedger)
    (task : Task) (replies : List Reply) (awaiting : Bool) : Prop where
  opened : l.opened = some ⟨task, replies, awaiting⟩
  waiting : l.waiting = queue
  aborted_eq : aborted = false
  saved : ∃ p, l.saved = some p ∧ p.opened = some task
  again : ∀ reply ∈ replies, AllowsRetry reply
  within : replies.length < policy.discipline.limit

/-- What the retry loop would report if a stop arrived now. -/
structure Remembers (task : Task) (replies : List Reply) (retryResult : Option TrainingResult) :
    Prop where
  unasked : retryResult = none → replies = []
  row : ∀ row, retryResult = some row → RowSpec task replies row

def Stage (b : Batch) (e : Engine) (l : WorkLedger) : Prop :=
  match e.pc with
  | .ensureSession => l = Ledger.start b.tasks ∧ e.results = b.carried ∧ e.aborted = false
  | .ensuring _ => l = Ledger.start b.tasks ∧ e.results = b.carried ∧ e.aborted = false
  | .loopHead => InLoop e.queue.tasks e.stopRequested e.aborted l
  | .paused => InLoop e.queue.tasks e.stopRequested e.aborted l
  | .dequeue => InLoop e.queue.tasks e.stopRequested e.aborted l
  | .writing .pause => InLoop e.queue.tasks e.stopRequested e.aborted l
  | .writing .resume => InLoop e.queue.tasks e.stopRequested e.aborted l
  | .writing .boundaryStop => InLoop e.queue.tasks e.stopRequested e.aborted l
  -- The task is off the queue and not yet handed over: a save may still give it back.
  | .writing (.inFlight task) =>
      l.opened = some ⟨task, [], false⟩ ∧ l.waiting = e.queue.tasks ∧ e.aborted = false
  -- The last row was just added, and whether it aborts the batch is asked next.
  | .writing .settle => AfterRow e.queue.tasks e.stopRequested e.aborted l
  | .abortCheck => AfterRow e.queue.tasks e.stopRequested e.aborted l
  | .writing .abortStop => Between e.queue.tasks l
  | .completion => Leaving e.queue.tasks e.stopRequested e.aborted l
  | .writing .lateStop => Leaving e.queue.tasks e.stopRequested e.aborted l
  -- From here on the report can no longer change.
  | .writing (.terminal _) => Closing e.queue.tasks e.aborted l
  | .reporting => Closing e.queue.tasks e.aborted l
  | .entering task => Holding b.policy e.queue.tasks e.aborted l task [] false
  -- As many attempts as replies here, and one more between the request and its reply.
  | .admission task a => ∃ replies,
      Holding b.policy e.queue.tasks e.aborted l task replies false ∧
        a.attempts = replies.length ∧ Remembers task replies a.retryResult
  | .backoff task a => ∃ replies,
      Holding b.policy e.queue.tasks e.aborted l task replies false ∧
        a.attempts = replies.length ∧ Remembers task replies a.retryResult
  | .submitting task a => ∃ replies,
      Holding b.policy e.queue.tasks e.aborted l task replies false ∧
        a.attempts = replies.length + 1
  | .awaiting task a => ∃ replies,
      Holding b.policy e.queue.tasks e.aborted l task replies true ∧
        a.attempts = replies.length + 1
  | .returned (.ok report) =>
      Closing e.queue.tasks e.aborted l ∧ report.results = e.results ∧ report.aborted = e.aborted
  | .returned (.error _) => l.opened = none

/-! ## The relation -/

/-- What the slot holds: the last saved picture, or what it held before the run. -/
def Durable (b : Batch) (slot₀ slot : Slot) (writes : List (BatchCheckpoint × Bool)) :
    Option WorkPicture → Prop
  | none => slot = slot₀ ∧ ∀ w ∈ writes, w.2 = false
  | some p => ∃ cp, slot = .file (.written cp) ∧ Describes b cp p

/-- The data of a run agree with a ledger the moves lead to, wherever the program stands. -/
structure Tracks (b : Batch) (slot₀ : Slot) (e : Engine) (l : WorkLedger) : Prop where
  moves : Moves b.policy.discipline (Ledger.start b.tasks) l
  recorded : Recorded b l.closed e.results
  trace : e.trace = l.trace
  durable : Durable b slot₀ e.store.slot e.writes l.saved
  writes : ∀ w ∈ e.writes, ∃ p, Describes b w.1 p ∧ p.tasks = b.tasks ∧ p.closed <+: l.closed

structure Sim (b : Batch) (slot₀ : Slot) (e : Engine) (l : WorkLedger) : Prop
    extends Tracks b slot₀ e l where
  stage : Stage b e l

section Preservation

variable {b : Batch} {slot₀ : Slot} {e e' : Engine} {l : WorkLedger}

/-- What the ledger looks like at a point the program is known to stand at. -/
theorem Stage.at_pc {pc : Pc} (h : Stage b e l) (hpc : e.pc = pc) :
    Stage b { e with pc := pc } l := by
  subst hpc
  exact h

theorem Tracks.arranged (h : Tracks b slot₀ e l) :
    WriteAhead.Arranged b.policy.discipline b.tasks l :=
  Machine.moves_invariant (fun _ _ hl hmove => hl.move hmove)
    (WriteAhead.arranged_start _ _) h.moves

/-- While a task is open, everything closed was worked and nothing halted. -/
theorem Tracks.clean_of_open (h : Tracks b slot₀ e l) (hopen : l.opened ≠ none) (stop : Bool) :
    Clean stop l.closed := by
  intro entry hentry
  have hpicture : l.picture.opened ≠ none := by
    simpa [Ledger.picture] using hopen
  refine ⟨?_, h.arranged.opened_halt_free hopen entry hentry⟩
  -- Skipped entries come last, and never before an open task.
  intro hnil
  exact absurd hnil (h.arranged.ordered.opened_worked hpicture entry hentry)

theorem Tracks.quiet (h : Tracks b slot₀ e l) (hresults : e'.results = e.results)
    (htrace : e'.trace = e.trace) (hstore : e'.store = e.store) (hwrites : e'.writes = e.writes) :
    Tracks b slot₀ e' l where
  moves := h.moves
  recorded := hresults ▸ h.recorded
  trace := htrace.trans h.trace
  durable := by
    rw [hstore, hwrites]
    exact h.durable
  writes := hwrites ▸ h.writes

/-- A step that writes, sends and records nothing only has to find its place. -/
theorem Sim.quiet (h : Sim b slot₀ e l) (hresults : e'.results = e.results)
    (htrace : e'.trace = e.trace) (hstore : e'.store = e.store) (hwrites : e'.writes = e.writes)
    (hstage : Stage b e' l) : Sim b slot₀ e' l :=
  ⟨h.toTracks.quiet hresults htrace hstore hwrites, hstage⟩

/-- Going to another point of the program. -/
theorem Sim.goto (h : Sim b slot₀ e l) {pc : Pc} (hstage : Stage b { e with pc := pc } l) :
    Sim b slot₀ { e with pc := pc } l :=
  h.quiet rfl rfl rfl rfl hstage

/-- A step that only logs an event nobody outside can see. -/
theorem Sim.logged {ev : EngineEvent} (h : Sim b slot₀ e l) (hlog : e'.log = e.log ++ [ev])
    (hinternal : ev.external = none) (hunwritten : ev.written = none)
    (hresults : e'.results = e.results) (hstore : e'.store = e.store) (hstage : Stage b e' l) :
    Sim b slot₀ e' l := by
  refine h.quiet hresults ?_ hstore ?_ hstage
  · simpa [hinternal] using Engine.trace_of_log hlog
  · simpa [hunwritten] using Engine.writes_of_log hlog

theorem Tracks.transition (h : Tracks b slot₀ e l) (target : AutomationState) :
    Tracks b slot₀ (e.transition target) l :=
  h.quiet (by simp) (by simp) (by simp) (by simp)

/-- A move of the ledger that neither saves nor speaks. -/
theorem Tracks.moved {l' : WorkLedger} (h : Tracks b slot₀ e l)
    (hmove : Move b.policy.discipline l l') (hltrace : l'.trace = l.trace)
    (hsaved : l'.saved = l.saved) (hrecorded : Recorded b l'.closed e'.results)
    (htrace : e'.trace = e.trace) (hstore : e'.store = e.store) (hwrites : e'.writes = e.writes) :
    Tracks b slot₀ e' l' where
  moves := h.moves.tail hmove
  recorded := hrecorded
  trace := by rw [htrace, h.trace, hltrace]
  durable := by
    rw [hstore, hwrites, hsaved]
    exact h.durable
  writes := by
    rw [hwrites]
    intro w hw
    -- What was written stays true: closed entries are never taken back.
    rcases h.writes w hw with ⟨p, hdescribes, htasks, hclosed⟩
    exact ⟨p, hdescribes, htasks, hclosed.trans hmove.closed_prefix⟩

/-! ### Writes -/

/-- Between tasks, or with an untouched one open: what the ledger looks like at a write. -/
theorem Stage.quiet_at_write {site : WriteSite} (h : Stage b e l) (hpc : e.pc = .writing site) :
    l.opened.map (·.task.id) = Batch.inFlightAt site ∧ l.waiting = e.queue.tasks ∧
      ∀ o, l.opened = some o → o.replies = [] ∧ o.awaiting = false := by
  unfold Stage at h
  rw [hpc] at h
  -- Only the in-flight site writes with a task open, and that task is untouched.
  cases site with
  | inFlight task =>
      rcases h with ⟨hopened, hwaiting, -⟩
      refine ⟨by simp [hopened, Batch.inFlightAt], hwaiting, ?_⟩
      intro o ho
      have heq : o = ⟨task, [], false⟩ := by simpa [hopened, eq_comm] using ho
      simp [heq]
  | pause => exact ⟨by simp [h.opened, Batch.inFlightAt], h.waiting, by simp [h.opened]⟩
  | resume => exact ⟨by simp [h.opened, Batch.inFlightAt], h.waiting, by simp [h.opened]⟩
  | boundaryStop => exact ⟨by simp [h.opened, Batch.inFlightAt], h.waiting, by simp [h.opened]⟩
  | settle => exact ⟨by simp [h.opened, Batch.inFlightAt], h.waiting, by simp [h.opened]⟩
  | abortStop => exact ⟨by simp [h.opened, Batch.inFlightAt], h.waiting, by simp [h.opened]⟩
  | lateStop => exact ⟨by simp [h.opened, Batch.inFlightAt], h.waiting, by simp [h.opened]⟩
  | terminal stopped => exact ⟨by simp [h.opened, Batch.inFlightAt], h.waiting, by simp [h.opened]⟩

/-- Every site hands over a snapshot that describes the ledger. -/
theorem Sim.describes {site : WriteSite} (h : Sim b slot₀ e l) (hpc : e.pc = .writing site)
    (now : String) : Describes b (b.snapshot e site now) l.picture := by
  rcases h.stage.quiet_at_write hpc with ⟨hopened, hwaiting, -⟩
  refine ⟨rfl, h.recorded, ?_, ?_, ?_⟩
  · simp [Batch.snapshot, TaskQueue.ids, Ledger.picture, hwaiting]
  · simpa [Batch.snapshot, Ledger.picture, Function.comp_def] using hopened.symm
  · intro hfinished
    -- Only the terminal site may say finished, and there the batch is known to have closed.
    cases site <;> simp [Batch.snapshot, Batch.statusAt] at hfinished
    have hstage := h.stage.at_pc hpc
    exact hstage.finished hfinished

/-- The stage at a write does not depend on what was saved before. -/
theorem Stage.at_write {site : WriteSite} {p : Option WorkPicture} (h : Stage b e l)
    (hpc : e.pc = .writing site) (hpc' : e'.pc = .writing site) (hqueue : e'.queue = e.queue)
    (hcontrol : e'.control = e.control) (haborted : e'.aborted = e.aborted) :
    Stage b e' { l with saved := p } := by
  have hstop : e'.stopRequested = e.stopRequested := by
    unfold Engine.stopRequested
    rw [hcontrol]
  unfold Stage at h ⊢
  rw [hpc] at h
  rw [hpc', hqueue, haborted, hstop]
  -- No stage at a write reads what was saved before it.
  cases site with
  | inFlight task => exact h
  | pause => exact ⟨⟨h.opened, h.waiting⟩, h.clean, h.aborted_eq⟩
  | resume => exact ⟨⟨h.opened, h.waiting⟩, h.clean, h.aborted_eq⟩
  | boundaryStop => exact ⟨⟨h.opened, h.waiting⟩, h.clean, h.aborted_eq⟩
  | settle => exact ⟨⟨h.opened, h.waiting⟩, h.fresh, h.aborted_eq⟩
  | abortStop => exact ⟨h.opened, h.waiting⟩
  | lateStop => exact ⟨⟨h.opened, h.waiting⟩, h.empty, h.clean⟩
  | terminal stopped => exact ⟨⟨h.opened, h.waiting⟩, h.empty, h.finished⟩

theorem Sim.save_ok {site : WriteSite} (h : Sim b slot₀ e l) (hpc : e.pc = .writing site)
    (now : String) :
    Sim b slot₀
      { e with
        store := e.store.save (b.snapshot e site now) (.ok ())
        log := e.log ++ [.wrote (b.snapshot e site now) true] }
      { l with saved := some l.picture } where
  moves := h.moves.tail (.save (h.stage.quiet_at_write hpc).2.2)
  recorded := h.recorded
  trace := by
    rw [Engine.trace_of_log rfl, h.trace]
    exact List.append_nil _
  durable := ⟨_, rfl, h.describes hpc now⟩
  writes := by
    intro w hw
    rw [Engine.writes_of_log rfl] at hw
    rcases List.mem_append.1 hw with hw | hw
    · exact h.writes w hw
    · have heq : w = (b.snapshot e site now, true) := by
        simpa [EngineEvent.written] using hw
      exact ⟨_, heq ▸ h.describes hpc now, h.arranged.order, List.prefix_rfl⟩
  stage := h.stage.at_write hpc hpc rfl rfl rfl

theorem Sim.save_failed {site : WriteSite} (h : Sim b slot₀ e l) (hpc : e.pc = .writing site)
    (now : String) :
    Sim b slot₀ { e with log := e.log ++ [.wrote (b.snapshot e site now) false] } l where
  moves := h.moves
  recorded := h.recorded
  trace := by
    rw [Engine.trace_of_log rfl, h.trace]
    exact List.append_nil _
  durable := by
    have hdurable := h.durable
    rw [Engine.writes_of_log rfl]
    -- The file still says what the last landed write said, or what the run found.
    cases hsaved : l.saved with
    | none =>
        rw [hsaved] at hdurable
        refine ⟨hdurable.1, ?_⟩
        intro w hw
        rcases List.mem_append.1 hw with hw | hw
        · exact hdurable.2 w hw
        · have heq : w = (b.snapshot e site now, false) := by
            simpa [EngineEvent.written] using hw
          rw [heq]
    | some p =>
        rw [hsaved] at hdurable
        exact hdurable
  writes := by
    intro w hw
    rw [Engine.writes_of_log rfl] at hw
    rcases List.mem_append.1 hw with hw | hw
    · exact h.writes w hw
    · have heq : w = (b.snapshot e site now, false) := by
        simpa [EngineEvent.written] using hw
      exact ⟨_, heq ▸ h.describes hpc now, h.arranged.order, List.prefix_rfl⟩
  stage := h.stage.at_write (p := l.saved) hpc hpc rfl rfl rfl

/-! ### Leaving the loop -/

/-- Draining closes whatever waits; the run leaves aborted. -/
theorem Tracks.abandon (h : Tracks b slot₀ e l) (hbetween : Between e.queue.tasks l)
    (reason : String) : ∃ l', Sim b slot₀ (e.abandon reason) l' := by
  -- The drain's rows follow the queue's order, as the ledger's do.
  refine ⟨_, h.moved (.drain hbetween.opened) rfl rfl ?_ (by simp) (by simp) (by simp), ?_⟩
  · rw [hbetween.waiting]
    simpa using h.recorded.append (forall₂_skippedRow e.queue.tasks reason)
  · exact ⟨⟨hbetween.opened, by simp⟩, by simp, by simp⟩

/-- Closing keeps the ledger; what it needs is that a clean run is a finished one. -/
theorem Sim.close (h : Sim b slot₀ e l) (hclosing : Closing e.queue.tasks e.aborted l)
    (stopped : Bool) : Sim b slot₀ (e.close stopped) l := by
  apply h.quiet (by simp) (by simp) (by simp) (by simp)
  simpa [Stage] using hclosing

theorem Leaving.closing {queue : List Task} {stop aborted : Bool} (h : Leaving queue stop aborted l)
    (hstop : stop = true → aborted = true) : Closing queue aborted l := by
  refine ⟨h.toBetween, h.empty, ?_⟩
  intro haborted
  refine ⟨by simp [Ledger.picture, h.opened], by simp [Ledger.picture, h.waiting, h.empty], ?_⟩
  intro entry hentry
  -- Clean up to a latched stop, and a latched stop would have aborted the run.
  have hclean := h.clean haborted entry hentry
  refine ⟨?_, hclean.2⟩
  intro hnil
  simp [hstop (hclean.1 hnil)] at haborted

/-! ### Where a write leads -/

/-- A refused transition ends the run between tasks. -/
theorem Sim.transitionOrReturn {target : AutomationState} {next : Pc} (h : Sim b slot₀ e l)
    (hopened : l.opened = none) (hnext : Stage b { e.transition target with pc := next } l) :
    Sim b slot₀ (e.transitionOrReturn target next) l := by
  unfold Engine.transitionOrReturn
  split
  · exact h.quiet (by simp) (e.transition_trace target) (by simp) (e.transition_writes target) hnext
  · exact h.quiet (by simp) (e.transition_trace target) (by simp) (e.transition_writes target)
      hopened

theorem Sim.writeLanded {site : WriteSite} (h : Sim b slot₀ e l) (hpc : e.pc = .writing site)
    (hsaved : l.saved = some l.picture) : ∃ l', Sim b slot₀ (Batch.writeLanded e site) l' := by
  have hstage := h.stage.at_pc hpc
  cases site with
  | pause =>
      refine ⟨l, h.transitionOrReturn hstage.opened ?_⟩
      simpa [Stage, Engine.stopRequested] using hstage
  | resume =>
      refine ⟨l, h.transitionOrReturn hstage.opened ?_⟩
      simpa [Stage, Engine.stopRequested] using hstage
  | boundaryStop => exact h.abandon hstage.toBetween _
  | inFlight task =>
      -- The save just made names the task, which is what a hand-over will ask for.
      rcases hstage with ⟨hopened, hwaiting, haborted⟩
      refine ⟨l, h.goto ?_⟩
      refine ⟨hopened, hwaiting, haborted, ⟨_, hsaved, ?_⟩, by simp, ?_⟩
      · simp [Ledger.picture, hopened]
      · exact Nat.lt_of_lt_of_le Nat.one_pos (Nat.le_max_left _ _)
  | settle => exact ⟨l, h.goto hstage⟩
  | abortStop => exact h.abandon hstage _
  | lateStop =>
      -- The queue is drained a second time, empty or not, before the run closes.
      rcases h.abandon hstage.toBetween OPERATOR_STOP with ⟨l', h'⟩
      have hleaving : Leaving (e.abandon OPERATOR_STOP).queue.tasks
          (e.abandon OPERATOR_STOP).stopRequested (e.abandon OPERATOR_STOP).aborted l' := h'.stage
      exact ⟨l', h'.close (hleaving.closing fun _ => rfl) true⟩
  | terminal stopped => exact ⟨l, h.goto hstage⟩

theorem Sim.writeFailed {site : WriteSite} (h : Sim b slot₀ e l) (hpc : e.pc = .writing site)
    (text : String) : ∃ l', Sim b slot₀ (Batch.writeFailed e text site) l' := by
  have hstage := h.stage.at_pc hpc
  cases site with
  | pause => exact ⟨l, h.goto hstage.opened⟩
  | resume => exact ⟨l, h.goto hstage.opened⟩
  | boundaryStop => exact ⟨l, h.goto hstage.opened⟩
  | inFlight task =>
      rcases hstage with ⟨hopened, hwaiting, -⟩
      -- The trainee goes back to the front of the queue before the drain records it as skipped.
      have hback : Tracks b slot₀ { e with queue := e.queue.putBack task }
          { l with opened := none, waiting := task :: l.waiting } :=
        h.toTracks.moved (.giveBack hopened) rfl rfl h.recorded rfl rfl rfl
      exact hback.abandon ⟨rfl, by simp [hwaiting]⟩ NOT_SUBMITTED
  | settle => exact ⟨l, h.goto hstage⟩
  | abortStop => exact ⟨l, h.goto hstage.opened⟩
  | lateStop => exact ⟨l, h.goto hstage.opened⟩
  | terminal stopped =>
      cases stopped with
      | true => exact ⟨l, h.goto hstage.opened⟩
      | false => exact ⟨l, h.goto hstage⟩

/-! ### One trainee -/

/-- The worker's answer is noted before anything is made of it. -/
theorem Tracks.answered {task : Task} {replies : List Reply} (h : Tracks b slot₀ e l)
    (hopened : l.opened = some ⟨task, replies, true⟩) (reply : Reply) :
    Tracks b slot₀ (e.emit (.replied task reply))
      { l with
        opened := some ⟨task, replies ++ [reply], false⟩
        trace := l.trace ++ [.answered task reply] } where
  moves := h.moves.tail (.answer hopened)
  recorded := h.recorded
  trace := by
    rw [Engine.trace_of_log (e.emit_log _), h.trace]
    rfl
  durable := by
    rw [Engine.writes_of_log (e.emit_log _)]
    simpa [EngineEvent.written] using h.durable
  writes := by
    rw [Engine.writes_of_log (e.emit_log _)]
    simpa [EngineEvent.written] using h.writes

/-- A row goes to the results and its task is closed with the replies the row records. -/
theorem Tracks.settleRow {task : Task} {replies : List Reply} {row : TrainingResult}
    (h : Tracks b slot₀ e l) (hopened : l.opened = some ⟨task, replies, false⟩)
    (hwaiting : l.waiting = e.queue.tasks) (haborted : e.aborted = false)
    (hrow : RowSpec task replies row) (hunasked : replies = [] → e.stopRequested = true)
    (hfree : ∀ reply ∈ replies.dropLast, ¬Halts reply) :
    ∃ l', Sim b slot₀ (e.settleRow row) l' := by
  have hclean : Clean e.stopRequested l.closed := h.clean_of_open (by simp [hopened]) _
  refine ⟨_, h.moved (.settle hopened) rfl rfl (h.recorded.snoc hrow) rfl rfl rfl, ?_⟩
  exact ⟨⟨rfl, hwaiting⟩, ⟨_, _, rfl, hclean, hunasked, hfree⟩, haborted⟩

theorem Holding.halt_free {policy : RetryPolicy} {queue : List Task} {aborted awaiting : Bool}
    {task : Task} {replies : List Reply}
    (h : Holding policy queue aborted l task replies awaiting) :
    ∀ reply ∈ replies, ¬Halts reply := by
  intro reply hreply hhalts
  exact not_allowsRetry_of_halts hhalts (h.again reply hreply)

/-- Asking for the same task again keeps what is held. -/
theorem Sim.submitted {task : Task} {a : Attempt} (h : Sim b slot₀ e l)
    (hpc : e.pc = .submitting task a) : ∃ l', Sim b slot₀ (b.submit e task a) l' := by
  have hstage := h.stage.at_pc hpc
  rcases hstage with ⟨replies, hold, hattempts⟩
  -- The hand-over needs what `Holding` carries: the save, the allowing replies and the bound.
  have htracks := h.toTracks.transition .submitting
  have hlog : (b.submit e task a).log = (e.transition .submitting).log ++
      [.submitted task (.submitTraining a.jobId task.payload b.session)] := rfl
  refine ⟨{ l with opened := some ⟨task, replies, true⟩, trace := l.trace ++ [.handed task] },
    ⟨h.moves.tail (.hand hold.opened hold.saved hold.again hold.within), ?_, ?_, ?_, ?_⟩, ?_⟩
  · simpa [Batch.submit] using h.recorded
  · rw [Engine.trace_of_log hlog, htracks.trace]
    rfl
  · rw [Engine.writes_of_log hlog]
    simpa [Batch.submit, EngineEvent.written] using h.durable
  · rw [Engine.writes_of_log hlog]
    simpa [EngineEvent.written] using h.writes
  · refine ⟨replies, ⟨rfl, ?_, ?_, hold.saved, hold.again, hold.within⟩, hattempts⟩
    · simpa [Batch.submit] using hold.waiting
    · simpa [Batch.submit] using hold.aborted_eq

/-- Any reply settles the trainee under a row that records it. -/
theorem Sim.settled {task : Task} {a : Attempt} {reply : Reply} {row : TrainingResult}
    (h : Sim b slot₀ e l) (hpc : e.pc = .awaiting task a)
    (hrow : ∀ replies : List Reply, a.attempts = replies.length + 1 →
      RowSpec task (replies ++ [reply]) row)
    (he' : e' = e.emit (.replied task reply) ∨
      e' = (e.emit (.replied task reply)).transition .verifying) :
    ∃ l', Sim b slot₀ (e'.settleRow row) l' := by
  have hstage := h.stage.at_pc hpc
  rcases hstage with ⟨replies, hold, hattempts⟩
  -- Every reply before the last allowed a retry, so none of them halted.
  have hfree : ∀ reply' ∈ (replies ++ [reply]).dropLast, ¬Halts reply' := by
    simpa using hold.halt_free
  have htracks := h.toTracks.answered hold.opened reply
  rcases he' with rfl | rfl
  · exact htracks.settleRow rfl hold.waiting hold.aborted_eq (hrow replies hattempts) (by simp)
      hfree
  · refine (htracks.transition .verifying).settleRow rfl ?_ ?_ (hrow replies hattempts) (by simp)
      hfree
    · simpa using hold.waiting
    · simpa using hold.aborted_eq

/-- A retry goes to the backoff remembering the row a stop would report. -/
theorem Sim.retrying {task : Task} {a : Attempt} {resp : Response} {code text message : String}
    (h : Sim b slot₀ e l) (hpc : e.pc = .awaiting task a)
    (hsettle : settleSubmit resp = .retry code text)
    (hattempts : a.attempts < b.policy.maxAttempts) :
    ∃ l', Sim b slot₀
      { (e.emit (.replied task (.ok resp))).transition .retrying with
        pc := .backoff task
          { a with
            retryResult :=
              some (replyRow task a.attempts resp .failed (some code) (some message)) } }
      l' := by
  have hstage := h.stage.at_pc hpc
  rcases hstage with ⟨replies, hold, hcount⟩
  have htracks := (h.toTracks.answered hold.opened (.ok resp)).transition .retrying
  -- The reply joins those that allow another attempt, and the bound leaves room for one.
  have hproves := settleSubmit_eq_retry hsettle
  refine ⟨_, ⟨htracks.moves, htracks.recorded, htracks.trace, htracks.durable, htracks.writes⟩, ?_⟩
  refine ⟨replies ++ [.ok resp], ⟨rfl, ?_, ?_, hold.saved, ?_, ?_⟩, ?_, ?_⟩
  · simpa using hold.waiting
  · simpa using hold.aborted_eq
  · intro reply hreply
    rcases List.mem_append.1 hreply with hreply | hreply
    · exact hold.again reply hreply
    · have heq : reply = .ok resp := by simpa using hreply
      exact ⟨resp, heq, hproves.1⟩
  · have hlimit : replies.length + 1 < b.policy.maxAttempts := hcount ▸ hattempts
    rw [List.length_append]
    exact Nat.lt_of_lt_of_le hlimit (Nat.le_max_right _ _)
  · simp [hcount]
  · refine ⟨by simp, ?_⟩
    intro row hrow
    have heq : replyRow task a.attempts resp .failed (some code) (some message) = row := by
      simpa using hrow
    rw [← heq, hcount]
    exact .of_replyRow task replies resp (by simp [replyOutcome, hsettle])
      (by simp [replyCode, hsettle])

/-- A stop before the next attempt reports what the attempts so far amount to. -/
theorem Sim.withdrawn {task : Task} {a : Attempt} (h : Sim b slot₀ e l)
    (hpc : e.pc = .admission task a) (hstop : e.stopRequested = true) :
    ∃ l', Sim b slot₀ (e.settleRow (a.retryResult.getD (skippedRow OPERATOR_STOP task))) l' := by
  have hstage := h.stage.at_pc hpc
  rcases hstage with ⟨replies, hold, -, hremembers⟩
  have hrow : RowSpec task replies (a.retryResult.getD (skippedRow OPERATOR_STOP task)) := by
    -- Without an earlier reply the row is a skip, else the row the last reply earned.
    cases hresult : a.retryResult with
    | none =>
        rw [hremembers.unasked hresult]
        exact .of_skippedRow task OPERATOR_STOP
    | some row => exact hremembers.row row hresult
  apply h.toTracks.settleRow hold.opened hold.waiting hold.aborted_eq hrow (fun _ => hstop)
  intro reply hreply
  exact hold.halt_free reply (List.mem_of_mem_dropLast hreply)

/-- Closed entries stay clean when the last row does not abort the batch. -/
theorem AfterRow.inLoop {queue : List Task} {stop aborted : Bool} {results : List TrainingResult}
    {last : TrainingResult} (h : AfterRow queue stop aborted l)
    (hrecorded : Recorded b l.closed results) (hlast : results.getLast? = some last)
    (habort : shouldAbort last = false) : InLoop queue stop aborted l := by
  rcases h.fresh with ⟨done, entry, hclosed, hclean, hunasked, hfree⟩
  rw [hclosed] at hrecorded
  rcases hrecorded.last with ⟨first, row, rfl, hrow⟩
  have heq : row = last := by simpa using hlast
  subst heq
  refine ⟨h.toBetween, ?_, h.aborted_eq⟩
  intro entry' hentry'
  rw [hclosed] at hentry'
  rcases List.mem_append.1 hentry' with hdone | hfresh
  · exact hclean entry' hdone
  · have heq : entry' = entry := by simpa using hfresh
    subst heq
    refine ⟨hunasked, ?_⟩
    intro reply hreply hhalts
    -- The fresh row does not abort, so its last reply does not halt either.
    have hnone : ¬∃ r, entry'.2.getLast? = some r ∧ Halts r := by
      rw [← hrow.shouldAbort_iff]
      simp [habort]
    have hne : entry'.2 ≠ [] := List.ne_nil_of_mem hreply
    have hsplit := List.dropLast_append_getLast hne
    rw [← hsplit] at hreply
    rcases List.mem_append.1 hreply with hearly | hlate
    · exact hfree reply hearly hhalts
    · have heq : reply = entry'.2.getLast hne := by simpa using hlate
      exact hnone ⟨_, List.getLast?_eq_getLast_of_ne_nil hne, heq ▸ hhalts⟩

/-! ### Controls -/

/-- A request can only latch a stop, and no stage minds a latched stop. -/
theorem Stage.control {control : Option BatchControl} {log : List EngineEvent}
    (h : Stage b e l)
    (hstop : e.stopRequested = true → control.any (·.stopRequested) = true) :
    Stage b { e with control := control, log := log } l := by
  rcases e with ⟨pc, machine, control₀, results, queue, aborted, store, log₀⟩
  -- Only the stages that mention the latch have anything to show.
  cases pc with
  | loopHead => exact ⟨h.toBetween, h.clean.mono hstop, h.aborted_eq⟩
  | paused => exact ⟨h.toBetween, h.clean.mono hstop, h.aborted_eq⟩
  | dequeue => exact ⟨h.toBetween, h.clean.mono hstop, h.aborted_eq⟩
  | completion => exact ⟨h.toBetween, h.empty, fun haborted => (h.clean haborted).mono hstop⟩
  | abortCheck =>
      rcases h.fresh with ⟨done, entry, hclosed, hclean, hunasked, hfree⟩
      exact ⟨h.toBetween,
        ⟨done, entry, hclosed, hclean.mono hstop, fun hnil => hstop (hunasked hnil), hfree⟩,
        h.aborted_eq⟩
  | writing site =>
      cases site with
      | pause => exact ⟨h.toBetween, h.clean.mono hstop, h.aborted_eq⟩
      | resume => exact ⟨h.toBetween, h.clean.mono hstop, h.aborted_eq⟩
      | boundaryStop => exact ⟨h.toBetween, h.clean.mono hstop, h.aborted_eq⟩
      | settle =>
          rcases h.fresh with ⟨done, entry, hclosed, hclean, hunasked, hfree⟩
          exact ⟨h.toBetween,
            ⟨done, entry, hclosed, hclean.mono hstop, fun hnil => hstop (hunasked hnil), hfree⟩,
            h.aborted_eq⟩
      | lateStop => exact ⟨h.toBetween, h.empty, fun haborted => (h.clean haborted).mono hstop⟩
      | inFlight task => exact h
      | abortStop => exact h
      | terminal stopped => exact h
  | returned result =>
      cases result with
      | ok report => exact h
      | error text => exact h
  | ensureSession => exact h
  | ensuring jobId => exact h
  | entering task => exact h
  | admission task a => exact h
  | submitting task a => exact h
  | awaiting task a => exact h
  | backoff task a => exact h
  | reporting => exact h

/-! ### Every step -/

theorem sim_start (b : Batch) (control : Option BatchControl) (store : CheckpointStore) :
    Sim b store.slot (b.start control store) (Ledger.start b.tasks) where
  moves := .refl
  recorded := recorded_nil b
  trace := rfl
  durable := ⟨rfl, fun _ hw => absurd hw List.not_mem_nil⟩
  writes := fun _ hw => absurd hw List.not_mem_nil
  stage := ⟨rfl, rfl, rfl⟩

/-- One step of the run is matched by moves of the ledger. -/
theorem Sim.step (h : Sim b slot₀ e l) (hstep : b.Step e e') : ∃ l', Sim b slot₀ e' l' := by
  cases hstep with
  | @accepted c control control' hlock hcontrol hrequest =>
      refine ⟨l, h.logged rfl rfl rfl rfl rfl (h.stage.control ?_)⟩
      intro hstop
      have hstop' : control.stopRequested = true := by
        simpa [Engine.stopRequested, hcontrol] using hstop
      simp [(BatchControl.request_ok hrequest).2.2.2, hstop']
  | refused _ _ _ =>
      exact ⟨l, h.logged rfl rfl rfl rfl rfl (h.stage.control id)⟩
  | ensure hpc =>
      have hstage := h.stage.at_pc hpc
      exact ⟨l, h.logged rfl rfl rfl rfl rfl hstage⟩
  | unensured hpc =>
      have hstage := h.stage.at_pc hpc
      exact ⟨l, h.goto (by simp [Stage, hstage.1, Ledger.start])⟩
  | ensured hpc =>
      have hstage := h.stage.at_pc hpc
      rcases hstage with ⟨rfl, -, haborted⟩
      have hqueued : Stage b { e with queue := { tasks := b.tasks }, pc := .loopHead }
          (Ledger.start b.tasks) := ⟨⟨rfl, rfl⟩, by simp [Clean, Ledger.start], haborted⟩
      exact ⟨_, h.quiet rfl rfl rfl rfl hqueued⟩
  | emptied hpc hqueue =>
      have hstage := h.stage.at_pc hpc
      exact ⟨l, h.goto ⟨hstage.toBetween, hqueue, fun _ => hstage.clean⟩⟩
  | boundaryStopped hpc hstop =>
      have hloop : InLoop e.queue.tasks e.stopRequested e.aborted l := by
        rcases hpc with hpc | hpc
        · exact h.stage.at_pc hpc
        · exact h.stage.at_pc hpc
      exact ⟨l, h.goto hloop⟩
  | pausing hpc _ _ _ =>
      have hstage := h.stage.at_pc hpc
      exact ⟨l, h.goto hstage⟩
  | proceeding hpc _ _ _ =>
      have hstage := h.stage.at_pc hpc
      exact ⟨l, h.goto hstage⟩
  | resuming hpc _ _ =>
      have hstage := h.stage.at_pc hpc
      exact ⟨l, h.goto hstage⟩
  | rechecked hpc _ =>
      have hstage := h.stage.at_pc hpc
      exact ⟨l, h.goto hstage⟩
  | @dequeued task queue hpc hstop hqueue =>
      have hstage := h.stage.at_pc hpc
      have hwaiting : l.waiting = task :: queue.tasks := hstage.waiting.trans hqueue
      -- No stop is latched here, so no entry of the loop was skipped.
      have hworked : ∀ entry ∈ l.closed, entry.2 ≠ [] ∧ ∀ reply ∈ entry.2, ¬Halts reply := by
        intro entry hentry
        have hclean := hstage.clean entry hentry
        refine ⟨?_, hclean.2⟩
        intro hnil
        have hlatched : e.stopRequested = true := hclean.1 hnil
        simp [hlatched] at hstop
      refine ⟨_, h.toTracks.moved (.take hstage.opened hwaiting hworked) rfl rfl h.recorded rfl rfl
        rfl, ?_⟩
      exact ⟨rfl, rfl, hstage.aborted_eq⟩
  | @landed site now hpc => exact (h.save_ok hpc now).writeLanded hpc rfl
  | @failed site now text hpc => exact (h.save_failed hpc now).writeFailed hpc text
  | @entered task id hpc =>
      have hstage := h.stage.at_pc hpc
      refine ⟨l, h.quiet (by simp [Engine.entered]) (e.transition_trace _)
        (by simp [Engine.entered]) (e.transition_writes _) ⟨[], ?_, rfl, fun _ => rfl, by simp⟩⟩
      simpa [Stage, Engine.entered] using hstage
  | withdrawn hpc hstop => exact h.withdrawn hpc hstop
  | admitted hpc hstop =>
      have hstage := h.stage.at_pc hpc
      rcases hstage with ⟨replies, hold, hattempts, -⟩
      exact ⟨l, h.logged rfl rfl rfl rfl rfl ⟨replies, hold, by simp [hattempts]⟩⟩
  | submitted hpc => exact h.submitted hpc
  | @lost task a text hpc =>
      refine h.settled hpc ?_ (Or.inl rfl)
      intro replies hattempts
      rw [hattempts]
      exact .of_transportRow task replies text
  | @settled task a resp outcome code message hpc hsettle =>
      refine h.settled hpc ?_ (Or.inr rfl)
      intro replies hattempts
      rw [hattempts]
      refine .of_replyRow task replies resp ?_ ?_
      · rcases hsettle with
            ⟨hs, ho, -⟩ | ⟨c, m, hs, ho, -⟩ | ⟨m, hs, ho, -⟩ | ⟨c, m, hs, -, ho, -⟩ <;>
          simp [replyOutcome, hs, ho]
      · rcases hsettle with
            ⟨hs, -, hc⟩ | ⟨c, m, hs, -, hc⟩ | ⟨m, hs, -, hc⟩ | ⟨c, m, hs, -, -, hc⟩ <;>
          simp [replyCode, hs, hc]
  | retrying hpc hsettle hattempts => exact h.retrying hpc hsettle hattempts
  | slept hpc =>
      have hstage := h.stage.at_pc hpc
      exact ⟨l, h.logged rfl rfl rfl rfl rfl hstage⟩
  | abortStopped hpc _ _ _ =>
      have hstage := h.stage.at_pc hpc
      exact ⟨l, h.goto hstage.toBetween⟩
  | aborted hpc _ _ _ =>
      have hstage := h.stage.at_pc hpc
      exact h.toTracks.abandon hstage.toBetween _
  | continued hpc hlast habort =>
      have hstage := h.stage.at_pc hpc
      exact ⟨l, h.goto (hstage.inLoop h.recorded hlast habort)⟩
  | lateStopped hpc _ _ =>
      have hstage := h.stage.at_pc hpc
      exact ⟨l, h.goto hstage⟩
  | closing hpc hstop =>
      have hstage := h.stage.at_pc hpc
      exact ⟨l, h.close (hstage.closing hstop) _⟩
  | reported hpc =>
      have hstage := h.stage.at_pc hpc
      exact ⟨l, h.goto ⟨hstage, rfl, rfl⟩⟩

/-- Every state of a run is matched by a ledger. -/
theorem Batch.Reachable.sim {store : CheckpointStore} (h : b.Reachable store e) :
    ∃ l, Sim b store.slot e l := by
  apply h.invariant (P := fun e => ∃ l, Sim b store.slot e l)
  · intro control _
    exact ⟨_, sim_start b control store⟩
  · rintro x x' ⟨m, hm⟩ hx
    exact hm.step hx

/-- What the discipline guarantees of a run's ledger. -/
theorem Sim.sound (h : Sim b slot₀ e l) :
    WriteAhead.Sound b.policy.discipline b.tasks l :=
  WriteAhead.sound_of_moves (queuedTasks_nodup b.trainees) h.moves

end Preservation

end DsspBot

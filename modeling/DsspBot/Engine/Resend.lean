import DsspBot.Engine.Simulation

/-!
# Resend — a trainee is asked for again only on proof

The retry rule of a run, read off its log: what may precede a submission, how many there are, and
what the rows say about them.
-/

namespace DsspBot

open WriteAhead (Event answers hands)

/-- How many submissions of a task a log records. -/
def sends (task : Task) (log : List EngineEvent) : Nat :=
  log.countP fun
    | .submitted t _ => decide (t = task)
    | _ => false

theorem hands_filterMap (task : Task) (log : List EngineEvent) :
    hands task (log.filterMap EngineEvent.external) = sends task log := by
  unfold hands sends
  rw [List.countP_filterMap]
  -- Event by event, the two predicates agree.
  congr
  funext ev
  cases ev <;> rfl

section Run

variable {b : Batch} {store : CheckpointStore} {e : Engine} {slot₀ : Slot} {l : WorkLedger}

theorem Sim.hands_eq (h : Sim b slot₀ e l) (task : Task) :
    hands task l.trace = sends task e.log := by
  rw [← h.trace]
  exact hands_filterMap task e.log

theorem Sim.answered_of_replied (h : Sim b slot₀ e l) {task : Task} {reply : Reply}
    (hreplied : EngineEvent.replied task reply ∈ e.log) :
    Event.answered task reply ∈ l.trace := by
  rw [← h.trace]
  exact List.mem_filterMap.2 ⟨_, hreplied, rfl⟩

/-- What follows a reply in the log respects it. -/
theorem Sim.respects (h : Sim b slot₀ e l) {before middle : List EngineEvent}
    {task task' : Task} {reply : Reply} {req : Request} {after : List EngineEvent}
    (hsplit : e.log = before ++ .replied task reply :: (middle ++ .submitted task' req :: after)) :
    (task = task' → AllowsRetry reply) ∧ ¬Halts reply := by
  have hpairwise := h.sound.respects
  have hanswered : (EngineEvent.replied task reply).external = some (.answered task reply) := rfl
  have hhanded : (EngineEvent.submitted task' req).external = some (.handed task') := rfl
  -- The reply and the request keep their order in the trace.
  have htrace : l.trace = before.filterMap EngineEvent.external ++ .answered task reply ::
      (middle.filterMap EngineEvent.external ++ .handed task' ::
        after.filterMap EngineEvent.external) := by
    calc
      l.trace = e.log.filterMap EngineEvent.external := h.trace.symm
      _ = before.filterMap EngineEvent.external ++ .answered task reply ::
            (middle ++ .submitted task' req :: after).filterMap EngineEvent.external := by
            rw [hsplit, List.filterMap_append, List.filterMap_cons_some hanswered]
      _ = _ := by rw [List.filterMap_append, List.filterMap_cons_some hhanded]
  rw [htrace] at hpairwise
  have htail := (List.pairwise_append.1 hpairwise).2.1
  exact (List.pairwise_cons.1 htail).1 (.handed task') (by simp)

/-- A closed task whose rows the run has written: what the log says about it. -/
structure RowFacts (log : List EngineEvent) (task : Task) (row : TrainingResult) : Prop where
  attempts : row.attempts = sends task log
  unasked : row.attempts = 0 ↔ row.outcome = .skipped
  unaccountable : (∃ reply, EngineEvent.replied task reply ∈ log ∧ Unaccountable reply) →
    row.outcome = .indeterminate

theorem Sim.rowFacts (h : Sim b slot₀ e l) {entry : Task × List Reply} (hentry : entry ∈ l.closed)
    {row : TrainingResult} (hrow : RowSpec entry.1 entry.2 row) : RowFacts e.log entry.1 row := by
  have hist := h.sound.tracked.closed entry hentry
  refine ⟨?_, ?_, ?_⟩
  · calc
      row.attempts = entry.2.length := hrow.attempts
      _ = hands entry.1 l.trace := hist.hands_eq.symm
      _ = sends entry.1 e.log := h.hands_eq entry.1
  · rw [hrow.skipped_iff, hrow.attempts, List.length_eq_zero_iff]
  · rintro ⟨reply, hreplied, hunaccountable⟩
    have hmem : reply ∈ entry.2 := by
      rw [← hist.answers_eq]
      exact WriteAhead.mem_answers_iff.2 (h.answered_of_replied hreplied)
    -- Every reply but the last allowed a retry, so this one is the last.
    have hne := List.ne_nil_of_mem hmem
    have hsplit := List.dropLast_append_getLast hne
    rw [← hsplit] at hmem
    rcases List.mem_append.1 hmem with hearly | hlate
    · exact absurd (hist.again reply hearly)
        (not_allowsRetry_of_halts (halts_of_unaccountable hunaccountable))
    · have heq : reply = entry.2.getLast hne := by simpa using hlate
      have hlast := hrow.answered _ (List.getLast?_eq_getLast_of_ne_nil hne)
      rw [hlast.1, ← heq]
      exact replyOutcome_of_unaccountable hunaccountable

/-- A run that returns a clean report met no reply that halts. -/
theorem Sim.aborted_of_halts (h : Sim b slot₀ e l) {task : Task} {reply : Reply}
    (hreplied : EngineEvent.replied task reply ∈ e.log) (hhalts : Halts reply)
    {report : BatchReport} (hpc : e.pc = .returned (.ok report)) : report.aborted = true := by
  have hstage := h.stage.at_pc hpc
  rcases hstage with ⟨hclosing, -, haborted⟩
  rw [haborted]
  by_contra hclean
  have hfinished := hclosing.finished (by simpa using hclean)
  have hsound := h.sound
  have hanswered := h.answered_of_replied hreplied
  have hmem : reply ∈ answers task l.trace := WriteAhead.mem_answers_iff.2 hanswered
  -- In a finished picture every answered task is closed, and none of its replies halts.
  rcases hsound.arranged.cover (hsound.tracked.known task (Or.inr ⟨reply, hanswered⟩)) with
    ⟨entry, hentry, rfl⟩ | ⟨o, ho, -⟩ | hwaiting
  · rw [(hsound.tracked.closed entry hentry).answers_eq] at hmem
    exact (hfinished.closed entry hentry).2 reply hmem hhalts
  · simp [hclosing.opened] at ho
  · rw [hclosing.waiting, hclosing.empty] at hwaiting
    cases hwaiting

/-- The retry rule of a run. -/
structure ResendRule (b : Batch) (e : Engine) : Prop where
  /-- A later submission comes after replies that all prove it safe and useful. -/
  proof : ∀ before task req after, e.log = before ++ .submitted task req :: after →
    ∀ reply, .replied task reply ∈ before → AllowsRetry reply
  bound : ∀ task, sends task e.log ≤ max 1 b.policy.maxAttempts
  rows : ∃ done rows, done <+: b.tasks ∧ e.results = b.carried ++ rows ∧
    List.Forall₂ (RowFacts e.log) done rows
  /-- After an unaccountable reply nothing is sent, and the batch ends aborted. -/
  stops : ∀ before task reply after, e.log = before ++ .replied task reply :: after →
    Unaccountable reply →
      (∀ task' req, .submitted task' req ∉ after) ∧
        ∀ report, e.pc = .returned (.ok report) → report.aborted = true

theorem Batch.Reachable.resendRule (h : b.Reachable store e) : ResendRule b e := by
  rcases h.sim with ⟨l, hsim⟩
  have hsound := hsim.sound
  refine ⟨?_, ?_, ?_, ?_⟩
  · intro before task req after hsplit reply hreplied
    rcases List.append_of_mem hreplied with ⟨front, middle, rfl⟩
    have hsplit' :
        e.log = front ++ .replied task reply :: (middle ++ .submitted task req :: after) := by
      rw [hsplit, List.append_assoc, List.cons_append]
    exact (hsim.respects hsplit').1 rfl
  · intro task
    rw [← hsim.hands_eq]
    exact hsound.hands_le task
  · rcases hsim.recorded with ⟨rows, hresults, hrows⟩
    refine ⟨l.closed.map Prod.fst, rows, ?_, hresults, ?_⟩
    · -- The closed tasks are the front of the roster.
      rw [← hsound.arranged.order]
      exact (List.prefix_append _ _).trans (List.prefix_append _ _)
    · rw [List.forall₂_map_left_iff]
      refine List.forall₂_iff_get.2 ⟨hrows.length_eq, ?_⟩
      intro i hi hi'
      exact hsim.rowFacts (List.getElem_mem hi) (hrows.get hi hi')
  · intro before task reply after hsplit hunaccountable
    have hhalts := halts_of_unaccountable hunaccountable
    constructor
    · intro task' req hsent
      rcases List.append_of_mem hsent with ⟨middle, back, rfl⟩
      exact (hsim.respects hsplit).2 hhalts
    · intro report hpc
      have hreplied : .replied task reply ∈ e.log := by simp [hsplit]
      exact hsim.aborted_of_halts hreplied hhalts hpc

end Run

end DsspBot

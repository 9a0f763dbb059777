import DsspBot.Cli.Ending

/-!
# Outcome — what a run without a controller comes to

`run_batch` says of every error that the batch was aborted before any submission. Without a
controller that is so: past the session gate no failed write is fatal, every trainee gets a row, and
the run comes to its report whatever it is answered.
-/

namespace DsspBot

/-! ## The run does not stall -/

/-- The inputs a run waits for. -/
def Pc.awaits : Pc → Input → Prop
  | .ensureSession, input => ∃ id, input = .newId id
  | .ensuring _, input => ∃ reply, input = .reply reply
  | .writing _, input => ∃ now result, input = .write now result
  | .entering _, input => ∃ id, input = .newId id
  | .awaiting _ _, input => ∃ reply, input = .reply reply
  | .reporting, input => ∃ now, input = .clock now
  | .returned _, _ => False
  | _, input => input = .tick

/-- A run that has not returned waits for something. -/
theorem Pc.exists_awaits {pc : Pc} (h : ∀ result, pc ≠ .returned result) :
    ∃ input, pc.awaits input := by
  cases pc with
  | ensureSession => exact ⟨.newId "", "", rfl⟩
  | ensuring _ => exact ⟨.reply (.error ""), _, rfl⟩
  | writing _ => exact ⟨.write "" (.ok ()), _, _, rfl⟩
  | entering _ => exact ⟨.newId "", "", rfl⟩
  | awaiting _ _ => exact ⟨.reply (.error ""), _, rfl⟩
  | reporting => exact ⟨.clock "", "", rfl⟩
  | returned result => exact absurd rfl (h result)
  | _ => exact ⟨.tick, rfl⟩

section Outcome

variable {b : Batch} {store : CheckpointStore} {e e' : Engine}

/-- Whatever a run without a controller is answered, it goes on. -/
theorem Batch.Uncontrolled.goes_on (h : b.Uncontrolled store e) {input : Input}
    (hawaits : e.pc.awaits input) : (b.step e input).isSome = true := by
  have hunsteered := h.unsteered
  rcases h.reachable.sim with ⟨l, hsim⟩
  cases hpc : e.pc with
  | ensureSession | entering _ =>
      rw [hpc] at hawaits
      rcases hawaits with ⟨id, rfl⟩
      simp [Batch.step, hpc]
  | ensuring _ | awaiting _ _ =>
      rw [hpc] at hawaits
      rcases hawaits with ⟨reply, rfl⟩
      simp [Batch.step, hpc]
  | writing _ =>
      rw [hpc] at hawaits
      rcases hawaits with ⟨now, result, rfl⟩
      simp [Batch.step, hpc]
  | reporting =>
      rw [hpc] at hawaits
      rcases hawaits with ⟨now, rfl⟩
      simp [Batch.step, hpc]
  | returned result =>
      rw [hpc] at hawaits
      exact hawaits.elim
  | paused =>
      have hoff := hunsteered.unsteered
      simp [hpc, Pc.steered] at hoff
  | dequeue =>
      rw [hpc] at hawaits
      subst hawaits
      -- The queue was found filled at the head of the loop.
      rcases List.exists_cons_of_ne_nil (hunsteered.queued hpc) with ⟨task, rest, htasks⟩
      have hhead : e.queue.dequeue = some (task, { tasks := rest }) :=
        TaskQueue.dequeue_eq_some.2 htasks
      simp [Batch.step, hpc, Engine.dequeued, hunsteered.stop, hhead]
  | abortCheck =>
      rw [hpc] at hawaits
      subst hawaits
      -- A row was just added.
      rcases (hsim.stage.at_pc hpc).fresh with ⟨done, entry, hclosed, -⟩
      rcases hsim.recorded with ⟨rows, hrows, hown⟩
      have hlength := hown.length_eq
      have hne : e.results ≠ [] := by
        intro hnil
        rw [hnil] at hrows
        simp [(List.append_eq_nil_iff.1 hrows.symm).2, hclosed] at hlength
      simp [Batch.step, hpc, Engine.abortChecked, List.getLast?_eq_getLast_of_ne_nil hne]
  | _ =>
      rw [hpc] at hawaits
      subst hawaits
      simp [Batch.step, hpc]

/-! ## The run ends -/

/-- More than one trainee can cost in steps. -/
def Batch.perTask (b : Batch) : Nat :=
  4 * b.policy.discipline.limit + 8

/-- What a run has left to do, in steps, whatever it is answered. -/
def Batch.left (b : Batch) (e : Engine) : Nat :=
  let ahead := e.queue.tasks.length * b.perTask
  let again := fun a : Attempt => 4 * (b.policy.discipline.limit - a.attempts)
  match e.pc with
  | .ensureSession => b.tasks.length * b.perTask + 6
  | .ensuring _ => b.tasks.length * b.perTask + 5
  | .loopHead => ahead + 4
  | .dequeue => ahead + 3
  | .writing (.inFlight _) => ahead + 4 * b.policy.discipline.limit + 9
  | .entering _ => ahead + 4 * b.policy.discipline.limit + 8
  | .admission _ a => ahead + again a + 7
  | .submitting _ a => ahead + again a + 10
  | .awaiting _ a => ahead + again a + 9
  | .backoff _ a => ahead + again a + 8
  | .writing .settle => ahead + 6
  | .abortCheck => ahead + 5
  | .completion => 3
  | .writing (.terminal _) => 2
  | .reporting => 1
  -- The run is over, or at a point that only a control request leads to.
  | _ => 0

/-- Every step without a controller spends some of it. -/
theorem Batch.Uncontrolled.spends (h : b.Uncontrolled store e) (hstep : b.Step e e') :
    b.left e' < b.left e := by
  have hunsteered := h.unsteered
  have hstop := hunsteered.stop
  have hoff := hunsteered.unsteered
  rcases h.reachable.sim with ⟨l, hsim⟩
  cases hstep with
  | accepted _ hsome _ => simp [hunsteered.control] at hsome
  | refused _ hsome _ => simp [hunsteered.control] at hsome
  | boundaryStopped _ hset => simp [hstop] at hset
  | pausing _ _ _ hpause => simp [Engine.pauseRequested, hunsteered.control] at hpause
  | resuming hpc _ _ => simp [hpc, Pc.steered] at hoff
  | rechecked _ hset => simp [hstop] at hset
  | withdrawn _ hset => simp [hstop] at hset
  | abortStopped _ _ _ hset => simp [hstop] at hset
  | lateStopped _ hset _ => simp [hstop] at hset
  | dequeued hpc _ hqueue =>
      simp only [Batch.left, hpc, hqueue, List.length_cons, Nat.succ_mul]
      simp only [Batch.perTask]
      omega
  | admitted hpc _ =>
      rcases hsim.stage.at_pc hpc with ⟨replies, hholding, hattempts, -⟩
      have hwithin := hholding.within
      simp only [Batch.left, hpc, Engine.emit]
      omega
  | @landed site now hpc =>
      rw [hpc] at hoff
      cases site with
      | inFlight task =>
          simp only [Batch.left, hpc, Batch.writeLanded]
          omega
      | settle =>
          simp only [Batch.left, hpc, Batch.writeLanded]
          omega
      | terminal stopped => simp [Batch.left, hpc, Batch.writeLanded]
      | _ => cases hoff
  | @failed site now text hpc =>
      rw [hpc] at hoff
      cases site with
      | inFlight task =>
          simp only [Batch.left, hpc, Batch.writeFailed, Engine.abandon_pc]
          omega
      | settle =>
          simp only [Batch.left, hpc, Batch.writeFailed]
          omega
      | terminal stopped => cases stopped <;> simp [Batch.left, hpc, Batch.writeFailed]
      | _ => cases hoff
  | entered hpc =>
      simp only [Batch.left, hpc, Engine.entered, Engine.transition_queue]
      omega
  | submitted hpc =>
      simp only [Batch.left, hpc, Batch.submit, Engine.emit, Engine.transition_queue]
      omega
  | settled hpc _ =>
      simp only [Batch.left, hpc, Engine.settleRow, Engine.transition_queue, Engine.emit_queue]
      omega
  | retrying hpc _ _ =>
      simp only [Batch.left, hpc, Engine.transition_queue, Engine.emit_queue]
      omega
  | aborted hpc _ _ _ =>
      simp only [Batch.left, hpc, Engine.abandon_pc]
      omega
  | closing hpc _ => simp [Batch.left, hpc, Engine.close_pc]
  | ensure hpc | ensured hpc | emptied hpc _ | proceeding hpc _ _ _ | continued hpc _ _ =>
      simp only [Batch.left, hpc]
      omega
  | unensured hpc | reported hpc | lost hpc | slept hpc =>
      simp only [Batch.left, hpc, Batch.reported, Engine.settleRow, Engine.slept, Engine.emit_queue]
      omega

theorem Batch.uncontrolled_run_length_le {inputs : List Input}
    (h : Machine.run b.step (b.start none store) inputs = some e) :
    inputs.length ≤ b.tasks.length * b.perTask + 6 := by
  have hbound : inputs.length ≤ b.left (b.start none store) := by
    refine Machine.run_length_le (P := b.Uncontrolled store) ?_ ?_ (.refl _) h
    · intro x input x' hx hstep
      exact hx.tail hstep
    · intro x input x' hx hstep
      exact hx.spends (Batch.step_cases hstep)
  exact hbound

/-! ## What it ends with -/

/-- The rows of a report without a controller: the carried ones, and one for each queued trainee. -/
theorem Batch.Uncontrolled.report_rows (h : b.Uncontrolled store e) {report : BatchReport}
    (hpc : e.pc = .returned (.ok report)) :
    ∃ rows, report.results = b.carried ++ rows ∧
      List.Forall₂ (fun task row => ∃ replies, RowSpec task replies row) b.tasks rows := by
  rcases h.reachable.sim with ⟨l, hsim⟩
  rcases hsim.stage.at_pc hpc with ⟨hclosing, hresults, -⟩
  rcases hsim.recorded with ⟨rows, hown, hrows⟩
  refine ⟨rows, hresults.trans hown, ?_⟩
  rw [← hsim.closed_eq hclosing, List.forall₂_map_left_iff]
  exact hrows.imp fun entry row hrow => ⟨entry.2, hrow⟩

end Outcome

/-- Without a controller, an error means that nothing was sent and nothing written. In every other
case the run comes to a report, in a bounded number of steps and whatever it is answered, with one
row for every carried record and every distinct trainee. -/
theorem uncontrolled_error_means_nothing_happened (b : Batch) (store : CheckpointStore) :
    (∀ e, b.Uncontrolled store e →
      (∀ text, e.pc = .returned (.error text) → e.writes = [] ∧ e.submissions = 0) ∧
      (∀ report, e.pc = .returned (.ok report) →
        ∃ rows, report.results = b.carried ++ rows ∧
          List.Forall₂ (fun task row => ∃ replies, RowSpec task replies row) b.tasks rows) ∧
      ((∀ result, e.pc ≠ .returned result) → ∃ input, e.pc.awaits input) ∧
      ∀ input, e.pc.awaits input → (b.step e input).isSome = true) ∧
    ∀ inputs e, Machine.run b.step (b.start none store) inputs = some e →
      inputs.length ≤ b.tasks.length * b.perTask + 6 := by
  refine ⟨?_, ?_⟩
  · intro e h
    refine ⟨?_, ?_, Pc.exists_awaits, ?_⟩
    · exact fun text hpc => h.error_unsent hpc
    · exact fun report hpc => h.report_rows hpc
    · exact fun input hawaits => h.goes_on hawaits
  · exact fun inputs e h => b.uncontrolled_run_length_le h

end DsspBot

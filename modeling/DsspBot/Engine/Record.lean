import DsspBot.Engine.Basic
import DsspBot.Lib.WriteAhead

/-!
# Record — what rows and checkpoints say about a run

A row is determined by the replies its trainee got, and a checkpoint by a picture of the work
ledger. Both are stated without the engine: they are what the engine is proved to write.
-/

namespace DsspBot

/-! ## Rows -/

/-- How the last reply for a trainee is recorded; a retry that is not repeated is a failure. -/
def replyOutcome : Reply → Outcome
  | .error _ => .indeterminate
  | .ok resp =>
      match settleSubmit resp with
      | .success => .success
      | .failed _ _ => .failed
      | .indeterminate _ => .indeterminate
      | .retry _ _ => .failed

def replyCode : Reply → Option String
  | .error _ => some "NETWORK"
  | .ok resp =>
      match settleSubmit resp with
      | .success => none
      | .failed code _ => some code
      | .indeterminate _ => resp.errorCode
      | .retry code _ => some code

/-- The row of a trainee whose requests were answered by `replies`. -/
structure RowSpec (task : Task) (replies : List Reply) (row : TrainingResult) : Prop where
  attempts : row.attempts = replies.length
  unasked : replies = [] →
    row.outcome = .skipped ∧ row.errorCode = none ∧ row.traineeId = fallbackId task ∧
      row.traineeName = fallbackName task
  answered : ∀ reply, replies.getLast? = some reply →
    row.outcome = replyOutcome reply ∧ row.errorCode = replyCode reply ∧
      row.traineeId = replyId task reply ∧ row.traineeName = replyName task reply

/-- A reply after which nothing more is sent. -/
def Halts (reply : Reply) : Prop :=
  replyOutcome reply = .indeterminate ∨ replyCode reply = some "SESSION_EXPIRED" ∨
    replyCode reply = some "PORTAL_STRUCTURE_CHANGED"

/-- A reply that allows the same request to be sent again. -/
def AllowsRetry (reply : Reply) : Prop :=
  ∃ resp, reply = .ok resp ∧ ProvesRetry resp

theorem replyOutcome_ne_skipped (reply : Reply) : replyOutcome reply ≠ .skipped := by
  unfold replyOutcome
  split
  · simp
  · split <;> simp

/-- No reply both ends the batch and allows a retry. -/
theorem not_allowsRetry_of_halts {reply : Reply} (h : Halts reply) : ¬AllowsRetry reply := by
  rintro ⟨resp, rfl, hproves⟩
  rcases settleSubmit_of_provesRetry hproves with ⟨message, hsettle⟩
  -- A retryable reply has a code that keeps the batch, and is not indeterminate.
  have hkeeps := hproves.keepsBatch
  have hnot : ¬(abortsBatch (resp.errorCode.getD "SUBMISSION_FAILED") = true) := by
    simp [hkeeps]
  apply hnot
  rw [abortsBatch_iff]
  simpa [Halts, replyOutcome, replyCode, hsettle] using h

/-- What cannot be accounted for is recorded as indeterminate, and halts the batch. -/
theorem replyOutcome_of_unaccountable {reply : Reply} (h : Unaccountable reply) :
    replyOutcome reply = .indeterminate := by
  cases reply with
  | error text => rfl
  | ok resp =>
      rcases (settleSubmit_indeterminate_iff resp).2 h with ⟨message, hsettle⟩
      simp [replyOutcome, hsettle]

theorem halts_of_unaccountable {reply : Reply} (h : Unaccountable reply) : Halts reply :=
  Or.inl (replyOutcome_of_unaccountable h)

/-- The write-ahead policy of a run: its retry rule, its abort rule and its attempt bound. -/
def RetryPolicy.discipline (policy : RetryPolicy) : WriteAhead.Policy Reply where
  again := AllowsRetry
  halts := Halts
  limit := max 1 policy.maxAttempts
  halts_final := fun _ h => not_allowsRetry_of_halts h

namespace RowSpec

variable {task : Task} {replies : List Reply} {row : TrainingResult}

/-- A row is `Skipped` exactly when its trainee was never asked about. -/
theorem skipped_iff (h : RowSpec task replies row) : row.outcome = .skipped ↔ replies = [] := by
  constructor
  · intro hskipped
    by_contra hne
    -- An answered trainee has the outcome of its last reply, and no reply is a skip.
    have hlast := h.answered _ (List.getLast?_eq_getLast_of_ne_nil hne)
    exact replyOutcome_ne_skipped _ (hlast.1.symm.trans hskipped)
  · intro hnil
    exact (h.unasked hnil).1

/-- A row of the run aborts it exactly when its last reply halts. -/
theorem shouldAbort_iff (h : RowSpec task replies row) :
    shouldAbort row = true ↔ ∃ reply, replies.getLast? = some reply ∧ Halts reply := by
  cases hlast : replies.getLast? with
  | none =>
      have hnil : replies = [] := List.getLast?_eq_none_iff.1 hlast
      have hrow := h.unasked hnil
      simp [shouldAbort, hrow.1, hrow.2.1]
  | some reply =>
      have hrow := h.answered reply hlast
      simp [shouldAbort, Halts, hrow.1, hrow.2.1, or_assoc]

/-- A trainee that was asked about, and whose last reply does not halt, is settled. -/
theorem settled (h : RowSpec task replies row) (hne : replies ≠ [])
    (hfree : ∀ reply ∈ replies, ¬Halts reply) : row.outcome = .success ∨ row.outcome = .failed := by
  have hlast := List.getLast?_eq_getLast_of_ne_nil hne
  have hrow := h.answered _ hlast
  have hskipped : row.outcome ≠ .skipped := fun heq => hne (h.skipped_iff.1 heq)
  have hindeterminate : row.outcome ≠ .indeterminate := by
    intro heq
    exact hfree _ (List.getLast_mem hne) (Or.inl (hrow.1.symm.trans heq))
  -- Two of the four outcomes are excluded.
  cases hout : row.outcome with
  | success => exact Or.inl rfl
  | failed => exact Or.inr rfl
  | skipped => exact absurd hout hskipped
  | indeterminate => exact absurd hout hindeterminate

theorem of_skippedRow (task : Task) (reason : String) :
    RowSpec task [] (skippedRow reason task) where
  attempts := rfl
  unasked := fun _ => ⟨rfl, rfl, rfl, rfl⟩
  answered := by simp

theorem of_transportRow (task : Task) (earlier : List Reply) (text : String) :
    RowSpec task (earlier ++ [.error text]) (transportRow task (earlier.length + 1) text) where
  attempts := by simp [transportRow]
  unasked := by simp
  answered := by
    intro reply hlast
    have heq : reply = .error text := by simpa [eq_comm] using hlast
    subst heq
    exact ⟨rfl, rfl, rfl, rfl⟩

theorem of_replyRow (task : Task) (earlier : List Reply) (resp : Response) {outcome : Outcome}
    {code message : Option String} (houtcome : replyOutcome (.ok resp) = outcome)
    (hcode : replyCode (.ok resp) = code) :
    RowSpec task (earlier ++ [.ok resp])
      (replyRow task (earlier.length + 1) resp outcome code message) where
  attempts := by simp [replyRow]
  unasked := by simp
  answered := by
    intro reply hlast
    have heq : reply = .ok resp := by simpa [eq_comm] using hlast
    subst heq
    exact ⟨houtcome.symm, hcode.symm, rfl, rfl⟩

end RowSpec

/-! ## Checkpoints -/

abbrev WorkLedger := WriteAhead.Ledger Task Reply
abbrev WorkPicture := WriteAhead.Picture Task Reply

/-- Every task was worked and no reply ended the batch. -/
structure Finished (p : WorkPicture) : Prop where
  opened : p.opened = none
  waiting : p.waiting = []
  closed : ∀ entry ∈ p.closed, entry.2 ≠ [] ∧ ∀ reply ∈ entry.2, ¬Halts reply

/-- The results a run has written: what it carried, then one row for each closed task. -/
def Recorded (b : Batch) (closed : List (Task × List Reply)) (results : List TrainingResult) :
    Prop :=
  -- The carried rows come first, so no row of this run can stand before them.
  ∃ rows, results = b.carried ++ rows ∧
    List.Forall₂ (fun entry row => RowSpec entry.1 entry.2 row) closed rows

/-- A checkpoint that says exactly what a picture of the work says. -/
structure Describes (b : Batch) (cp : BatchCheckpoint) (p : WorkPicture) : Prop where
  total : cp.total = b.total
  recorded : Recorded b p.closed cp.results
  pending : cp.pending = p.waiting.map (·.id)
  inFlight : cp.inFlight = p.opened.map (·.id)
  finished : cp.status = .finished → Finished p

theorem recorded_nil (b : Batch) : Recorded b [] b.carried :=
  ⟨[], by simp, .nil⟩

theorem Recorded.append {b : Batch} {closed more : List (Task × List Reply)}
    {results rows : List TrainingResult} (h : Recorded b closed results)
    (hmore : List.Forall₂ (fun entry row => RowSpec entry.1 entry.2 row) more rows) :
    Recorded b (closed ++ more) (results ++ rows) := by
  rcases h with ⟨first, rfl, hfirst⟩
  exact ⟨first ++ rows, by simp, List.rel_append hfirst hmore⟩

theorem Recorded.snoc {b : Batch} {closed : List (Task × List Reply)}
    {results : List TrainingResult} {task : Task} {replies : List Reply} {row : TrainingResult}
    (h : Recorded b closed results) (hrow : RowSpec task replies row) :
    Recorded b (closed ++ [(task, replies)]) (results ++ [row]) :=
  h.append (.cons hrow .nil)

/-- The last closed entry is recorded by the last row. -/
theorem Recorded.last {b : Batch} {closed : List (Task × List Reply)}
    {entry : Task × List Reply} {results : List TrainingResult}
    (h : Recorded b (closed ++ [entry]) results) :
    ∃ first row, results = first ++ [row] ∧ RowSpec entry.1 entry.2 row := by
  rcases h with ⟨rows, rfl, hrows⟩
  -- Read both lists from the end: the last entry meets the last row.
  have hreverse := List.forall₂_reverse_iff.2 hrows
  rw [List.reverse_append, List.reverse_singleton, List.singleton_append] at hreverse
  rcases List.forall₂_cons_left_iff.1 hreverse with ⟨row, rest, hrow, -, hsplit⟩
  refine ⟨b.carried ++ rest.reverse, row, ?_, hrow⟩
  calc
    b.carried ++ rows = b.carried ++ (row :: rest).reverse := by
      rw [← hsplit, List.reverse_reverse]
    _ = (b.carried ++ rest.reverse) ++ [row] := by
      rw [List.reverse_cons, List.append_assoc]

/-- What a drain writes: one skipped row for each waiting task, in order. -/
theorem forall₂_skippedRow (tasks : List Task) (reason : String) :
    List.Forall₂ (fun entry row => RowSpec entry.1 entry.2 row)
      (tasks.map fun task => (task, ([] : List Reply))) (tasks.map (skippedRow reason)) := by
  induction tasks with
  | nil => exact .nil
  | cons task tasks ih => exact .cons (.of_skippedRow task reason) ih

end DsspBot

/-!
# Report — per-trainee results and the batch report

Rows are appended in completion order, and a report is a pure function of the rows: its counts
are never kept separately from them.
-/

namespace DsspBot

/-- What became of one trainee. -/
inductive Outcome
  | success
  | failed
  /-- Never attempted, drained after the batch stopped. -/
  | skipped
  /-- Submitted but unconfirmed, needs a human. -/
  | indeterminate
  deriving DecidableEq, Repr

/-- One row of a batch. -/
structure TrainingResult where
  traineeId : String
  traineeName : String
  outcome : Outcome
  attempts : Nat
  errorCode : Option String := none
  message : Option String := none
  deriving DecidableEq, Repr

/-- How many rows have a given outcome. -/
def countOutcome (outcome : Outcome) (results : List TrainingResult) : Nat :=
  results.countP fun r => decide (r.outcome = outcome)

/-- The report an operator reads. `successRate` is the exact quotient the source rounds to `f64`. -/
structure BatchReport where
  total : Nat
  successful : Nat
  failed : Nat
  skipped : Nat
  indeterminate : Nat
  successRate : Rat
  /-- Whether the run stopped early; the counts alone cannot say it. -/
  aborted : Bool
  startedAt : String
  finishedAt : String
  results : List TrainingResult
  deriving DecidableEq, Repr

namespace BatchReport

/-- Counts the rows and keeps them. -/
def build (results : List TrainingResult) (startedAt finishedAt : String) (aborted : Bool) :
    BatchReport :=
  let successful := countOutcome .success results
  let total := results.length
  { total := total
    successful := successful
    failed := countOutcome .failed results
    skipped := countOutcome .skipped results
    indeterminate := countOutcome .indeterminate results
    successRate := if total = 0 then 0 else (successful : Rat) / (total : Rat)
    aborted := aborted
    startedAt := startedAt
    finishedAt := finishedAt
    results := results }

end BatchReport

/-! ## Counting -/

@[simp] theorem countOutcome_nil (o : Outcome) : countOutcome o [] = 0 := rfl

@[simp] theorem countOutcome_append (o : Outcome) (xs ys : List TrainingResult) :
    countOutcome o (xs ++ ys) = countOutcome o xs + countOutcome o ys := by
  simp [countOutcome]

theorem countOutcome_eq_zero_iff {o : Outcome} {results : List TrainingResult} :
    countOutcome o results = 0 ↔ ∀ r ∈ results, r.outcome ≠ o := by
  simp [countOutcome, List.countP_eq_zero]

/-- The four counts of a report partition its rows. -/
theorem build_counts_sum (results : List TrainingResult) (startedAt finishedAt : String)
    (aborted : Bool) :
    let report := BatchReport.build results startedAt finishedAt aborted
    report.successful + report.failed + report.skipped + report.indeterminate = report.total := by
  induction results with
  | nil => rfl
  | cons r rs ih =>
      simp only [BatchReport.build, countOutcome, List.countP_cons, List.length_cons] at ih ⊢
      -- Each row adds one to the total and to the count of its own outcome.
      cases h : r.outcome <;> simp <;> omega

end DsspBot

import DsspBot.Report

/-!
# Checkpoint — durable batch progress

A checkpoint mirrors the queue and the results of a batch to disk. Everything the start gate
decides is a function of one checkpoint, so the predicates live here, beside the data.
-/

namespace DsspBot

/-- Lifecycle of a persisted batch. `running` and `paused` are live; `finished` closed out. -/
inductive CheckpointStatus
  | running
  | paused
  | finished
  | interrupted
  | aborted
  deriving DecidableEq, Repr

structure BatchCheckpoint where
  status : CheckpointStatus
  startedAt : String
  updatedAt : String
  /-- Trainees in the batch as originally queued. -/
  total : Nat
  /-- Results recorded so far, in completion order. -/
  results : List TrainingResult
  /-- Trainee ids still queued, in order. -/
  pending : List String
  /-- The trainee handed to the worker whose result has not come back yet. -/
  inFlight : Option String := none
  deriving DecidableEq, Repr

def IN_FLIGHT_CODE : String := "CRASH_IN_FLIGHT"
def IN_FLIGHT_MESSAGE : String :=
  "dequeued but no result was recorded — the submission may have reached the portal"
def LEGACY_PENDING_CODE : String := "CRASH_UNTRACKED_PENDING"
def LEGACY_PENDING_MESSAGE : String :=
  "was next in queue when a build without in-flight tracking died — the submission may have " ++
    "reached the portal"
def LEGACY_QUEUE_CODE : String := "CRASH_UNTRACKED_QUEUE"
def LEGACY_QUEUE_MESSAGE : String :=
  "was still queued in a file that cannot say how far it had got — the submission may have " ++
    "reached the portal"

structure Unreconciled where
  indeterminate : List TrainingResult
  unprocessed : List String
  deriving DecidableEq, Repr

/-- A record synthesized for a trainee whose result never landed. The source writes the same
literal at three sites; only the code and the message differ. -/
def synthesized (id code message : String) : TrainingResult :=
  { traineeId := id
    traineeName := ""
    outcome := .indeterminate
    attempts := 0
    errorCode := some code
    message := some message }

namespace BatchCheckpoint

variable (cp : BatchCheckpoint)

def isLive : Bool :=
  match cp.status with
  | .running => true
  | .paused => true
  | _ => false

/-- Re-mark a checkpoint abandoned by a terminated process, and whether that changed it. -/
def markInterrupted : Bool × BatchCheckpoint :=
  if !cp.isLive then (false, cp) else (true, { cp with status := .interrupted })

/-- The unconfirmed record an in-flight trainee stands for, if any. -/
def inFlightRecord : Option TrainingResult :=
  cp.inFlight.map fun id => synthesized id IN_FLIGHT_CODE IN_FLIGHT_MESSAGE

/-- The trainees this checkpoint cannot account for. -/
def unreconciled : Unreconciled :=
  { indeterminate :=
      (cp.results.filter fun r => decide (r.outcome = .indeterminate)) ++ cp.inFlightRecord.toList
    unprocessed := cp.pending }

/-- The head of the queue of a file that could not record a submission in flight. -/
def untrackedSuspect (tracksInFlight : Bool) : Option TrainingResult :=
  if tracksInFlight then
    none
  else
    cp.pending.head?.map fun id => synthesized id LEGACY_PENDING_CODE LEGACY_PENDING_MESSAGE

/-- The trainees a batch abort drained without attempting, in drain order. -/
def drainedSkips : List String :=
  (cp.results.filter fun r => decide (r.outcome = .skipped)).map (·.traineeId)

/-- Every trainee that was never sent, in the order it was queued. -/
def neverAttempted : List String :=
  cp.drainedSkips ++ cp.pending

/-- The queue of an untracked file, written down as unconfirmed. -/
def unvouchedQueue : List TrainingResult :=
  cp.pending.map fun id => synthesized id LEGACY_QUEUE_CODE LEGACY_QUEUE_MESSAGE

/-- Rows the portal was asked about and answered. -/
def settled : Nat :=
  cp.results.countP fun r => decide (r.outcome = .success) || decide (r.outcome = .failed)

def recordsLandedWork : Bool :=
  decide (cp.status ≠ .finished) && decide (0 < cp.settled)

/-- How many trainees this file does not place in any group. -/
def unaccounted : Nat :=
  -- Saturating: a file that over-counts reports nobody missing.
  cp.total - (cp.results.length + cp.pending.length + (if cp.inFlight.isSome then 1 else 0))

def hasUnconfirmed : Bool :=
  cp.inFlight.isSome || cp.results.any fun r => decide (r.outcome = .indeterminate)

/-- Whether a new batch may not take this slot without an acknowledgement. -/
def blocksStart : Bool :=
  -- In the source's order: unconfirmed work, a short count, settled work never closed out.
  cp.hasUnconfirmed || decide (0 < cp.unaccounted) || cp.recordsLandedWork

/-- Write an untracked build's suspicion down as an in-flight record. -/
def promoteSuspect (id : String) : Bool × BatchCheckpoint :=
  if cp.inFlight.isSome then
    (false, cp)
  else if cp.pending.contains id then
    -- Only the first occurrence leaves the queue.
    (true, { cp with pending := cp.pending.erase id, inFlight := some id })
  else
    (false, cp)

/-! ## Facts about one checkpoint -/

theorem hasUnconfirmed_iff :
    cp.hasUnconfirmed = true ↔
      cp.inFlight.isSome = true ∨ ∃ r ∈ cp.results, r.outcome = .indeterminate := by
  simp [hasUnconfirmed]

theorem blocksStart_iff :
    cp.blocksStart = true ↔
      cp.hasUnconfirmed = true ∨ 0 < cp.unaccounted ∨ (cp.status ≠ .finished ∧ 0 < cp.settled) := by
  simp [blocksStart, recordsLandedWork, or_assoc]

theorem settled_pos_iff :
    0 < cp.settled ↔ ∃ r ∈ cp.results, r.outcome = .success ∨ r.outcome = .failed := by
  simp [settled, List.countP_pos_iff]

@[simp] theorem unreconciled_length_pos :
    0 < cp.unreconciled.indeterminate.length ↔ cp.hasUnconfirmed = true := by
  rw [hasUnconfirmed_iff]
  cases h : cp.inFlight <;>
    simp [unreconciled, inFlightRecord, h, List.length_pos_iff, List.filter_eq_nil_iff]

/-- Re-marking touches the status and nothing else. -/
theorem markInterrupted_snd :
    cp.markInterrupted.2 = { cp with status := cp.markInterrupted.2.status } := by
  unfold markInterrupted
  split <;> rfl

/-- Only the landed-work clause reads the status, and it asks for `finished`. -/
theorem blocksStart_of_status {status : CheckpointStatus} (hcp : cp.status ≠ .finished)
    (hstatus : status ≠ .finished) :
    ({ cp with status := status } : BatchCheckpoint).blocksStart = cp.blocksStart := by
  -- The counts do not read the status, and neither status is the exempt one.
  have hlanded :
      ({ cp with status := status } : BatchCheckpoint).recordsLandedWork =
        cp.recordsLandedWork := by
    have hsettled : ({ cp with status := status } : BatchCheckpoint).settled = cp.settled := rfl
    simp [recordsLandedWork, hcp, hstatus, hsettled]
  unfold blocksStart
  rw [hlanded]
  rfl

/-- A refusal does not expire by being recorded: re-marking never clears the landed work. -/
theorem blocksStart_markInterrupted :
    cp.markInterrupted.2.blocksStart = cp.blocksStart := by
  unfold markInterrupted
  split
  · rfl
  · -- A live status is not `finished`, and neither is the one it is re-marked with.
    next hlive =>
      have hstatus : cp.status ≠ .finished := by
        intro h
        simp [isLive, h] at hlive
      exact cp.blocksStart_of_status hstatus (by decide)

end BatchCheckpoint

end DsspBot

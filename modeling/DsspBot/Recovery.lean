import DsspBot.Protocol
import DsspBot.Store

/-!
# Recovery — reconciling the checkpoint slot before a batch starts

`guard` reads the slot, may rewrite it once or twice, and answers with a plan or a refusal. The
writes are best effort, so their results are inputs: no decision below depends on them.
-/

namespace DsspBot

def RESUME_ENV : String := "DSSP_RESUME"

/-- What a start may do with the slot. -/
inductive Plan
  | fresh
  /-- Continue a predecessor: who to run, what to carry, how many are owed a human's answer. -/
  | resume (roster : List TraineeRef) (carried : List TrainingResult) (owed : Nat)
  deriving DecidableEq, Repr

structure Start where
  plan : Plan
  previous : Option BatchCheckpoint
  /-- Whether this start rewrote the status, that is, found a killed process. -/
  recovered : Bool
  deriving DecidableEq, Repr

/-- A checkpoint holds ids, because that is what the engine queued. -/
def byId (id : String) : TraineeRef :=
  { id := some id, name := none }

/-- Everything the predecessor settled or could not settle. -/
def carried (previous : BatchCheckpoint) : List TrainingResult :=
  (previous.results.filter fun r => decide (r.outcome ≠ .skipped)) ++
    previous.inFlightRecord.toList

/-- The trainees a resume may safely offer as work. -/
def continuable (previous : BatchCheckpoint) (tracksInFlight : Bool) : List String :=
  if tracksInFlight then previous.neverAttempted else previous.drainedSkips

/-- Drop the suspect, who is carried rather than continued. -/
def withoutSuspect (runnable : List String) (suspect : Option TrainingResult) : List String :=
  runnable.filter fun id => decide (some id ≠ suspect.map (·.traineeId))

@[simp] theorem withoutSuspect_none (runnable : List String) :
    withoutSuspect runnable none = runnable := by
  simp [withoutSuspect]

/-! ## What an operator reads -/

/-- Why the file cannot simply be overwritten, sharpest warning first. -/
def reason (previous : BatchCheckpoint) (unreconciled : Unreconciled)
    (suspect : Option TrainingResult) : String :=
  match suspect with
  | some record =>
      "the file was written by a build that could not record a submission in flight, so it " ++
        s!"cannot say how far through its queue it got — {record.traineeId} was next, and " ++
        "anything behind it may be on the portal as well"
  | none =>
      match previous.inFlight with
      | some id =>
          s!"the process was killed while submitting {id} — that submission may have reached " ++
            "the portal"
      | none =>
          -- The counts come before the settled rows: a short file is the sharper warning.
          let placed := previous.total - previous.unaccounted
          let total := previous.total
          let unaccounted := previous.unaccounted
          let settled := previous.settled
          let unconfirmed := unreconciled.indeterminate.length
          if 0 < unaccounted then
            s!"it accounts for {placed} of its {total} trainee(s), so {unaccounted} cannot be " ++
              "placed at all — check the portal for whoever is missing"
          else if previous.recordsLandedWork then
            s!"it records {settled} submission(s) that already settled, on a batch that never " ++
              "wrote its finish — running the job file again would ask the portal for them a " ++
              "second time"
          else
            s!"{unconfirmed} submission(s) may already exist on the portal — check them there " ++
              "before going on"

/-- The refusal: the file, what is in it, why it cannot be overwritten, and the ways forward. -/
def refusal (path : String) (previous : BatchCheckpoint) (unreconciled : Unreconciled)
    (suspect : Option TrainingResult) (runnable : List String) : String :=
  let never := (withoutSuspect runnable suspect).length
  let unconfirmed := unreconciled.indeterminate.length
  let unaccounted := previous.unaccounted
  let settled := previous.settled
  let started := previous.startedAt
  let total := previous.total
  let queued :=
    if suspect.isSome then s!"{never} a resume would run" else s!"{never} never attempted"
  let action :=
    -- What is advised follows the same order as `reason`, and nothing unaccounted is ever offered.
    if 0 < unaccounted then
      s!"the counts are short by {unaccounted} — check the portal before deciding anything; " ++
        "a resume will not run them"
    else if previous.recordsLandedWork && decide (0 < never) then
      s!"re-run with {RESUME_ENV}=1 to continue the {never} never-attempted trainee(s) — the " ++
        s!"{settled} already settled are carried forward, never submitted again"
    else if previous.recordsLandedWork then
      s!"re-run with {RESUME_ENV}=1 to close it out — every trainee this file knows about is " ++
        "already settled, so the resume submits nothing"
    else if 0 < never then
      s!"re-run with {RESUME_ENV}=1 to continue the {never} never-attempted trainee(s); " ++
        "nothing unconfirmed is replayed"
    else
      s!"re-run with {RESUME_ENV}=1 to carry the unconfirmed record(s) forward — " ++
        "there is nothing left to attempt"
  let why := reason previous unreconciled suspect
  s!"dssp-bot: refusing to start — the checkpoint at {path} holds a previous batch that was not " ++
    "closed out\n" ++
    s!"dssp-bot:   previous batch started {started}: {total} trainee(s), {settled} settled, " ++
    s!"{unconfirmed} unconfirmed, {queued}\n" ++
    s!"dssp-bot:   {why}\n" ++
    s!"dssp-bot:   {action}\n" ++
    s!"dssp-bot:   or move {path} aside to start a fresh batch, once you have checked the portal"

/-- A file that exists but cannot be read is not a file that says nothing ran. -/
def unreadable (path error : String) : String :=
  s!"dssp-bot: refusing to start — the checkpoint at {path} cannot be read: {error}\n" ++
    "dssp-bot:   a checkpoint that cannot be read must not be treated as if no batch ran\n" ++
    s!"dssp-bot:   if you are certain nothing was submitted, move {path} aside and re-run"

/-! ## The gate -/

/-- What the gate knows once it has read a file, before it writes anything. -/
structure Reading where
  suspect : Option TrainingResult
  blocked : Bool
  unreconciled : Unreconciled
  recovered : Bool
  previous : BatchCheckpoint
  tracksInFlight : Bool
  deriving DecidableEq, Repr

/-- The checkpoint with its suspect, if any, moved from the queue into `inFlight`. -/
def promoted (loaded : StoredCheckpoint) : BatchCheckpoint :=
  match loaded.checkpoint.untrackedSuspect loaded.tracksInFlight with
  | some record => (loaded.checkpoint.promoteSuspect record.traineeId).2
  | none => loaded.checkpoint

/-- The promotion precedes the questions, or a suspect would be counted twice. -/
def Reading.of (loaded : StoredCheckpoint) : Reading :=
  let marked := (promoted loaded).markInterrupted
  { suspect := loaded.checkpoint.untrackedSuspect loaded.tracksInFlight
    blocked := (promoted loaded).blocksStart
    unreconciled := (promoted loaded).unreconciled
    recovered := marked.1
    previous := marked.2
    tracksInFlight := loaded.tracksInFlight }

namespace Reading

variable (reading : Reading)

/-- Every carried row that bears the crash-window code is given the suspect's own record. -/
def restoreSuspect (records : List TrainingResult) : List TrainingResult :=
  match reading.suspect with
  | some record =>
      records.map fun slot => if slot.errorCode = some IN_FLIGHT_CODE then record else slot
  | none => records

/-- The queue of a file that cannot vouch for it, carried as unconfirmed. -/
def stranded : List TrainingResult :=
  if reading.tracksInFlight then [] else reading.previous.unvouchedQueue

def runnable : List String :=
  continuable reading.previous reading.tracksInFlight

/-- Everything a human still owes an answer for. -/
def owed : Nat :=
  reading.unreconciled.indeterminate.length + reading.stranded.length +
    reading.previous.unaccounted

def roster : List TraineeRef :=
  (withoutSuspect reading.runnable reading.suspect).map byId

def carriedForward : List TrainingResult :=
  reading.restoreSuspect (carried reading.previous) ++ reading.stranded

/-- Nothing left to run and nobody owed: the acknowledgement closes the batch out. -/
def closesOut : Bool :=
  reading.roster.isEmpty && decide (reading.owed = 0)

end Reading

/-- Results of the two writes the gate may make. -/
structure GuardSaves where
  interruption : Except String Unit := .ok ()
  closeOut : Except String Unit := .ok ()
  deriving Repr

/-- Read the slot and decide what the run may do with it. -/
def guard (store : CheckpointStore) (resume : Bool) (saves : GuardSaves) :
    Except String Start × CheckpointStore :=
  match store.loadWithProvenance with
  | .error e => (.error (unreadable store.path e), store)
  | .ok none => (.ok { plan := .fresh, previous := none, recovered := false }, store)
  | .ok (some loaded) =>
      let reading := Reading.of loaded
      -- A failed write only means the next start refuses again.
      let store :=
        if reading.recovered || reading.suspect.isSome then
          store.save reading.previous saves.interruption
        else
          store
      if resume then
        -- An acknowledged start is never refused. With nothing left to do it closes the file out.
        let previous :=
          if reading.closesOut then { reading.previous with status := .finished }
          else reading.previous
        let store := if reading.closesOut then store.save previous saves.closeOut else store
        (.ok { plan := .resume reading.roster reading.carriedForward reading.owed
               previous := some previous
               recovered := reading.recovered }, store)
      -- Only the unacknowledged start asks whether the file blocks.
      else if reading.blocked then
        (.error (refusal store.path reading.previous reading.unreconciled reading.suspect
          reading.runnable), store)
      else
        (.ok { plan := .fresh, previous := some reading.previous, recovered := reading.recovered },
          store)

/-! ## Reading a file -/

theorem promoted_of_tracked {loaded : StoredCheckpoint} (h : loaded.tracksInFlight = true) :
    promoted loaded = loaded.checkpoint := by
  simp [promoted, BatchCheckpoint.untrackedSuspect, h]

theorem promoted_of_idle {loaded : StoredCheckpoint} (h : loaded.checkpoint.pending = []) :
    promoted loaded = loaded.checkpoint := by
  simp [promoted, BatchCheckpoint.untrackedSuspect, h]

/-- Nobody is put in flight where somebody is already. -/
theorem promoted_of_inFlight {loaded : StoredCheckpoint} {id : String}
    (h : loaded.checkpoint.inFlight = some id) : promoted loaded = loaded.checkpoint := by
  unfold promoted
  split
  · simp [BatchCheckpoint.promoteSuspect, h]
  · rfl

/-- On an untracked file with a queue the head of the queue becomes the in-flight trainee, if there
is none yet. -/
theorem promoted_of_suspect {loaded : StoredCheckpoint} {head : String} {rest : List String}
    (htracks : loaded.tracksInFlight = false)
    (hpending : loaded.checkpoint.pending = head :: rest)
    (hnone : loaded.checkpoint.inFlight = none) :
    promoted loaded = { loaded.checkpoint with pending := rest, inFlight := some head } := by
  simp [promoted, BatchCheckpoint.untrackedSuspect, BatchCheckpoint.promoteSuspect, synthesized,
    htracks, hpending, hnone]

/-- Promotion moves one trainee between groups: nothing else changes, and the order of
`inFlight` followed by `pending` is kept. -/
theorem promoted_eq (loaded : StoredCheckpoint) :
    ∃ pending inFlight,
      promoted loaded = { loaded.checkpoint with pending := pending, inFlight := inFlight } ∧
        inFlight.toList ++ pending =
          loaded.checkpoint.inFlight.toList ++ loaded.checkpoint.pending := by
  -- Only an untracked file with a queue is changed, and there the head moves to the other group.
  cases htracks : loaded.tracksInFlight with
  | true => exact ⟨_, _, promoted_of_tracked htracks, rfl⟩
  | false =>
      cases hpending : loaded.checkpoint.pending with
      | nil => exact ⟨_, _, promoted_of_idle hpending, by rw [hpending]⟩
      | cons head rest =>
          cases hin : loaded.checkpoint.inFlight with
          | some id => exact ⟨_, _, promoted_of_inFlight hin, by rw [hin, hpending]⟩
          | none => exact ⟨_, _, promoted_of_suspect htracks hpending hin, rfl⟩

@[simp] theorem promoted_results (loaded : StoredCheckpoint) :
    (promoted loaded).results = loaded.checkpoint.results := by
  rcases promoted_eq loaded with ⟨pending, inFlight, heq, -⟩
  simp [heq]

@[simp] theorem promoted_total (loaded : StoredCheckpoint) :
    (promoted loaded).total = loaded.checkpoint.total := by
  rcases promoted_eq loaded with ⟨pending, inFlight, heq, -⟩
  simp [heq]

@[simp] theorem promoted_status (loaded : StoredCheckpoint) :
    (promoted loaded).status = loaded.checkpoint.status := by
  rcases promoted_eq loaded with ⟨pending, inFlight, heq, -⟩
  simp [heq]

/-- The counts of a file are what they were: promotion cannot make a short file look whole. -/
@[simp] theorem promoted_unaccounted (loaded : StoredCheckpoint) :
    (promoted loaded).unaccounted = loaded.checkpoint.unaccounted := by
  rcases promoted_eq loaded with ⟨pending, inFlight, heq, horder⟩
  -- The two groups together are as long as before.
  have hlength := congrArg List.length horder
  rw [heq]
  unfold BatchCheckpoint.unaccounted
  cases inFlight <;> cases hin : loaded.checkpoint.inFlight <;>
    simp [hin] at hlength ⊢ <;> omega

theorem promoted_of_written (cp : BatchCheckpoint) : promoted (.written cp) = cp :=
  promoted_of_tracked rfl

/-- A plain start over a file is refused exactly when the promoted file blocks it. -/
theorem guard_refuses_iff {store : CheckpointStore} {loaded : StoredCheckpoint}
    (h : store.slot = .file loaded) (saves : GuardSaves) :
    (∃ text, (guard store false saves).1 = .error text) ↔ (promoted loaded).blocksStart = true := by
  have hblocked : (Reading.of loaded).blocked = (promoted loaded).blocksStart := rfl
  unfold guard
  rw [CheckpointStore.loadWithProvenance_of_file h]
  simp only [hblocked]
  cases (promoted loaded).blocksStart <;> simp

/-- What the gate holds is the promoted checkpoint, up to its status. -/
theorem Reading.previous_eq (loaded : StoredCheckpoint) :
    ∃ status, (Reading.of loaded).previous = { promoted loaded with status := status } :=
  ⟨_, (promoted loaded).markInterrupted_snd⟩

/-! ## What the gate answers, and what it leaves behind -/

/-- An acknowledged start over a file that loads is never refused: its plan is read off the file. -/
theorem guard_resumes {store : CheckpointStore} {loaded : StoredCheckpoint}
    (h : store.slot = .file loaded) (saves : GuardSaves) :
    ∃ start, (guard store true saves).1 = .ok start ∧
      start.plan = .resume (Reading.of loaded).roster (Reading.of loaded).carriedForward
        (Reading.of loaded).owed := by
  unfold guard
  rw [CheckpointStore.loadWithProvenance_of_file h]
  exact ⟨_, rfl, rfl⟩

/-- Without a file there is nothing to resume. -/
theorem guard_of_absent {store : CheckpointStore} (h : store.slot = .absent) (resume : Bool)
    (saves : GuardSaves) :
    guard store resume saves =
      (.ok { plan := .fresh, previous := none, recovered := false }, store) := by
  unfold guard
  rw [CheckpointStore.loadWithProvenance_of_absent h]

theorem save_slot (store : CheckpointStore) (cp : BatchCheckpoint) (result : Except String Unit) :
    (store.save cp result).slot = store.slot ∨
      (store.save cp result).slot = .file (.written cp) := by
  cases result with
  | ok _ => exact Or.inr rfl
  | error _ => exact Or.inl rfl

/-- The gate leaves the file as it was, or writes the promoted one under some status. -/
theorem guard_slot {store : CheckpointStore} {loaded : StoredCheckpoint}
    (h : store.slot = .file loaded) (resume : Bool) (saves : GuardSaves) :
    (guard store resume saves).2.slot = .file loaded ∨
      ∃ status, (guard store resume saves).2.slot =
        .file (.written { promoted loaded with status := status }) := by
  rcases Reading.previous_eq loaded with ⟨status, hprevious⟩
  unfold guard
  rw [CheckpointStore.loadWithProvenance_of_file h]
  simp only
  -- The first write, if any, then the close-out write of an acknowledged start, if any.
  generalize hfirst : (if (Reading.of loaded).recovered || (Reading.of loaded).suspect.isSome then
    store.save (Reading.of loaded).previous saves.interruption else store) = first
  have hslot : first.slot = .file loaded ∨
      ∃ status, first.slot = .file (.written { promoted loaded with status := status }) := by
    rw [← hfirst]
    split
    · rcases save_slot store (Reading.of loaded).previous saves.interruption with hsame | hsaved
      · exact Or.inl (hsame.trans h)
      · exact Or.inr ⟨status, by rw [hsaved, hprevious]⟩
    · exact Or.inl h
  -- Only the acknowledged start writes once more, and again the promoted file.
  cases resume with
  | true =>
      simp only [if_true]
      split
      · rcases save_slot first { (Reading.of loaded).previous with status := .finished }
          saves.closeOut with hsame | hsaved
        · rw [hsame]
          exact hslot
        · exact Or.inr ⟨.finished, by rw [hsaved, hprevious]⟩
      · exact hslot
  | false =>
      simp only [Bool.false_eq_true, if_false]
      split
      · exact hslot
      · exact hslot

/-! ## Files of this build -/

/-- A file that carries the key is offered back as it stands. -/
theorem roster_of_written (cp : BatchCheckpoint) :
    (Reading.of (.written cp)).roster = cp.neverAttempted.map byId := by
  rcases Reading.previous_eq (.written cp) with ⟨status, hprevious⟩
  unfold Reading.roster Reading.runnable
  rw [hprevious, promoted_of_written]
  -- A written file carries the key, so nobody is suspected and nothing is stranded.
  have hsuspect : (Reading.of (.written cp)).suspect = none := rfl
  have htracks : (Reading.of (.written cp)).tracksInFlight = true := rfl
  rw [hsuspect, htracks]
  exact congrArg (List.map byId) (withoutSuspect_none _)

theorem carriedForward_of_written (cp : BatchCheckpoint) :
    (Reading.of (.written cp)).carriedForward = carried cp := by
  rcases Reading.previous_eq (.written cp) with ⟨status, hprevious⟩
  have hsuspect : (Reading.of (.written cp)).suspect = none := rfl
  have htracks : (Reading.of (.written cp)).tracksInFlight = true := rfl
  unfold Reading.carriedForward Reading.restoreSuspect Reading.stranded
  rw [hprevious, promoted_of_written, hsuspect, htracks]
  exact List.append_nil _

/-- Carried records are results or unconfirmed submissions, never skips. -/
theorem carried_not_skipped (cp : BatchCheckpoint) :
    ∀ row ∈ carried cp, row.outcome ≠ .skipped := by
  intro row hrow
  rcases List.mem_append.1 hrow with hresult | hrecord
  · simpa using (List.mem_filter.1 hresult).2
  · -- The in-flight record, if there is one, is indeterminate.
    cases hin : cp.inFlight with
    | none => simp [BatchCheckpoint.inFlightRecord, hin] at hrecord
    | some id =>
        have heq : row = synthesized id IN_FLIGHT_CODE IN_FLIGHT_MESSAGE := by
          simpa [BatchCheckpoint.inFlightRecord, hin] using hrecord
        simp [heq, synthesized]

end DsspBot

import DsspBot.Engine.Coverage
import DsspBot.Engine.Sweep

/-!
# Owed — what a resume leaves owed in the file

A resume carries two kinds of debt. An unconfirmed record rides along as a row, and the row blocks
every later start. A shortfall is only a difference between the total and the rows, and the run
counts its total anew.
-/

namespace DsspBot

/-- The file names somebody whose submission may exist: a row, an in-flight trainee, or the queue
of a build that could not record one. -/
def NamesUnconfirmed (loaded : StoredCheckpoint) : Prop :=
  loaded.checkpoint.hasUnconfirmed = true ∨
    (loaded.tracksInFlight = false ∧ loaded.checkpoint.pending ≠ [])

theorem promoted_hasUnconfirmed_iff (loaded : StoredCheckpoint) :
    (promoted loaded).hasUnconfirmed = true ↔ NamesUnconfirmed loaded := by
  unfold NamesUnconfirmed
  cases htracks : loaded.tracksInFlight with
  | true => simp [promoted_of_tracked htracks]
  | false =>
      cases hpending : loaded.checkpoint.pending with
      | nil => simp [promoted_of_idle hpending]
      | cons head rest =>
          -- Promotion itself puts the head in flight, unless somebody is.
          have hunconfirmed : (promoted loaded).hasUnconfirmed = true := by
            rw [BatchCheckpoint.hasUnconfirmed_iff]
            left
            cases hin : loaded.checkpoint.inFlight with
            | some id => rw [promoted_of_inFlight hin, hin, Option.isSome_some]
            | none => rw [promoted_of_suspect htracks hpending hin, Option.isSome_some]
          simp [hunconfirmed]

section Carried

variable {loaded : StoredCheckpoint}

/-- An unconfirmed checkpoint carries an indeterminate record. -/
theorem carried_indeterminate {cp : BatchCheckpoint} (h : cp.hasUnconfirmed = true) :
    ∃ row ∈ carried cp, row.outcome = .indeterminate := by
  rcases cp.hasUnconfirmed_iff.1 h with hin | ⟨row, hrow, hout⟩
  · rcases Option.isSome_iff_exists.1 hin with ⟨id, hid⟩
    refine ⟨synthesized id IN_FLIGHT_CODE IN_FLIGHT_MESSAGE, ?_, rfl⟩
    exact List.mem_append_right _ (by simp [BatchCheckpoint.inFlightRecord, hid])
  · refine ⟨row, ?_, hout⟩
    exact List.mem_append_left _ (List.mem_filter.2 ⟨hrow, by simp [hout]⟩)

/-- A resume carries whoever is unconfirmed. -/
theorem carriedForward_indeterminate (h : NamesUnconfirmed loaded) :
    ∃ row ∈ (Reading.of loaded).carriedForward, row.outcome = .indeterminate := by
  rcases Reading.previous_eq loaded with ⟨status, hprevious⟩
  have hunconfirmed : (Reading.of loaded).previous.hasUnconfirmed = true := by
    rw [hprevious]
    exact (promoted_hasUnconfirmed_iff loaded).2 h
  rcases carried_indeterminate hunconfirmed with ⟨row, hrow, hout⟩
  cases hsuspect : (Reading.of loaded).suspect with
  | none =>
      refine ⟨row, List.mem_append_left _ ?_, hout⟩
      simpa [Reading.restoreSuspect, hsuspect] using hrow
  | some record =>
      -- A row with the crash-window code becomes the suspect's record, itself indeterminate.
      have hrecord : record.outcome = .indeterminate := by
        have hhead : loaded.checkpoint.untrackedSuspect loaded.tracksInFlight = some record :=
          hsuspect
        unfold BatchCheckpoint.untrackedSuspect at hhead
        split at hhead
        · cases hhead
        · rcases Option.map_eq_some_iff.1 hhead with ⟨id, -, rfl⟩
          rfl
      by_cases hcode : row.errorCode = some IN_FLIGHT_CODE
      · refine ⟨record, List.mem_append_left _ ?_, hrecord⟩
        simp only [Reading.restoreSuspect, hsuspect]
        exact List.mem_map.2 ⟨row, hrow, if_pos hcode⟩
      · refine ⟨row, List.mem_append_left _ ?_, hout⟩
        simp only [Reading.restoreSuspect, hsuspect]
        exact List.mem_map.2 ⟨row, hrow, if_neg hcode⟩

/-- Without the key, a queue is itself a name. -/
theorem pending_of_confirmed (h : ¬NamesUnconfirmed loaded)
    (htracks : loaded.tracksInFlight = false) : loaded.checkpoint.pending = [] := by
  by_contra hne
  exact h (Or.inr ⟨htracks, hne⟩)

/-- Where nobody is unconfirmed there is nothing to promote. -/
theorem promoted_of_confirmed (h : ¬NamesUnconfirmed loaded) :
    promoted loaded = loaded.checkpoint := by
  cases htracks : loaded.tracksInFlight with
  | true => exact promoted_of_tracked htracks
  | false => exact promoted_of_idle (pending_of_confirmed h htracks)

theorem suspect_of_confirmed (h : ¬NamesUnconfirmed loaded) :
    (Reading.of loaded).suspect = none := by
  change loaded.checkpoint.untrackedSuspect loaded.tracksInFlight = none
  cases htracks : loaded.tracksInFlight with
  | true => rfl
  | false =>
      have hpending := pending_of_confirmed h htracks
      simp [BatchCheckpoint.untrackedSuspect, hpending]

theorem stranded_of_confirmed (h : ¬NamesUnconfirmed loaded) :
    (Reading.of loaded).stranded = [] := by
  rcases Reading.previous_eq loaded with ⟨status, hprevious⟩
  unfold Reading.stranded
  split
  · rfl
  · next htracks =>
      have htracks' : loaded.tracksInFlight = false := Bool.eq_false_iff.2 htracks
      have hpending := pending_of_confirmed h htracks'
      rw [hprevious, promoted_of_confirmed h]
      simp [BatchCheckpoint.unvouchedQueue, hpending]

/-- What is carried is then the file's own rows, without the skips. -/
theorem carriedForward_of_confirmed (h : ¬NamesUnconfirmed loaded) :
    (Reading.of loaded).carriedForward =
      loaded.checkpoint.results.filter fun r => decide (r.outcome ≠ .skipped) := by
  -- Nobody is in flight, suspected or stranded, which leaves the rows.
  have hin : loaded.checkpoint.inFlight = none := by
    by_contra hsome
    exact h (Or.inl (loaded.checkpoint.hasUnconfirmed_iff.2
      (Or.inl (Option.isSome_iff_ne_none.2 hsome))))
  rcases Reading.previous_eq loaded with ⟨status, hprevious⟩
  unfold Reading.carriedForward Reading.restoreSuspect
  rw [suspect_of_confirmed h, stranded_of_confirmed h, hprevious, promoted_of_confirmed h]
  simp [carried, BatchCheckpoint.inFlightRecord, hin]

/-- All that is owed is then the shortfall of the counts. -/
theorem owed_of_confirmed (h : ¬NamesUnconfirmed loaded) :
    (Reading.of loaded).owed = loaded.checkpoint.unaccounted := by
  -- No record is indeterminate, so only the counts can be short.
  have hnone : (Reading.of loaded).unreconciled.indeterminate.length = 0 := by
    by_contra hne
    have hclear := mt (promoted_hasUnconfirmed_iff loaded).1 h
    exact hclear ((promoted loaded).unreconciled_length_pos.1 (Nat.pos_of_ne_zero hne))
  rcases Reading.previous_eq loaded with ⟨status, hprevious⟩
  unfold Reading.owed
  rw [hnone, stranded_of_confirmed h, hprevious, promoted_of_confirmed h]
  exact Nat.zero_add _

/-- And whoever was never attempted is offered. -/
theorem roster_of_confirmed (h : ¬NamesUnconfirmed loaded) :
    (Reading.of loaded).roster = loaded.checkpoint.neverAttempted.map byId := by
  rcases Reading.previous_eq loaded with ⟨status, hprevious⟩
  have hrunnable : (Reading.of loaded).runnable = loaded.checkpoint.neverAttempted := by
    have htracks' : (Reading.of loaded).tracksInFlight = loaded.tracksInFlight := rfl
    unfold Reading.runnable
    rw [hprevious, promoted_of_confirmed h, htracks']
    -- Without the key the queue is not offered, but here it is empty.
    cases htracks : loaded.tracksInFlight with
    | true => rfl
    | false =>
        have hpending := pending_of_confirmed h htracks
        simp [continuable, BatchCheckpoint.neverAttempted, BatchCheckpoint.drainedSkips, hpending]
  unfold Reading.roster
  rw [suspect_of_confirmed h, hrunnable, withoutSuspect_none]

theorem results_confirmed (h : ¬NamesUnconfirmed loaded) :
    ∀ row ∈ loaded.checkpoint.results, row.outcome ≠ .indeterminate := by
  intro row hrow hout
  exact h (Or.inl (loaded.checkpoint.hasUnconfirmed_iff.2 (Or.inr ⟨row, hrow, hout⟩)))

end Carried

/-! ## Runs over a file -/

/-- A plain start over this slot is refused, whatever becomes of the gate's own writes. -/
def Refused (store : CheckpointStore) : Prop :=
  ∀ saves, ∃ text, (guard store false saves).1 = .error text

theorem refused_of_unconfirmed {store : CheckpointStore} {loaded : StoredCheckpoint}
    (h : store.slot = .file loaded) (hunconfirmed : (promoted loaded).hasUnconfirmed = true) :
    Refused store := by
  intro saves
  exact (guard_refuses_iff h saves).2 ((BatchCheckpoint.blocksStart_iff _).2 (Or.inl hunconfirmed))

/-- A run that carries an indeterminate record only ever writes files that refuse a start. -/
theorem Batch.Reachable.file_unconfirmed {b : Batch} {store : CheckpointStore} {e : Engine}
    (h : b.Reachable store e) (hcarried : ∃ row ∈ b.carried, row.outcome = .indeterminate) :
    e.store.slot = store.slot ∨
      ∃ cp, e.store.slot = .file (.written cp) ∧ cp.hasUnconfirmed = true := by
  rcases h.sim with ⟨l, hsim⟩
  have hdurable := hsim.durable
  cases hsaved : l.saved with
  | none =>
      rw [hsaved] at hdurable
      exact Or.inl hdurable.1
  | some p =>
      rw [hsaved] at hdurable
      rcases hdurable with ⟨cp, hslot, hdescribes⟩
      rcases hdescribes.recorded with ⟨rows, hresults, -⟩
      rcases hcarried with ⟨row, hrow, hout⟩
      -- The carried rows stand first in every snapshot.
      have hmem : row ∈ cp.results := hresults ▸ List.mem_append_left _ hrow
      exact Or.inr ⟨cp, hslot, cp.hasUnconfirmed_iff.2 (Or.inr ⟨row, hmem, hout⟩)⟩

/-- A run of the work a file offers, over the slot the gate leaves. -/
structure Resumes (b : Batch) (loaded : StoredCheckpoint) : Prop where
  trainees : b.trainees = (Reading.of loaded).roster
  carried : b.carried = (Reading.of loaded).carriedForward

/-- Whatever a resume of the file does, and wherever it is cut, a plain start stays refused. -/
def StaysRefused (store : CheckpointStore) (loaded : StoredCheckpoint) : Prop :=
  ∀ b saves e, Resumes b loaded → b.Reachable (guard store true saves).2 e → Refused e.store

theorem staysRefused_of_unconfirmed {store : CheckpointStore} {loaded : StoredCheckpoint}
    (h : store.slot = .file loaded) (hnames : NamesUnconfirmed loaded) :
    StaysRefused store loaded := by
  intro b saves e hb hreach
  have hpromoted := (promoted_hasUnconfirmed_iff loaded).2 hnames
  have hcarried : ∃ row ∈ b.carried, row.outcome = .indeterminate := by
    rw [hb.carried]
    exact carriedForward_indeterminate hnames
  rcases hreach.file_unconfirmed hcarried with hkept | ⟨cp, hslot, hunconfirmed⟩
  · -- No write of the run landed, so the slot is the one the gate left.
    rcases guard_slot h true saves with hfile | ⟨status, hwritten⟩
    · exact refused_of_unconfirmed (hkept.trans hfile) hpromoted
    · apply refused_of_unconfirmed (hkept.trans hwritten)
      rw [promoted_of_written]
      exact hpromoted
  · apply refused_of_unconfirmed hslot
    rw [promoted_of_written]
    exact hunconfirmed

/-- A file that a sweep finished over confirmed rows lets a plain start through. -/
theorem Swept.not_blocked {b : Batch} {e : Engine} (h : Swept b e)
    (hcarried : ∀ row ∈ b.carried, row.outcome ≠ .indeterminate) :
    ∃ cp, e.store.slot = .file (.written cp) ∧ cp.blocksStart = false := by
  rcases h.left with ⟨cp, report, rows, hslot, -, -, -, hstatus, htotal, hresults, hlength, hrows,
    hpending, hin⟩
  refine ⟨cp, hslot, ?_⟩
  -- The run counts its own roster and what it carried, and has a row for each.
  have hcount : b.tasks.length = (dedupe b.trainees).length := by
    simp [Batch.tasks, queuedTasks]
  have hwhole : cp.unaccounted = 0 := by
    have hplaced : cp.results.length = cp.total := by
      calc
        cp.results.length = b.carried.length + rows.length := by simp [hresults]
        _ = b.carried.length + (dedupe b.trainees).length := by rw [hlength, hcount]
        _ = b.total := Nat.add_comm _ _
        _ = cp.total := htotal.symm
    unfold BatchCheckpoint.unaccounted
    omega
  -- Its own rows are successes, and the carried ones are confirmed.
  have hclear : cp.hasUnconfirmed = false := by
    by_contra hunconfirmed
    rcases cp.hasUnconfirmed_iff.1 (by simpa using hunconfirmed) with hsome | ⟨row, hrow, hout⟩
    · simp [hin] at hsome
    · rw [hresults] at hrow
      rcases List.mem_append.1 hrow with hrow | hrow
      · exact hcarried row hrow hout
      · simp [hrows row hrow] at hout
  simp [BatchCheckpoint.blocksStart, BatchCheckpoint.recordsLandedWork, hclear, hwhole, hstatus]

/-- Over a file that names nobody unconfirmed, some resume leaves a slot a plain start takes. -/
theorem not_staysRefused {store : CheckpointStore} {loaded : StoredCheckpoint}
    (hnames : ¬NamesUnconfirmed loaded) : ¬StaysRefused store loaded := by
  intro hstays
  let b : Batch :=
    { session := { trainingDate := "", instructor := "", trainingType := "" }
      startedAt := ""
      trainees := (Reading.of loaded).roster
      carried := (Reading.of loaded).carriedForward }
  -- Let nothing go wrong: the new total knows nothing of the old shortfall.
  rcases sweep b (guard store true {}).2 with ⟨e, hreach, hswept⟩
  have hrefused : Refused e.store := hstays b {} e ⟨rfl, rfl⟩ ⟨none, Or.inl rfl, hreach⟩
  have hcarried : ∀ row ∈ b.carried, row.outcome ≠ .indeterminate := by
    intro row hrow
    have hrow' : row ∈ (Reading.of loaded).carriedForward := hrow
    rw [carriedForward_of_confirmed hnames] at hrow'
    exact results_confirmed hnames row (List.mem_filter.1 hrow').1
  rcases hswept.not_blocked hcarried with ⟨cp, hslot, hblocks⟩
  have hblocked := (guard_refuses_iff hslot {}).1 (hrefused {})
  simp [promoted_of_written, hblocks] at hblocked

/-- What a resume leaves owed keeps refusing a plain start exactly when the file names somebody
unconfirmed; a shortfall of the counts alone is forgotten by the first clean finish. -/
theorem owed_survives_resume_iff {store : CheckpointStore} {loaded : StoredCheckpoint}
    (h : store.slot = .file loaded) : StaysRefused store loaded ↔ NamesUnconfirmed loaded := by
  constructor
  · intro hstays
    by_contra hnames
    exact not_staysRefused hnames hstays
  · exact staysRefused_of_unconfirmed h

/-- A file that lost one of its three trainees, with one settled and one still queued. -/
def shortFile : StoredCheckpoint :=
  .written
    { status := .interrupted, startedAt := "t0", updatedAt := "t1", total := 3
      results := [{ traineeId := "1", traineeName := "", outcome := .success, attempts := 1 }]
      pending := ["2"] }

def shortStore : CheckpointStore :=
  { path := "dssp.checkpoint.json", slot := .file shortFile }

/-- One trainee to run and one owed, and a resume forgets the one it cannot name. -/
theorem owed_of_shortFile_is_forgotten :
    (Reading.of shortFile).roster ≠ [] ∧ 0 < (Reading.of shortFile).owed ∧
      ¬StaysRefused shortStore shortFile := by
  have hnames : ¬NamesUnconfirmed shortFile := by
    unfold NamesUnconfirmed
    decide
  exact ⟨by decide, by decide, not_staysRefused hnames⟩

/-- With trainee 3 left in flight instead of lost, every resume keeps the refusal. -/
theorem owed_survives_with_one_in_flight :
    let loaded : StoredCheckpoint :=
      .written { shortFile.checkpoint with inFlight := some "3" }
    StaysRefused { shortStore with slot := .file loaded } loaded :=
  (owed_survives_resume_iff rfl).2 (Or.inl rfl)

end DsspBot

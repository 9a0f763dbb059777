import Mathlib.Data.List.Nodup
import Mathlib.Data.List.Perm.Basic
import DsspBot.Suspicion

/-!
# Accounting — whom a resume runs, and whom it carries

An acknowledged start splits the trainees of the file into those it runs and those it carries as
rows. The carried rows of an older build's file are rewritten by their error code, which is not
unique to the suspect the rewriting is meant for.
-/

namespace DsspBot

/-- Every trainee a file names, group by group. -/
def BatchCheckpoint.ids (cp : BatchCheckpoint) : List String :=
  cp.results.map (·.traineeId) ++ cp.inFlight.toList ++ cp.pending

namespace Offer

def rosterIds (offer : Offer) : List String :=
  offer.roster.filterMap (·.id)

def carriedIds (offer : Offer) : List String :=
  offer.carried.map (·.traineeId)

/-- The plan places every trainee of the file once, runs nobody who may have been sent, keeps every
row but the skips, and its numbers add up. -/
structure Accounts (offer : Offer) (cp : BatchCheckpoint) : Prop where
  resolvedById : offer.roster = offer.rosterIds.map byId
  disjoint : List.Disjoint offer.rosterIds offer.carriedIds
  roster_nodup : offer.rosterIds.Nodup
  carried_nodup : offer.carriedIds.Nodup
  covers : ∀ id, id ∈ offer.rosterIds ∨ id ∈ offer.carriedIds ↔ id ∈ cp.ids
  settled_not_run : ∀ row ∈ cp.results, row.outcome ≠ .skipped → row.traineeId ∉ offer.rosterIds
  inFlight_not_run : ∀ id ∈ cp.inFlight, id ∉ offer.rosterIds
  settled_carried : ∀ row ∈ cp.results, row.outcome ≠ .skipped → row ∈ offer.carried
  counts : offer.roster.length + offer.carried.length + cp.unaccounted = cp.total
  owed : offer.owed = countOutcome .indeterminate offer.carried + cp.unaccounted

end Offer

@[simp] theorem filterMap_byId (ids : List String) :
    (ids.map byId).filterMap (·.id) = ids := by
  rw [List.filterMap_map]
  exact List.filterMap_some

namespace BatchCheckpoint

variable (cp : BatchCheckpoint)

theorem ids_length :
    cp.ids.length =
      cp.results.length + cp.pending.length + (if cp.inFlight.isSome then 1 else 0) := by
  have hinFlight : cp.inFlight.toList.length = if cp.inFlight.isSome then 1 else 0 := by
    cases cp.inFlight <;> rfl
  simp only [ids, List.length_append, List.length_map, hinFlight]
  omega

/-- Where the counts do not exceed the total, the shortfall is exactly what is missing. -/
theorem ids_length_add_unaccounted (h : cp.ids.length ≤ cp.total) :
    cp.ids.length + cp.unaccounted = cp.total := by
  have hlength := cp.ids_length
  unfold unaccounted
  omega

/-- The rows of a file are its skips and the rest. -/
theorem results_perm :
    (cp.drainedSkips ++
        (cp.results.filter fun r => decide (r.outcome ≠ .skipped)).map (·.traineeId)).Perm
      (cp.results.map (·.traineeId)) := by
  have hsplit := List.filter_append_perm (fun r : TrainingResult => decide (r.outcome = .skipped))
    cp.results
  simpa [drainedSkips] using hsplit.map (·.traineeId)

/-- Rows that are unconfirmed are never skips, so nothing unconfirmed is lost by dropping those. -/
theorem countOutcome_settled :
    countOutcome .indeterminate (cp.results.filter fun r => decide (r.outcome ≠ .skipped)) =
      countOutcome .indeterminate cp.results := by
  unfold countOutcome
  rw [List.countP_filter]
  refine List.countP_congr ?_
  intro row _
  cases row.outcome <;> simp

theorem unreconciled_length :
    cp.unreconciled.indeterminate.length =
      countOutcome .indeterminate cp.results + cp.inFlight.toList.length := by
  cases h : cp.inFlight <;>
    simp [unreconciled, inFlightRecord, countOutcome, List.countP_eq_length_filter, h]

end BatchCheckpoint

/-! ## What is enough for a plan to account for everybody -/

/-- A plan that splits the file's ids, carries the rows and counts them accounts for the file. -/
theorem Offer.accounts_of_perm {offer : Offer} {cp : BatchCheckpoint} {ids : List String}
    (hroster : offer.roster = ids.map byId) (hperm : (ids ++ offer.carriedIds).Perm cp.ids)
    (hids : cp.ids.Nodup) (hcounts : cp.ids.length ≤ cp.total)
    (hcarried : ∀ row ∈ cp.results, row.outcome ≠ .skipped → row ∈ offer.carried)
    (hinFlight : ∀ id ∈ cp.inFlight, id ∈ offer.carriedIds)
    (howed : offer.owed = countOutcome .indeterminate offer.carried + cp.unaccounted) :
    offer.Accounts cp := by
  have hrosterIds : offer.rosterIds = ids := by
    rw [rosterIds, hroster, filterMap_byId]
  rcases List.nodup_append'.1 (hperm.nodup_iff.2 hids) with ⟨hrun, hcarry, hdisjoint⟩
  refine
    { resolvedById := by rw [hrosterIds, hroster]
      disjoint := by rwa [hrosterIds]
      roster_nodup := by rwa [hrosterIds]
      carried_nodup := hcarry
      covers := ?_
      settled_not_run := ?_
      inFlight_not_run := ?_
      settled_carried := hcarried
      counts := ?_
      owed := howed }
  · intro id
    rw [hrosterIds, ← List.mem_append]
    exact hperm.mem_iff
  · intro row hrow hskipped hrun'
    rw [hrosterIds] at hrun'
    exact hdisjoint hrun' (List.mem_map_of_mem (hcarried row hrow hskipped))
  · intro id hid hrun'
    rw [hrosterIds] at hrun'
    exact hdisjoint hrun' (hinFlight id hid)
  · -- The two groups are as long as the file's own.
    have hlength : ids.length + offer.carried.length = cp.ids.length := by
      simpa [carriedIds] using hperm.length_eq
    rw [hroster, List.length_map, hlength]
    exact cp.ids_length_add_unaccounted hcounts

/-! ## Files that carry the key, and files with nothing queued -/

section Whole

variable {cp : BatchCheckpoint}

theorem carried_ids (cp : BatchCheckpoint) :
    (carried cp).map (·.traineeId) =
      (cp.results.filter fun r => decide (r.outcome ≠ .skipped)).map (·.traineeId) ++
        cp.inFlight.toList := by
  cases h : cp.inFlight <;> simp [carried, BatchCheckpoint.inFlightRecord, synthesized, h]

/-- The drained rows and the queue are run, the rest is carried: together the whole file. -/
theorem split_perm (cp : BatchCheckpoint) :
    (cp.neverAttempted ++ (carried cp).map (·.traineeId)).Perm cp.ids := by
  rw [carried_ids, BatchCheckpoint.neverAttempted, BatchCheckpoint.ids]
  -- The queue moves behind the rows that are carried, and then the rows are the file's own.
  have hqueue : (cp.drainedSkips ++ cp.pending ++
        ((cp.results.filter fun r => decide (r.outcome ≠ .skipped)).map (·.traineeId) ++
          cp.inFlight.toList)).Perm
      (cp.drainedSkips ++
          (cp.results.filter fun r => decide (r.outcome ≠ .skipped)).map (·.traineeId) ++
        (cp.inFlight.toList ++ cp.pending)) := by
    simp only [List.append_assoc]
    refine List.Perm.append_left _ (List.perm_append_comm.trans ?_)
    simp only [List.append_assoc]
    exact .refl _
  rw [List.append_assoc (cp.results.map (·.traineeId))]
  exact hqueue.trans (cp.results_perm.append_right _)

theorem countOutcome_carried (cp : BatchCheckpoint) :
    countOutcome .indeterminate (carried cp) = cp.unreconciled.indeterminate.length := by
  rw [carried, countOutcome_append, cp.countOutcome_settled, cp.unreconciled_length]
  congr 1
  cases h : cp.inFlight <;> simp [BatchCheckpoint.inFlightRecord, countOutcome, synthesized, h]

/-- Where no row is rewritten, the plan accounts for the file. -/
theorem accounts_of_written (hids : cp.ids.Nodup) (hcounts : cp.ids.length ≤ cp.total) :
    (Reading.of (.written cp)).offer.Accounts cp := by
  rw [offer_of_written]
  refine Offer.accounts_of_perm rfl (split_perm cp) hids hcounts ?_ ?_ ?_
  · intro row hrow hskipped
    exact List.mem_append_left _ (List.mem_filter.2 ⟨hrow, by simpa using hskipped⟩)
  · intro id hid
    rw [Offer.carriedIds, carried_ids]
    exact List.mem_append_right _ (by simpa using hid)
  · rw [countOutcome_carried]

end Whole

/-! ## Files of an older build with a queue -/

section Suspect

variable {loaded : StoredCheckpoint} {head : String} {rest : List String}

/-- No row of the file would be taken for the suspect's. -/
def Unmistaken (cp : BatchCheckpoint) : Prop :=
  ∀ row ∈ cp.results, row.outcome ≠ .skipped → row.errorCode ≠ some IN_FLIGHT_CODE

/-- What such a file carries when only the suspect's record bears the crash-window code. -/
theorem offer_of_unmistaken (htracks : loaded.tracksInFlight = false)
    (hpending : loaded.checkpoint.pending = head :: rest)
    (hnone : loaded.checkpoint.inFlight = none) (h : Unmistaken loaded.checkpoint) :
    (Reading.of loaded).offer.carried =
      (loaded.checkpoint.results.filter fun r => decide (r.outcome ≠ .skipped)) ++
        [synthesized head LEGACY_PENDING_CODE LEGACY_PENDING_MESSAGE] ++
          rest.map fun id => synthesized id LEGACY_QUEUE_CODE LEGACY_QUEUE_MESSAGE := by
  have hrows : (loaded.checkpoint.results.filter fun r => decide (r.outcome ≠ .skipped)).map
      (fun row => if row.errorCode = some IN_FLIGHT_CODE then
        synthesized head LEGACY_PENDING_CODE LEGACY_PENDING_MESSAGE else row) =
      loaded.checkpoint.results.filter fun r => decide (r.outcome ≠ .skipped) := by
    refine (List.map_congr_left ?_).trans (List.map_id _)
    intro row hrow
    have hparts := List.mem_filter.1 hrow
    exact if_neg (h row hparts.1 (by simpa using hparts.2))
  rw [offer_of_suspect htracks hpending hnone]
  simp only [List.map_append, hrows]
  rfl

/-- A row with the crash-window code is not carried: the suspect's record stands in its place. -/
theorem mistaken_row_lost {row : TrainingResult} (htracks : loaded.tracksInFlight = false)
    (hpending : loaded.checkpoint.pending = head :: rest)
    (hnone : loaded.checkpoint.inFlight = none)
    (hcode : row.errorCode = some IN_FLIGHT_CODE) :
    row ∉ (Reading.of loaded).offer.carried := by
  rw [offer_of_suspect htracks hpending hnone]
  intro hrow
  rcases List.mem_append.1 hrow with hrow | hrow
  · rcases List.mem_map.1 hrow with ⟨source, -, heq⟩
    split at heq
    · simp [← heq, synthesized, LEGACY_PENDING_CODE, IN_FLIGHT_CODE] at hcode
    · next hother => exact hother (heq ▸ hcode)
  · rcases List.mem_map.1 hrow with ⟨id, -, heq⟩
    simp [← heq, synthesized, LEGACY_QUEUE_CODE, IN_FLIGHT_CODE] at hcode

/-- The record of whoever is in flight is the suspect's, who is carried with the queue as well. -/
theorem carriedForward_of_inFlight {id : String} (htracks : loaded.tracksInFlight = false)
    (hpending : loaded.checkpoint.pending = head :: rest)
    (hin : loaded.checkpoint.inFlight = some id) :
    ∃ rows : List TrainingResult, (Reading.of loaded).carriedForward =
      rows ++ [synthesized head LEGACY_PENDING_CODE LEGACY_PENDING_MESSAGE] ++
        synthesized head LEGACY_QUEUE_CODE LEGACY_QUEUE_MESSAGE ::
          rest.map fun id => synthesized id LEGACY_QUEUE_CODE LEGACY_QUEUE_MESSAGE := by
  rcases Reading.previous_eq loaded with ⟨status, hprevious⟩
  have hsuspect : (Reading.of loaded).suspect =
      some (synthesized head LEGACY_PENDING_CODE LEGACY_PENDING_MESSAGE) := by
    simp [Reading.of, BatchCheckpoint.untrackedSuspect, htracks, hpending]
  have htracks' : (Reading.of loaded).tracksInFlight = false := htracks
  unfold Reading.carriedForward Reading.restoreSuspect Reading.stranded
  rw [hprevious, hsuspect, htracks', promoted_of_inFlight hin]
  simp only [carried, BatchCheckpoint.inFlightRecord, BatchCheckpoint.unvouchedQueue, hin, hpending,
    Option.map_some, Option.toList_some, List.map_append, List.map_cons, List.map_nil]
  exact ⟨_, rfl⟩

/-- So with somebody in flight the suspect is carried twice. -/
theorem not_accounts_of_inFlight {id : String} (htracks : loaded.tracksInFlight = false)
    (hpending : loaded.checkpoint.pending = head :: rest)
    (hin : loaded.checkpoint.inFlight = some id) :
    ¬(Reading.of loaded).offer.Accounts loaded.checkpoint := by
  intro haccounts
  rcases carriedForward_of_inFlight htracks hpending hin with ⟨rows, hrows⟩
  have hcarried : (Reading.of loaded).offer.carriedIds =
      rows.map (·.traineeId) ++ [head] ++ head :: rest := by
    have hids := congrArg (List.map (·.traineeId)) hrows
    simpa [Offer.carriedIds, Reading.offer, synthesized, Function.comp_def] using hids
  have hnodup := haccounts.carried_nodup
  rw [hcarried] at hnodup
  have hdisjoint := (List.nodup_append'.1 hnodup).2.2
  exact hdisjoint (List.mem_append_right _ List.mem_cons_self) List.mem_cons_self

/-- The queue of such a file is carried, suspect first, and only its drained rows are run. -/
theorem accounts_of_suspect (htracks : loaded.tracksInFlight = false)
    (hpending : loaded.checkpoint.pending = head :: rest)
    (hnone : loaded.checkpoint.inFlight = none) (h : Unmistaken loaded.checkpoint)
    (hids : loaded.checkpoint.ids.Nodup)
    (hcounts : loaded.checkpoint.ids.length ≤ loaded.checkpoint.total) :
    (Reading.of loaded).offer.Accounts loaded.checkpoint := by
  have hcarried := offer_of_unmistaken htracks hpending hnone h
  -- The head was in the queue, so it is none of the drained rows.
  have hfresh : head ∉ loaded.checkpoint.drainedSkips := by
    intro hmem
    have hresults : head ∈ loaded.checkpoint.results.map (·.traineeId) :=
      loaded.checkpoint.results_perm.subset (List.mem_append_left _ hmem)
    have hdisjoint := (List.nodup_append'.1 hids).2.2
    exact hdisjoint (List.mem_append_left _ hresults) (by rw [hpending]; exact List.mem_cons_self)
  have hroster : (Reading.of loaded).offer.roster = loaded.checkpoint.drainedSkips.map byId := by
    rw [roster_of_suspect htracks hpending]
    refine congrArg (List.map byId) (List.filter_eq_self.2 ?_)
    intro id hid
    have hne : id ≠ head := fun heq => hfresh (heq ▸ hid)
    simpa using hne
  have hcarriedIds : (Reading.of loaded).offer.carriedIds =
      (loaded.checkpoint.results.filter fun r => decide (r.outcome ≠ .skipped)).map
        (·.traineeId) ++ loaded.checkpoint.pending := by
    rw [Offer.carriedIds, hcarried, hpending]
    simp [synthesized, Function.comp_def]
  refine Offer.accounts_of_perm hroster ?_ hids hcounts ?_ ?_ ?_
  · rw [hcarriedIds, BatchCheckpoint.ids, hnone, Option.toList_none, List.append_nil,
      ← List.append_assoc]
    exact loaded.checkpoint.results_perm.append_right _
  · intro row hrow hskipped
    rw [hcarried, List.append_assoc]
    exact List.mem_append_left _ (List.mem_filter.2 ⟨hrow, by simpa using hskipped⟩)
  · simp [hnone]
  · -- The suspect and the rest of the queue are one unconfirmed record each.
    have hsuspect : (promoted loaded).unreconciled.indeterminate.length =
        countOutcome .indeterminate loaded.checkpoint.results + 1 := by
      rw [BatchCheckpoint.unreconciled_length, promoted_results,
        promoted_of_suspect htracks hpending hnone]
      rfl
    have hrest : countOutcome .indeterminate
        (rest.map fun id => synthesized id LEGACY_QUEUE_CODE LEGACY_QUEUE_MESSAGE) =
          rest.length := by
      simp [countOutcome, synthesized, List.countP_map, Function.comp_def]
    rw [hcarried, countOutcome_append, countOutcome_append,
      loaded.checkpoint.countOutcome_settled, hrest, offer_of_suspect htracks hpending hnone]
    simp only [hsuspect]
    rfl

end Suspect

/-! ## Every file -/

/-- The acknowledged start over this slot answers with a plan that accounts for the file, whatever
becomes of its saves. -/
def ResumeAccounts (store : CheckpointStore) (cp : BatchCheckpoint) : Prop :=
  ∀ saves, ∃ start roster carried owed, (guard store true saves).1 = .ok start ∧
    start.plan = .resume roster carried owed ∧ Offer.Accounts ⟨roster, carried, owed⟩ cp

theorem resumeAccounts_iff_offer {store : CheckpointStore} {loaded : StoredCheckpoint}
    (h : store.slot = .file loaded) (cp : BatchCheckpoint) :
    ResumeAccounts store cp ↔ (Reading.of loaded).offer.Accounts cp := by
  constructor
  · intro haccounts
    rcases haccounts {} with ⟨start, roster, carried, owed, hstart, hplan, hparts⟩
    rcases guard_resumes h {} with ⟨start', hstart', hplan'⟩
    have hsame : start = start' := by simpa using hstart.symm.trans hstart'
    rw [hsame, hplan'] at hplan
    cases hplan
    exact hparts
  · intro haccounts saves
    rcases guard_resumes h saves with ⟨start, hstart, hplan⟩
    exact ⟨start, _, _, _, hstart, hplan, haccounts⟩

/-- Over a file whose trainees are told apart and counted, an acknowledged start accounts for
everybody exactly when the file carries the key, or has nothing queued, or has nobody in flight and
none of its rows would be taken for the suspect's. -/
theorem resume_accounts_iff {store : CheckpointStore} {loaded : StoredCheckpoint}
    (h : store.slot = .file loaded) (hids : loaded.checkpoint.ids.Nodup)
    (hcounts : loaded.checkpoint.ids.length ≤ loaded.checkpoint.total) :
    ResumeAccounts store loaded.checkpoint ↔
      loaded.tracksInFlight = true ∨ loaded.checkpoint.pending = [] ∨
        loaded.checkpoint.inFlight = none ∧ Unmistaken loaded.checkpoint := by
  rw [resumeAccounts_iff_offer h]
  cases htracks : loaded.tracksInFlight with
  | true =>
      have hwritten : loaded = .written loaded.checkpoint := by
        rcases loaded with ⟨cp, tracks⟩
        cases htracks
        rfl
      have haccounts := accounts_of_written hids hcounts
      rw [← hwritten] at haccounts
      simpa using haccounts
  | false =>
      cases hpending : loaded.checkpoint.pending with
      | nil =>
          have haccounts := accounts_of_written hids hcounts
          rw [← offer_of_idle htracks hpending] at haccounts
          simpa using haccounts
      | cons head rest =>
          constructor
          · intro haccounts
            have hnone : loaded.checkpoint.inFlight = none := by
              cases hin : loaded.checkpoint.inFlight with
              | none => rfl
              | some id => exact absurd haccounts (not_accounts_of_inFlight htracks hpending hin)
            refine Or.inr (Or.inr ⟨hnone, ?_⟩)
            intro row hrow hskipped hcode
            exact mistaken_row_lost htracks hpending hnone hcode
              (haccounts.settled_carried row hrow hskipped)
          · intro hcases
            rcases hcases with htracks' | hnil | ⟨hnone, hunmistaken⟩
            · cases htracks'
            · cases hnil
            · exact accounts_of_suspect htracks hpending hnone hunmistaken hids hcounts

/-! ### A record given to the wrong trainee -/

/-- An older build's file with a row that a crash left, and one trainee queued. -/
def crashedFile : StoredCheckpoint where
  checkpoint :=
    { status := .running, startedAt := "t0", updatedAt := "t1", total := 2
      results := [synthesized "1" IN_FLIGHT_CODE IN_FLIGHT_MESSAGE]
      pending := ["2"] }
  tracksInFlight := false

def crashedStore : CheckpointStore :=
  { path := "dssp.checkpoint.json", slot := .file crashedFile }

/-- The plan over `crashedFile` carries trainee 2 twice and trainee 1 not at all. -/
theorem resume_over_crashedFile_forgets :
    crashedFile.checkpoint.ids.Nodup ∧
      crashedFile.checkpoint.ids.length ≤ crashedFile.checkpoint.total ∧
        (Reading.of crashedFile).offer.carriedIds = ["2", "2"] ∧
          ¬ ResumeAccounts crashedStore crashedFile.checkpoint := by
  refine ⟨by decide, by decide, by decide, ?_⟩
  intro haccounts
  have hnodup := ((resumeAccounts_iff_offer rfl _).1 haccounts).carried_nodup
  exact absurd hnodup (by decide)

/-- The older build's file with two trainees queued is accounted for. -/
theorem resume_accounts_over_legacyFile : ResumeAccounts legacyStore legacyFile.checkpoint :=
  (resume_accounts_iff (show legacyStore.slot = .file legacyFile from rfl) (by decide)
    (by decide)).2 (Or.inr (Or.inr ⟨rfl, by unfold Unmistaken; decide⟩))

end DsspBot

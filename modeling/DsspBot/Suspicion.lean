import Mathlib.Data.List.Basic
import DsspBot.Recovery

/-!
# Suspicion — what repeated calls of the gate make of one file

The gate may rewrite the file it reads, and its evidence about an older build's file is the absence
of a key that every write adds. This file compares what an acknowledged start is offered before and
after other calls of the gate, none of which ran anything.
-/

namespace DsspBot

/-- Calls of the gate in a row, every save succeeding and no run in between. -/
def calls (store : CheckpointStore) (resumes : List Bool) : CheckpointStore :=
  resumes.foldl (fun store resume => (guard store resume {}).2) store

/-- What an acknowledged start is offered: whom to run, what to carry, how many are owed. -/
structure Offer where
  roster : List TraineeRef
  carried : List TrainingResult
  owed : Nat
  deriving DecidableEq, Repr

def offered (store : CheckpointStore) : Option Offer :=
  match (guard store true {}).1 with
  | .ok { plan := .resume roster carried owed, .. } => some ⟨roster, carried, owed⟩
  | _ => none

/-- The same work in the same order, the same carried ids, the same number owed. -/
structure SameOffer (x y : Offer) : Prop where
  roster : x.roster = y.roster
  carried : ∀ id, (∃ row ∈ x.carried, row.traineeId = id) ↔ ∃ row ∈ y.carried, row.traineeId = id
  owed : x.owed = y.owed

theorem SameOffer.refl (x : Offer) : SameOffer x x :=
  ⟨rfl, fun _ => Iff.rfl, rfl⟩

/-- What a reading of one file offers. -/
def Reading.offer (reading : Reading) : Offer :=
  ⟨reading.roster, reading.carriedForward, reading.owed⟩

theorem offered_of_file {store : CheckpointStore} {loaded : StoredCheckpoint}
    (h : store.slot = .file loaded) : offered store = some (Reading.of loaded).offer := by
  rcases guard_resumes h {} with ⟨start, hstart, hplan⟩
  rcases start with ⟨plan, previous, recovered⟩
  cases hplan
  unfold offered
  rw [hstart]
  rfl

/-! ## Files that carry the key -/

theorem owed_of_written (cp : BatchCheckpoint) :
    (Reading.of (.written cp)).owed = cp.unreconciled.indeterminate.length + cp.unaccounted := by
  rcases Reading.previous_eq (.written cp) with ⟨status, hprevious⟩
  have htracks : (Reading.of (.written cp)).tracksInFlight = true := rfl
  have hunreconciled : (Reading.of (.written cp)).unreconciled = cp.unreconciled := by
    change (promoted (.written cp)).unreconciled = _
    rw [promoted_of_written]
  unfold Reading.owed Reading.stranded
  rw [hprevious, promoted_of_written, htracks, hunreconciled]
  rfl

/-- Nothing that is offered depends on the status of the file. -/
theorem offer_of_written (cp : BatchCheckpoint) :
    (Reading.of (.written cp)).offer =
      ⟨cp.neverAttempted.map byId, carried cp,
        cp.unreconciled.indeterminate.length + cp.unaccounted⟩ := by
  unfold Reading.offer
  rw [roster_of_written, carriedForward_of_written, owed_of_written]

/-- Calls of the gate on a file of this build only ever change its status. -/
theorem calls_of_written {store : CheckpointStore} {cp : BatchCheckpoint}
    (h : ∃ status, store.slot = .file (.written { cp with status := status }))
    (resumes : List Bool) :
    ∃ status, (calls store resumes).slot = .file (.written { cp with status := status }) := by
  induction resumes generalizing store with
  | nil => exact h
  | cons resume resumes ih =>
      rcases h with ⟨status, hslot⟩
      apply ih
      -- One call keeps the file or rewrites its status, and promotes nobody on a file with the key.
      rcases guard_slot hslot resume {} with hkept | ⟨status', hwritten⟩
      · exact ⟨status, hkept⟩
      · exact ⟨status', by rw [hwritten, promoted_of_written]⟩

theorem offered_calls_of_written {store : CheckpointStore} {cp : BatchCheckpoint}
    (h : ∃ status, store.slot = .file (.written { cp with status := status }))
    (resumes : List Bool) :
    offered (calls store resumes) = some (Reading.of (.written cp)).offer := by
  rcases calls_of_written h resumes with ⟨status, hslot⟩
  rw [offered_of_file hslot, offer_of_written, offer_of_written]
  rfl

/-! ## Files of an older build -/

section Untracked

variable {loaded : StoredCheckpoint}

/-- With an empty queue there is no suspect, and the missing key makes no difference. -/
theorem offer_of_idle (htracks : loaded.tracksInFlight = false)
    (hpending : loaded.checkpoint.pending = []) :
    (Reading.of loaded).offer = (Reading.of (.written loaded.checkpoint)).offer := by
  rcases Reading.previous_eq loaded with ⟨status, hprevious⟩
  have hpromoted : promoted loaded = loaded.checkpoint := promoted_of_idle hpending
  have hsuspect : (Reading.of loaded).suspect = none := by
    simp [Reading.of, BatchCheckpoint.untrackedSuspect, hpending]
  have htracks' : (Reading.of loaded).tracksInFlight = false := htracks
  have hunreconciled : (Reading.of loaded).unreconciled = loaded.checkpoint.unreconciled := by
    change (promoted loaded).unreconciled = _
    rw [hpromoted]
  rw [offer_of_written]
  unfold Reading.offer Reading.roster Reading.runnable Reading.carriedForward
    Reading.restoreSuspect Reading.stranded Reading.owed Reading.stranded
  rw [hprevious, hpromoted, hsuspect, htracks', hunreconciled]
  simp [continuable, carried, BatchCheckpoint.neverAttempted,
    BatchCheckpoint.drainedSkips, BatchCheckpoint.unvouchedQueue, BatchCheckpoint.inFlightRecord,
    BatchCheckpoint.unaccounted, hpending]

/-- The first reading of a file without the key drops its queue. -/
theorem roster_of_suspect {head : String} {rest : List String}
    (htracks : loaded.tracksInFlight = false)
    (hpending : loaded.checkpoint.pending = head :: rest) :
    (Reading.of loaded).offer.roster =
      (loaded.checkpoint.drainedSkips.filter fun id => decide (id ≠ head)).map byId := by
  rcases Reading.previous_eq loaded with ⟨status, hprevious⟩
  have hsuspect : (Reading.of loaded).suspect =
      some (synthesized head LEGACY_PENDING_CODE LEGACY_PENDING_MESSAGE) := by
    simp [Reading.of, BatchCheckpoint.untrackedSuspect, htracks, hpending]
  have htracks' : (Reading.of loaded).tracksInFlight = false := htracks
  unfold Reading.offer Reading.roster Reading.runnable
  rw [hprevious, hsuspect, htracks']
  simp [continuable, withoutSuspect, BatchCheckpoint.drainedSkips, synthesized]

/-- The first reading of an older build's file drops its queue and carries all of it. -/
theorem offer_of_suspect {head : String} {rest : List String}
    (htracks : loaded.tracksInFlight = false)
    (hpending : loaded.checkpoint.pending = head :: rest)
    (hnone : loaded.checkpoint.inFlight = none) :
    (Reading.of loaded).offer =
      ⟨(loaded.checkpoint.drainedSkips.filter fun id => decide (id ≠ head)).map byId,
        ((loaded.checkpoint.results.filter fun r => decide (r.outcome ≠ .skipped)) ++
            [synthesized head IN_FLIGHT_CODE IN_FLIGHT_MESSAGE]).map
          (fun row => if row.errorCode = some IN_FLIGHT_CODE then
            synthesized head LEGACY_PENDING_CODE LEGACY_PENDING_MESSAGE else row) ++
          rest.map fun id => synthesized id LEGACY_QUEUE_CODE LEGACY_QUEUE_MESSAGE,
        (promoted loaded).unreconciled.indeterminate.length + rest.length +
          loaded.checkpoint.unaccounted⟩ := by
  rcases Reading.previous_eq loaded with ⟨status, hprevious⟩
  -- The head goes in flight and the rest of the queue is stranded, so nothing queued is offered.
  have hpromoted := promoted_of_suspect htracks hpending hnone
  have hsuspect : (Reading.of loaded).suspect =
      some (synthesized head LEGACY_PENDING_CODE LEGACY_PENDING_MESSAGE) := by
    simp [Reading.of, BatchCheckpoint.untrackedSuspect, htracks, hpending]
  have htracks' : (Reading.of loaded).tracksInFlight = false := htracks
  have hunreconciled : (Reading.of loaded).unreconciled = (promoted loaded).unreconciled := rfl
  have hunaccounted : ({ promoted loaded with status := status } : BatchCheckpoint).unaccounted =
      loaded.checkpoint.unaccounted := promoted_unaccounted loaded
  unfold Reading.offer Reading.roster Reading.runnable Reading.carriedForward
    Reading.restoreSuspect Reading.stranded Reading.owed Reading.stranded
  rw [hprevious, hsuspect, htracks', hunreconciled, hunaccounted, hpromoted]
  simp [continuable, withoutSuspect, carried, BatchCheckpoint.drainedSkips,
    BatchCheckpoint.unvouchedQueue, BatchCheckpoint.inFlightRecord, synthesized]

/-- Every call of the gate on a file with a suspect writes the suspect down as in flight. -/
theorem slot_after_suspect {store : CheckpointStore} {head : String} {rest : List String}
    (htracks : loaded.tracksInFlight = false)
    (hpending : loaded.checkpoint.pending = head :: rest) (h : store.slot = .file loaded)
    (resume : Bool) :
    ∃ status, (guard store resume {}).2.slot =
      .file (.written { promoted loaded with status := status }) := by
  rcases Reading.previous_eq loaded with ⟨status, hprevious⟩
  have hsuspect : (Reading.of loaded).suspect.isSome = true := by
    simp [Reading.of, BatchCheckpoint.untrackedSuspect, htracks, hpending]
  unfold guard
  rw [CheckpointStore.loadWithProvenance_of_file h]
  simp only [hsuspect, Bool.or_true, if_true]
  -- With a suspect the gate always saves, whether or not it refuses afterwards.
  cases resume with
  | true =>
      simp only [if_true]
      split
      · exact ⟨.finished, by rw [CheckpointStore.save_ok, hprevious]⟩
      · exact ⟨status, by rw [CheckpointStore.save_ok, hprevious]⟩
  | false =>
      simp only [Bool.false_eq_true, if_false]
      split
      · exact ⟨status, by rw [CheckpointStore.save_ok, hprevious]⟩
      · exact ⟨status, by rw [CheckpointStore.save_ok, hprevious]⟩

end Untracked

/-! ## When the order of calls does not matter -/

/-- A file whose suspicion does not live in the missing key alone: it carries the key, or has
nothing queued, or nobody in flight and only a suspect queued that no other row of the file is
confused with. -/
def Vouched (loaded : StoredCheckpoint) : Prop :=
  loaded.tracksInFlight = true ∨ loaded.checkpoint.pending = [] ∨
    loaded.checkpoint.inFlight = none ∧
      ∃ head, loaded.checkpoint.pending = [head] ∧ head ∉ loaded.checkpoint.drainedSkips ∧
        ∀ row ∈ loaded.checkpoint.results, row.outcome ≠ .skipped →
          row.errorCode = some IN_FLIGHT_CODE →
            row.traineeId = head ∨ ∃ other ∈ loaded.checkpoint.results,
              other.outcome ≠ .skipped ∧ other.errorCode ≠ some IN_FLIGHT_CODE ∧
                other.traineeId = row.traineeId

theorem byId_injective : Function.Injective byId := by
  intro x y h
  simpa [byId] using h

/-- Dropping the suspect from the drained rows leaves as much as the whole queue only if the queue
was the suspect and no drained row is. -/
theorem filter_eq_append_iff {drained rest : List String} {head : String} :
    (drained.filter fun id => decide (id ≠ head)) = drained ++ rest ↔
      rest = [] ∧ head ∉ drained := by
  constructor
  · intro h
    -- A filter never lengthens a list, so nothing can have been appended.
    have hlength := congrArg List.length h
    have hle := List.length_filter_le (fun id => decide (id ≠ head)) drained
    have hrest : rest = [] := by
      rw [List.length_append] at hlength
      exact List.length_eq_zero_iff.1 (by omega)
    refine ⟨hrest, ?_⟩
    rw [hrest, List.append_nil, List.filter_eq_self] at h
    intro hmem
    simpa using h head hmem
  · rintro ⟨rfl, hnot⟩
    rw [List.append_nil, List.filter_eq_self]
    intro id hid
    have hne : id ≠ head := fun heq => hnot (heq ▸ hid)
    simpa using hne

section Offers

variable {loaded : StoredCheckpoint} {head : String} {rest : List String}

theorem offer_of_promoted (htracks : loaded.tracksInFlight = false)
    (hpending : loaded.checkpoint.pending = head :: rest)
    (hnone : loaded.checkpoint.inFlight = none) :
    (Reading.of (.written (promoted loaded))).offer =
      ⟨(loaded.checkpoint.drainedSkips ++ rest).map byId,
        (loaded.checkpoint.results.filter fun r => decide (r.outcome ≠ .skipped)) ++
          [synthesized head IN_FLIGHT_CODE IN_FLIGHT_MESSAGE],
        (promoted loaded).unreconciled.indeterminate.length + loaded.checkpoint.unaccounted⟩ := by
  rw [offer_of_written, promoted_unaccounted, promoted_of_suspect htracks hpending hnone]
  rfl

/-- Restoring the suspect's record keeps the set of carried ids, where every other row with the
crash-window code is named elsewhere too. -/
theorem carried_ids_iff {results : List TrainingResult}
    (hrows : ∀ row ∈ results, row.outcome ≠ .skipped → row.errorCode = some IN_FLIGHT_CODE →
      row.traineeId = head ∨ ∃ other ∈ results, other.outcome ≠ .skipped ∧
        other.errorCode ≠ some IN_FLIGHT_CODE ∧ other.traineeId = row.traineeId) (id : String) :
    (∃ row ∈ ((results.filter fun r => decide (r.outcome ≠ .skipped)) ++
            [synthesized head IN_FLIGHT_CODE IN_FLIGHT_MESSAGE]).map
          (fun row => if row.errorCode = some IN_FLIGHT_CODE then
            synthesized head LEGACY_PENDING_CODE LEGACY_PENDING_MESSAGE else row),
        row.traineeId = id) ↔
      ∃ row ∈ (results.filter fun r => decide (r.outcome ≠ .skipped)) ++
        [synthesized head IN_FLIGHT_CODE IN_FLIGHT_MESSAGE], row.traineeId = id := by
  -- Rows with the crash-window code all become one record, and the suspect's own is among them.
  have hrecord : synthesized head IN_FLIGHT_CODE IN_FLIGHT_MESSAGE ∈
      (results.filter fun r => decide (r.outcome ≠ .skipped)) ++
        [synthesized head IN_FLIGHT_CODE IN_FLIGHT_MESSAGE] := by simp
  constructor
  · rintro ⟨row, hrow, rfl⟩
    rcases List.mem_map.1 hrow with ⟨source, hsource, rfl⟩
    by_cases hcrash : source.errorCode = some IN_FLIGHT_CODE
    · exact ⟨_, hrecord, by rw [if_pos hcrash]; rfl⟩
    · exact ⟨source, hsource, by rw [if_neg hcrash]⟩
  · rintro ⟨row, hrow, rfl⟩
    by_cases hcrash : row.errorCode = some IN_FLIGHT_CODE
    · rcases List.mem_append.1 hrow with hresult | hsuspect
      · have hparts := List.mem_filter.1 hresult
        rcases hrows row hparts.1 (by simpa using hparts.2) hcrash with heq |
          ⟨other, hother, hskipped, hcode, hid⟩
        · exact ⟨_, List.mem_map_of_mem hrecord, by rw [heq]; rfl⟩
        · have hmem : other ∈ (results.filter fun r => decide (r.outcome ≠ .skipped)) ++
              [synthesized head IN_FLIGHT_CODE IN_FLIGHT_MESSAGE] := by simp [hother, hskipped]
          exact ⟨_, List.mem_map_of_mem hmem, by rw [if_neg hcode, hid]⟩
      · have heq : row = synthesized head IN_FLIGHT_CODE IN_FLIGHT_MESSAGE := by
          simpa using hsuspect
        exact ⟨_, List.mem_map_of_mem hrecord, by rw [heq]; rfl⟩
    · exact ⟨_, List.mem_map_of_mem hrow, by rw [if_neg hcrash]⟩

/-- With somebody in flight nobody is promoted, so a later reading offers the queue that the first
one drops. -/
theorem not_sameOffer_of_inFlight {id : String} (htracks : loaded.tracksInFlight = false)
    (hpending : loaded.checkpoint.pending = head :: rest)
    (hin : loaded.checkpoint.inFlight = some id) :
    ¬SameOffer (Reading.of loaded).offer (Reading.of (.written (promoted loaded))).offer := by
  intro hsame
  have hroster := hsame.roster
  rw [roster_of_suspect htracks hpending, promoted_of_inFlight hin, offer_of_written] at hroster
  have hdropped := List.map_injective_iff.2 byId_injective hroster
  rw [BatchCheckpoint.neverAttempted, hpending] at hdropped
  exact List.cons_ne_nil head rest (filter_eq_append_iff.1 hdropped).1

/-- The first offer and every later one agree exactly on the files described above. -/
theorem sameOffer_iff (htracks : loaded.tracksInFlight = false)
    (hpending : loaded.checkpoint.pending = head :: rest)
    (hnone : loaded.checkpoint.inFlight = none) :
    SameOffer (Reading.of loaded).offer (Reading.of (.written (promoted loaded))).offer ↔
      Vouched loaded := by
  rw [offer_of_suspect htracks hpending hnone, offer_of_promoted htracks hpending hnone]
  constructor
  · rintro ⟨hroster, hcarried, -⟩
    -- The rosters agree only if the rest of the queue is empty and the head is not drained.
    have hparts := filter_eq_append_iff.1 (List.map_injective_iff.2 byId_injective hroster)
    refine Or.inr (Or.inr ⟨hnone, head, by rw [hpending, hparts.1], hparts.2, ?_⟩)
    intro row hrow hskipped hcode
    -- A row renamed by the restoration must be carried under its own id by another one.
    have hlater := (hcarried row.traineeId).2 ⟨row, by simp [hrow, hskipped], rfl⟩
    rcases hlater with ⟨found, hfound, hid⟩
    rcases List.mem_append.1 hfound with hfound | hfound
    · rcases List.mem_map.1 hfound with ⟨source, hsource, rfl⟩
      by_cases hcrash : source.errorCode = some IN_FLIGHT_CODE
      · exact Or.inl (by simpa [hcrash, synthesized] using hid.symm)
      · rw [if_neg hcrash] at hid
        rcases List.mem_append.1 hsource with hsource | hsource
        · have hparts' := List.mem_filter.1 hsource
          exact Or.inr ⟨source, hparts'.1, by simpa using hparts'.2, hcrash, hid⟩
        · have heq : source = synthesized head IN_FLIGHT_CODE IN_FLIGHT_MESSAGE := by
            simpa using hsource
          exact absurd (heq ▸ rfl) hcrash
    · simp [hparts.1] at hfound
  · intro hvouched
    rcases hvouched with htracks' | hnil | ⟨-, a, ha, hnot, hrows⟩
    · simp [htracks] at htracks'
    · simp [hpending] at hnil
    have hparts : head = a ∧ rest = [] := by simpa [hpending] using ha
    rcases hparts with ⟨rfl, rfl⟩
    refine ⟨?_, ?_, by simp⟩
    · exact congrArg (List.map byId) (filter_eq_append_iff.2 ⟨rfl, hnot⟩)
    · intro id
      simp only [List.map_nil, List.append_nil]
      exact carried_ids_iff hrows id

end Offers

/-! ## The whole file -/

/-- Whatever the gate was called on before, an acknowledged start is offered what the file itself
or its promoted form offers. -/
theorem offered_calls {store : CheckpointStore} {loaded : StoredCheckpoint}
    (h : store.slot = .file loaded) (resumes : List Bool) :
    offered (calls store resumes) = some (Reading.of loaded).offer ∨
      offered (calls store resumes) = some (Reading.of (.written (promoted loaded))).offer := by
  induction resumes generalizing store with
  | nil => exact Or.inl (offered_of_file h)
  | cons resume resumes ih =>
      -- The first call that writes settles what every later one is offered.
      rcases guard_slot h resume {} with hkept | hwritten
      · exact ih hkept
      · exact Or.inr (offered_calls_of_written hwritten resumes)

/-- Without a suspect the promoted file is the file, key or no key. -/
theorem offer_promoted_of_vouched {loaded : StoredCheckpoint} (h : Vouched loaded) :
    SameOffer (Reading.of loaded).offer (Reading.of (.written (promoted loaded))).offer := by
  -- Only a file without the key and with a queue is changed by the promotion.
  cases htracks : loaded.tracksInFlight with
  | true =>
      have hstored : loaded = .written loaded.checkpoint := by
        rcases loaded with ⟨cp, tracks⟩
        cases htracks
        rfl
      rw [promoted_of_tracked htracks, ← hstored]
      exact .refl _
  | false =>
      cases hpending : loaded.checkpoint.pending with
      | nil =>
          rw [promoted_of_idle hpending, offer_of_idle htracks hpending]
          exact .refl _
      | cons head rest =>
          have hnone : loaded.checkpoint.inFlight = none := by
            rcases h with htracks' | hnil | ⟨hnone, -⟩
            · simp [htracks] at htracks'
            · simp [hpending] at hnil
            · exact hnone
          exact (sameOffer_iff htracks hpending hnone).2 h

/-- What a start refused in front of an operator counts as runnable. -/
def Reading.resumable (reading : Reading) : Nat :=
  (withoutSuspect reading.runnable reading.suspect).length

/-- The promise of a refusal: its text counts what the next acknowledged start is offered. -/
def KeepsPromise (store : CheckpointStore) : Prop :=
  ∀ loaded, store.slot = .file loaded → ∀ text, (guard store false {}).1 = .error text →
    text = refusal store.path (Reading.of loaded).previous (Reading.of loaded).unreconciled
        (Reading.of loaded).suspect (Reading.of loaded).runnable ∧
      ∀ offer, offered (guard store false {}).2 = some offer →
        offer.roster.length = (Reading.of loaded).resumable

/-- A legacy file's suspicion survives any number of calls of the gate. -/
structure SuspicionSurvives (store : CheckpointStore) (loaded : StoredCheckpoint) : Prop where
  /-- The offer does not depend on the calls made before. -/
  offer : ∀ resumes first later, offered store = some first →
    offered (calls store resumes) = some later → SameOffer first later
  /-- Nobody queued in a file without the key is ever offered as work. -/
  queue : loaded.tracksInFlight = false → ∀ resumes later,
    offered (calls store resumes) = some later →
      ∀ id ∈ loaded.checkpoint.pending, byId id ∉ later.roster
  promise : ∀ resumes, KeepsPromise (calls store resumes)

theorem refusal_of_guard {store : CheckpointStore} {loaded : StoredCheckpoint}
    (h : store.slot = .file loaded) {text : String}
    (hrefused : (guard store false {}).1 = .error text) :
    text = refusal store.path (Reading.of loaded).previous (Reading.of loaded).unreconciled
      (Reading.of loaded).suspect (Reading.of loaded).runnable := by
  unfold guard at hrefused
  rw [CheckpointStore.loadWithProvenance_of_file h] at hrefused
  simp only [Bool.false_eq_true, if_false] at hrefused
  -- A refusal only comes from a file that blocks.
  split at hrefused
  · injection hrefused with htext
    rw [← htext]
    split <;> simp
  · cases hrefused

/-- A vouched file keeps its promise: what the refusal counts is what the next start is offered. -/
theorem keepsPromise_of_vouched {store : CheckpointStore} {loaded : StoredCheckpoint}
    (h : store.slot = .file loaded) (hvouched : Vouched loaded) : KeepsPromise store := by
  intro loaded' h' text hrefused
  have heq : loaded' = loaded := by
    rw [h] at h'
    injection h' with h'
    exact h'.symm
  subst heq
  refine ⟨refusal_of_guard h hrefused, ?_⟩
  intro offer hoffer
  have hlength : (Reading.of loaded').roster.length = (Reading.of loaded').resumable :=
    List.length_map _
  -- The refused start kept the file, or wrote its promoted form.
  rcases guard_slot h false {} with hkept | hwritten
  · rw [offered_of_file hkept] at hoffer
    injection hoffer with hoffer
    rw [← hoffer]
    exact hlength
  · have hlater := offered_calls_of_written hwritten []
    have hsome := hlater.symm.trans hoffer
    injection hsome with hsome
    rw [← hsome, ← (offer_promoted_of_vouched hvouched).roster]
    exact hlength

/-- Whatever was called, the slot holds the file itself or its promoted form. -/
theorem calls_slot {store : CheckpointStore} {loaded : StoredCheckpoint}
    (h : store.slot = .file loaded) (resumes : List Bool) :
    (calls store resumes).slot = .file loaded ∨
      ∃ status, (calls store resumes).slot =
        .file (.written { promoted loaded with status := status }) := by
  induction resumes generalizing store with
  | nil => exact Or.inl h
  | cons resume resumes ih =>
      rcases guard_slot h resume {} with hkept | hwritten
      · exact ih hkept
      · exact Or.inr (calls_of_written hwritten resumes)

/-- No queued id is in the roster of a vouched file without the key. -/
theorem queue_not_offered {loaded : StoredCheckpoint} (htracks : loaded.tracksInFlight = false)
    (hvouched : Vouched loaded) :
    ∀ id ∈ loaded.checkpoint.pending, byId id ∉ (Reading.of loaded).offer.roster := by
  intro id hid hroster
  rcases hvouched with htracks' | hnil | ⟨-, head, hpending, -, -⟩
  · simp [htracks] at htracks'
  · simp [hnil] at hid
  · -- The one queued id is the suspect, who is filtered out of the roster.
    have hhead : id = head := by simpa [hpending] using hid
    rw [roster_of_suspect htracks hpending] at hroster
    rcases List.mem_map.1 hroster with ⟨other, hother, heq⟩
    have hother' : other = id := byId_injective heq
    have hne : other ≠ head := by simpa using (List.mem_filter.1 hother).2
    exact hne (hother'.trans hhead)

/-- The suspicion of a file outlives the gate's own writes exactly when the file is vouched for. -/
theorem suspicion_survives_iff_vouched {store : CheckpointStore} {loaded : StoredCheckpoint}
    (h : store.slot = .file loaded) : SuspicionSurvives store loaded ↔ Vouched loaded := by
  constructor
  · intro hsurvives
    cases htracks : loaded.tracksInFlight with
    | true => exact Or.inl htracks
    | false =>
        cases hpending : loaded.checkpoint.pending with
        | nil => exact Or.inr (Or.inl hpending)
        | cons head rest =>
            -- One call in between is enough to tell the two offers apart.
            have hlater : offered (calls store [true]) =
                some (Reading.of (.written (promoted loaded))).offer :=
              offered_calls_of_written (slot_after_suspect htracks hpending h true) []
            have hsame := hsurvives.offer [true] _ _ (offered_of_file h) hlater
            cases hin : loaded.checkpoint.inFlight with
            | some id => exact absurd hsame (not_sameOffer_of_inFlight htracks hpending hin)
            | none => exact (sameOffer_iff htracks hpending hin).1 hsame
  · intro hvouched
    have hsame := offer_promoted_of_vouched hvouched
    refine ⟨?_, ?_, ?_⟩
    · intro resumes first later hfirst hlater
      have hfirst' : first = (Reading.of loaded).offer :=
        Option.some.inj (hfirst.symm.trans (offered_of_file h))
      rw [hfirst']
      -- Before the first write the offer is the file's own, after it the promoted one.
      rcases offered_calls h resumes with hkept | hpromoted
      · have heq := Option.some.inj (hlater.symm.trans hkept)
        rw [heq]
        exact .refl _
      · have heq := Option.some.inj (hlater.symm.trans hpromoted)
        rw [heq]
        exact hsame
    · intro htracks resumes later hlater id hid hroster
      apply queue_not_offered htracks hvouched id hid
      rcases offered_calls h resumes with hkept | hpromoted
      · have heq := Option.some.inj (hlater.symm.trans hkept)
        rwa [heq] at hroster
      · have heq := Option.some.inj (hlater.symm.trans hpromoted)
        rwa [heq, ← hsame.roster] at hroster
    · intro resumes
      rcases calls_slot h resumes with hkept | ⟨status, hwritten⟩
      · exact keepsPromise_of_vouched hkept hvouched
      · exact keepsPromise_of_vouched hwritten (Or.inl rfl)

/-! ## A file that forgets -/

/-- An older build's file that died with two trainees queued. -/
def legacyFile : StoredCheckpoint where
  checkpoint :=
    { status := .running, startedAt := "t0", updatedAt := "t1", total := 3
      results := [{ traineeId := "1", traineeName := "", outcome := .success, attempts := 1 }]
      pending := ["2", "3"] }
  tracksInFlight := false

def legacyStore : CheckpointStore :=
  { path := "dssp.checkpoint.json", slot := .file legacyFile }

/-- The refusal says a resume runs nobody, and the resume after it is offered trainee 3. -/
theorem suspicion_of_legacyFile_is_lost : ¬ SuspicionSurvives legacyStore legacyFile := by
  intro hsurvives
  have hlater : offered (calls legacyStore [false]) =
      some ⟨[byId "3"],
        [{ traineeId := "1", traineeName := "", outcome := .success, attempts := 1 },
          synthesized "2" IN_FLIGHT_CODE IN_FLIGHT_MESSAGE], 1⟩ := by decide
  exact hsurvives.queue rfl [false] _ hlater "3" (by decide) (by decide)

/-- With only the suspect queued the file is vouched for. -/
theorem suspicion_survives_of_one_queued :
    let loaded : StoredCheckpoint :=
      { legacyFile with
        checkpoint := { legacyFile.checkpoint with pending := ["2"] } }
    SuspicionSurvives { legacyStore with slot := .file loaded } loaded := by
  refine (suspicion_survives_iff_vouched rfl).2 (Or.inr (Or.inr ⟨rfl, "2", rfl, by decide, ?_⟩))
  decide

end DsspBot

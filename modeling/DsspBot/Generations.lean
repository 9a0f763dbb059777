import DsspBot.Engine.Coverage

/-!
# Generations — no trainee is submitted twice across crashes and resumes

A generation is one process: it finds the slot as the last one left it, asks the gate with an
acknowledgement, and runs the plan until it ends or is killed. The first finds an empty slot.
-/

namespace DsspBot

structure Generation where
  batch : Batch
  /-- The slot as the run found it, after the gate. -/
  store : CheckpointStore
  final : Engine

namespace Generation

def Submitted (g : Generation) (id : String) : Prop :=
  Sent g.final id

def Offers (g : Generation) (id : String) : Prop :=
  ∃ trainee ∈ g.batch.trainees, trainee.id = some id

end Generation

/-- A chain of generations over one roster, the latest first. A process that dies inside the gate
is a generation that has not taken a step. -/
inductive Chain (roster : List TraineeRef) : List Generation → Prop
  | first {b : Batch} {store : CheckpointStore} {e : Engine} (htrainees : b.trainees = roster)
      (hcarried : b.carried = []) (hslot : store.slot = .absent) (hrun : b.Reachable store e) :
      Chain roster [⟨b, store, e⟩]
  | resume {g : Generation} {earlier : List Generation} {b : Batch} {e : Engine}
      {saves : GuardSaves} {start : Start} {owed : Nat} (hchain : Chain roster (g :: earlier))
      (hguard : (guard g.final.store true saves).1 = .ok start)
      (hplan : start.plan = .resume b.trainees b.carried owed)
      (hrun : b.Reachable (guard g.final.store true saves).2 e) :
      Chain roster (⟨b, (guard g.final.store true saves).2, e⟩ :: g :: earlier)

/-- What the slot knows after some generations: it offers distinct ids, none of them submitted. -/
def Remembered (gens : List Generation) : Slot → Prop
  | .absent => ∀ g ∈ gens, ∀ id, ¬g.Submitted id
  | .unreadable _ => False
  -- Every file on the way is one this build wrote, so its queue can be trusted.
  | .file stored => stored.tracksInFlight = true ∧ stored.checkpoint.neverAttempted.Nodup ∧
      ∀ g ∈ gens, ∀ id, g.Submitted id → id ∉ stored.checkpoint.neverAttempted

theorem offers_byId {g : Generation} {ids : List String} (h : g.batch.trainees = ids.map byId)
    {id : String} : g.Offers id ↔ id ∈ ids := by
  unfold Generation.Offers
  rw [h]
  simp [byId]

/-- A generation over distinct ids leaves the slot remembering whom it and the others sent. -/
theorem remembered_after_run {gens : List Generation} {g : Generation} {ids : List String}
    (hrun : g.batch.Reachable g.store g.final) (hids : DistinctIds g.batch.trainees ids)
    (hcarried : ∀ row ∈ g.batch.carried, row.outcome ≠ .skipped)
    (hbefore : Remembered gens g.store.slot)
    (hroster : ∀ g' ∈ gens, ∀ id, g'.Submitted id → id ∉ ids) :
    Remembered (g :: gens) g.final.store.slot ∧ ∀ id, g.Submitted id → id ∈ ids := by
  rcases hrun.untouched_or_splits hids hcarried with ⟨hslot, hnone⟩ | ⟨cp, given, hslot, hsplits⟩
  · refine ⟨?_, fun id hsent => absurd hsent (hnone id)⟩
    -- A run that wrote nothing sent nothing, so only the others' submissions are left.
    have hall : ∀ g' ∈ g :: gens, ∀ id, g'.Submitted id → ∃ g'' ∈ gens, g''.Submitted id := by
      intro g' hg' id hsent
      rcases List.mem_cons.1 hg' with rfl | hg'
      · exact absurd hsent (hnone id)
      · exact ⟨g', hg', hsent⟩
    rw [hslot]
    cases hcase : g.store.slot with
    | absent =>
        rw [hcase] at hbefore
        intro g' hg' id hsent
        rcases hall g' hg' id hsent with ⟨g'', hg'', hsent'⟩
        exact hbefore g'' hg'' id hsent'
    | unreadable reason =>
        rw [hcase] at hbefore
        exact hbefore
    | file stored =>
        rw [hcase] at hbefore
        refine ⟨hbefore.1, hbefore.2.1, ?_⟩
        intro g' hg' id hsent
        rcases hall g' hg' id hsent with ⟨g'', hg'', hsent'⟩
        exact hbefore.2.2 g'' hg'' id hsent'
  · -- The roster splits into what the file gives up on and what it offers, without repeats.
    have hnodup := hsplits.order ▸ hids.nodup
    have hparts := List.nodup_append.1 hnodup
    rw [hslot]
    refine ⟨⟨rfl, hparts.2.1, ?_⟩, ?_⟩
    · intro g' hg' id hsent hoffered
      rcases List.mem_cons.1 hg' with rfl | hg'
      · exact hparts.2.2 id (hsplits.sent id hsent) id hoffered rfl
      · apply hroster g' hg' id hsent
        rw [hsplits.order]
        exact List.mem_append_right _ hoffered
    · intro id hsent
      rw [hsplits.order]
      exact List.mem_append_left _ (hsplits.sent id hsent)

/-- A later generation neither submits nor is offered what an earlier one submitted. -/
def Spares (later earlier : Generation) : Prop :=
  ∀ id, earlier.Submitted id → ¬later.Submitted id ∧ ¬later.Offers id

theorem remembered_of_chain {roster : List TraineeRef} {ids : List String}
    (hids : DistinctIds roster ids) {gens : List Generation} (h : Chain roster gens) :
    (∀ g ∈ gens.head?, Remembered gens g.final.store.slot) ∧ gens.Pairwise Spares := by
  induction h with
  | @first b store e htrainees hcarried hslot hrun =>
      have hbefore : Remembered [] store.slot := by
        rw [hslot]
        simp [Remembered]
      have hafter := remembered_after_run (g := ⟨b, store, e⟩) hrun (htrainees ▸ hids)
        (by simp [hcarried]) hbefore (by simp)
      exact ⟨by simpa using hafter.1, List.pairwise_singleton _ _⟩
  | @resume g earlier b e saves start owed _ hguard hplan hrun ih =>
      rcases ih with ⟨hremembered, hpairwise⟩
      have hslot : Remembered (g :: earlier) g.final.store.slot := hremembered g (by simp)
      -- The plan is a resume, so there is a file, and this build wrote it.
      cases hcase : g.final.store.slot with
      | absent =>
          rw [guard_of_absent hcase] at hguard
          cases hguard
          cases hplan
      | unreadable reason =>
          rw [hcase] at hslot
          exact absurd hslot id
      | file stored =>
          rw [hcase] at hslot
          rcases hslot with ⟨htracks, hnodup, hsubmitted⟩
          rcases guard_resumes hcase saves with ⟨start', hstart', hplan'⟩
          have hsame : start' = start := Except.ok.inj (hstart'.symm.trans hguard)
          rw [← hsame, hplan'] at hplan
          have hstored : stored = .written stored.checkpoint := by
            rcases stored with ⟨cp, tracks⟩
            cases htracks
            rfl
          rw [hstored] at hplan hcase
          rw [roster_of_written, carriedForward_of_written] at hplan
          injection hplan with hroster hcarried howed
          have hdistinct : DistinctIds b.trainees stored.checkpoint.neverAttempted := by
            rw [← hroster]
            exact distinctIds_byId hnodup
          -- The gate rewrites the file at most in its status.
          have hbefore : Remembered (g :: earlier) (guard g.final.store true saves).2.slot := by
            rcases guard_slot hcase true saves with hkept | ⟨status, hwritten⟩
            · rw [hkept]
              exact ⟨rfl, hnodup, hsubmitted⟩
            · rw [hwritten, promoted_of_written]
              exact ⟨rfl, hnodup, hsubmitted⟩
          have hafter := remembered_after_run
            (g := ⟨b, (guard g.final.store true saves).2, e⟩) hrun hdistinct
            (by rw [← hcarried]; exact carried_not_skipped _) hbefore hsubmitted
          refine ⟨by simpa using hafter.1, List.pairwise_cons.2 ⟨?_, hpairwise⟩⟩
          intro g' hg' id hsent
          -- The resumed roster is what the file offered, and no earlier submission is in it.
          have hnot := hsubmitted g' hg' id hsent
          refine ⟨fun hagain => hnot (hafter.2 id hagain), ?_⟩
          rw [offers_byId hroster.symm]
          exact hnot

/-- No id is submitted in two generations, and whoever was submitted in one is absent from the
roster of every later one. -/
theorem no_double_submission {roster : List TraineeRef} {ids : List String}
    (hids : DistinctIds roster ids) {gens : List Generation} (h : Chain roster gens) :
    gens.Pairwise fun later earlier =>
      ∀ id, earlier.Submitted id → ¬later.Submitted id ∧ ¬later.Offers id :=
  (remembered_of_chain hids h).2

/-- The second trainee of the pair was drained, so a resume offers it and carries the first. -/
def pairResumed : Batch :=
  { pairBatch with
    startedAt := "6"
    trainees := [byId "8"]
    carried :=
      [{ traineeId := "7", traineeName := "Grace", outcome := .success, attempts := 1 }] }

def pairGuarded : CheckpointStore :=
  (guard pairEnd.store true {}).2

/-- Killed while the second trainee is being submitted. -/
def pairResumedInputs : List Input :=
  [.newId "ensure", .reply (.ok { status := .ok }), .tick, .tick, .write "7" (.ok ()),
    .newId "job", .tick, .tick]

def pairResumedEnd : Engine :=
  (Machine.run pairResumed.step (pairResumed.start none pairGuarded) pairResumedInputs).getD
    (pairResumed.start none pairGuarded)

theorem pairChain :
    Chain pairBatch.trainees
      [⟨pairResumed, pairGuarded, pairResumedEnd⟩, ⟨pairBatch, pairStore, pairEnd⟩] := by
  have hfirst : Chain pairBatch.trainees [⟨pairBatch, pairStore, pairEnd⟩] :=
    .first rfl rfl rfl pairEnd_reachable
  have hguard : ∃ start, (guard pairEnd.store true {}).1 = .ok start ∧
      start.plan = .resume pairResumed.trainees pairResumed.carried 0 := ⟨_, rfl, rfl⟩
  rcases hguard with ⟨start, hstart, hplan⟩
  exact .resume hfirst hstart hplan ⟨none, Or.inl rfl, pairResumedInputs, rfl⟩

theorem no_double_submission_of_the_pair :
    Sent pairEnd "7" ∧ Sent pairResumedEnd "8" ∧
      [⟨pairResumed, pairGuarded, pairResumedEnd⟩, ⟨pairBatch, pairStore, pairEnd⟩].Pairwise
        fun later earlier : Generation =>
          ∀ id, earlier.Submitted id → ¬later.Submitted id ∧ ¬later.Offers id :=
  ⟨⟨⟨"7", { id := some "7" }⟩, _, List.mem_of_getElem? (i := 6) rfl, rfl⟩,
    ⟨⟨"8", byId "8"⟩, _, List.mem_of_getElem? (i := 6) rfl, rfl⟩,
    no_double_submission pair_distinctIds pairChain⟩

end DsspBot

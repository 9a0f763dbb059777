import DsspBot.Engine.InFlight
import DsspBot.Engine.Simulation

/-!
# Partition — every checkpoint places every trainee exactly once

The recovery gate counts the groups of a file. That count means something only if no write of a
run breaks the sum or lists a trainee twice.
-/

namespace DsspBot

open WriteAhead (Event answers mem_answers_iff)

/-! ## What a reply may name -/

/-- What the worker client lets through: a reply names nobody, or the trainee it was asked about. -/
def Echoes (e : Engine) : Prop :=
  ∀ task resp who, EngineEvent.replied task (.ok resp) ∈ e.log → resp.trainee = some who →
    task.payload.id = some who.id

theorem map_eq_of_forall₂ {α β γ : Type} {R : α → β → Prop} {f : α → γ} {g : β → γ}
    {xs : List α} {ys : List β} (h : List.Forall₂ R xs ys)
    (hfg : ∀ x ∈ xs, ∀ y, R x y → f x = g y) : xs.map f = ys.map g := by
  induction h with
  | nil => rfl
  | cons hxy _ ih =>
      rw [List.map_cons, List.map_cons, hfg _ List.mem_cons_self _ hxy,
        ih fun x hx => hfg x (List.mem_cons_of_mem _ hx)]

/-- The row of a trainee whose replies echo carries that trainee's id. -/
theorem RowSpec.traineeId {task : Task} {replies : List Reply} {row : TrainingResult}
    (h : RowSpec task replies row) (hid : task.payload.id = some task.id)
    (hecho : ∀ resp who, Except.ok resp ∈ replies → resp.trainee = some who →
      task.payload.id = some who.id) : row.traineeId = task.id := by
  have hfallback : fallbackId task = task.id := by simp [fallbackId, hid]
  -- The row names the trainee of the last reply, or falls back to the task's own.
  cases hlast : replies.getLast? with
  | none =>
      have hnil : replies = [] := List.getLast?_eq_none_iff.1 hlast
      exact (h.unasked hnil).2.2.1.trans hfallback
  | some reply =>
      have hrow := h.answered reply hlast
      cases reply with
      | error text => exact hrow.2.2.1.trans hfallback
      | ok resp =>
          rw [hrow.2.2.1]
          cases hwho : resp.trainee with
          | none => simp [replyId, hwho, hfallback]
          | some who =>
              have hmem : Except.ok resp ∈ replies := List.mem_of_getLast? hlast
              have heq : some task.id = some who.id := hid ▸ hecho resp who hmem hwho
              simp [replyId, hwho, Option.some.inj heq]

section Run

variable {b : Batch} {ids : List String} {store : CheckpointStore} {e : Engine}

theorem tasks_ids (hids : DistinctIds b.trainees ids) : b.tasks.map (·.id) = ids :=
  (queuedTasks_of_distinct hids).1

theorem task_payload (hids : DistinctIds b.trainees ids) {task : Task} (h : task ∈ b.tasks) :
    task.payload.id = some task.id :=
  (queuedTasks_of_distinct hids).2 task h

theorem total_eq (hids : DistinctIds b.trainees ids) :
    b.total = b.carried.length + ids.length := by
  -- Distinct ids are all queued.
  have hlength : (dedupe b.trainees).length = ids.length := by
    simpa [Batch.tasks, queuedTasks] using congrArg List.length (tasks_ids hids)
  unfold Batch.total
  omega

/-- The reply a closed entry records was logged under its task. -/
theorem Sim.replied_of_closed {slot₀ : Slot} {l : WorkLedger} (h : Sim b slot₀ e l)
    {entry : Task × List Reply} (hentry : entry ∈ l.closed) {reply : Reply}
    (hreply : reply ∈ entry.2) : EngineEvent.replied entry.1 reply ∈ e.log := by
  have hist := h.sound.tracked.closed entry hentry
  have hanswered : Event.answered entry.1 reply ∈ e.trace := by
    rw [h.trace, ← mem_answers_iff, hist.answers_eq]
    exact hreply
  rcases List.mem_filterMap.1 hanswered with ⟨ev, hev, hexternal⟩
  cases ev <;> simp [EngineEvent.external] at hexternal
  rcases hexternal with ⟨rfl, rfl⟩
  exact hev

/-- A checkpoint of the run lists the rows first, then the open trainee, then the queue, and
together they are the roster in its order. -/
theorem Describes.order {cp : BatchCheckpoint} {p : WorkPicture} {slot₀ : Slot} {l : WorkLedger}
    (hids : DistinctIds b.trainees ids) (h : Sim b slot₀ e l) (hecho : Echoes e)
    (hdescribes : Describes b cp p) (htasks : p.tasks = b.tasks) (hclosed : p.closed <+: l.closed) :
    ∃ rows, cp.results = b.carried ++ rows ∧
      rows.map (·.traineeId) ++ cp.inFlight.toList ++ cp.pending = ids := by
  rcases hdescribes.recorded with ⟨rows, hresults, hrows⟩
  refine ⟨rows, hresults, ?_⟩
  -- A row carries the id of the closed task it records.
  have hrowIds : p.closed.map (fun entry => entry.1.id) = rows.map (·.traineeId) := by
    apply map_eq_of_forall₂ hrows
    intro entry hentry row hrow
    have hmem : entry.1 ∈ b.tasks := by
      rw [← htasks]
      exact List.mem_append_left _ (List.mem_append_left _ (List.mem_map_of_mem hentry))
    refine (hrow.traineeId (task_payload hids hmem) ?_).symm
    intro resp who hreply hwho
    exact hecho entry.1 resp who (h.replied_of_closed (hclosed.subset hentry) hreply) hwho
  calc
    rows.map (·.traineeId) ++ cp.inFlight.toList ++ cp.pending
      = p.tasks.map (·.id) := by
          rw [← hrowIds, hdescribes.inFlight, hdescribes.pending]
          cases hopened : p.opened <;> simp [WriteAhead.Picture.tasks, hopened, Function.comp_def]
    _ = ids := by rw [htasks, tasks_ids hids]

/-! ## The partition -/

/-- In exactly one of the three groups of a checkpoint. -/
def PlacedOnce (cp : BatchCheckpoint) (id : String) : Prop :=
  ((∃ row ∈ cp.results, row.traineeId = id) ∧ cp.inFlight ≠ some id ∧ id ∉ cp.pending) ∨
    ((∀ row ∈ cp.results, row.traineeId ≠ id) ∧ cp.inFlight = some id ∧ id ∉ cp.pending) ∨
    ((∀ row ∈ cp.results, row.traineeId ≠ id) ∧ cp.inFlight ≠ some id ∧ id ∈ cp.pending)

/-- What a checkpoint of a run over `ids` with these carried records says of everybody. -/
structure Partitions (b : Batch) (ids : List String) (cp : BatchCheckpoint) : Prop where
  total : cp.total = b.total
  sum : cp.results.length + cp.pending.length + (if cp.inFlight.isSome then 1 else 0) = cp.total
  placed : ∀ id, (∃ row ∈ b.carried, row.traineeId = id) ∨ id ∈ ids → PlacedOnce cp id

theorem Describes.partitions {cp : BatchCheckpoint} {p : WorkPicture} {rows : List TrainingResult}
    (hids : DistinctIds b.trainees ids) (hapart : ∀ row ∈ b.carried, row.traineeId ∉ ids)
    (hdescribes : Describes b cp p) (hresults : cp.results = b.carried ++ rows)
    (horder : rows.map (·.traineeId) ++ cp.inFlight.toList ++ cp.pending = ids) :
    Partitions b ids cp := by
  have hnodup : (rows.map (·.traineeId) ++ cp.inFlight.toList ++ cp.pending).Nodup :=
    horder ▸ hids.nodup
  refine ⟨hdescribes.total, ?_, ?_⟩
  · -- The sum: the groups together are as long as the roster.
    have hlength := congrArg List.length horder
    have hinFlight : cp.inFlight.toList.length = if cp.inFlight.isSome then 1 else 0 := by
      cases cp.inFlight <;> rfl
    simp only [List.length_append, List.length_map, hinFlight] at hlength
    rw [hdescribes.total, total_eq hids, hresults, List.length_append]
    omega
  · intro id hid
    -- Where an id stands is decided by which part of the roster it is in.
    have hmem : id ∈ ids ↔ id ∈ rows.map (·.traineeId) ∨ cp.inFlight = some id ∨
        id ∈ cp.pending := by
      rw [← horder]
      simp
    have hrow : (∃ row ∈ cp.results, row.traineeId = id) ↔
        (∃ row ∈ b.carried, row.traineeId = id) ∨ id ∈ rows.map (·.traineeId) := by
      simp [hresults, or_and_right, exists_or]
    -- The parts are disjoint, because the roster repeats nobody.
    have hparts := List.nodup_append.1 hnodup
    have hparts' := List.nodup_append.1 hparts.1
    by_cases hcarried : ∃ row ∈ b.carried, row.traineeId = id
    · have hnot : id ∉ ids := by
        rcases hcarried with ⟨row, hrowmem, rfl⟩
        exact hapart row hrowmem
      have hnone := not_or.1 (hmem.not.1 hnot)
      have hnone' := not_or.1 hnone.2
      exact Or.inl ⟨hrow.2 (Or.inl hcarried), hnone'.1, hnone'.2⟩
    · have hroster : id ∈ ids := hid.resolve_left hcarried
      rcases hmem.1 hroster with hworked | hinFlight | hpending
      · refine Or.inl ⟨hrow.2 (Or.inr hworked), ?_, ?_⟩
        · intro hinFlight
          exact hparts'.2.2 id hworked id (by simp [hinFlight]) rfl
        · intro hpending
          exact hparts.2.2 id (List.mem_append_left _ hworked) id hpending rfl
      · have hnotrow : ∀ row ∈ cp.results, row.traineeId ≠ id := by
          intro row hrowmem heq
          rcases hrow.1 ⟨row, hrowmem, heq⟩ with hleft | hworked
          · exact hcarried hleft
          · exact hparts'.2.2 id hworked id (by simp [hinFlight]) rfl
        refine Or.inr (Or.inl ⟨hnotrow, hinFlight, ?_⟩)
        intro hpending
        exact hparts.2.2 id (List.mem_append_right _ (by simp [hinFlight])) id hpending rfl
      · have hnotrow : ∀ row ∈ cp.results, row.traineeId ≠ id := by
          intro row hrowmem heq
          rcases hrow.1 ⟨row, hrowmem, heq⟩ with hleft | hworked
          · exact hcarried hleft
          · exact hparts.2.2 id (List.mem_append_left _ hworked) id hpending rfl
        refine Or.inr (Or.inr ⟨hnotrow, ?_, hpending⟩)
        intro hinFlight
        exact hparts.2.2 id (List.mem_append_right _ (by simp [hinFlight])) id hpending rfl

/-- Whoever was sent is a task of the batch, and was asked for by its own id. -/
theorem Sim.sent_task {slot₀ : Slot} {l : WorkLedger} (h : Sim b slot₀ e l)
    (horder : InFlightOrder b e) {task : Task} {req : Request}
    (hsent : EngineEvent.submitted task req ∈ e.log) :
    task ∈ b.tasks ∧ req.asksFor = task.payload.id := by
  constructor
  · refine h.sound.tracked.known task (Or.inl ?_)
    rw [← h.trace]
    exact List.mem_filterMap.2 ⟨_, hsent, rfl⟩
  · rcases List.append_of_mem hsent with ⟨front, back, hlog⟩
    rcases (horder.sends front task req back hlog).2 with ⟨jobId, rfl⟩
    rfl

/-- The checkpoints of a run: every one places everybody once, and a trainee is in flight in one
write only, after which alone it is sent. -/
theorem every_checkpoint_accounts_for_every_trainee (hids : DistinctIds b.trainees ids)
    (hapart : ∀ row ∈ b.carried, row.traineeId ∉ ids) (hreach : b.Reachable store e)
    (hecho : Echoes e) :
    (∀ cp landed, .wrote cp landed ∈ e.log → Partitions b ids cp) ∧
      (∀ before cp landed after id, e.log = before ++ .wrote cp landed :: after →
        cp.inFlight = some id →
          id ∈ ids ∧
          (∀ task req, .submitted task req ∈ before → req.asksFor ≠ some id) ∧
          ∀ cp' landed', .wrote cp' landed' ∈ before ++ after → cp'.inFlight ≠ some id) ∧
      ∀ before task req after, e.log = before ++ .submitted task req :: after →
        ∃ cp, .wrote cp true ∈ before ∧ cp.inFlight = req.asksFor ∧ req.asksFor.isSome := by
  rcases hreach.sim with ⟨l, hsim⟩
  have horder := hreach.inFlightOrder
  have hnodup : (b.tasks.map (·.id)).Nodup := by
    rw [tasks_ids hids]
    exact hids.nodup
  -- Each snapshot in the log describes some picture on the way to the present ledger.
  have hordered : ∀ cp landed, .wrote cp landed ∈ e.log → ∃ p rows, Describes b cp p ∧
      cp.results = b.carried ++ rows ∧
      rows.map (·.traineeId) ++ cp.inFlight.toList ++ cp.pending = ids := by
    intro cp landed hcp
    have hmem : (cp, landed) ∈ e.writes := List.mem_filterMap.2 ⟨_, hcp, rfl⟩
    rcases hsim.writes _ hmem with ⟨p, hdescribes, htasks, hclosed⟩
    rcases hdescribes.order hids hsim hecho htasks hclosed with ⟨rows, hresults, hrows⟩
    exact ⟨p, rows, hdescribes, hresults, hrows⟩
  -- What is asked for is the id of the task it is asked under.
  have hasks : ∀ task req, .submitted task req ∈ e.log → req.asksFor = some task.id := by
    intro task req hsent
    have htask := hsim.sent_task horder hsent
    rw [htask.2, task_payload hids htask.1]
  refine ⟨?_, ?_, ?_⟩
  · intro cp landed hcp
    rcases hordered cp landed hcp with ⟨p, rows, hdescribes, hresults, hrows⟩
    exact hdescribes.partitions hids hapart hresults hrows
  · intro before cp landed after id hsplit hid
    have hcp : .wrote cp landed ∈ e.log := by simp [hsplit]
    rcases hordered cp landed hcp with ⟨p, rows, -, -, hrows⟩
    refine ⟨?_, ?_, ?_⟩
    · rw [← hrows]
      simp [hid]
    · intro task req hsent hask
      have hmem : .submitted task req ∈ e.log := by simp [hsplit, hsent]
      have heq : some task.id = some id := (hasks task req hmem).symm.trans hask
      exact horder.not_sent_before hnodup hsplit hid hsent (Option.some.inj heq)
    · intro cp' landed' hmem
      exact horder.named_once hnodup hsplit hid hmem
  · intro before task req after hsplit
    have hmem : .submitted task req ∈ e.log := by simp [hsplit]
    rcases (horder.sends before task req after hsplit).1 with ⟨cp, hcp, hid⟩
    exact ⟨cp, hcp, by rw [hid, hasks task req hmem], by simp [hasks task req hmem]⟩

end Run

/-! ### Two trainees, a confirmed one and one that could not be recorded -/

def pairBatch : Batch :=
  { session := { trainingDate := "2026-01-05", instructor := "Ada", trainingType := "1" }
    startedAt := "0"
    trainees := [{ id := some "7" }, { id := some "8" }] }

def pairStore : CheckpointStore :=
  { path := "job.checkpoint.json", slot := .absent }

def pairConfirmed : Response :=
  { status := .ok, outcome := some "confirmed", trainee := some { id := "7", name := "Grace" } }

/-- The first trainee is confirmed, the settlement write fails, and so does the write that would
name the second. -/
def pairInputs : List Input :=
  [.newId "ensure", .reply (.ok { status := .ok }), .tick, .tick, .write "1" (.ok ()),
    .newId "job", .tick, .tick, .reply (.ok pairConfirmed), .write "2" (.error "disk full"),
    .tick, .tick, .tick, .write "3" (.error "disk full"), .tick, .write "4" (.ok ()), .clock "5"]

def pairEnd : Engine :=
  (Machine.run pairBatch.step (pairBatch.start none pairStore) pairInputs).getD
    (pairBatch.start none pairStore)

theorem pairEnd_reachable : pairBatch.Reachable pairStore pairEnd :=
  ⟨none, Or.inl rfl, pairInputs, rfl⟩

theorem pair_distinctIds : DistinctIds pairBatch.trainees ["7", "8"] :=
  ⟨rfl, by decide⟩

theorem pairEnd_echoes : Echoes pairEnd := by
  intro task resp who hmem hwho
  have htrace : pairEnd.trace =
      [.handed ⟨"7", { id := some "7" }⟩,
        .answered ⟨"7", { id := some "7" }⟩ (.ok pairConfirmed)] := rfl
  have hanswered : Event.answered task (.ok resp) ∈ pairEnd.trace :=
    List.mem_filterMap.2 ⟨_, hmem, rfl⟩
  rw [htrace] at hanswered
  have hparts : task = ⟨"7", { id := some "7" }⟩ ∧ resp = pairConfirmed := by
    simpa using hanswered
  rcases hparts with ⟨rfl, rfl⟩
  cases hwho
  rfl

theorem every_checkpoint_accounts_for_the_pair :
    pairEnd.writes.length = 4 ∧
      ∀ cp landed, .wrote cp landed ∈ pairEnd.log → Partitions pairBatch ["7", "8"] cp :=
  ⟨rfl, (every_checkpoint_accounts_for_every_trainee pair_distinctIds (by simp [pairBatch])
    pairEnd_reachable pairEnd_echoes).1⟩

end DsspBot

import DsspBot.Engine.Partition
import DsspBot.Recovery

/-!
# Coverage — what the file a run leaves behind is worth

A run can be killed anywhere, and most of its writes are best effort. Whatever file is left, it
offers as work only trainees that were not sent, gives up on at most one too many, and refuses a
plain start over anything that was sent and is not fully settled.
-/

namespace DsspBot

open WriteAhead (Event)

section Run

variable {b : Batch} {ids : List String} {store : CheckpointStore} {e : Engine} {l : WorkLedger}

/-- The skipped rows of a run name the tasks that were closed without a reply, in order. -/
theorem skipped_rows {closed : List (Task × List Reply)} {rows : List TrainingResult}
    (hrows : List.Forall₂ (fun entry row => RowSpec entry.1 entry.2 row) closed rows)
    (hpayload : ∀ entry ∈ closed, entry.1.payload.id = some entry.1.id) :
    (rows.filter fun r => decide (r.outcome = .skipped)).map (·.traineeId) =
      (closed.filter fun entry => entry.2.isEmpty).map (·.1.id) := by
  -- Entry by entry: the row is a skip exactly when the entry has no replies.
  induction hrows with
  | nil => rfl
  | @cons entry row closed rows hrow _ ih =>
      have hrest := ih fun entry' hentry' => hpayload entry' (List.mem_cons_of_mem _ hentry')
      cases hreplies : entry.2 with
      | nil =>
          have hskipped := hrow.unasked hreplies
          have hfallback : fallbackId entry.1 = entry.1.id := by
            simp [fallbackId, hpayload entry List.mem_cons_self]
          rw [List.filter_cons_of_pos (by simp [hskipped.1]),
            List.filter_cons_of_pos (by simp [hreplies]), List.map_cons, List.map_cons, hrest,
            hskipped.2.2.1, hfallback]
      | cons reply replies =>
          have hworked : row.outcome ≠ .skipped := by
            rw [Ne, hrow.skipped_iff, hreplies]
            simp
          rw [List.filter_cons_of_neg (by simp [hworked]),
            List.filter_cons_of_neg (by simp [hreplies]), hrest]

/-- What a checkpoint of a run offers as never attempted is what its picture offers as unsent. -/
theorem Describes.neverAttempted {cp : BatchCheckpoint} {p : WorkPicture}
    (h : Describes b cp p) (hids : DistinctIds b.trainees ids) (htasks : p.tasks = b.tasks)
    (hcarried : ∀ row ∈ b.carried, row.outcome ≠ .skipped) :
    cp.neverAttempted = p.unsent.map (·.id) := by
  rcases h.recorded with ⟨rows, hresults, hrows⟩
  have hpayload : ∀ entry ∈ p.closed, entry.1.payload.id = some entry.1.id := by
    intro entry hentry
    apply task_payload hids
    rw [← htasks]
    exact List.mem_append_left _ (List.mem_append_left _ (List.mem_map_of_mem hentry))
  -- Carried rows are never skips, so the drained part is this run's own.
  have hnone : (b.carried.filter fun r => decide (r.outcome = .skipped)) = [] :=
    List.filter_eq_nil_iff.2 fun row hrow => by simpa using hcarried row hrow
  have hdrained : cp.drainedSkips = p.skipped.map (·.id) := by
    calc
      cp.drainedSkips
        = (rows.filter fun r => decide (r.outcome = .skipped)).map (·.traineeId) := by
            simp only [BatchCheckpoint.drainedSkips, hresults, List.filter_append, hnone,
              List.nil_append]
      _ = (p.closed.filter fun entry => entry.2.isEmpty).map (·.1.id) :=
            skipped_rows hrows hpayload
      _ = p.skipped.map (·.id) := by
            simp [WriteAhead.Picture.skipped, Function.comp_def]
  simp [BatchCheckpoint.neverAttempted, hdrained, h.pending, WriteAhead.Picture.unsent]

/-- After a write that landed, the slot holds a file that describes the last saved picture. -/
theorem Sim.file {slot₀ : Slot} (h : Sim b slot₀ e l)
    (hwritten : ∃ cp, EngineEvent.wrote cp true ∈ e.log) :
    ∃ p cp, l.saved = some p ∧ e.store.slot = .file (.written cp) ∧ Describes b cp p := by
  have hdurable := h.durable
  cases hsaved : l.saved with
  | none =>
      rw [hsaved] at hdurable
      rcases hwritten with ⟨cp, hcp⟩
      -- A write that landed would have left a picture.
      have hfalse := hdurable.2 (cp, true) (List.mem_filterMap.2 ⟨_, hcp, rfl⟩)
      cases hfalse
  | some p =>
      rw [hsaved] at hdurable
      rcases hdurable with ⟨cp, hslot, hdescribes⟩
      exact ⟨p, cp, rfl, hslot, hdescribes⟩

/-- This id was the subject of a submission. -/
def Sent (e : Engine) (id : String) : Prop :=
  ∃ task req, EngineEvent.submitted task req ∈ e.log ∧ req.asksFor = some id

/-- An id was sent exactly when its task was handed over. -/
theorem Sim.sent_iff {slot₀ : Slot} (h : Sim b slot₀ e l) (horder : InFlightOrder b e)
    (hids : DistinctIds b.trainees ids) {id : String} :
    Sent e id ↔ ∃ task ∈ b.tasks, task.id = id ∧ Event.handed task ∈ l.trace := by
  constructor
  · -- A send asks for its task's own id, and tasks and ids correspond.
    rintro ⟨task, req, hsent, hask⟩
    have htask := h.sent_task horder hsent
    have heq : some task.id = some id := by
      rw [← task_payload hids htask.1, ← htask.2, hask]
    refine ⟨task, htask.1, Option.some.inj heq, ?_⟩
    rw [← h.trace]
    exact List.mem_filterMap.2 ⟨_, hsent, rfl⟩
  · rintro ⟨task, htask, rfl, hhanded⟩
    rw [← h.trace] at hhanded
    rcases List.mem_filterMap.1 hhanded with ⟨ev, hev, hexternal⟩
    cases ev with
    | submitted task' req =>
        have heq : task' = task := by simpa [EngineEvent.external] using hexternal
        subst heq
        exact ⟨_, req, hev, by rw [(h.sent_task horder hev).2, task_payload hids htask]⟩
    | _ => simp [EngineEvent.external] at hexternal

/-! ## Nobody is lost -/

/-- How a file splits a roster: what it offers is a suffix, whoever was sent lies before it, and at
most one more trainee does, the one the file names as in flight. -/
structure Splits (ids : List String) (e : Engine) (cp : BatchCheckpoint) (given : List String) :
    Prop where
  order : ids = given ++ cp.neverAttempted
  sent : ∀ id, Sent e id → id ∈ given
  cautious : ∀ id ∈ given, Sent e id ∨ cp.inFlight = some id

theorem Sim.splits {slot₀ : Slot} (h : Sim b slot₀ e l) (horder : InFlightOrder b e)
    (hids : DistinctIds b.trainees ids) (hcarried : ∀ row ∈ b.carried, row.outcome ≠ .skipped)
    {p : WorkPicture} {cp : BatchCheckpoint} (hsaved : l.saved = some p)
    (hdescribes : Describes b cp p) : Splits ids e cp (p.touched.map (·.id)) := by
  have hsound := h.sound
  have htasks := hsound.kept.tasks_eq p hsaved
  refine ⟨?_, ?_, ?_⟩
  · calc
      ids = b.tasks.map (·.id) := (tasks_ids hids).symm
      _ = (p.touched ++ p.unsent).map (·.id) := by rw [← hsound.saved_split hsaved]
      _ = p.touched.map (·.id) ++ cp.neverAttempted := by
            rw [List.map_append, hdescribes.neverAttempted hids htasks hcarried]
  · intro id hsent
    rcases (h.sent_iff horder hids).1 hsent with ⟨task, -, rfl, hhanded⟩
    exact List.mem_map_of_mem (hsound.touched_of_handed hsaved hhanded)
  · intro id hid
    rcases List.mem_map.1 hid with ⟨task, htouched, rfl⟩
    -- What the file gives up on was handed over, or is the trainee it names in flight.
    rcases hsound.handed_or_open_of_touched hsaved htouched with hhanded | hopened
    · exact Or.inl ((h.sent_iff horder hids).2
        ⟨task, hsound.tracked.known task (Or.inl hhanded), rfl, hhanded⟩)
    · exact Or.inr (by rw [hdescribes.inFlight, hopened]; rfl)

/-- A run that never got a write through sent nothing and left the slot alone. -/
theorem Batch.Reachable.untouched_or_splits (hreach : b.Reachable store e)
    (hids : DistinctIds b.trainees ids) (hcarried : ∀ row ∈ b.carried, row.outcome ≠ .skipped) :
    (e.store.slot = store.slot ∧ ∀ id, ¬Sent e id) ∨
      ∃ cp given, e.store.slot = .file (.written cp) ∧ Splits ids e cp given := by
  rcases hreach.sim with ⟨l, hsim⟩
  have horder := hreach.inFlightOrder
  have hdurable := hsim.durable
  cases hsaved : l.saved with
  | none =>
      rw [hsaved] at hdurable
      refine Or.inl ⟨hdurable.1, ?_⟩
      intro id hsent
      -- A send needs a save that names its trainee, and nothing was saved.
      rcases (hsim.sent_iff horder hids).1 hsent with ⟨task, -, -, hhanded⟩
      rcases hsim.sound.saved_of_handed hhanded with ⟨p, hp⟩
      simp [hsaved] at hp
  | some p =>
      rw [hsaved] at hdurable
      rcases hdurable with ⟨cp, hslot, hdescribes⟩
      exact Or.inr ⟨cp, _, hslot, hsim.splits horder hids hcarried hsaved hdescribes⟩

/-- After a write that landed, the file a run leaves splits its roster. -/
theorem never_attempted_is_the_unsent_suffix (hids : DistinctIds b.trainees ids)
    (hcarried : ∀ row ∈ b.carried, row.outcome ≠ .skipped) (hreach : b.Reachable store e)
    (hwritten : ∃ cp, EngineEvent.wrote cp true ∈ e.log) :
    ∃ cp given, e.store.slot = .file (.written cp) ∧ ids = given ++ cp.neverAttempted ∧
      (∀ id, Sent e id → id ∈ given) ∧
      ∀ id ∈ given, Sent e id ∨ cp.inFlight = some id := by
  rcases hreach.sim with ⟨l, hsim⟩
  rcases hsim.file hwritten with ⟨p, cp, hsaved, hslot, hdescribes⟩
  have hsplits := hsim.splits hreach.inFlightOrder hids hcarried hsaved hdescribes
  exact ⟨cp, _, hslot, hsplits.order, hsplits.sent, hsplits.cautious⟩

theorem never_attempted_of_the_pair :
    ∃ cp given, pairEnd.store.slot = .file (.written cp) ∧
      ["7", "8"] = given ++ cp.neverAttempted ∧ (∀ id, Sent pairEnd id → id ∈ given) ∧
      ∀ id ∈ given, Sent pairEnd id ∨ cp.inFlight = some id :=
  never_attempted_is_the_unsent_suffix pair_distinctIds (by simp [pairBatch]) pairEnd_reachable
    ⟨_, List.mem_of_getElem? (i := 2) rfl⟩

/-! ## Sent work is never overwritten -/

theorem filter_eq_singleton {rows : List TrainingResult} {id : String}
    (hnodup : (rows.map (·.traineeId)).Nodup) (hid : id ∈ rows.map (·.traineeId)) :
    ∃ row ∈ rows, (rows.filter fun r => decide (r.traineeId = id)) = [row] := by
  induction rows with
  | nil => simp at hid
  | cons row rows ih =>
      have hparts := List.nodup_cons.1 hnodup
      by_cases heq : row.traineeId = id
      · -- A second row with this id would repeat it.
        have hnone : (rows.filter fun r => decide (r.traineeId = id)) = [] := by
          rw [List.filter_eq_nil_iff]
          intro r hr hdecide
          have hr' : r.traineeId = id := by simpa using hdecide
          exact hparts.1 (List.mem_map.2 ⟨r, hr, hr'.trans heq.symm⟩)
        refine ⟨row, List.mem_cons_self, ?_⟩
        rw [List.filter_cons_of_pos (by simpa using heq), hnone]
      · have hid' : id ∈ rows.map (·.traineeId) := by
          rcases List.mem_cons.1 hid with hhead | htail
          · exact absurd hhead.symm heq
          · exact htail
        rcases ih hparts.2 hid' with ⟨row', hrow', hfilter⟩
        refine ⟨row', List.mem_cons_of_mem _ hrow', ?_⟩
        rw [List.filter_cons_of_neg (by simpa using heq), hfilter]

/-- A settled row of an unfinished file blocks a plain start. -/
theorem blocksStart_of_settled {cp : BatchCheckpoint} {row : TrainingResult}
    (hrow : row ∈ cp.results) (hout : row.outcome = .success ∨ row.outcome = .failed)
    (hstatus : cp.status ≠ .finished) : cp.blocksStart = true :=
  cp.blocksStart_iff.2 (Or.inr (Or.inr ⟨hstatus, cp.settled_pos_iff.2 ⟨row, hrow, hout⟩⟩))

/-- The picture of a run in which somebody was sent either blocks a start or is a finished one. -/
theorem Describes.blocks_or_finished {cp : BatchCheckpoint} {p : WorkPicture}
    (h : Describes b cp p) (htouched : p.touched ≠ []) :
    cp.blocksStart = true ∨
      (cp.status = .finished ∧ cp.hasUnconfirmed = false) := by
  by_cases hunconfirmed : cp.hasUnconfirmed = true
  · exact Or.inl (cp.blocksStart_iff.2 (Or.inl hunconfirmed))
  have hclear : cp.inFlight.isSome = false ∧ ∀ r ∈ cp.results, r.outcome ≠ .indeterminate := by
    have hnot := mt cp.hasUnconfirmed_iff.2 hunconfirmed
    refine ⟨by simpa using fun hsome => hnot (Or.inl hsome), ?_⟩
    intro r hr hind
    exact hnot (Or.inr ⟨r, hr, hind⟩)
  by_cases hstatus : cp.status = .finished
  · exact Or.inr ⟨hstatus, by simpa using hunconfirmed⟩
  -- Nobody is in flight, so somebody was worked, and the row says how it ended.
  have hopened : p.opened = none := by
    have hnone : cp.inFlight = none := by simpa using hclear.1
    simpa [h.inFlight] using hnone
  rcases List.exists_mem_of_ne_nil _ htouched with ⟨task, htask⟩
  have hworked : task ∈ p.worked := by simpa [WriteAhead.Picture.touched, hopened] using htask
  rcases p.mem_worked.1 hworked with ⟨entry, hentry, -, hne⟩
  rcases h.recorded with ⟨rows, hresults, hrows⟩
  rcases List.mem_iff_getElem.1 hentry with ⟨i, hi, rfl⟩
  have hi' : i < rows.length := hrows.length_eq ▸ hi
  have hrow := hrows.get hi hi'
  have hmem : rows[i] ∈ cp.results := by
    rw [hresults]
    exact List.mem_append_right _ (List.getElem_mem hi')
  have hskipped : rows[i].outcome ≠ .skipped := fun heq => hne (hrow.skipped_iff.1 heq)
  refine Or.inl (blocksStart_of_settled hmem ?_ hstatus)
  cases hout : rows[i].outcome with
  | success => exact Or.inl rfl
  | failed => exact Or.inr rfl
  | skipped => exact absurd hout hskipped
  | indeterminate => exact absurd hout (hclear.2 _ hmem)

/-- Once anything was sent, the file left behind makes a plain start refuse, or it is a finished
one that has settled every trainee of the roster exactly once. -/
theorem plain_start_never_overwrites_sent_work (hids : DistinctIds b.trainees ids)
    (hapart : ∀ row ∈ b.carried, row.traineeId ∉ ids) (hreach : b.Reachable store e)
    (hecho : Echoes e) (hsent : ∃ task req, EngineEvent.submitted task req ∈ e.log) :
    ∃ cp, e.store.slot = .file (.written cp) ∧
      ((∀ saves, ∃ text, (guard e.store false saves).1 = .error text) ∨
        (cp.status = .finished ∧ (∀ row ∈ cp.results, row.outcome ≠ .indeterminate) ∧
          cp.inFlight = none ∧
          ∀ id ∈ ids, ∃ row, (cp.results.filter fun r => decide (r.traineeId = id)) = [row] ∧
            (row.outcome = .success ∨ row.outcome = .failed))) := by
  rcases hreach.sim with ⟨l, hsim⟩
  have hsound := hsim.sound
  rcases hsent with ⟨task, req, hsent⟩
  have hhanded : Event.handed task ∈ l.trace := by
    rw [← hsim.trace]
    exact List.mem_filterMap.2 ⟨_, hsent, rfl⟩
  rcases hsound.saved_of_handed hhanded with ⟨p, hsaved⟩
  have hdurable := hsim.durable
  rw [hsaved] at hdurable
  rcases hdurable with ⟨cp, hslot, hdescribes⟩
  -- Whoever was sent is touched in the last picture, so the file has something to say.
  have htouched := List.ne_nil_of_mem (hsound.touched_of_handed hsaved hhanded)
  refine ⟨cp, hslot, ?_⟩
  rcases hdescribes.blocks_or_finished htouched with hblocks | ⟨hstatus, hclear⟩
  · left
    intro saves
    exact (guard_refuses_iff hslot saves).2 (by rw [promoted_of_written]; exact hblocks)
  · right
    -- The file is finished and confirmed: every row of the run settles its trainee.
    have hnone := mt cp.hasUnconfirmed_iff.2 (by simp [hclear])
    have hfinished := hdescribes.finished hstatus
    rcases hdescribes.order hids hsim hecho (hsound.kept.tasks_eq p hsaved)
      (hsound.kept.closed p hsaved) with ⟨rows, hresults, hrows⟩
    have hrowIds : rows.map (·.traineeId) = ids := by
      simpa [hdescribes.inFlight, hdescribes.pending, hfinished.opened, hfinished.waiting]
        using hrows
    refine ⟨hstatus, ?_, by simp [hdescribes.inFlight, hfinished.opened], ?_⟩
    · intro row hrow hind
      exact hnone (Or.inr ⟨row, hrow, hind⟩)
    · intro id hid
      -- The one row of an id is this run's: the carried ones name other trainees.
      have hcarried : (b.carried.filter fun r => decide (r.traineeId = id)) = [] := by
        rw [List.filter_eq_nil_iff]
        intro row hrow hdecide
        have heq : row.traineeId = id := by simpa using hdecide
        exact hapart row hrow (heq ▸ hid)
      rcases filter_eq_singleton (hrowIds.symm ▸ hids.nodup) (hrowIds.symm ▸ hid) with
        ⟨row, hrow, hfilter⟩
      refine ⟨row, by rw [hresults, List.filter_append, hcarried, hfilter, List.nil_append], ?_⟩
      rcases hdescribes.recorded with ⟨rows', hresults', hspec⟩
      have heq : rows' = rows := List.append_cancel_left (hresults'.symm.trans hresults)
      subst heq
      rcases List.mem_iff_getElem.1 hrow with ⟨i, hi, rfl⟩
      have hi' : i < p.closed.length := hspec.length_eq.symm ▸ hi
      have hclosed := hfinished.closed _ (List.getElem_mem hi')
      exact (hspec.get hi' hi).settled hclosed.1 hclosed.2

theorem plain_start_never_overwrites_the_pair :
    ∃ cp, pairEnd.store.slot = .file (.written cp) ∧
      ((∀ saves, ∃ text, (guard pairEnd.store false saves).1 = .error text) ∨
        (cp.status = .finished ∧ (∀ row ∈ cp.results, row.outcome ≠ .indeterminate) ∧
          cp.inFlight = none ∧
          ∀ id ∈ ["7", "8"], ∃ row,
            (cp.results.filter fun r => decide (r.traineeId = id)) = [row] ∧
              (row.outcome = .success ∨ row.outcome = .failed))) :=
  plain_start_never_overwrites_sent_work pair_distinctIds (by simp [pairBatch]) pairEnd_reachable
    pairEnd_echoes ⟨⟨"7", { id := some "7" }⟩, _, List.mem_of_getElem? (i := 6) rfl⟩

end Run

end DsspBot

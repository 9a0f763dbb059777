import DsspBot.Engine.Coverage
import DsspBot.Engine.Keys

/-!
# Offered — whom a resume of a run's file asks for

A resume asks for every key of the file, and for the id of every skipped row, as an id. Whether that
can be somebody who was sent already depends on nothing but what the batch was given.
-/

namespace DsspBot

open WriteAhead (Event)

/-! ## Whoever was sent -/

/-- This text stands for somebody who was handed to the worker: it is the key of the task, or the id
that a reply gave. -/
inductive SentAs (log : List EngineEvent) (id : String) : Prop
  | key {task : Task} {req : Request} (hsent : .submitted task req ∈ log) (hkey : task.id = id)
  | named {task : Task} {resp : Response} {who : TraineeResolved}
      (hreply : .replied task (.ok resp) ∈ log) (hwho : resp.trainee = some who) (hid : who.id = id)

/-- What the worker client lets through: asked for an id, a reply names that id or nobody. -/
def AnswersIds (e : Engine) : Prop :=
  ∀ task resp who id, EngineEvent.replied task (.ok resp) ∈ e.log → resp.trainee = some who →
    task.payload.id = some id → who.id = id

/-- A resume of the file that is left asks for nobody who was sent. -/
def ResumesApart (e : Engine) : Prop :=
  ∀ saves start roster carried owed, (guard e.store true saves).1 = .ok start →
    start.plan = .resume roster carried owed →
      ∀ trainee ∈ roster, ∀ id, trainee.id = some id → ¬SentAs e.log id

/-- Nobody in the queue is taken for an earlier trainee, by the key or by the id of a skipped row,
and only the last of them may be sent without an id. -/
structure Addressable (b : Batch) : Prop where
  keys : KeysAgree b.trainees
  queue : b.tasks.Pairwise fun earlier later =>
    earlier.payload.id ≠ none ∧ fallbackId later ≠ earlier.id
  /-- A skipped row that was handed in is offered behind everybody. -/
  carried : ∀ row ∈ b.carried, row.outcome = .skipped → ∀ task ∈ b.tasks,
    task.payload.id ≠ none ∧ row.traineeId ≠ task.id

section Run

variable {b : Batch} {store : CheckpointStore} {e : Engine} {l : WorkLedger}

theorem resumesApart_iff_of_written {cp : BatchCheckpoint}
    (h : e.store.slot = .file (.written cp)) :
    ResumesApart e ↔ ∀ id ∈ cp.neverAttempted, ¬SentAs e.log id := by
  constructor
  · intro hapart id hid
    rcases guard_resumes h {} with ⟨start, hstart, hplan⟩
    refine hapart {} start _ _ _ hstart hplan (byId id) ?_ id rfl
    rw [roster_of_written]
    exact List.mem_map_of_mem hid
  · intro hoffers saves start roster carried owed hstart hplan trainee htrainee id hid
    rcases guard_resumes h saves with ⟨start', hstart', hplan'⟩
    obtain rfl : start' = start := Except.ok.inj (hstart'.symm.trans hstart)
    obtain ⟨rfl, -, -⟩ := Plan.resume.inj (hplan'.symm.trans hplan)
    rw [roster_of_written] at htrainee
    rcases List.mem_map.1 htrainee with ⟨offered, hoffered, rfl⟩
    obtain rfl : offered = id := Option.some.inj hid
    exact hoffers offered hoffered

/-- A task with an id is queued under it. -/
theorem task_id_of_payload {task : Task} (h : task ∈ b.tasks) {id : String}
    (hid : task.payload.id = some id) : task.id = id := by
  rcases List.mem_map.1 h with ⟨entry, hentry, rfl⟩
  rcases mem_dedupeFrom hentry with ⟨i, -, hkey, -⟩
  have hpayload : entry.2.id = some id := hid
  calc
    entry.1 = queueKey entry.2 i := hkey
    _ = id := by simp [queueKey, hpayload]

/-- Whoever a text stands for was handed over, and goes by no other text if it was sent by its
id. -/
theorem Sim.handed_of_sentAs {slot₀ : Slot} (h : Sim b slot₀ e l) (hanswers : AnswersIds e)
    {id : String} (hsent : SentAs e.log id) :
    ∃ task ∈ b.tasks, Event.handed task ∈ l.trace ∧ (task.payload.id ≠ none → task.id = id) := by
  cases hsent with
  | @key task req hsent hkey =>
      have hhanded : Event.handed task ∈ l.trace := by
        rw [← h.trace]
        exact List.mem_filterMap.2 ⟨_, hsent, rfl⟩
      exact ⟨task, h.sound.tracked.known task (Or.inl hhanded), hhanded, fun _ => hkey⟩
  | @named task resp who hreply hwho hid =>
      have hanswered : Event.answered task (.ok resp) ∈ l.trace := by
        rw [← h.trace]
        exact List.mem_filterMap.2 ⟨_, hreply, rfl⟩
      have htask := h.sound.tracked.known task (Or.inr ⟨_, hanswered⟩)
      refine ⟨task, htask, h.sound.handed_of_answered hanswered, ?_⟩
      intro hsome
      obtain ⟨own, hown⟩ := Option.ne_none_iff_exists'.1 hsome
      calc
        task.id = own := task_id_of_payload htask hown
        _ = who.id := (hanswers task resp who own hreply hwho hown).symm
        _ = id := hid

/-- What a file of the run offers: whom it queues, whom it has skipped, and skips it was given. -/
theorem Describes.offered_cases {cp : BatchCheckpoint} {p : WorkPicture} (h : Describes b cp p)
    {id : String} (hid : id ∈ cp.neverAttempted) :
    (∃ task ∈ p.unsent, task.id = id ∨ fallbackId task = id) ∨
      ∃ row ∈ b.carried, row.outcome = .skipped ∧ row.traineeId = id := by
  rcases List.mem_append.1 hid with hdrained | hpending
  · rcases List.mem_map.1 hdrained with ⟨row, hrow, rfl⟩
    have hskipped : row.outcome = .skipped := by simpa using (List.mem_filter.1 hrow).2
    rcases h.recorded with ⟨rows, hresults, hrows⟩
    have hmem := (List.mem_filter.1 hrow).1
    rw [hresults] at hmem
    rcases List.mem_append.1 hmem with hcarried | hown
    · exact Or.inr ⟨row, hcarried, hskipped, rfl⟩
    · rcases List.mem_iff_getElem.1 hown with ⟨i, hi, rfl⟩
      have hi' : i < p.closed.length := hrows.length_eq ▸ hi
      have hspec := hrows.get hi' hi
      have hunasked := hspec.skipped_iff.1 hskipped
      refine Or.inl ⟨p.closed[i].1, p.mem_unsent.2 (Or.inl ?_), Or.inr ?_⟩
      · exact ⟨p.closed[i], List.getElem_mem hi', rfl, hunasked⟩
      · exact (hspec.unasked hunasked).2.2.1.symm
  · rw [h.pending] at hpending
    rcases List.mem_map.1 hpending with ⟨task, htask, rfl⟩
    exact Or.inl ⟨task, List.mem_append_right _ htask, Or.inl rfl⟩

/-- Whatever file is left: a resume asks for nobody who was sent. -/
theorem Batch.Reachable.resumesApart (hreach : b.Reachable store e) (haddress : Addressable b)
    (hanswers : AnswersIds e) : ResumesApart e := by
  rcases hreach.sim with ⟨l, hsim⟩
  have hdurable := hsim.durable
  cases hsaved : l.saved with
  | none =>
      -- Nothing was saved, so nobody was sent.
      intro _ _ _ _ _ _ _ _ _ id _ hsent
      rcases hsim.handed_of_sentAs hanswers hsent with ⟨task, -, hhanded, -⟩
      rcases hsim.sound.saved_of_handed hhanded with ⟨p, hp⟩
      simp [hsaved] at hp
  | some p =>
      rw [hsaved] at hdurable
      rcases hdurable with ⟨cp, hslot, hdescribes⟩
      refine (resumesApart_iff_of_written hslot).2 ?_
      intro id hoffered hsent
      rcases hsim.handed_of_sentAs hanswers hsent with ⟨task, htask, hhanded, hkey⟩
      rcases hdescribes.offered_cases hoffered with ⟨later, hlater, hid⟩ | ⟨row, hrow, hskip, rfl⟩
      · -- Whoever was sent stands before everybody who is offered.
        have hsplit := hsim.sound.saved_split hsaved
        have htouched := hsim.sound.touched_of_handed hsaved hhanded
        have hnodup := (queuedTasks_ids_nodup_iff b.trainees).2 haddress.keys
        have hkeys : (b.tasks.map (·.id)).Nodup := hnodup
        have hqueue := haddress.queue
        rw [hsplit] at hqueue hkeys
        rw [List.map_append] at hkeys
        have hpair := (List.pairwise_append.1 hqueue).2.2 task htouched later hlater
        have hown : task.id = id := hkey hpair.1
        rcases hid with hid | hid
        · exact (List.nodup_append'.1 hkeys).2.2 (List.mem_map_of_mem htouched)
            (hown.trans hid.symm ▸ List.mem_map_of_mem hlater)
        · exact hpair.2 (hid.trans hown.symm)
      · have hpair := haddress.carried row hrow hskip task htask
        exact hpair.2 (hkey hpair.1).symm

end Run

/-! ## Runs in which somebody is offered again -/

section Offers

variable {b : Batch} {e e' : Engine} {task : Task} {queue : List Task}
  {results : List TrainingResult}

/-- Anything but a reply that names a trainee. -/
def EngineEvent.Unnaming (ev : EngineEvent) : Prop :=
  ∀ task resp, ev = .replied task (.ok resp) → resp.trainee = none

theorem Engine.NamesNobody.answersIds (h : e.NamesNobody) : AnswersIds e := by
  intro task resp who id hreply hwho
  cases (h task resp hreply).symm.trans hwho

theorem Engine.NamesNobody.adds (h : e.NamesNobody)
    (hadds : Engine.Adds EngineEvent.Unnaming e e') : e'.NamesNobody := by
  rcases hadds with ⟨more, hlog, hmore⟩
  intro task resp hmem
  rw [hlog] at hmem
  rcases List.mem_append.1 hmem with hbefore | hnew
  · exact h task resp hbefore
  · exact hmore _ hnew task resp rfl

theorem Engine.Adds.subset {Kind : EngineEvent → Prop} (h : Engine.Adds Kind e e') :
    e.log ⊆ e'.log := by
  rcases h with ⟨more, hlog, -⟩
  rw [hlog]
  exact List.subset_append_left _ _

/-- A task without an id can be confirmed for anybody. -/
theorem exists_named {a : Attempt} (h : Undisturbed e (.awaiting task a) queue results)
    (hnone : task.payload.id = none) (id : String) :
    ∃ e', Machine.Reaches b.step e e' ∧ AnswersIds e' ∧ SentAs e'.log id ∧
      e'.store.slot = e.store.slot := by
  let who : TraineeResolved := { id := id, name := "" }
  let resp : Response := { confirmation with trainee := some who }
  let row := replyRow task a.attempts resp .success none resp.reference
  let e₁ := ((e.emit (.replied task (.ok resp))).transition .verifying).settleRow row
  have hanswer : b.step e (.reply (.ok resp)) = some e₁ := by
    have hsettle : settleSubmit resp = .success := rfl
    simp [Batch.step, h.pc_eq, Engine.answered, hsettle, e₁, row]
  rcases (e.emit (.replied task (.ok resp))).transition_log .verifying with ⟨legal, hlog⟩
  have hlog₁ : e₁.log =
      e.log ++ [.replied task (.ok resp)] ++ [.moved e.machine .verifying legal] := hlog
  refine ⟨e₁, .single hanswer, ?_, ?_, by simp [e₁, Engine.settleRow]⟩
  · intro task' resp' who' own hreply hwho hown
    rw [hlog₁] at hreply
    simp only [List.mem_append, List.mem_singleton] at hreply
    rcases hreply with (hbefore | hnew) | hmoved
    · cases (h.unnamed task' resp' hbefore).symm.trans hwho
    · cases hnew
      cases hnone.symm.trans hown
    · cases hmoved
  · exact .named (by rw [hlog₁]; simp : EngineEvent.replied task (.ok resp) ∈ e₁.log) rfl rfl

/-- A lost reply ends the batch, and whoever is still queued is skipped. -/
theorem exists_aborted {a : Attempt} (h : Undisturbed e (.awaiting task a) queue results) :
    ∃ e' cp row reason, Machine.Reaches b.step e e' ∧ Engine.Adds EngineEvent.Unnaming e e' ∧
      e'.store.slot = .file (.written cp) ∧
        cp.results = results ++ [row] ++ queue.map (skippedRow reason) := by
  have hmoved : ∀ s t legal, (EngineEvent.moved s t legal).Unnaming := by
    rintro s t legal task resp ⟨⟩
  have hwrote : ∀ cp landed, (EngineEvent.wrote cp landed).Unnaming := by
    rintro cp landed task resp ⟨⟩
  let row := transportRow task a.attempts ""
  let e₁ := (e.emit (.replied task (.error ""))).settleRow row
  have hanswer : b.step e (.reply (.error "")) = some e₁ := by
    simp [Batch.step, h.pc_eq, Engine.answered, e₁, row]
  let e₂ : Engine :=
    { e₁ with
      store := e₁.store.save (b.snapshot e₁ .settle "") (.ok ())
      log := e₁.log ++ [.wrote (b.snapshot e₁ .settle "") true]
      pc := .abortCheck }
  have hwrite : b.step e₁ (.write "" (.ok ())) = some e₂ := rfl
  have hstop : e₂.stopRequested = false := h.stop
  have hcheck : b.step e₂ .tick = some (e₂.abandon (abortReason row)) := by
    have hlast : e₂.results.getLast? = some row := by simp [e₂, e₁, Engine.settleRow]
    have habort : shouldAbort row = true := rfl
    change e₂.abortChecked = _
    simp [Engine.abortChecked, hlast, habort, hstop]
  let e₃ := e₂.abandon (abortReason row)
  have hcomplete : b.step e₃ .tick = some (e₃.close false) := by
    have hstop₃ : e₃.stopRequested = false := by
      simpa [e₃, Engine.stopRequested] using hstop
    simp [Batch.step, e₃, Engine.completed, hstop₃]
  let e₄ := e₃.close false
  let cp := b.snapshot e₄ (.terminal false) ""
  let e₅ : Engine :=
    { e₄ with
      store := e₄.store.save cp (.ok ())
      log := e₄.log ++ [.wrote cp true]
      pc := .reporting }
  have hterminal : b.step e₄ (.write "" (.ok ())) = some e₅ := rfl
  have hlost : (EngineEvent.replied task (.error "")).Unnaming := by
    rintro task resp ⟨⟩
  have hadds : Engine.Adds EngineEvent.Unnaming e e₅ :=
    (((Engine.Adds.event rfl hlost : Engine.Adds _ e e₁).trans
      (.event rfl (hwrote _ _) : Engine.Adds _ e₁ e₂)).trans
        ((Engine.Adds.abandon hmoved e₂ (abortReason row)).trans
          (Engine.Adds.close hmoved e₃ false))).trans
            (.event rfl (hwrote cp true) : Engine.Adds _ e₄ e₅)
  have hresults : cp.results = results ++ [row] ++ queue.map (skippedRow (abortReason row)) := by
    simp [cp, Batch.snapshot, e₄, e₃, e₂, e₁, Engine.settleRow, h.results_eq, h.queue_eq]
  exact ⟨e₅, cp, row, abortReason row,
    (((((Machine.Reaches.single hanswer).tail hwrite).tail hcheck).tail hcomplete).tail hterminal),
    hadds, rfl, hresults⟩

/-- A batch whose resumes ask for nobody who was sent. -/
def ResumesAlwaysApart (b : Batch) : Prop :=
  ∀ store e, b.Reachable store e → AnswersIds e → ResumesApart e

/-- While this task is in the worker's hands, the file offers whoever is behind it, and the skips
that were given. -/
theorem ResumesAlwaysApart.behind (h : ResumesAlwaysApart b) {before after : List Task}
    (hsplit : b.tasks = before ++ task :: after) :
    (task.payload.id = none → after = [] ∧ ∀ row ∈ b.carried, row.outcome ≠ .skipped) ∧
      (∀ row ∈ b.carried, row.outcome = .skipped → row.traineeId ≠ task.id) ∧
        ∀ later ∈ after, fallbackId later ≠ task.id := by
  rcases sweep_to b { path := "", slot := .absent } hsplit with
    ⟨e, a, rows, hreach, hasking, hasked⟩
  rcases hasked.file with ⟨cp, hslot, hresults, hpending⟩
  rcases hasked.sent with ⟨req, hsent⟩
  have hcarried : ∀ row ∈ b.carried, row.outcome = .skipped →
      row.traineeId ∈ cp.neverAttempted := by
    intro row hrow hskip
    refine List.mem_append_left _ (List.mem_map_of_mem ?_)
    refine List.mem_filter.2 ⟨?_, by simpa using hskip⟩
    rw [hresults]
    exact List.mem_append_left _ hrow
  have hapart : ∀ id ∈ cp.neverAttempted, ¬SentAs e.log id :=
    (resumesApart_iff_of_written hslot).1
      (h _ e ⟨none, Or.inl rfl, hreach⟩ hasking.unnamed.answersIds)
  refine ⟨?_, ?_, ?_⟩
  · intro hnone
    -- A reply to a request without an id may name whoever the file offers.
    have hnobody : cp.neverAttempted = [] := by
      apply List.eq_nil_iff_forall_not_mem.2
      intro id hid
      rcases exists_named (b := b) hasking hnone id with ⟨e', hreach', hanswers, hnamed, hsame⟩
      have hresumes := h _ e' ⟨none, Or.inl rfl, hreach.trans hreach'⟩ hanswers
      exact (resumesApart_iff_of_written (hsame.trans hslot)).1 hresumes id hid hnamed
    constructor
    · have hempty : cp.pending = [] := (List.append_eq_nil_iff.1 hnobody).2
      exact List.map_eq_nil_iff.1 (hpending.symm.trans hempty)
    · intro row hrow hskip
      exact List.ne_nil_of_mem (hcarried row hrow hskip) hnobody
  · intro row hrow hskip hsame
    exact hapart _ (hcarried row hrow hskip) (.key hsent hsame.symm)
  · intro later hlater hsame
    rcases exists_aborted (b := b) hasking with
      ⟨e', cp', row, reason, hreach', hadds, hslot', hresults'⟩
    have hresumes := h _ e' ⟨none, Or.inl rfl, hreach.trans hreach'⟩
      (hasking.unnamed.adds hadds).answersIds
    refine (resumesApart_iff_of_written hslot').1 hresumes (fallbackId later) ?_
      (.key (hadds.subset hsent) hsame.symm)
    have hrow : skippedRow reason later ∈ cp'.results := by
      rw [hresults']
      exact List.mem_append_right _ (List.mem_map_of_mem hlater)
    exact List.mem_append_left _ (List.mem_map_of_mem (f := (·.traineeId))
      (List.mem_filter.2 ⟨hrow, by simp [skippedRow]⟩))

theorem pairwise_of_splits {α : Type} {R : α → α → Prop} {xs : List α}
    (h : ∀ before x after, xs = before ++ x :: after → ∀ y ∈ after, R x y) : xs.Pairwise R := by
  induction xs with
  | nil => exact .nil
  | cons x xs ih =>
      refine List.pairwise_cons.2 ⟨h [] x xs rfl, ih ?_⟩
      intro before y after hsplit
      exact h (x :: before) y after (by rw [hsplit]; rfl)

theorem ResumesAlwaysApart.addressable (h : ResumesAlwaysApart b) (hkeys : KeysAgree b.trainees) :
    Addressable b where
  keys := hkeys
  queue := by
    refine pairwise_of_splits ?_
    intro before task after hsplit later hlater
    have hbehind := h.behind hsplit
    refine ⟨?_, hbehind.2.2 later hlater⟩
    intro hnone
    exact List.ne_nil_of_mem hlater (hbehind.1 hnone).1
  carried := by
    intro row hrow hskip task htask
    rcases List.append_of_mem htask with ⟨before, after, hsplit⟩
    have hbehind := h.behind hsplit
    exact ⟨fun hnone => (hbehind.1 hnone).2 row hrow hskip, hbehind.2.1 row hrow hskip⟩

end Offers

/-- Every file of every run of a batch names its trainees apart, and no resume of it asks for
anybody who was sent, if and only if the batch is addressable. -/
theorem keys_identify_trainees_iff (b : Batch) :
    (∀ store e, b.Reachable store e → KeysApart e.log ∧ (AnswersIds e → ResumesApart e)) ↔
      Addressable b := by
  constructor
  · intro h
    have hkeys : KeysAgree b.trainees :=
      (checkpoint_keys_apart_iff b).1 fun store e hreach => (h store e hreach).1
    have hresumes : ResumesAlwaysApart b := fun store e hreach => (h store e hreach).2
    exact hresumes.addressable hkeys
  · intro haddress store e hreach
    exact ⟨(checkpoint_keys_apart_iff b).2 haddress.keys store e hreach,
      fun hanswers => hreach.resumesApart haddress hanswers⟩

/-- One entry by id, and one by a name that is spelled like it. -/
def mixedBatch : Batch :=
  { session := { trainingDate := "2026-01-05", instructor := "Ada", trainingType := "1" }
    startedAt := "0"
    trainees := [{ id := some "A" }, { name := some "A" }] }

def mixedStore : CheckpointStore :=
  { path := "job.checkpoint.json", slot := .absent }

/-- Up to the write that names the first of the two. -/
def mixedInputs : List Input :=
  [.newId "ensure", .reply (.ok { status := .ok }), .tick, .tick, .write "1" (.ok ())]

/-- The second of the two goes by the key of the one in flight. -/
theorem mixedBatch_keys_collide :
    ¬∀ (b : Batch) (store : CheckpointStore) (e : Engine),
      b.Reachable store e → KeysApart e.log ∧ (AnswersIds e → ResumesApart e) := by
  intro h
  let e := (Machine.run mixedBatch.step (mixedBatch.start none mixedStore) mixedInputs).getD
    (mixedBatch.start none mixedStore)
  have hreach : mixedBatch.Reachable mixedStore e := ⟨none, Or.inl rfl, mixedInputs, rfl⟩
  rcases (h _ _ _ hreach).1 (e.log.dropLast) _ true [] rfl with ⟨hnodup, -⟩
  exact absurd hnodup (by decide)

/-- Keys that are apart are not enough: the reply for the name may give the id that is queued. -/
example (b : Batch) (h : b.trainees = [{ name := some "Grace" }, { id := some "7" }]) :
    KeysAgree b.trainees ∧ ¬Addressable b := by
  have htasks : b.tasks = [{ id := "Grace", payload := { name := some "Grace" } },
      { id := "7", payload := { id := some "7" } }] := by
    unfold Batch.tasks
    rw [h]
    decide
  constructor
  · rw [← queuedTasks_ids_nodup_iff, h]
    decide
  · intro haddress
    have hqueue := haddress.queue
    rw [htasks] at hqueue
    exact (List.rel_of_pairwise_cons hqueue List.mem_cons_self).1 rfl

end DsspBot

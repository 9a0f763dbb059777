import DsspBot.Engine.Step

/-!
# Sweep — the run in which nothing goes wrong

Every write lands, nobody interferes and the portal confirms every trainee. Such a run exists for
every batch, whatever its roster, and leaves a finished file behind.
-/

namespace DsspBot

/-- A confirmation that names nobody. -/
def confirmation : Response :=
  { status := .ok, outcome := some "confirmed" }

/-- No reply of the run has named a trainee. -/
def Engine.NamesNobody (e : Engine) : Prop :=
  ∀ task resp, EngineEvent.replied task (.ok resp) ∈ e.log → resp.trainee = none

/-- Without a controller, and not aborted, at one point of the program. -/
structure Undisturbed (e : Engine) (pc : Pc) (queue : List Task) (results : List TrainingResult) :
    Prop where
  pc_eq : e.pc = pc
  control : e.control = none
  queue_eq : e.queue.tasks = queue
  results_eq : e.results = results
  aborted : e.aborted = false
  unnamed : e.NamesNobody

/-- This task is in the worker's hands, and the file names it as in flight. -/
structure Asked (e : Engine) (task : Task) (queue : List Task) (results : List TrainingResult) :
    Prop where
  file : ∃ cp, e.store.slot = .file (.written cp) ∧ cp.results = results ∧
    cp.pending = queue.map (·.id)
  sent : ∃ req, EngineEvent.submitted task req ∈ e.log

section Sweep

variable {b : Batch} {e : Engine} {task : Task} {queue : List Task} {results : List TrainingResult}

theorem Undisturbed.stop {pc : Pc} (h : Undisturbed e pc queue results) :
    e.stopRequested = false := by
  simp [Engine.stopRequested, h.control]

theorem Engine.NamesNobody.transition (h : e.NamesNobody) (target : AutomationState) :
    (e.transition target).NamesNobody := by
  intro task resp hmem
  unfold Engine.transition at hmem
  split at hmem <;> exact h task resp (by simpa [Engine.emit] using hmem)

/-- From a task at the head of the queue to its in-flight write. -/
theorem sweep_dequeue (h : Undisturbed e .loopHead (task :: queue) results) :
    ∃ e', Machine.Reaches b.step e e' ∧
      Undisturbed e' (.writing (.inFlight task)) queue results := by
  have hboundary : b.step e .tick = some { e with pc := .dequeue } := by
    have hempty : e.queue.isEmpty = false := by simp [TaskQueue.isEmpty, h.queue_eq]
    have hpause : e.pauseRequested = false := by simp [Engine.pauseRequested, h.control]
    simp [Batch.step, h.pc_eq, Engine.controlBoundary, hempty, h.stop, hpause]
  have hdequeue : b.step { e with pc := .dequeue } .tick =
      some { e with queue := { tasks := queue }, pc := .writing (.inFlight task) } := by
    have hstop : ({ e with pc := .dequeue } : Engine).stopRequested = false := h.stop
    have hhead : e.queue.dequeue = some (task, { tasks := queue }) :=
      TaskQueue.dequeue_eq_some.2 h.queue_eq
    simp [Batch.step, Engine.dequeued, hstop, hhead]
  exact ⟨_, (Machine.Reaches.single hboundary).tail hdequeue,
    rfl, h.control, rfl, h.results_eq, h.aborted, h.unnamed⟩

/-- From the in-flight write to the wait for the worker's answer. -/
theorem sweep_submit (h : Undisturbed e (.writing (.inFlight task)) queue results) :
    ∃ e' a, Machine.Reaches b.step e e' ∧ Undisturbed e' (.awaiting task a) queue results ∧
      Asked e' task queue results := by
  let cp := b.snapshot e (.inFlight task) ""
  let e₁ : Engine :=
    { e with
      store := e.store.save cp (.ok ())
      log := e.log ++ [.wrote cp true]
      pc := .entering task }
  have hwrite : b.step e (.write "" (.ok ())) = some e₁ := by
    simp [Batch.step, h.pc_eq, Batch.wrote, Batch.writeLanded, e₁, cp]
  let e₂ := e₁.entered task ""
  have henter : b.step e₁ (.newId "") = some e₂ := rfl
  have hstop : e₂.stopRequested = false := by
    simp [Engine.stopRequested, e₂, e₁, Engine.entered, h.control]
  let a : Attempt := { jobId := "", attempts := 1, retryResult := none }
  let e₃ : Engine := { e₂.emit (.admitted task) with pc := .submitting task a }
  have hadmit : b.step e₂ .tick = some e₃ := by
    change some (e₂.admissionChecked task { jobId := "", attempts := 0, retryResult := none }) = _
    simp [Engine.admissionChecked, hstop, e₃, a]
  have hsubmit : b.step e₃ .tick = some (b.submit e₃ task a) := rfl
  have hunnamed₁ : e₁.NamesNobody := fun task resp hmem =>
    h.unnamed task resp (by simpa [e₁] using hmem)
  have hunnamed₃ : e₃.NamesNobody := fun task resp hmem =>
    hunnamed₁.transition .loadingTrainee task resp
      (by simpa [e₃, e₂, Engine.emit, Engine.entered] using hmem)
  refine ⟨_, a, (((Machine.Reaches.single hwrite).tail henter).tail hadmit).tail hsubmit,
    ⟨rfl, ?_, ?_, ?_, ?_, ?_⟩, ⟨cp, ?_, h.results_eq, ?_⟩, ?_⟩
  · simpa [Batch.submit, e₃, e₂, e₁, Engine.entered] using h.control
  · simpa [Batch.submit, e₃, e₂, e₁, Engine.entered] using h.queue_eq
  · simpa [Batch.submit, e₃, e₂, e₁, Engine.entered] using h.results_eq
  · simpa [Batch.submit, e₃, e₂, e₁, Engine.entered] using h.aborted
  · intro task resp hmem
    refine hunnamed₃.transition .submitting task resp ?_
    simpa [Batch.submit, Engine.emit] using hmem
  · simp [Batch.submit, e₃, e₂, e₁, Engine.entered, CheckpointStore.save]
  · simp [cp, Batch.snapshot, TaskQueue.ids, h.queue_eq]
  · exact ⟨_, List.mem_append_right _ List.mem_cons_self⟩

/-- A confirmation is recorded, the record is written, and the loop goes on. -/
theorem sweep_settle {a : Attempt} (h : Undisturbed e (.awaiting task a) queue results) :
    ∃ e' row, Machine.Reaches b.step e e' ∧ row.outcome = .success ∧
      Undisturbed e' .loopHead queue (results ++ [row]) := by
  let row := replyRow task a.attempts confirmation .success none confirmation.reference
  let e₁ := ((e.emit (.replied task (.ok confirmation))).transition .verifying).settleRow row
  have hanswer : b.step e (.reply (.ok confirmation)) = some e₁ := by
    have hsettle : settleSubmit confirmation = .success := rfl
    simp [Batch.step, h.pc_eq, Engine.answered, hsettle, e₁, row]
  let e₂ : Engine :=
    { e₁ with
      store := e₁.store.save (b.snapshot e₁ .settle "") (.ok ())
      log := e₁.log ++ [.wrote (b.snapshot e₁ .settle "") true]
      pc := .abortCheck }
  have hwrite : b.step e₁ (.write "" (.ok ())) = some e₂ := rfl
  -- A success aborts nothing, so the loop goes on.
  have hcheck : b.step e₂ .tick = some { e₂ with pc := .loopHead } := by
    have hlast : e₂.results.getLast? = some row := by simp [e₂, e₁, Engine.settleRow]
    have habort : shouldAbort row = false := rfl
    change e₂.abortChecked = _
    simp [Engine.abortChecked, hlast, habort]
  have hanswered : (e.emit (.replied task (.ok confirmation))).NamesNobody := by
    intro task' resp hmem
    rcases List.mem_append.1 hmem with hbefore | hnew
    · exact h.unnamed task' resp hbefore
    · cases List.mem_singleton.1 hnew
      rfl
  refine ⟨_, row, ((Machine.Reaches.single hanswer).tail hwrite).tail hcheck, rfl, rfl, ?_, ?_, ?_,
    ?_, ?_⟩
  · simpa [e₂, e₁, Engine.settleRow] using h.control
  · simpa [e₂, e₁, Engine.settleRow] using h.queue_eq
  · simp [e₂, e₁, Engine.settleRow, h.results_eq]
  · simpa [e₂, e₁, Engine.settleRow] using h.aborted
  · intro task' resp hmem
    refine hanswered.transition .verifying task' resp ?_
    simpa [e₂, e₁, Engine.settleRow] using hmem

/-- The loop works through any part of the queue, one success after another. -/
theorem sweep_loop {rest : List Task} (h : Undisturbed e .loopHead (queue ++ rest) results) :
    ∃ e' rows, Machine.Reaches b.step e e' ∧ rows.length = queue.length ∧
      (∀ row ∈ rows, row.outcome = .success) ∧ Undisturbed e' .loopHead rest (results ++ rows) := by
  -- One task at a time: dequeue, submit, settle, and back to the head of the loop.
  induction queue generalizing e results with
  | nil => exact ⟨e, [], .refl e, rfl, by simp, by simpa using h⟩
  | cons task queue ih =>
      rcases sweep_dequeue (b := b) h with ⟨e₁, hreach₁, h₁⟩
      rcases sweep_submit (b := b) h₁ with ⟨e₂, a, hreach₂, h₂, -⟩
      rcases sweep_settle (b := b) h₂ with ⟨e₃, row, hreach₃, hrow, h₃⟩
      rcases ih h₃ with ⟨e', rows, hreach, hlength, hrows, h'⟩
      refine ⟨e', row :: rows, ((hreach₁.trans hreach₂).trans hreach₃).trans hreach,
        by simp [hlength], ?_, by simpa using h'⟩
      intro r hr
      rcases List.mem_cons.1 hr with rfl | hr
      · exact hrow
      · exact hrows r hr

/-- What a sweep leaves behind, in the file and in the report. -/
structure Swept (b : Batch) (e : Engine) : Prop where
  left : ∃ cp report rows, e.store.slot = .file (.written cp) ∧
    e.pc = .returned (.ok report) ∧ report.results = cp.results ∧ report.aborted = false ∧
    cp.status = .finished ∧ cp.total = b.total ∧ cp.results = b.carried ++ rows ∧
    rows.length = b.tasks.length ∧ (∀ row ∈ rows, row.outcome = .success) ∧ cp.pending = [] ∧
    cp.inFlight = none

/-- From an empty queue to the report. -/
theorem sweep_finish {rows : List TrainingResult} (hlength : rows.length = b.tasks.length)
    (hrows : ∀ row ∈ rows, row.outcome = .success)
    (h : Undisturbed e .loopHead [] (b.carried ++ rows)) :
    ∃ e', Machine.Reaches b.step e e' ∧ Swept b e' := by
  have hboundary : b.step e .tick = some { e with pc := .completion } := by
    have hempty : e.queue.isEmpty = true := by simp [h.queue_eq]
    simp [Batch.step, h.pc_eq, Engine.controlBoundary, hempty]
  -- Nobody asked for a stop, so the run closes without one.
  let e₁ := Engine.close { e with pc := .completion } false
  have hcomplete : b.step { e with pc := .completion } .tick = some e₁ := by
    have hstop : ({ e with pc := .completion } : Engine).stopRequested = false := h.stop
    simp [Batch.step, Engine.completed, hstop, e₁]
  let cp := b.snapshot e₁ (.terminal false) ""
  let e₂ : Engine :=
    { e₁ with
      store := e₁.store.save cp (.ok ())
      log := e₁.log ++ [.wrote cp true]
      pc := .reporting }
  have hwrite : b.step e₁ (.write "" (.ok ())) = some e₂ := rfl
  have hreport : b.step e₂ (.clock "") = some (b.reported e₂ "") := rfl
  refine ⟨_, (((Machine.Reaches.single hboundary).tail hcomplete).tail hwrite).tail hreport,
    cp, _, rows, rfl, rfl, rfl, ?_, ?_, rfl, ?_, hlength, hrows, ?_, rfl⟩
  · simpa [BatchReport.build, e₂, e₁] using h.aborted
  · simp [cp, Batch.snapshot, Batch.statusAt, e₁, h.aborted]
  · simpa [cp, Batch.snapshot, e₁] using h.results_eq
  · simp [cp, Batch.snapshot, TaskQueue.ids, e₁, h.queue_eq]

/-- From the start to the head of the loop, the session established. -/
theorem sweep_start (b : Batch) (store : CheckpointStore) :
    ∃ e, Machine.Reaches b.step (b.start none store) e ∧
      Undisturbed e .loopHead b.tasks b.carried := by
  let e₁ : Engine :=
    { (b.start none store).emit (.requested (.ensureSession "")) with pc := .ensuring "" }
  have hensure : b.step (b.start none store) (.newId "") = some e₁ := rfl
  let e₂ := b.sessionEnsured e₁ (.ok { status := .ok })
  have hensured : b.step e₁ (.reply (.ok { status := .ok })) = some e₂ := rfl
  refine ⟨e₂, (Machine.Reaches.single hensure).tail hensured, rfl, rfl, ?_, rfl, rfl, ?_⟩
  · exact TaskQueue.tasks_foldl_enqueue TaskQueue.new (dedupe b.trainees)
  · have hstart : (b.start none store).NamesNobody :=
      Engine.NamesNobody.transition (fun _ _ hmem => absurd hmem List.not_mem_nil) .initializing
    intro task resp hmem
    exact hstart task resp (by simpa [e₂, e₁, Batch.sessionEnsured, Engine.emit] using hmem)

/-- Every batch can be swept. -/
theorem sweep (b : Batch) (store : CheckpointStore) :
    ∃ e, Machine.Reaches b.step (b.start none store) e ∧ Swept b e := by
  rcases sweep_start b store with ⟨e₂, hreach₂, h₂⟩
  rw [← List.append_nil b.tasks] at h₂
  rcases sweep_loop (b := b) h₂ with ⟨e₃, rows, hreach₃, hlength, hrows, h₃⟩
  rcases sweep_finish hlength hrows h₃ with ⟨e', hreach, hswept⟩
  exact ⟨e', (hreach₂.trans hreach₃).trans hreach, hswept⟩

/-- Every task of a batch is asked about in some run, behind confirmations for those before it. -/
theorem sweep_to (b : Batch) (store : CheckpointStore) {before after : List Task}
    (hsplit : b.tasks = before ++ task :: after) :
    ∃ e a rows, Machine.Reaches b.step (b.start none store) e ∧
      Undisturbed e (.awaiting task a) after (b.carried ++ rows) ∧
        Asked e task after (b.carried ++ rows) := by
  rcases sweep_start b store with ⟨e₁, hreach₁, h₁⟩
  rw [hsplit] at h₁
  rcases sweep_loop (b := b) h₁ with ⟨e₂, rows, hreach₂, -, -, h₂⟩
  rcases sweep_dequeue (b := b) h₂ with ⟨e₃, hreach₃, h₃⟩
  rcases sweep_submit (b := b) h₃ with ⟨e₄, a, hreach₄, h₄, hasked⟩
  exact ⟨e₄, a, rows, ((hreach₁.trans hreach₂).trans hreach₃).trans hreach₄, h₄, hasked⟩

end Sweep

end DsspBot

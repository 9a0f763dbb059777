import DsspBot.Cli.Ending

/-!
# Agreement — a single run and a batch of one

Given the same replies a single run and a batch of one trainee send the same requests, and the exit
code of the one says what the row and the report of the other say.
-/

namespace DsspBot

open Retry (Follows Settled)

/-! ## Both loops come to an end -/

namespace Single

variable {job : SingleJob} {s : Single}

/-- One round of the loop: a request, its answer, and what is made of it. -/
theorem exists_round (job : SingleJob) (stream : Nat → Reply) {jobId : String} {attempt : Nat}
    (hpc : s.pc = .submitting jobId attempt) (hfollows : Follows stream s.replies) :
    ∃ s' reply, Machine.Reaches (step job) s s' ∧ s'.pc = decided jobId attempt reply ∧
      Follows stream s'.replies := by
  let asked : Single :=
    { pc := .awaiting jobId attempt
      log := s.log ++ [.submitted (.submitTraining jobId job.trainee job.session)] }
  have hask : step job s .tick = some asked := by simp [step, hpc, asked]
  let reply := stream s.replies.length
  let heard : Single := { pc := decided jobId attempt reply, log := asked.log ++ [.replied reply] }
  have hhear : step job asked (.reply reply) = some heard := rfl
  refine ⟨heard, reply, (Machine.Reaches.single hask).tail hhear, rfl, ?_⟩
  have hreplies : heard.replies = s.replies ++ [stream s.replies.length] := by
    simp [replies, heard, asked, reply]
  rw [hreplies]
  exact hfollows.snoc

/-- From a submission on, the run ends with whatever it is answered. -/
theorem exists_exit (job : SingleJob) (stream : Nat → Reply) (more : Nat) {jobId : String}
    {attempt : Nat} (hpc : s.pc = .submitting jobId attempt) (hfollows : Follows stream s.replies)
    (hmore : policy.maxAttempts ≤ attempt + more) :
    ∃ s' text code, Machine.Reaches (step job) s s' ∧ s'.pc = .exited (some text) code ∧
      Follows stream s'.replies := by
  -- The induction is on the attempts that are left.
  induction more generalizing s attempt with
  | zero =>
      rcases exists_round job stream hpc hfollows with ⟨s', reply, hreach, hpc', hfollows'⟩
      rcases decided_cases jobId attempt reply with ⟨line, code, heq, -⟩ | ⟨-, -, hless⟩
      · rcases line_of_decided heq with ⟨text, rfl⟩
        exact ⟨s', text, code, hreach, hpc'.trans heq, hfollows'⟩
      · omega
  | succ more ih =>
      rcases exists_round job stream hpc hfollows with ⟨s', reply, hreach, hpc', hfollows'⟩
      rcases decided_cases jobId attempt reply with ⟨line, code, heq, -⟩ | ⟨heq, -, -⟩
      · rcases line_of_decided heq with ⟨text, rfl⟩
        exact ⟨s', text, code, hreach, hpc'.trans heq, hfollows'⟩
      · -- The backoff over, the next attempt is submitted.
        let again : Single :=
          { pc := .submitting jobId (attempt + 1)
            log := s'.log ++ [.slept (policy.delayForAttempt attempt)] }
        have hwake : step job s' .tick = some again := by
          simp [step, hpc', heq, again]
        have hreplies : again.replies = s'.replies := by simp [replies, again]
        rcases ih (s := again) rfl (hreplies ▸ hfollows') (by omega) with
          ⟨last, text, code, hreach', hexit, hlast⟩
        exact ⟨last, text, code, (hreach.tail hwake).trans hreach', hexit, hlast⟩

/-- Past an established session, a run ends with whatever its submissions are answered. -/
theorem exists_run (job : SingleJob) (stream : Nat → Reply) :
    ∃ s text code, Reachable job s ∧ s.pc = .exited (some text) code ∧
      Follows stream s.replies := by
  let before : List SingleInput :=
    [.connected (.ok ()), .newId "a", .reply (.ok { status := .ok }), .newId "b",
      .reply (.error ""), .newId "job"]
  let ready : Single :=
    { pc := .submitting "job" 1
      log := [.requested (.ensureSession "a"), .requested (.getFormOptions "b" none)] }
  have hready : Machine.run (step job) start before = some ready := rfl
  rcases exists_exit (s := ready) job stream policy.maxAttempts rfl (Follows.nil stream)
    (by omega) with ⟨s, text, code, hreach, hpc, hfollows⟩
  have hstart : Reachable job ready := ⟨before, hready⟩
  exact ⟨s, text, code, hstart.trans hreach, hpc, hfollows⟩

end Single

section Batch

variable {b : Batch} {store : CheckpointStore} {e : Engine}

theorem Engine.answersHeard_of_log {e' : Engine} {ev : EngineEvent} (h : e'.log = e.log ++ [ev])
    (hquiet : ∀ task reply, ev ≠ .replied task reply) : e'.answersHeard = e.answersHeard := by
  unfold Engine.answersHeard
  rw [h, filterMap_snoc]
  cases ev with
  | replied task reply => exact absurd rfl (hquiet task reply)
  | _ => exact List.append_nil _

@[simp] theorem Engine.transition_answersHeard (e : Engine) (target : AutomationState) :
    (e.transition target).answersHeard = e.answersHeard :=
  e.transition_log_filterMap _ (fun _ _ _ => rfl) target

/-- Nobody interferes, no write was lost, nobody else is queued, and the answers so far are the
stream's. -/
structure Alone (stream : Nat → Reply) (e : Engine) (pc : Pc) : Prop where
  pc_eq : e.pc = pc
  control : e.control = none
  queue : e.queue.tasks = []
  landed : ∀ w ∈ e.writes, w.2 = true
  follows : Follows stream e.answersHeard

namespace Alone

variable {stream : Nat → Reply} {pc : Pc} {task : Task} {a : Attempt}

theorem stop (h : Alone stream e pc) : e.stopRequested = false := by
  simp [Engine.stopRequested, h.control]

/-- Going on without a write or an answer. -/
theorem goto (h : Alone stream e pc) {e' : Engine} {pc' : Pc} (hpc : e'.pc = pc')
    (hcontrol : e'.control = e.control) (hqueue : e'.queue.tasks = [])
    (hwrites : e'.writes = e.writes) (hheard : e'.answersHeard = e.answersHeard) :
    Alone stream e' pc' where
  pc_eq := hpc
  control := hcontrol.trans h.control
  queue := hqueue
  landed := hwrites ▸ h.landed
  follows := hheard ▸ h.follows

/-- A write that lands. -/
theorem write (h : Alone stream e pc) {e' : Engine} {pc' : Pc} {cp : BatchCheckpoint}
    (hpc : e'.pc = pc') (hcontrol : e'.control = e.control) (hqueue : e'.queue = e.queue)
    (hlog : e'.log = e.log ++ [.wrote cp true]) : Alone stream e' pc' where
  pc_eq := hpc
  control := hcontrol.trans h.control
  queue := by rw [hqueue, h.queue]
  landed := by
    intro w hw
    rw [Engine.writes_of_written hlog] at hw
    rcases List.mem_append.1 hw with hbefore | hnow
    · exact h.landed w hbefore
    · rw [List.mem_singleton.1 hnow]
  follows := by
    rw [Engine.answersHeard_of_log hlog (by simp)]
    exact h.follows

/-- From the admission check to the wait for an answer. -/
theorem ask (h : Alone stream e (.admission task a)) :
    ∃ e', Machine.Reaches b.step e e' ∧
      Alone stream e' (.awaiting task { a with attempts := a.attempts + 1 }) := by
  let e₁ : Engine :=
    { e.emit (.admitted task) with pc := .submitting task { a with attempts := a.attempts + 1 } }
  have hadmit : b.step e .tick = some e₁ := by
    simp [Batch.step, h.pc_eq, Engine.admissionChecked, h.stop, e₁]
  have h₁ : Alone stream e₁ (.submitting task { a with attempts := a.attempts + 1 }) :=
    h.goto rfl rfl h.queue (Engine.writes_of_unwritten rfl rfl)
      (Engine.answersHeard_of_log rfl (by simp))
  let e₂ := b.submit e₁ task { a with attempts := a.attempts + 1 }
  have hsubmit : b.step e₁ .tick = some e₂ := rfl
  refine ⟨e₂, (Machine.Reaches.single hadmit).tail hsubmit, h₁.goto rfl ?_ ?_ ?_ ?_⟩
  · exact e₁.transition_control _
  · exact (congrArg TaskQueue.tasks (e₁.transition_queue _)).trans h₁.queue
  · have hsent : e₂.writes = (e₁.transition .submitting).writes :=
      Engine.writes_of_unwritten rfl rfl
    exact hsent.trans (e₁.transition_writes _)
  · have hsent : e₂.answersHeard = (e₁.transition .submitting).answersHeard :=
      Engine.answersHeard_of_log rfl (by simp)
    exact hsent.trans (e₁.transition_answersHeard _)

/-- What an answer leaves alone, whatever is made of it. -/
theorem heard (h : Alone stream e pc) {task : Task} {reply : Reply}
    (hreply : reply = stream e.answersHeard.length) {e' : Engine} {pc' : Pc}
    (hpc : e'.pc = pc') (hcontrol : e'.control = e.control) (hqueue : e'.queue = e.queue)
    (hwrites : e'.writes = e.writes)
    (hheard : e'.answersHeard = (e.emit (.replied task reply)).answersHeard) :
    Alone stream e' pc' where
  pc_eq := hpc
  control := hcontrol.trans h.control
  queue := by rw [hqueue, h.queue]
  landed := hwrites ▸ h.landed
  follows := by
    have hsnoc : (e.emit (.replied task reply)).answersHeard =
        e.answersHeard ++ [stream e.answersHeard.length] := by
      simp [Engine.answersHeard, hreply]
    rw [hheard, hsnoc]
    exact h.follows.snoc

/-- The next answer settles the task, or sends it back to the admission check. -/
theorem hear (h : Alone stream e (.awaiting task a)) :
    ∃ e', Machine.Reaches b.step e e' ∧
      ((Alone stream e' (.writing .settle) ∧ e'.results ≠ []) ∨
        ∃ a', a'.attempts = a.attempts ∧ a.attempts < b.policy.maxAttempts ∧
          Alone stream e' (.admission task a')) := by
  let reply := stream e.answersHeard.length
  have hstep : b.step e (.reply reply) = some (e.answered b.policy task a reply) := by
    simp [Batch.step, h.pc_eq]
  have hemitted : (e.emit (.replied task reply)).writes = e.writes :=
    Engine.writes_of_unwritten rfl rfl
  -- After the transition the row is settled, whichever way it was read.
  have hsettled : ∀ row, Alone stream
      (((e.emit (.replied task reply)).transition .verifying).settleRow row)
      (.writing .settle) := by
    intro row
    exact h.heard rfl rfl (Engine.transition_control _ _) (Engine.transition_queue _ _)
      ((Engine.transition_writes _ _).trans hemitted) (Engine.transition_answersHeard _ _)
  have hrow : ∀ (x : Engine) row, (x.settleRow row).results ≠ [] := by
    intro x row
    simp [Engine.settleRow]
  cases hreply : reply with
  | error text =>
      have hlost : e.answered b.policy task a reply =
          (e.emit (.replied task reply)).settleRow (transportRow task a.attempts text) := by
        rw [hreply]
        rfl
      rw [hlost] at hstep
      refine ⟨_, Machine.Reaches.single hstep, Or.inl ⟨?_, hrow _ _⟩⟩
      exact h.heard rfl rfl rfl rfl hemitted rfl
  | ok resp =>
      have hread : ∀ row, e.answered b.policy task a reply =
          ((e.emit (.replied task reply)).transition .verifying).settleRow row →
            ∃ e', Machine.Reaches b.step e e' ∧
              ((Alone stream e' (.writing .settle) ∧ e'.results ≠ []) ∨
                ∃ a', a'.attempts = a.attempts ∧ a.attempts < b.policy.maxAttempts ∧
                  Alone stream e' (.admission task a')) := by
        intro row hrow'
        rw [hrow'] at hstep
        exact ⟨_, Machine.Reaches.single hstep, Or.inl ⟨hsettled row, hrow _ _⟩⟩
      cases hsettle : settleSubmit resp with
      | success => exact hread _ (by rw [hreply]; simp only [Engine.answered, hsettle]; rfl)
      | failed code message =>
          exact hread _ (by rw [hreply]; simp only [Engine.answered, hsettle]; rfl)
      | indeterminate message =>
          exact hread _ (by rw [hreply]; simp only [Engine.answered, hsettle]; rfl)
      | retry code message =>
          by_cases hmax : b.policy.maxAttempts ≤ a.attempts
          · exact hread _
              (by rw [hreply]; simp only [Engine.answered, hsettle, hmax, if_true]; rfl)
          · -- The backoff over, the next attempt is checked for admission.
            let e₁ := e.answered b.policy task a reply
            let row := replyRow task a.attempts resp .failed (some code)
              (some s!"operator stop before retry: {message}")
            let a' := { a with retryResult := some row }
            have he₁ : e₁ = { (e.emit (.replied task reply)).transition .retrying with
                pc := .backoff task a' } := by
              change e.answered b.policy task a reply = _
              rw [hreply]
              simp only [Engine.answered, hsettle, hmax, if_false]
              rfl
            have h₁ : Alone stream e₁ (.backoff task a') := by
              rw [he₁]
              exact h.heard rfl rfl (Engine.transition_control _ _) (Engine.transition_queue _ _)
                ((Engine.transition_writes _ _).trans hemitted) (Engine.transition_answersHeard _ _)
            let e₂ := e₁.slept b.policy task a'
            have hwake : b.step e₁ .tick = some e₂ := by simp [Batch.step, h₁.pc_eq, e₂]
            refine ⟨e₂, (Machine.Reaches.single hstep).tail hwake,
              Or.inr ⟨a', rfl, by omega, ?_⟩⟩
            exact h₁.goto rfl rfl h₁.queue (Engine.writes_of_unwritten rfl rfl)
              (Engine.answersHeard_of_log rfl (by simp))

/-- From a settled row to the report: the row is written, the loop is left, the batch closed. -/
theorem wind_up (h : Alone stream e (.writing .settle)) (hrows : e.results ≠ []) :
    ∃ e' report, Machine.Reaches b.step e e' ∧ Alone stream e' (.returned (.ok report)) := by
  let e₁ := b.wrote e .settle "" (.ok ())
  have hwrite : b.step e (.write "" (.ok ())) = some e₁ := by simp [Batch.step, h.pc_eq, e₁]
  have h₁ : Alone stream e₁ .abortCheck := h.write rfl rfl rfl rfl
  have hleave : ∃ e₂, Machine.Reaches b.step e₁ e₂ ∧ Alone stream e₂ .completion := by
    rcases e₁.results.eq_nil_or_concat with hnone | ⟨before, last, hlast⟩
    · exact absurd hnone hrows
    have hchecked : b.step e₁ .tick = some (if shouldAbort last then
        e₁.abandon (abortReason last) else { e₁ with pc := .loopHead }) := by
      have hlast' : e₁.results.getLast? = some last := by simp [hlast]
      simp [Batch.step, h₁.pc_eq, Engine.abortChecked, hlast', h₁.stop]
    cases habort : shouldAbort last with
    | true =>
        rw [habort, if_pos rfl] at hchecked
        refine ⟨_, Machine.Reaches.single hchecked, h₁.goto rfl ?_ ?_ ?_ ?_⟩
        · exact e₁.abandon_control _
        · rw [Engine.abandon_queue]
          rfl
        · exact e₁.abandon_writes _
        · exact e₁.abandon_log_filterMap _ (fun _ _ _ => rfl) _
    | false =>
        rw [habort, if_neg Bool.false_ne_true] at hchecked
        let looped : Engine := { e₁ with pc := .loopHead }
        have hdone : b.step looped .tick = some { looped with pc := .completion } := by
          simp [Batch.step, Engine.controlBoundary, looped, TaskQueue.isEmpty, h₁.queue]
        exact ⟨_, (Machine.Reaches.single hchecked).tail hdone,
          h₁.goto rfl rfl h₁.queue rfl rfl⟩
  rcases hleave with ⟨e₂, hreach₂, h₂⟩
  let e₃ := e₂.close false
  have hcomplete : b.step e₂ .tick = some e₃ := by
    simp [Batch.step, h₂.pc_eq, Engine.completed, h₂.stop, e₃]
  have h₃ : Alone stream e₃ (.writing (.terminal false)) := by
    refine h₂.goto (e₂.close_pc false) ?_ ?_ (e₂.close_writes false) ?_
    · rw [e₂.close_control, h₂.control]
      rfl
    · rw [e₂.close_queue, h₂.queue]
    · exact e₂.close_log_filterMap _ (fun _ _ _ => rfl) false
  let e₄ := b.wrote e₃ (.terminal false) "" (.ok ())
  have hterminal : b.step e₃ (.write "" (.ok ())) = some e₄ := by simp [Batch.step, h₃.pc_eq, e₄]
  have h₄ : Alone stream e₄ .reporting := h₃.write rfl rfl rfl rfl
  let e₅ := b.reported e₄ ""
  have hreport : b.step e₄ (.clock "") = some e₅ := by simp [Batch.step, h₄.pc_eq, e₅]
  refine ⟨e₅, _, ((((Machine.Reaches.single hwrite).trans hreach₂).tail hcomplete).tail
    hterminal).tail hreport, h₄.goto rfl rfl h₄.queue rfl rfl⟩

/-- From the admission check on, the run ends with whatever it is answered. -/
theorem finish (more : Nat) (h : Alone stream e (.admission task a))
    (hmore : b.policy.maxAttempts ≤ a.attempts + more) :
    ∃ e' report, Machine.Reaches b.step e e' ∧ Alone stream e' (.returned (.ok report)) := by
  -- The induction is on the attempts that are left.
  induction more generalizing e a with
  | zero =>
      rcases h.ask with ⟨e₁, hreach₁, h₁⟩
      rcases h₁.hear (b := b) with ⟨e₂, hreach₂, ⟨h₂, hrows⟩ | ⟨a', -, hless, -⟩⟩
      · rcases h₂.wind_up (b := b) hrows with ⟨e₃, report, hreach₃, h₃⟩
        exact ⟨e₃, report, (hreach₁.trans hreach₂).trans hreach₃, h₃⟩
      · exact absurd hless (by simp; omega)
  | succ more ih =>
      rcases h.ask with ⟨e₁, hreach₁, h₁⟩
      rcases h₁.hear (b := b) with ⟨e₂, hreach₂, ⟨h₂, hrows⟩ | ⟨a', hattempts, -, h₂⟩⟩
      · rcases h₂.wind_up (b := b) hrows with ⟨e₃, report, hreach₃, h₃⟩
        exact ⟨e₃, report, (hreach₁.trans hreach₂).trans hreach₃, h₃⟩
      · have hleft : b.policy.maxAttempts ≤ a'.attempts + more := by
          rw [hattempts]
          simp
          omega
        rcases ih h₂ hleft with ⟨e₃, report, hreach₃, h₃⟩
        exact ⟨e₃, report, (hreach₁.trans hreach₂).trans hreach₃, h₃⟩

end Alone

/-- With the session established, a batch of one comes to a report, whatever its submissions are
answered. -/
theorem Batch.exists_run {trainee : TraineeRef} (hone : b.trainees = [trainee])
    (store : CheckpointStore) (stream : Nat → Reply) :
    ∃ e report, b.Uncontrolled store e ∧ Alone stream e (.returned (.ok report)) := by
  let task : Task := toTask (queueKey trainee 0, trainee)
  let e₀ := b.start none store
  let e₁ : Engine := { e₀.emit (.requested (.ensureSession "")) with pc := .ensuring "" }
  have hensure : b.step e₀ (.newId "") = some e₁ := rfl
  let e₂ := b.sessionEnsured e₁ (.ok { status := .ok })
  have hsession : b.step e₁ (.reply (.ok { status := .ok })) = some e₂ := rfl
  have hcontrol : e₂.control = none := rfl
  have hqueue : e₂.queue.tasks = [task] := by
    change ((dedupe b.trainees).foldl _ TaskQueue.new).tasks = [task]
    rw [TaskQueue.tasks_foldl_enqueue, hone]
    rfl
  -- The one task is taken from the queue.
  let e₃ : Engine := { e₂ with pc := .dequeue }
  have hboundary : b.step e₂ .tick = some e₃ := by
    have hstay : e₂.controlBoundary = e₃ := by
      simp [Engine.controlBoundary, Engine.stopRequested, Engine.pauseRequested, hcontrol,
        TaskQueue.isEmpty, hqueue, e₃]
    exact congrArg some hstay
  let e₄ : Engine := { e₃ with queue := .new, pc := .writing (.inFlight task) }
  have htake : b.step e₃ .tick = some e₄ := by
    have htaken : e₃.queue.dequeue = some (task, .new) :=
      TaskQueue.dequeue_eq_some.2 (by simp [e₃, hqueue])
    have hdequeued : e₃.dequeued = some e₄ := by
      simp [Engine.dequeued, Engine.stopRequested, hcontrol, htaken, e₃, e₄]
    exact hdequeued
  have h₄ : Alone stream e₄ (.writing (.inFlight task)) :=
    { pc_eq := rfl
      control := hcontrol
      queue := rfl
      landed := fun w hw => by cases hw
      follows := Follows.nil stream }
  -- Written down as in flight, it is entered.
  let e₅ := b.wrote e₄ (.inFlight task) "" (.ok ())
  have hwrite : b.step e₄ (.write "" (.ok ())) = some e₅ := rfl
  have h₅ : Alone stream e₅ (.entering task) := h₄.write rfl rfl rfl rfl
  let e₆ := e₅.entered task ""
  have henter : b.step e₅ (.newId "") = some e₆ := rfl
  have h₆ : Alone stream e₆
      (.admission task { jobId := "", attempts := 0, retryResult := none }) := by
    refine h₅.goto rfl (e₅.transition_control _) ?_ (e₅.transition_writes _)
      (e₅.transition_answersHeard _)
    exact (congrArg TaskQueue.tasks (e₅.transition_queue _)).trans h₅.queue
  rcases h₆.finish (b := b) b.policy.maxAttempts (Nat.le_add_left _ _) with
    ⟨e₇, report, hreach, h₇⟩
  have hbefore : b.Uncontrolled store e₂ := (Machine.Reaches.single hensure).tail hsession
  have hadmission := (((hbefore.tail hboundary).tail htake).tail hwrite).tail henter
  exact ⟨e₇, report, hadmission.trans hreach, h₇⟩

end Batch

/-! ## Agreement -/

/-- A batch of one trainee, under the policy of a single run. -/
def batchOfOne (trainee : TraineeRef) (session : SessionInput) (startedAt : String)
    (carried : List TrainingResult) : Batch :=
  { policy := Single.policy
    session := session
    startedAt := startedAt
    trainees := [trainee]
    carried := carried }

/-- The row of a trainee whom the portal had already. -/
def DuplicateRow (e : Engine) (row : TrainingResult) : Prop :=
  row.outcome = .failed ∧ row.errorCode = some "DUPLICATE_RECORD" ∧
    ∃ reply, e.answersHeard.getLast? = some reply ∧ FromDuplicate reply

/-- The exit code of a single run says what the report of a batch says about its one own row. -/
structure Agrees (b : Batch) (s : Single) (code : Nat) (e : Engine) (report : BatchReport) :
    Prop where
  requests : s.sends = e.submissions
  halts : code = 3 ↔ report.aborted = true
  accepts : code = 0 ↔
    ∃ row, report.results = b.carried ++ [row] ∧ (row.outcome = .success ∨ DuplicateRow e row)
  rejects : code = 4 ↔ report.aborted = false ∧
    ∃ row, report.results = b.carried ++ [row] ∧ row.outcome = .failed ∧ ¬DuplicateRow e row

/-- A duplicate is recorded as a failure with its own code. -/
theorem recorded_of_fromDuplicate {reply : Reply} (h : FromDuplicate reply) :
    replyOutcome reply = .failed ∧ replyCode reply = some "DUPLICATE_RECORD" := by
  cases reply with
  | error text => exact h.elim
  | ok resp =>
      rcases h with ⟨hstatus, hduplicate⟩
      simp [replyOutcome, replyCode, settleSubmit, hstatus, hduplicate]

/-- How the batch ended, and what a single run that ended at the same reply exits with. -/
theorem EndsWith.agrees {b : Batch} {e : Engine} {report : BatchReport} {row : TrainingResult}
    {reply : Reply} (h : EndsWith b e report row reply) {s : Single} {code : Nat}
    (hsends : s.sends = e.submissions) (hexit : ExitCode reply code) :
    Agrees b s code e report := by
  rcases hexit with ⟨hthree, hzero, hfour⟩
  have hlast : e.answersHeard.getLast? = some reply := h.settled.last_eq
  have honly : ∀ {row'}, report.results = b.carried ++ [row'] → row' = row := by
    intro row' hrow'
    have hsame := List.append_cancel_left (hrow'.symm.trans h.results)
    exact List.singleton_inj.1 hsame
  have hduplicate : DuplicateRow e row ↔ FromDuplicate reply := by
    constructor
    · rintro ⟨-, -, reply', hlast', hfrom⟩
      rw [hlast] at hlast'
      cases hlast'
      exact hfrom
    · intro hfrom
      rcases recorded_of_fromDuplicate hfrom with ⟨hfailed, hcode⟩
      exact ⟨h.outcome.trans hfailed, h.code.trans hcode, reply, hlast, hfrom⟩
  have hkept : report.aborted = false ↔ ¬Halts reply := by
    rw [← h.aborted, Bool.not_eq_true]
  refine ⟨hsends, hthree.trans h.aborted.symm, ?_, ?_⟩
  · rw [hzero, ← h.outcome, ← hduplicate]
    constructor
    · exact fun hrow => ⟨row, h.results, hrow⟩
    · rintro ⟨row', hrow', hread⟩
      exact honly hrow' ▸ hread
  · rw [hfour, hkept, ← h.outcome, ← hduplicate]
    constructor
    · rintro ⟨hhalts, hfailed, hother⟩
      exact ⟨hhalts, row, h.results, hfailed, hother⟩
    · rintro ⟨hhalts, row', hrow', hread⟩
      exact ⟨hhalts, honly hrow' ▸ hread⟩

/-- Over one stream of replies a single run and a batch of one send the same number of requests and
come to the same verdict. Both do come to an end over every stream, and a run that ends without a
verdict, because the session was not established, has sent nothing. -/
theorem single_and_batch_agree (trainee : TraineeRef) (session : SessionInput) (startedAt : String)
    (carried : List TrainingResult) (store : CheckpointStore) :
    let job : SingleJob := { trainee := trainee, session := session }
    let b := batchOfOne trainee session startedAt carried
    (∀ (stream : Nat → Reply) (s : Single) (line : String) (code : Nat) (e : Engine)
        (report : BatchReport),
      Single.Reachable job s → s.pc = .exited (some line) code → Follows stream s.replies →
        b.Uncontrolled store e → (∀ w ∈ e.writes, w.2 = true) → e.pc = .returned (.ok report) →
          Follows stream e.answersHeard → Agrees b s code e report) ∧
      (∀ stream : Nat → Reply,
        (∃ s line code, Single.Reachable job s ∧ s.pc = .exited (some line) code ∧
          Follows stream s.replies) ∧
          ∃ e report, b.Uncontrolled store e ∧ (∀ w ∈ e.writes, w.2 = true) ∧
            e.pc = .returned (.ok report) ∧ Follows stream e.answersHeard) ∧
        (∀ s code, Single.Reachable job s → s.pc = .exited none code → s.sends = 0) ∧
          ∀ e text, b.Uncontrolled store e → (∀ w ∈ e.writes, w.2 = true) →
            e.pc = .returned (.error text) → e.submissions = 0 := by
  intro job b
  refine ⟨?_, ?_, ?_, ?_⟩
  · intro stream s line code e report hsingle hexited hfollows hbatch hlanded hreturned hfollows'
    rcases hsingle.exits with ⟨-, hpaced, hexits⟩
    rcases hexits (some line) code hexited with ⟨reply, hsettled, hexit⟩
    rcases hbatch.endsWith rfl hlanded hreturned with ⟨row, reply', hends⟩
    -- The two loops heard the same answers, so they stopped at the same one.
    rcases hsettled.unique hends.settled hfollows hfollows' with ⟨hheard, rfl⟩
    refine hends.agrees ?_ hexit
    calc s.sends = s.replies.length + s.outstanding := hpaced
      _ = s.replies.length := by simp [Single.outstanding, hexited]
      _ = e.answersHeard.length := congrArg List.length hheard
      _ = e.submissions := hends.submissions.symm
  · intro stream
    rcases Single.exists_run job stream with ⟨s, line, code, hsingle, hexited, hfollows⟩
    have hone : b.trainees = [trainee] := rfl
    rcases b.exists_run hone store stream with ⟨e, report, hbatch, halone⟩
    exact ⟨⟨s, line, code, hsingle, hexited, hfollows⟩,
      e, report, hbatch, halone.landed, halone.pc_eq, halone.follows⟩
  · intro s code hsingle hexited
    rcases hsingle.exits with ⟨-, -, hexits⟩
    exact hexits none code hexited
  · intro e text hbatch _ hreturned
    exact (hbatch.error_unsent hreturned).2

end DsspBot

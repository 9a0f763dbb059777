import DsspBot.Cli.Single
import DsspBot.Engine.Verdict
import DsspBot.Lib.Retry

/-!
# Ending — what a single run and a batch of one end with

`run_single` reads a reply with `decideSubmit`, the batch with `settleSubmit`. Both stop at the
first reply that allows no retry or that uses up the attempts, and the exit code of the one and the
row of the other are what that reply says.
-/

namespace DsspBot

open Retry (Follows Settled)

/-! ## The two readings of a reply -/

/-- The portal says that it has the record already. -/
def FromDuplicate : Reply → Prop
  | .error _ => False
  | .ok resp => resp.status = .ok ∧ resp.outcome = some "duplicate"

/-- How both functions read one reply: one constructor for each pair of branches that meet. -/
inductive ReadAs (resp : Response) : Prop
  | confirmed {text : String} (hdecide : decideSubmit resp = .accept text)
      (hsettle : settleSubmit resp = .success)
  | duplicate {text message : String} (hdecide : decideSubmit resp = .accept text)
      (hsettle : settleSubmit resp = .failed "DUPLICATE_RECORD" message)
      (hfrom : FromDuplicate (.ok resp))
  /-- Settled as a failure that a retry cannot fix and that concerns nobody else. -/
  | refused {text code message : String} (hdecide : decideSubmit resp = .reject text)
      (hsettle : settleSubmit resp = .failed code message) (hkeeps : abortsBatch code = false)
      (hfinal : isRecoverable code = false) (hfrom : ¬FromDuplicate (.ok resp))
  /-- Settled as a failure, and still the end of the batch. -/
  | aborting {text code message : String} (hdecide : decideSubmit resp = .halt text)
      (hsettle : settleSubmit resp = .failed code message) (haborts : abortsBatch code = true)
      (hfrom : ¬FromDuplicate (.ok resp))
  | unaccountable {text message : String} (hdecide : decideSubmit resp = .halt text)
      (hsettle : settleSubmit resp = .indeterminate message) (hfrom : ¬FromDuplicate (.ok resp))
  | retried {text code message : String} (hdecide : decideSubmit resp = .retry text)
      (hsettle : settleSubmit resp = .retry code message) (hkeeps : abortsBatch code = false)
      (hfrom : ¬FromDuplicate (.ok resp))

/-- What leaves the submission unaccounted for is read so by both. -/
theorem readAs_of_unaccountable {resp : Response} (h : Unaccountable (.ok resp))
    (hfrom : ¬FromDuplicate (.ok resp)) : ReadAs resp := by
  rcases decideSubmit_of_unaccountable h with ⟨text, hdecide⟩
  rcases (settleSubmit_indeterminate_iff resp).2 h with ⟨message, hsettle⟩
  exact .unaccountable hdecide hsettle hfrom

theorem readAs_ok {resp : Response} (hstatus : resp.status = .ok) : ReadAs resp := by
  by_cases hconfirmed : resp.outcome = some "confirmed"
  · have hsettle : settleSubmit resp = .success := by simp [settleSubmit, hstatus, hconfirmed]
    cases hreference : resp.reference with
    | none =>
        have hdecide : decideSubmit resp = .accept "confirmed" := by
          simp [decideSubmit, hstatus, hconfirmed, hreference]
        exact .confirmed hdecide hsettle
    | some r =>
        have hdecide : decideSubmit resp = .accept s!"confirmed (ref {r})" := by
          simp [decideSubmit, hstatus, hconfirmed, hreference]
        exact .confirmed hdecide hsettle
  by_cases hduplicate : resp.outcome = some "duplicate"
  · have hdecide : decideSubmit resp =
        .accept ("duplicate — " ++ resp.message.getD "already recorded") := by
      simp [decideSubmit, hstatus, hduplicate]
    have hsettle : settleSubmit resp =
        .failed "DUPLICATE_RECORD" (resp.message.getD "already recorded") := by
      simp [settleSubmit, hstatus, hduplicate]
    exact .duplicate hdecide hsettle ⟨hstatus, hduplicate⟩
  have hfrom : ¬FromDuplicate (.ok resp) := fun h => hduplicate h.2
  by_cases hrejected : resp.outcome = some "rejected"
  · have hdecide : decideSubmit resp =
        .reject ("rejected — " ++ resp.message.getD "portal refused the record") := by
      simp [decideSubmit, hstatus, hrejected]
    have hsettle : settleSubmit resp =
        .failed "SUBMISSION_FAILED" (resp.message.getD "portal refused the record") := by
      simp [settleSubmit, hstatus, hrejected]
    exact .refused hdecide hsettle rfl rfl hfrom
  -- Any other outcome, and none at all.
  refine readAs_of_unaccountable ?_ hfrom
  simp [Unaccountable, hstatus, hconfirmed, hduplicate, hrejected]

theorem readAs_error {resp : Response} (hstatus : resp.status = .error) : ReadAs resp := by
  have hfrom : ¬FromDuplicate (.ok resp) := by simp [FromDuplicate, hstatus]
  by_cases hproves : resp.provesNothingSubmitted = some true
  · by_cases haborts : abortsBatch (resp.errorCode.getD "SUBMISSION_FAILED") = true
    · exact .aborting (by simp [decideSubmit, hstatus, haborts]; rfl)
        (by simp [settleSubmit, hstatus, hproves, haborts]; rfl) haborts hfrom
    · have hkeeps := Bool.eq_false_iff.2 haborts
      by_cases hrecoverable : isRecoverable (resp.errorCode.getD "SUBMISSION_FAILED") = true
      · exact .retried (by simp [decideSubmit, hstatus, hproves, hkeeps, hrecoverable]; rfl)
          (by simp [settleSubmit, hstatus, hproves, hkeeps, hrecoverable]; rfl) hkeeps hfrom
      · exact .refused (by simp [decideSubmit, hstatus, hproves, hkeeps, hrecoverable]; rfl)
          (by simp [settleSubmit, hstatus, hproves, hkeeps, hrecoverable]; rfl) hkeeps
          (Bool.eq_false_iff.2 hrecoverable) hfrom
  · -- Without the proof flag no code matters.
    refine readAs_of_unaccountable ?_ hfrom
    simpa [Unaccountable, hstatus] using hproves

theorem readAs (resp : Response) : ReadAs resp := by
  cases hstatus : resp.status with
  | ready =>
      refine readAs_of_unaccountable ?_ ?_
      · simp [Unaccountable, hstatus]
      · simp [FromDuplicate, hstatus]
  | ok => exact readAs_ok hstatus
  | error => exact readAs_error hstatus

/-- The verdict of a single run on the reply it ends with: 0 where the record is there, 3 where a
human has to look, 4 where the portal has nothing. -/
def ExitCode (reply : Reply) (code : Nat) : Prop :=
  (code = 3 ↔ Halts reply) ∧
    (code = 0 ↔ replyOutcome reply = .success ∨ FromDuplicate reply) ∧
      (code = 4 ↔ ¬Halts reply ∧ replyOutcome reply = .failed ∧ ¬FromDuplicate reply)

/-- Where a reply ends the single run, the exit code says how a row would record it. -/
theorem Single.decided_exitCode {jobId : String} {attempt code : Nat} {reply : Reply}
    {line : Option String} (h : Single.decided jobId attempt reply = .exited line code) :
    ExitCode reply code := by
  cases reply with
  | error text =>
      have hcode : 3 = code := by simpa [Single.decided] using (SinglePc.exited.inj h).2
      subst hcode
      simp [ExitCode, Halts, replyOutcome, FromDuplicate]
  | ok resp =>
      unfold ExitCode Halts replyOutcome replyCode
      simp only [Single.decided] at h
      cases readAs resp with
      | confirmed hdecide hsettle =>
          simp only [hdecide, SinglePc.exited.injEq] at h
          simp [hsettle, ← h.2]
      | duplicate hdecide hsettle hfrom =>
          simp only [hdecide, SinglePc.exited.injEq] at h
          simp [hsettle, hfrom, ← h.2]
      | refused hdecide hsettle hkeeps _ hfrom =>
          simp only [hdecide, SinglePc.exited.injEq] at h
          have hcode := (abortsBatch_iff _).not.1 (Bool.eq_false_iff.1 hkeeps)
          simp [hsettle, hfrom, hcode, ← h.2]
      | aborting hdecide hsettle haborts hfrom =>
          simp only [hdecide, SinglePc.exited.injEq] at h
          have hcode := (abortsBatch_iff _).1 haborts
          simp [hsettle, hfrom, hcode, ← h.2]
      | unaccountable hdecide hsettle hfrom =>
          simp only [hdecide, SinglePc.exited.injEq] at h
          simp [hsettle, hfrom, ← h.2]
      | retried hdecide hsettle hkeeps hfrom =>
          -- A retry ends the run only once the attempts are used up.
          simp only [hdecide] at h
          split at h
          · simp only [SinglePc.exited.injEq] at h
            have hcode := (abortsBatch_iff _).not.1 (Bool.eq_false_iff.1 hkeeps)
            simp [hsettle, hfrom, hcode, ← h.2]
          · cases h

namespace Single

variable {job : SingleJob} {s s' : Single}

/-! ## How a single run ends -/

/-- The submissions whose answer has not come yet. -/
def outstanding (s : Single) : Nat :=
  match s.pc with
  | .awaiting _ _ => 1
  | _ => 0

/-- Every submission but an outstanding one was answered once. -/
def Paced (s : Single) : Prop :=
  s.sends = s.replies.length + s.outstanding

/-- A run that exits with a line to print stopped at replies that settle it, and one without never
got to submit. -/
def Exits (s : Single) : Prop :=
  ∀ line code, s.pc = .exited line code →
    match line with
    | none => s.sends = 0
    | some _ =>
        ∃ reply, Settled AllowsRetry (max 1 policy.maxAttempts) s.replies reply ∧
          ExitCode reply code

/-- A reply that allows a retry ends the run only once the attempts are used up. -/
theorem spent_of_exited {jobId : String} {attempt code : Nat} {reply : Reply} {line : Option String}
    (h : decided jobId attempt reply = .exited line code) (hallows : AllowsRetry reply) :
    policy.maxAttempts ≤ attempt := by
  rcases hallows with ⟨resp, rfl, hproves⟩
  rcases settleSubmit_of_provesRetry hproves with ⟨message, hsettle⟩
  rcases (decideSubmit_retry_iff resp).2 ⟨_, _, hsettle⟩ with ⟨text, hdecide⟩
  by_contra hmore
  simp [decided, hdecide, hmore] at h

theorem outstanding_of_early {s : Single} (hpc : early s.pc = true) : s.outstanding = 0 := by
  unfold outstanding
  split
  · next hpc' => simp [hpc', early] at hpc
  · rfl

theorem Paced.step (h : Paced s) {input : SingleInput} (hstep : step job s input = some s') :
    Paced s' := by
  unfold Paced at h ⊢
  cases step_cases hstep with
  | early asked hpc hpc' hlog =>
      have hnone : s'.outstanding = 0 := by
        rcases hpc' with hearly | hexited
        · exact outstanding_of_early hearly
        · simp [outstanding, hexited]
      rw [sends_of_asked hlog, replies_of_asked hlog, hnone, h, outstanding_of_early hpc]
  | began hpc => simpa [sends, replies, outstanding, hpc] using h
  | submitted hpc => simpa [sends, replies, outstanding, hpc] using h
  | @heard jobId attempt reply hpc =>
      -- The answer that was owed is in.
      have hsettled : ({ pc := decided jobId attempt reply, log := s.log ++ [.replied reply] } :
          Single).outstanding = 0 := by
        unfold outstanding
        rcases decided_cases jobId attempt reply with ⟨line, code, heq, -⟩ | ⟨heq, -⟩ <;>
          simp [heq]
      rw [hsettled]
      simpa [sends, replies, outstanding, hpc] using h
  | slept hpc => simpa [sends, replies, outstanding, hpc] using h

/-- Whatever ends a run after a submission has a line to print. -/
theorem line_of_decided {jobId : String} {attempt code : Nat} {reply : Reply} {line : Option String}
    (h : decided jobId attempt reply = .exited line code) : ∃ text, line = some text := by
  cases reply with
  | error text => exact ⟨_, (SinglePc.exited.inj h).1.symm⟩
  | ok resp =>
      simp only [decided] at h
      split at h
      · exact ⟨_, (SinglePc.exited.inj h).1.symm⟩
      · exact ⟨_, (SinglePc.exited.inj h).1.symm⟩
      · exact ⟨_, (SinglePc.exited.inj h).1.symm⟩
      · split at h
        · exact ⟨_, (SinglePc.exited.inj h).1.symm⟩
        · cases h

/-- Only the answer to a submission leads to a verdict. -/
theorem exits_of_step (hinv : Inv s) (hpaced : Paced s) {input : SingleInput}
    (hstep : step job s input = some s') : Exits s' := by
  intro line code hexit
  cases step_cases hstep with
  | early asked hpc hpc' hlog =>
      rcases hpc' with hearly | hexited
      · simp [hexit, early] at hearly
      · -- The session gate says nothing on its way out.
        have hsame : SinglePc.exited line code = .exited none 1 := hexit.symm.trans hexited
        cases hsame
        exact (sends_of_asked hlog).trans ((count_of_early hpc).1 hinv.count).1
  | began _ => cases hexit
  | submitted _ => cases hexit
  | @heard jobId attempt reply hpc =>
      rcases hinv.count.at_pc hpc with ⟨hattempt, hbound, hagain⟩
      have hreplies : ({ pc := decided jobId attempt reply, log := s.log ++ [.replied reply] } :
          Single).replies = s.replies ++ [reply] := by
        simp [replies]
      have hlength : attempt = s.replies.length + 1 := by
        have hsends : s.sends = s.replies.length + s.outstanding := hpaced
        have hout : s.outstanding = 1 := by simp [outstanding, hpc]
        rw [hout] at hsends
        exact hattempt.trans hsends
      rcases line_of_decided hexit with ⟨text, rfl⟩
      refine ⟨reply, ?_, decided_exitCode hexit⟩
      rw [hreplies]
      refine ⟨List.getLast?_concat, ?_, ?_, ?_⟩
      · rw [List.dropLast_concat]
        exact hagain
      · rw [List.length_append]
        exact hlength ▸ hbound
      · intro hallows
        have hspent := spent_of_exited hexit hallows
        rw [List.length_append, List.length_singleton]
        omega
  | slept _ => cases hexit

theorem Reachable.exits (h : Reachable job s) : Inv s ∧ Paced s ∧ Exits s := by
  refine Machine.Reaches.invariant (P := fun s => Inv s ∧ Paced s ∧ Exits s) ?_
    ⟨inv_start, rfl, ?_⟩ h
  · rintro x input x' ⟨hinv, hpaced, -⟩ hstep
    exact ⟨hinv.step hstep, hpaced.step hstep, exits_of_step hinv hpaced hstep⟩
  · intro line code hexit
    cases hexit

end Single

/-! ## How a batch of one ends -/

section Batch

variable {b : Batch} {store : CheckpointStore} {e e' : Engine}

theorem Engine.transitionOrReturn_control (e : Engine) (target : AutomationState) (next : Pc) :
    (e.transitionOrReturn target next).control = e.control := by
  unfold Engine.transitionOrReturn
  split
  · exact e.transition_control target
  · exact e.transition_control target

/-- Without a controller nobody can stop or pause the run. -/
theorem Batch.Step.control_none (h : b.Step e e') (hcontrol : e.control = none) :
    e'.control = none := by
  have hclosed : ∀ {x : Engine} (stopped : Bool), x.control = none →
      (x.close stopped).control = none := by
    intro x stopped hnone
    rw [x.close_control, hnone]
    rfl
  cases h with
  | accepted _ hsome _ => simp [hcontrol] at hsome
  | @landed site _ _ =>
      cases site with
      | pause => exact (Engine.transitionOrReturn_control _ _ _).trans hcontrol
      | resume => exact (Engine.transitionOrReturn_control _ _ _).trans hcontrol
      | boundaryStop => exact (Engine.abandon_control _ _).trans hcontrol
      | abortStop => exact (Engine.abandon_control _ _).trans hcontrol
      | lateStop => exact hclosed true ((Engine.abandon_control _ _).trans hcontrol)
      | _ => exact hcontrol
  | @failed site _ _ _ =>
      cases site with
      | inFlight task => exact (Engine.abandon_control _ _).trans hcontrol
      | terminal stopped => cases stopped <;> exact hcontrol
      | _ => exact hcontrol
  | entered _ => exact (e.transition_control _).trans hcontrol
  | submitted _ => exact (e.transition_control _).trans hcontrol
  | settled _ _ => exact (Engine.transition_control _ _).trans hcontrol
  | retrying _ _ _ => exact (Engine.transition_control _ _).trans hcontrol
  | aborted _ _ _ _ => exact (e.abandon_control _).trans hcontrol
  | closing _ _ => exact hclosed _ hcontrol
  | _ => exact hcontrol

/-- A row that failed with a code a retry may clear was given up after the last attempt. -/
def GaveUp (policy : RetryPolicy) (row : TrainingResult) : Prop :=
  row.outcome = .failed → ∀ code, row.errorCode = some code → isRecoverable code = true →
    policy.maxAttempts ≤ row.attempts

theorem gaveUp_of_not_failed {policy : RetryPolicy} {row : TrainingResult}
    (h : row.outcome ≠ .failed) : GaveUp policy row :=
  fun hfailed => absurd hfailed h

/-- A reply that is settled as a failure has a code that no retry clears. -/
theorem not_recoverable_of_failed {resp : Response} {code message : String}
    (h : settleSubmit resp = .failed code message) : isRecoverable code = false := by
  cases readAs resp with
  | confirmed _ hsettle => simp [hsettle] at h
  | duplicate _ hsettle _ =>
      have heq : "DUPLICATE_RECORD" = code := by simpa using (Settle.failed.inj (hsettle ▸ h)).1
      rw [← heq]
      rfl
  | refused _ hsettle _ hfinal _ => exact (Settle.failed.inj (hsettle ▸ h)).1 ▸ hfinal
  | aborting _ hsettle haborts _ =>
      have heq := (Settle.failed.inj (hsettle ▸ h)).1
      rw [heq] at haborts
      rcases (abortsBatch_iff code).1 haborts with rfl | rfl
      · rfl
      · rfl
  | unaccountable _ hsettle _ => simp [hsettle] at h
  | retried _ hsettle _ _ => simp [hsettle] at h

theorem Engine.transitionOrReturn_results (e : Engine) (target : AutomationState) (next : Pc) :
    (e.transitionOrReturn target next).results = e.results := by
  unfold Engine.transitionOrReturn
  split
  · exact e.transition_results target
  · exact e.transition_results target

/-- What a step does to the rows. -/
inductive Batch.Rows (b : Batch) (e e' : Engine) : Prop
  | same (hrows : e'.results = e.results)
  | settled {row : TrainingResult} (hrows : e'.results = e.results ++ [row])
      (hrow : e.stopRequested = true ∨ GaveUp b.policy row)
  | drained {tasks : List Task} {reason : String}
      (hrows : e'.results = e.results ++ tasks.map (skippedRow reason))

theorem Batch.Step.rows (h : b.Step e e') : b.Rows e e' := by
  cases h with
  | @landed site _ _ =>
      cases site with
      | pause => exact .same (Engine.transitionOrReturn_results _ _ _)
      | resume => exact .same (Engine.transitionOrReturn_results _ _ _)
      | boundaryStop => exact .drained (Engine.abandon_results _ _)
      | abortStop => exact .drained (Engine.abandon_results _ _)
      | lateStop => exact .drained ((Engine.close_results _ _).trans (Engine.abandon_results _ _))
      | _ => exact .same rfl
  | @failed site _ _ _ =>
      cases site with
      | inFlight task => exact .drained (Engine.abandon_results _ _)
      | terminal stopped => cases stopped <;> exact .same rfl
      | _ => exact .same rfl
  | entered _ => exact .same (e.transition_results _)
  | withdrawn _ hstop => exact .settled rfl (Or.inl hstop)
  | submitted _ => exact .same (e.transition_results _)
  | lost _ => exact .settled rfl (Or.inr (gaveUp_of_not_failed (by simp [transportRow])))
  | @settled task a resp outcome code message hpc hsettle =>
      have hnew : GaveUp b.policy (replyRow task a.attempts resp outcome code message) := by
        rcases hsettle with
          ⟨-, ho, -⟩ | ⟨c, m, hs, -, hc⟩ | ⟨m, -, ho, -⟩ | ⟨c, m, -, hmax, -, -⟩
        · exact gaveUp_of_not_failed (by simp [replyRow, ho])
        · intro _ found hfound hrecoverable
          have heq : c = found := by simpa [replyRow, hc] using hfound
          have hfinal := not_recoverable_of_failed hs
          simp [heq, hrecoverable] at hfinal
        · exact gaveUp_of_not_failed (by simp [replyRow, ho])
        · exact fun _ _ _ _ => hmax
      exact .settled (congrArg (· ++ [_]) (Engine.transition_results _ _)) (Or.inr hnew)
  | retrying _ _ _ => exact .same (Engine.transition_results _ _)
  | aborted _ _ _ _ => exact .drained (e.abandon_results _)
  | closing _ _ => exact .same (e.close_results _)
  | _ => exact .same rfl

/-- While no stop is in, a step adds only rows that were not given up early. -/
theorem Batch.Rows.gaveUp (h : b.Rows e e') (hstop : e.stopRequested = false) {n : Nat}
    {row : TrainingResult} (hrow : row ∈ e'.results.drop n) :
    row ∈ e.results.drop n ∨ GaveUp b.policy row := by
  cases h with
  | same hrows => exact Or.inl (hrows ▸ hrow)
  | settled hrows hnew =>
      rw [hrows, List.drop_append] at hrow
      rcases List.mem_append.1 hrow with hbefore | hlast
      · exact Or.inl hbefore
      · rw [List.mem_singleton.1 (List.mem_of_mem_drop hlast)]
        exact Or.inr (hnew.resolve_left (by simp [hstop]))
  | drained hrows =>
      rw [hrows, List.drop_append] at hrow
      rcases List.mem_append.1 hrow with hbefore | hskipped
      · exact Or.inl hbefore
      · rcases List.mem_map.1 (List.mem_of_mem_drop hskipped) with ⟨task, -, rfl⟩
        exact Or.inr (gaveUp_of_not_failed (by simp [skippedRow]))

/-! ### A run without a controller -/

/-- A state of a run that nobody controls. -/
def Batch.Uncontrolled (b : Batch) (store : CheckpointStore) (e : Engine) : Prop :=
  Machine.Reaches b.step (b.start none store) e

theorem Batch.Uncontrolled.reachable (h : b.Uncontrolled store e) : b.Reachable store e :=
  ⟨none, Or.inl rfl, h⟩

/-- Nobody stops the run, and every row of its own that failed was given up in time. -/
structure Unstopped (b : Batch) (e : Engine) : Prop where
  control : e.control = none
  gaveUp : ∀ row ∈ e.results.drop b.carried.length, GaveUp b.policy row

theorem Unstopped.stop (h : Unstopped b e) : e.stopRequested = false := by
  simp [Engine.stopRequested, h.control]

theorem Batch.Uncontrolled.unstopped (h : b.Uncontrolled store e) : Unstopped b e := by
  refine Machine.Reaches.invariant (P := Unstopped b) ?_ ⟨?_, ?_⟩ h
  · intro x input x' hx hinput
    have hstep := Batch.step_cases hinput
    refine ⟨hstep.control_none hx.control, ?_⟩
    intro row hrow
    rcases hstep.rows.gaveUp hx.stop hrow with hbefore | hnew
    · exact hx.gaveUp row hbefore
    · exact hnew
  · exact Engine.transition_control _ _
  · intro row hrow
    have hstart : (b.start none store).results = b.carried := Engine.transition_results _ _
    simp [hstart] at hrow

/-! ### One trainee -/

namespace Engine

/-- How many submissions a run has sent, and what was answered to them. -/
def submissions (e : Engine) : Nat :=
  e.log.countP fun
    | .submitted _ _ => true
    | _ => false

def answersHeard (e : Engine) : List Reply :=
  e.log.filterMap fun
    | .replied _ reply => some reply
    | _ => none

end Engine

/-- A run that worked on one task only: what it sent and heard is the history of that task. -/
theorem history_of_one {task : Task}
    (hall : ∀ t, (∃ req, EngineEvent.submitted t req ∈ e.log) ∨
      (∃ reply, EngineEvent.replied t reply ∈ e.log) → t = task) :
    e.submissions = WriteAhead.hands task e.trace ∧
      e.answersHeard = WriteAhead.answers task e.trace := by
  constructor
  · rw [Engine.trace, hands_filterMap]
    refine List.countP_congr ?_
    intro ev hev
    cases ev with
    | submitted t req => simp [hall t (Or.inl ⟨req, hev⟩)]
    | _ => simp
  · unfold Engine.answersHeard Engine.trace WriteAhead.answers
    rw [List.filterMap_filterMap]
    refine List.filterMap_congr ?_
    intro ev hev
    cases ev with
    | replied t reply => simp [EngineEvent.external, hall t (Or.inr ⟨reply, hev⟩)]
    | _ => rfl

/-- How a batch of one ends: its one own row is settled by the answers to its submissions, and
aborts the batch exactly if it says so. -/
structure EndsWith (b : Batch) (e : Engine) (report : BatchReport) (row : TrainingResult)
    (reply : Reply) : Prop where
  results : report.results = b.carried ++ [row]
  outcome : row.outcome = replyOutcome reply
  code : row.errorCode = replyCode reply
  settled : Settled AllowsRetry (max 1 b.policy.maxAttempts) e.answersHeard reply
  submissions : e.submissions = e.answersHeard.length
  aborted : report.aborted = true ↔ Halts reply

/-- A reply that allows a retry is recorded as a failure with a recoverable code. -/
theorem recorded_of_allowsRetry {reply : Reply} (h : AllowsRetry reply) :
    replyOutcome reply = .failed ∧
      ∃ code, replyCode reply = some code ∧ isRecoverable code = true := by
  rcases h with ⟨resp, rfl, hproves⟩
  rcases settleSubmit_of_provesRetry hproves with ⟨message, hsettle⟩
  exact ⟨by simp [replyOutcome, hsettle], _, by simp [replyCode, hsettle], hproves.recoverable⟩

/-- In a run that nobody stops and that loses no write, only a row can abort the batch. -/
theorem Batch.Uncontrolled.hasCause_iff (h : b.Uncontrolled store e)
    (hlanded : ∀ w ∈ e.writes, w.2 = true) :
    b.HasCause e ↔ ∃ row ∈ e.results.drop b.carried.length, shouldAbort row = true := by
  constructor
  · rintro (hstop | ⟨cp, -, hwrite⟩ | hrow)
    · simp [h.unstopped.stop] at hstop
    · cases hlanded _ hwrite
    · exact hrow
  · exact fun hrow => Or.inr (Or.inr hrow)

theorem Batch.Uncontrolled.endsWith {trainee : TraineeRef} (h : b.Uncontrolled store e)
    (hone : b.trainees = [trainee]) (hlanded : ∀ w ∈ e.writes, w.2 = true) {report : BatchReport}
    (hpc : e.pc = .returned (.ok report)) : ∃ row reply, EndsWith b e report row reply := by
  rcases h.reachable.sim with ⟨l, hsim⟩
  rcases hsim.stage.at_pc hpc with ⟨hclosing, hresults, -⟩
  have hverdict := terminal_verdict h.reachable hpc
  have hsound := hsim.sound
  have htasks : b.tasks = [toTask (queueKey trainee 0, trainee)] := by
    unfold Batch.tasks
    rw [hone]
    rfl
  -- The one task is closed, so the run has one row of its own.
  have hclosed := hsim.closed_eq hclosing
  rw [htasks] at hclosed
  rcases List.map_eq_singleton_iff.1 hclosed with ⟨⟨task, replies⟩, hentries, htask⟩
  rcases hsim.recorded with ⟨rows, hown, hrows⟩
  rw [hentries] at hrows
  rcases List.forall₂_cons_left_iff.1 hrows with ⟨row, rest, hrow, hrest, rfl⟩
  rcases List.forall₂_nil_left_iff.1 hrest with rfl
  have hentry : (task, replies) ∈ l.closed := by simp [hentries]
  have hist := hsound.tracked.closed _ hentry
  have haborted : report.aborted = true ↔ shouldAbort row = true := by
    rw [hverdict.aborted, h.hasCause_iff hlanded, hown, List.drop_left]
    simp
  -- Whether or not the batch was aborted, the task was answered.
  have hne : replies ≠ [] := by
    cases hreport : report.aborted with
    | true =>
        rcases hrow.shouldAbort_iff.1 (haborted.1 hreport) with ⟨reply, hlast, -⟩
        intro hnil
        simp [hnil] at hlast
    | false =>
        have hset : e.aborted = false := by
          rcases h.reachable.report_eq report hpc with ⟨now, rfl⟩
          exact hreport
        exact ((hclosing.finished hset).closed _ hentry).1
  have hlast := List.getLast?_eq_getLast_of_ne_nil hne
  have hanswered := hrow.answered _ hlast
  have hheard : e.submissions = WriteAhead.hands task e.trace ∧
      e.answersHeard = WriteAhead.answers task e.trace := by
    refine history_of_one ?_
    intro t hknown
    have hmem : t ∈ b.tasks := by
      refine hsound.tracked.known t ?_
      rw [← hsim.trace]
      rcases hknown with ⟨req, hsent⟩ | ⟨reply, hreplied⟩
      · exact Or.inl (List.mem_filterMap.2 ⟨_, hsent, rfl⟩)
      · exact Or.inr ⟨reply, List.mem_filterMap.2 ⟨_, hreplied, rfl⟩⟩
    rw [htasks, List.mem_singleton] at hmem
    exact hmem.trans htask.symm
  rw [hsim.trace, hist.answers_eq, hist.hands_eq] at hheard
  refine ⟨row, replies.getLast hne,
    { results := by rw [hresults]; exact hown
      outcome := hanswered.1
      code := hanswered.2.1
      settled := ?_
      submissions := by rw [hheard.1, hheard.2]
      aborted := ?_ }⟩
  · rw [hheard.2]
    refine ⟨hlast, hist.again, hist.within, ?_⟩
    intro hallows
    rcases recorded_of_allowsRetry hallows with ⟨hfailed, code, hcode, hrecoverable⟩
    have hspent := h.unstopped.gaveUp row (by rw [hown, List.drop_left]; exact List.mem_cons_self)
      (hanswered.1.trans hfailed) code (hanswered.2.1.trans hcode) hrecoverable
    rw [hrow.attempts] at hspent
    exact Nat.max_le.2 ⟨List.length_pos_iff.2 hne, hspent⟩
  · rw [haborted, hrow.shouldAbort_iff, hlast]
    simp

/-- The session gate, and the ways out of a run that are no report. -/
def Pc.atGate : Pc → Bool
  | .ensureSession => true
  | .ensuring _ => true
  | .returned (.error _) => true
  | _ => false

/-- The points of a pause. -/
def Pc.pausing : Pc → Bool
  | .writing .pause => true
  | .writing .resume => true
  | .paused => true
  | _ => false

/-- Nothing was written or sent at the gate, and nobody has paused the run. -/
structure Smooth (e : Engine) : Prop where
  gate : e.pc.atGate = true → e.writes = [] ∧ e.submissions = 0
  running : e.pc.pausing = false

theorem Smooth.of_inside (hgate : e.pc.atGate = false) (hrunning : e.pc.pausing = false) :
    Smooth e := by
  refine ⟨?_, hrunning⟩
  intro hset
  simp [hgate] at hset

/-- The points that only a control request leads to. -/
def Pc.steered : Pc → Bool
  | .paused => true
  | .writing .pause => true
  | .writing .resume => true
  | .writing .boundaryStop => true
  | .writing .abortStop => true
  | .writing .lateStop => true
  | .writing (.terminal stopped) => stopped
  | _ => false

/-- A run that nobody controls stays off these points, and finds its queue filled when it takes
from it. -/
structure Unsteered (e : Engine) : Prop extends Smooth e where
  control : e.control = none
  unsteered : e.pc.steered = false
  queued : e.pc = .dequeue → e.queue.tasks ≠ []

theorem Unsteered.stop (h : Unsteered e) : e.stopRequested = false := by
  simp [Engine.stopRequested, h.control]

theorem Unsteered.of_inside (hcontrol : e.control = none) (hgate : e.pc.atGate = false)
    (hunsteered : e.pc.steered = false) (hqueued : e.pc = .dequeue → e.queue.tasks ≠ []) :
    Unsteered e := by
  refine ⟨Smooth.of_inside hgate ?_, hcontrol, hunsteered, hqueued⟩
  -- The points of a pause are among the ones it stays off.
  unfold Pc.pausing
  split
  · next hpc => simp [hpc, Pc.steered] at hunsteered
  · next hpc => simp [hpc, Pc.steered] at hunsteered
  · next hpc => simp [hpc, Pc.steered] at hunsteered
  · rfl

theorem Unsteered.step (h : Unsteered e) (hstep : b.Step e e') : Unsteered e' := by
  have hcontrol := hstep.control_none h.control
  have hstop := h.stop
  have hoff := h.unsteered
  cases hstep with
  | accepted _ hsome _ => simp [h.control] at hsome
  | refused _ hsome _ => simp [h.control] at hsome
  | ensure hpc =>
      rcases h.gate (by simp [hpc, Pc.atGate]) with ⟨hwrites, hsent⟩
      refine ⟨⟨fun _ => ⟨?_, ?_⟩, rfl⟩, hcontrol, rfl, nofun⟩
      · exact (Engine.writes_of_unwritten rfl rfl).trans hwrites
      · simpa [Engine.submissions] using hsent
  | unensured hpc =>
      exact ⟨⟨fun _ => h.gate (by simp [hpc, Pc.atGate]), rfl⟩, hcontrol, rfl, nofun⟩
  | proceeding _ hqueue _ _ => exact .of_inside hcontrol rfl rfl fun _ => hqueue
  | boundaryStopped _ hset => simp [hstop] at hset
  | pausing _ _ _ hpause => simp [Engine.pauseRequested, h.control] at hpause
  | resuming hpc _ _ => simp [hpc, Pc.steered] at hoff
  | rechecked _ hset => simp [hstop] at hset
  | withdrawn _ hset => simp [hstop] at hset
  | abortStopped _ _ _ hset => simp [hstop] at hset
  | lateStopped _ hset _ => simp [hstop] at hset
  | @landed site now hpc =>
      rw [hpc] at hoff
      cases site with
      | inFlight task => exact .of_inside hcontrol rfl rfl nofun
      | settle => exact .of_inside hcontrol rfl rfl nofun
      | terminal stopped => exact .of_inside hcontrol rfl rfl nofun
      | _ => cases hoff
  | @failed site now text hpc =>
      rw [hpc] at hoff
      cases site with
      | inFlight task => exact .of_inside hcontrol rfl rfl nofun
      | settle => exact .of_inside hcontrol rfl rfl nofun
      | terminal stopped =>
          -- A failed terminal write is fatal only where a stop was acknowledged.
          have hnot : stopped = false := hoff
          subst hnot
          exact .of_inside hcontrol rfl rfl nofun
      | _ => cases hoff
  | closing hpc _ => exact .of_inside hcontrol rfl (by simp [Pc.steered, hstop]) nofun
  | _ => exact .of_inside hcontrol rfl rfl nofun

theorem Batch.Uncontrolled.unsteered (h : b.Uncontrolled store e) : Unsteered e := by
  refine Machine.Reaches.invariant (P := Unsteered) ?_ ?_ h
  · intro x input x' hx hinput
    exact hx.step (Batch.step_cases hinput)
  · exact ⟨⟨fun _ => ⟨Engine.transition_writes _ _, rfl⟩, rfl⟩, Engine.transition_control _ _, rfl,
      by simp [Batch.start]⟩

/-- A run that nobody controls fails at the session gate or not at all. -/
theorem Batch.Uncontrolled.error_unsent (h : b.Uncontrolled store e) {text : String}
    (hpc : e.pc = .returned (.error text)) : e.writes = [] ∧ e.submissions = 0 :=
  h.unsteered.gate (by simp [hpc, Pc.atGate])

end Batch

end DsspBot

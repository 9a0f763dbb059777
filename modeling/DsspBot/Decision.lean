import Mathlib.Algebra.Group.Nat.Defs
import DsspBot.Protocol

/-!
# Decision — retry and stop policy

`decideSubmit` answers what the operator should see, `settleSubmit` what goes in the batch row.
Both read the same reply; neither looks at how many attempts were made.
-/

namespace DsspBot

/-- What a single submission does with a reply. -/
inductive Decision
  /-- Success-side result: confirmed or duplicate. -/
  | accept (text : String)
  /-- Definitive failure a retry cannot fix. -/
  | reject (text : String)
  /-- Stop and require a human. -/
  | halt (text : String)
  /-- Provably nothing submitted and transient. -/
  | retry (text : String)
  deriving DecidableEq, Repr

structure RetryPolicy where
  maxAttempts : Nat := 3
  initialDelayMs : Nat := 500
  maxDelayMs : Nat := 5000
  backoffFactor : Nat := 2
  deriving DecidableEq, Repr

namespace RetryPolicy

/-- Saturation bound of the source's `u64` delays. -/
def u64Max : Nat := 2 ^ 64 - 1

def delayForAttempt (policy : RetryPolicy) (attempt : Nat) : Nat :=
  -- Natural subtraction is the source's `saturating_sub`, so attempt 0 waits like attempt 1.
  let factor := min (policy.backoffFactor ^ (attempt - 1)) u64Max
  let raw := min (policy.initialDelayMs * factor) u64Max
  min raw policy.maxDelayMs

theorem delayForAttempt_le (policy : RetryPolicy) (attempt : Nat) :
    policy.delayForAttempt attempt ≤ policy.maxDelayMs :=
  Nat.min_le_right _ _

end RetryPolicy

/-- Codes that a retry can plausibly clear. -/
def isRecoverable (code : String) : Bool :=
  match code with
  | "ELEMENT_NOT_FOUND" => true
  | "TIMEOUT" => true
  | "NETWORK" => true
  | "PORTAL_UNAVAILABLE" => true
  | _ => false

/-- Codes that must stop the whole batch. -/
def abortsBatch (code : String) : Bool :=
  match code with
  | "SESSION_EXPIRED" => true
  | "PORTAL_STRUCTURE_CHANGED" => true
  | _ => false

/-- `escape_debug` of a character in a text. Whatever is not ASCII counts as printable. -/
def escapeDebug (c : Char) : String :=
  if c = '\x00' then "\\0"
  else if c = '\t' then "\\t"
  else if c = '\r' then "\\r"
  else if c = '\n' then "\\n"
  else if c = '\\' then "\\\\"
  else if c = '"' then "\\\""
  else if c.toNat < 32 ∨ c.toNat = 127 then
    "\\u\x7b" ++ String.ofList (Nat.toDigits 16 c.toNat) ++ "\x7d"
  else c.toString

/-- The debug text of an optional outcome. -/
def debugOutcome : Option String → String
  | none => "None"
  | some s => "Some(\"" ++ String.join (s.toList.map escapeDebug) ++ "\")"

def decideSubmit (resp : Response) : Decision :=
  match resp.status with
  | .ok =>
      match resp.outcome with
      | some "confirmed" =>
          match resp.reference with
          | some r => .accept s!"confirmed (ref {r})"
          | none => .accept "confirmed"
      | some "duplicate" => .accept ("duplicate — " ++ resp.message.getD "already recorded")
      | some "rejected" => .reject ("rejected — " ++ resp.message.getD "portal refused the record")
      | some "indeterminate" =>
          .halt ("indeterminate — " ++ resp.message.getD "no readable result" ++
            " (submitted but unconfirmed; verify on the portal before re-running)")
      | other => .halt ("unrecognized outcome " ++ debugOutcome other)
  | .error =>
      -- An error without a code, or without the flag, is read in the direction that does not retry.
      let code := resp.errorCode.getD "SUBMISSION_FAILED"
      let provesNothing := resp.provesNothingSubmitted.getD false
      let message := resp.message.getD ""
      if abortsBatch code then
        .halt s!"{code} — {message}"
      else if !provesNothing then
        .halt s!"{code} — {message} (submission may have landed; not retrying)"
      else if isRecoverable code then
        .retry s!"{code} — {message}"
      else
        .reject s!"{code} — {message}"
  | .ready => .halt "unexpected ready line mid-flow"

/-- Batch-side settling of a reply. -/
inductive Settle
  | success
  | failed (code message : String)
  | indeterminate (message : String)
  | retry (code message : String)
  deriving DecidableEq, Repr

def settleSubmit (resp : Response) : Settle :=
  match resp.status with
  | .ok =>
      match resp.outcome with
      | some "confirmed" => .success
      | some "duplicate" => .failed "DUPLICATE_RECORD" (resp.message.getD "already recorded")
      | some "rejected" =>
          .failed "SUBMISSION_FAILED" (resp.message.getD "portal refused the record")
      | some "indeterminate" => .indeterminate (resp.message.getD "no readable result")
      | other => .indeterminate ("unrecognized outcome " ++ debugOutcome other)
  | .error =>
      let code := resp.errorCode.getD "SUBMISSION_FAILED"
      let provesNothing := resp.provesNothingSubmitted.getD false
      let message := resp.message.getD ""
      -- The proof flag comes first: without it no code makes the reply retryable.
      if provesNothing && !abortsBatch code && isRecoverable code then
        .retry code message
      else if !provesNothing then
        .indeterminate s!"{code} — {message} (submission may have landed)"
      else
        .failed code message
  | .ready => .indeterminate "unexpected ready line mid-flow"

/-! ## What a reply proves -/

/-- An error reply that proves nothing was submitted and that a retry may clear. -/
structure ProvesRetry (resp : Response) : Prop where
  status : resp.status = .error
  proves : resp.provesNothingSubmitted = some true
  recoverable : isRecoverable (resp.errorCode.getD "SUBMISSION_FAILED") = true
  keepsBatch : abortsBatch (resp.errorCode.getD "SUBMISSION_FAILED") = false

/-- A reply that leaves the submission unaccounted for: a transport failure, a ready line, an
unknown or missing outcome, the portal's own indeterminate, or an error without the proof flag. -/
def Unaccountable : Reply → Prop
  | .error _ => True
  | .ok resp =>
      match resp.status with
      | .ready => True
      | .error => resp.provesNothingSubmitted ≠ some true
      | .ok =>
          resp.outcome ≠ some "confirmed" ∧ resp.outcome ≠ some "duplicate" ∧
            resp.outcome ≠ some "rejected"

theorem settleSubmit_eq_retry {resp : Response} {code message : String}
    (h : settleSubmit resp = .retry code message) :
    ProvesRetry resp ∧ code = resp.errorCode.getD "SUBMISSION_FAILED" := by
  unfold settleSubmit at h
  split at h
  · split at h <;> cases h
  · next hstatus =>
      simp only at h
      split at h
      · -- The flag was read with a default, so being true it was there.
        next hcond =>
          cases h
          simp only [Bool.and_eq_true, Bool.not_eq_true'] at hcond
          refine ⟨⟨hstatus, ?_, hcond.2, hcond.1.2⟩, rfl⟩
          cases hp : resp.provesNothingSubmitted with
          | none => simp [hp] at hcond
          | some b => simpa [hp] using hcond.1.1
      · split at h <;> cases h
  · cases h

theorem settleSubmit_of_provesRetry {resp : Response} (h : ProvesRetry resp) :
    ∃ message,
      settleSubmit resp = .retry (resp.errorCode.getD "SUBMISSION_FAILED") message := by
  refine ⟨resp.message.getD "", ?_⟩
  simp [settleSubmit, h.status, h.proves, h.recoverable, h.keepsBatch]

theorem abortsBatch_iff (code : String) :
    abortsBatch code = true ↔ code = "SESSION_EXPIRED" ∨ code = "PORTAL_STRUCTURE_CHANGED" := by
  unfold abortsBatch
  split <;> simp_all

/-- The two decision functions retry on exactly the same replies. -/
theorem decideSubmit_retry_iff (resp : Response) :
    (∃ text, decideSubmit resp = .retry text) ↔
      ∃ code message, settleSubmit resp = .retry code message := by
  unfold decideSubmit settleSubmit
  cases resp.status with
  | ready => simp
  | ok =>
      simp only
      constructor
      · rintro ⟨text, h⟩
        split at h
        · split at h <;> cases h
        all_goals cases h
      · rintro ⟨code, message, h⟩
        split at h <;> cases h
  | error =>
      simp only
      -- Both sides read the same three conditions, in a different order.
      cases abortsBatch (resp.errorCode.getD "SUBMISSION_FAILED") <;>
        cases resp.provesNothingSubmitted.getD false <;>
        cases isRecoverable (resp.errorCode.getD "SUBMISSION_FAILED") <;> simp

/-- An unaccountable reply is settled as indeterminate, and only such a reply is. -/
theorem settleSubmit_indeterminate_iff (resp : Response) :
    (∃ message, settleSubmit resp = .indeterminate message) ↔ Unaccountable (.ok resp) := by
  unfold settleSubmit Unaccountable
  cases hstatus : resp.status with
  | ready => simp [hstatus]
  | ok =>
      simp only [hstatus]
      split <;> simp_all
  | error =>
      simp only [hstatus]
      cases hp : resp.provesNothingSubmitted with
      | none => simp
      | some b =>
          cases b with
          | false => simp
          | true =>
              -- A proof that nothing was submitted leaves no room for doubt.
              simp only [Option.getD_some]
              split
              · simp
              · simp

/-- A single submission stops for a human on every unaccountable reply. -/
theorem decideSubmit_of_unaccountable {resp : Response} (h : Unaccountable (.ok resp)) :
    ∃ text, decideSubmit resp = .halt text := by
  unfold Unaccountable at h
  unfold decideSubmit
  cases hstatus : resp.status with
  | ready => exact ⟨_, rfl⟩
  | ok =>
      simp only [hstatus] at h
      simp only
      split <;> simp_all
  | error =>
      simp only [hstatus] at h
      -- No flag and a false flag are the same to both functions.
      have hproves : resp.provesNothingSubmitted.getD false = false := by
        cases hp : resp.provesNothingSubmitted with
        | none => rfl
        | some b => cases b <;> simp_all
      simp only [hproves]
      split <;> exact ⟨_, rfl⟩

end DsspBot

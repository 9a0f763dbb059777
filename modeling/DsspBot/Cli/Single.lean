import DsspBot.Engine.Partition
import DsspBot.Engine.Resend

/-!
# Single — one trainee from the command line

`run_single` has no checkpoint and no controller: it gates on the session, asks once for the form
options, and then loops over `decideSubmit` until a reply settles the submission or a human has to
look. Its exit code is its verdict.
-/

namespace DsspBot

/-- Stable identity for a trainee reference: the id wins, else the raw name. -/
def keyOf (trainee : TraineeRef) : Option String :=
  trainee.id.or trainee.name

/-- A job file, which names one trainee or a list of them. -/
structure Job where
  trainee : Option TraineeRef := none
  trainees : Option (List TraineeRef) := none
  session : SessionInput
  deriving Repr

/-- What the job file asked for, after validation. -/
inductive JobPlan
  | single (trainee : TraineeRef)
  | batch (trainees : List TraineeRef)
  deriving DecidableEq, Repr

/-- Everything that can be checked without the portal. -/
def plan (job : Job) : Except String JobPlan :=
  match job.trainee, job.trainees with
  | some _, some _ => .error "job has both 'trainee' and 'trainees' — use exactly one"
  | some trainee, none =>
      if (keyOf trainee).isNone then .error "'trainee' needs an 'id' or a 'name'"
      else .ok (.single trainee)
  | none, some trainees =>
      if trainees.isEmpty then .error "'trainees' is empty — nothing to submit"
      else
        -- The first entry without a key is the one that is named.
        match trainees.zipIdx.find? fun entry => (keyOf entry.1).isNone with
        | some (_, index) => .error s!"trainees[{index}] needs an 'id' or a 'name'"
        | none => .ok (.batch trainees)
  | none, none => .error "job needs 'trainee' or 'trainees'"

structure SingleJob where
  trainee : TraineeRef
  session : SessionInput
  deriving Repr

inductive SinglePc
  | connecting
  | ensureSession
  | ensuring
  | formOptions
  | describing
  | starting
  | submitting (jobId : String) (attempt : Nat)
  | awaiting (jobId : String) (attempt : Nat)
  | sleeping (jobId : String) (attempt : Nat)
  | exited (line : Option String) (code : Nat)
  deriving DecidableEq

inductive SingleEvent
  | requested (req : Request)
  | submitted (req : Request)
  | replied (reply : Reply)
  | slept (ms : Nat)

structure Single where
  pc : SinglePc
  log : List SingleEvent

inductive SingleInput
  | connected (result : Except String Unit)
  | newId (id : String)
  | reply (reply : Reply)
  | tick

namespace Single

/-- `RetryPolicy::default()`: a single submission has no policy of its own. -/
def policy : RetryPolicy := {}

/-- What one reply to the submission makes of the run. -/
def decided (jobId : String) (attempt : Nat) : Reply → SinglePc
  | .error e => .exited (some s!"HALT: transport error, submission state unknown: {e}") 3
  | .ok resp =>
      match decideSubmit resp with
      | .accept text => .exited (some s!"RESULT: {text}") 0
      | .reject text => .exited (some s!"FAILED: {text}") 4
      | .halt text => .exited (some s!"HALT: {text}") 3
      | .retry text =>
          -- The attempts are counted from 1, the one just answered included.
          if policy.maxAttempts ≤ attempt then
            .exited (some s!"FAILED: gave up after {attempt} attempts — {text}") 4
          else
            .sleeping jobId attempt

/-- The session gate: anything but an ok reply ends the run before any submission. -/
def sessionChecked : Reply → SinglePc
  | .error _ => .exited none 1
  | .ok resp => if resp.status = .ok then .formOptions else .exited none 1

def step (job : SingleJob) (s : Single) (input : SingleInput) : Option Single :=
  match s.pc, input with
  | .connecting, .connected (.ok ()) => some { s with pc := .ensureSession }
  | .connecting, .connected (.error _) => some { s with pc := .exited none 1 }
  | .ensureSession, .newId id =>
      some { pc := .ensuring, log := s.log ++ [.requested (.ensureSession id)] }
  | .ensuring, .reply reply => some { s with pc := sessionChecked reply }
  | .formOptions, .newId id =>
      some { pc := .describing, log := s.log ++ [.requested (.getFormOptions id none)] }
  -- The form options are informational: no answer to them stops the run.
  | .describing, .reply _ => some { s with pc := .starting }
  | .starting, .newId id => some { s with pc := .submitting id 1 }
  | .submitting jobId attempt, .tick =>
      some { pc := .awaiting jobId attempt
             log := s.log ++ [.submitted (.submitTraining jobId job.trainee job.session)] }
  | .awaiting jobId attempt, .reply reply =>
      some { pc := decided jobId attempt reply, log := s.log ++ [.replied reply] }
  | .sleeping jobId attempt, .tick =>
      some { pc := .submitting jobId (attempt + 1)
             log := s.log ++ [.slept (policy.delayForAttempt attempt)] }
  | _, _ => none

def start : Single :=
  { pc := .connecting, log := [] }

def Reachable (job : SingleJob) (s : Single) : Prop :=
  Machine.Reaches (step job) start s

/-! ## What a run has sent and heard -/

def replies (s : Single) : List Reply :=
  s.log.filterMap fun
    | .replied reply => some reply
    | _ => none

def sends (s : Single) : Nat :=
  s.log.countP fun
    | .submitted _ => true
    | _ => false

/-- An earlier reply that a later submission respects. -/
def Respects : SingleEvent → SingleEvent → Prop
  | .replied reply, .submitted _ => AllowsRetry reply
  | _, _ => True

/-- A reply that `decideSubmit` retries allows a retry. -/
theorem allowsRetry_of_decide {resp : Response} {text : String}
    (h : decideSubmit resp = .retry text) : AllowsRetry (.ok resp) := by
  rcases (decideSubmit_retry_iff resp).1 ⟨text, h⟩ with ⟨code, message, hsettle⟩
  exact ⟨resp, rfl, (settleSubmit_eq_retry hsettle).1⟩

/-- Where a reply leads: out, or on to another attempt it allows. -/
theorem decided_cases (jobId : String) (attempt : Nat) (reply : Reply) :
    (∃ line code, decided jobId attempt reply = .exited line code ∧
      (Unaccountable reply → code = 3)) ∨
      (decided jobId attempt reply = .sleeping jobId attempt ∧ AllowsRetry reply ∧
        attempt < policy.maxAttempts) := by
  cases reply with
  | error text => exact Or.inl ⟨_, _, rfl, fun _ => rfl⟩
  | ok resp =>
      -- Only a halt answers an unaccountable reply.
      have hnot : (∀ text, decideSubmit resp ≠ .halt text) → ¬Unaccountable (.ok resp) := by
        intro hne hunaccountable
        rcases decideSubmit_of_unaccountable hunaccountable with ⟨text, htext⟩
        exact hne text htext
      simp only [decided]
      cases hdecide : decideSubmit resp with
      | accept text =>
          exact Or.inl ⟨_, _, rfl, fun h => absurd h (hnot (by simp [hdecide]))⟩
      | reject text =>
          exact Or.inl ⟨_, _, rfl, fun h => absurd h (hnot (by simp [hdecide]))⟩
      | halt text => exact Or.inl ⟨_, _, rfl, fun _ => rfl⟩
      | retry text =>
          by_cases hmax : policy.maxAttempts ≤ attempt
          · refine Or.inl ⟨_, _, if_pos hmax, ?_⟩
            exact fun h => absurd h (hnot (by simp [hdecide]))
          · exact Or.inr ⟨if_neg hmax, allowsRetry_of_decide hdecide, by omega⟩

/-- The places before the first submission. -/
def early : SinglePc → Bool
  | .connecting => true
  | .ensureSession => true
  | .ensuring => true
  | .formOptions => true
  | .describing => true
  | .starting => true
  | _ => false

/-- A step before the first submission asks for nothing but the session and the form options; from
then on the run is in its loop. -/
inductive Step (job : SingleJob) (s : Single) : SingleInput → Single → Prop
  | early {input : SingleInput} {s' : Single} (asked : List Request) (hpc : early s.pc = true)
      (hpc' : early s'.pc = true ∨ s'.pc = .exited none 1)
      (hlog : s'.log = s.log ++ asked.map .requested) : Step job s input s'
  | began {id : String} (hpc : s.pc = .starting) :
      Step job s (.newId id) { s with pc := .submitting id 1 }
  | submitted {jobId : String} {attempt : Nat} (hpc : s.pc = .submitting jobId attempt) :
      Step job s .tick
        { pc := .awaiting jobId attempt
          log := s.log ++ [.submitted (.submitTraining jobId job.trainee job.session)] }
  | heard {jobId : String} {attempt : Nat} {reply : Reply} (hpc : s.pc = .awaiting jobId attempt) :
      Step job s (.reply reply)
        { pc := decided jobId attempt reply, log := s.log ++ [.replied reply] }
  | slept {jobId : String} {attempt : Nat} (hpc : s.pc = .sleeping jobId attempt) :
      Step job s .tick
        { pc := .submitting jobId (attempt + 1)
          log := s.log ++ [.slept (policy.delayForAttempt attempt)] }

theorem early_sessionChecked (reply : Reply) :
    early (sessionChecked reply) = true ∨ sessionChecked reply = .exited none 1 := by
  unfold sessionChecked
  split
  · exact Or.inr rfl
  · split
    · exact Or.inl rfl
    · exact Or.inr rfl

theorem step_cases {job : SingleJob} {s s' : Single} {input : SingleInput}
    (h : step job s input = some s') : Step job s input s' := by
  -- In the order of the branches of `Single.step`.
  unfold step at h
  split at h
  · next hpc =>
      cases h
      exact .early [] (by rw [hpc]; rfl) (Or.inl rfl) (List.append_nil _).symm
  · next hpc =>
      cases h
      exact .early [] (by rw [hpc]; rfl) (Or.inr rfl) (List.append_nil _).symm
  · next id hpc =>
      cases h
      exact .early [.ensureSession id] (by rw [hpc]; rfl) (Or.inl rfl) rfl
  · next reply hpc =>
      cases h
      exact .early [] (by rw [hpc]; rfl) (early_sessionChecked reply) (List.append_nil _).symm
  · next id hpc =>
      cases h
      exact .early [.getFormOptions id none] (by rw [hpc]; rfl) (Or.inl rfl) rfl
  · next hpc =>
      cases h
      exact .early [] (by rw [hpc]; rfl) (Or.inl rfl) (List.append_nil _).symm
  · next hpc =>
      cases h
      exact .began hpc
  · next hpc =>
      cases h
      exact .submitted hpc
  · next hpc =>
      cases h
      exact .heard hpc
  · next hpc =>
      cases h
      exact .slept hpc
  · cases h

theorem sends_of_asked {s s' : Single} {asked : List Request}
    (hlog : s'.log = s.log ++ asked.map .requested) : s'.sends = s.sends := by
  unfold sends
  rw [hlog, List.countP_append, List.countP_map]
  simp

theorem replies_of_asked {s s' : Single} {asked : List Request}
    (hlog : s'.log = s.log ++ asked.map .requested) : s'.replies = s.replies := by
  unfold replies
  rw [hlog, List.filterMap_append, List.filterMap_map]
  simp

/-- How far the loop has come, by the point of the program. -/
def Count (s : Single) : Prop :=
  match s.pc with
  -- The attempt counter runs one ahead of the sends until the request is out.
  | .submitting _ attempt =>
      attempt = s.sends + 1 ∧ attempt ≤ max 1 policy.maxAttempts ∧ ∀ r ∈ s.replies, AllowsRetry r
  | .awaiting _ attempt =>
      attempt = s.sends ∧ attempt ≤ max 1 policy.maxAttempts ∧ ∀ r ∈ s.replies, AllowsRetry r
  | .sleeping _ attempt =>
      attempt = s.sends ∧ attempt < max 1 policy.maxAttempts ∧ ∀ r ∈ s.replies, AllowsRetry r
  | .exited _ code =>
      s.sends ≤ max 1 policy.maxAttempts ∧ ∀ r ∈ s.replies, Unaccountable r → code = 3
  | _ => s.sends = 0 ∧ s.replies = []

theorem Count.at_pc {s : Single} {pc : SinglePc} (h : Count s) (hpc : s.pc = pc) :
    Count { s with pc := pc } := by
  subst hpc
  exact h

theorem count_of_early {s : Single} (hpc : early s.pc = true) :
    Count s ↔ s.sends = 0 ∧ s.replies = [] := by
  unfold Count
  split
  · next hpc' => simp [hpc', early] at hpc
  · next hpc' => simp [hpc', early] at hpc
  · next hpc' => simp [hpc', early] at hpc
  · next hpc' => simp [hpc', early] at hpc
  · rfl

structure Inv (s : Single) : Prop where
  count : Count s
  respects : s.log.Pairwise Respects

theorem inv_start : Inv start :=
  ⟨⟨rfl, rfl⟩, .nil⟩

theorem respects_snoc {log : List SingleEvent} {ev : SingleEvent} (h : log.Pairwise Respects)
    (hev : ∀ r, .replied r ∈ log → Respects (.replied r) ev) : (log ++ [ev]).Pairwise Respects := by
  refine List.pairwise_append.2 ⟨h, by simp, ?_⟩
  intro earlier hearlier later hlater
  have heq : later = ev := by simpa using hlater
  subst heq
  -- Only a reply can forbid what comes after it.
  cases earlier with
  | replied r => exact hev r hearlier
  | requested req => trivial
  | submitted req => trivial
  | slept ms => trivial

theorem mem_replies {s : Single} {r : Reply} : r ∈ s.replies ↔ .replied r ∈ s.log := by
  unfold replies
  rw [List.mem_filterMap]
  constructor
  · rintro ⟨ev, hev, h⟩
    cases ev <;> simp at h
    exact h ▸ hev
  · intro h
    exact ⟨_, h, rfl⟩

/-- What is asked before the first submission forbids nothing. -/
theorem respects_asked {log : List SingleEvent} (h : log.Pairwise Respects)
    (asked : List Request) : (log ++ asked.map SingleEvent.requested).Pairwise Respects := by
  -- The induction is on the requests, and each one is put behind a longer log.
  induction asked generalizing log with
  | nil =>
      rw [List.map_nil, List.append_nil]
      exact h
  | cons req asked ih =>
      rw [List.map_cons, List.append_cons]
      exact ih (respects_snoc h fun _ _ => trivial)

/-- A run that never came to submit may exit with any code. -/
theorem count_exited {s : Single} (h : s.sends = 0 ∧ s.replies = []) {line : Option String}
    {code : Nat} (hpc : s.pc = .exited line code) : Count s := by
  unfold Count
  rw [hpc]
  refine ⟨?_, ?_⟩
  · rw [h.1]
    exact Nat.zero_le _
  · rw [h.2]
    simp

/-- A reply either ends the run under its own code or allows the attempt that follows. -/
theorem count_decided {s : Single} {jobId : String} {attempt : Nat}
    (hattempt : attempt = s.sends) (hbound : attempt ≤ max 1 policy.maxAttempts)
    (hagain : ∀ r ∈ s.replies, AllowsRetry r) (reply : Reply) :
    Count { pc := decided jobId attempt reply, log := s.log ++ [.replied reply] } := by
  have hsends : ∀ pc, ({ pc := pc, log := s.log ++ [.replied reply] } : Single).sends =
      s.sends := by
    intro pc
    simp [sends]
  have hreplies : ∀ pc, ({ pc := pc, log := s.log ++ [.replied reply] } : Single).replies =
      s.replies ++ [reply] := by
    intro pc
    simp [replies]
  -- Every earlier reply allowed a retry, so none of them was unaccountable.
  have hearlier : ∀ r ∈ s.replies, ¬Unaccountable r := by
    intro r hr hunaccountable
    exact not_allowsRetry_of_halts (halts_of_unaccountable hunaccountable) (hagain r hr)
  rcases decided_cases jobId attempt reply with ⟨line, code, heq, hcode⟩ | ⟨heq, hallows, hmax⟩
  · rw [heq]
    refine ⟨?_, ?_⟩
    · rw [hsends]
      exact hattempt ▸ hbound
    · intro r hr hunaccountable
      rw [hreplies] at hr
      rcases List.mem_append.1 hr with hr | hr
      · exact absurd hunaccountable (hearlier r hr)
      · have hlast : r = reply := by simpa using hr
        exact hcode (hlast ▸ hunaccountable)
  · rw [heq]
    refine ⟨?_, Nat.lt_of_lt_of_le hmax (Nat.le_max_right _ _), ?_⟩
    · rw [hsends]
      exact hattempt
    · intro r hr
      rw [hreplies] at hr
      rcases List.mem_append.1 hr with hr | hr
      · exact hagain r hr
      · have hlast : r = reply := by simpa using hr
        exact hlast ▸ hallows

theorem Inv.step {job : SingleJob} {s s' : Single} {input : SingleInput} (h : Inv s)
    (hstep : Single.step job s input = some s') : Inv s' := by
  cases step_cases hstep with
  | early asked hpc hpc' hlog =>
      rcases (count_of_early hpc).1 h.count with ⟨hsends, hreplies⟩
      have hnothing : s'.sends = 0 ∧ s'.replies = [] :=
        ⟨(sends_of_asked hlog).trans hsends, (replies_of_asked hlog).trans hreplies⟩
      refine ⟨?_, hlog ▸ respects_asked h.respects asked⟩
      rcases hpc' with hearly | hexited
      · exact (count_of_early hearly).2 hnothing
      · exact count_exited hnothing hexited
  | began hpc =>
      rcases h.count.at_pc hpc with ⟨hsends, hreplies⟩
      refine ⟨⟨?_, Nat.le_max_left _ _, ?_⟩, h.respects⟩
      · exact congrArg (· + 1) (Eq.symm hsends)
      · change ∀ r ∈ s.replies, _
        rw [show s.replies = [] from hreplies]
        simp
  | submitted hpc =>
      rcases h.count.at_pc hpc with ⟨hattempt, hbound, hagain⟩
      refine ⟨⟨?_, hbound, ?_⟩, respects_snoc h.respects ?_⟩
      · simpa [sends] using hattempt
      · simpa [replies] using hagain
      · intro r hr
        exact hagain r (mem_replies.2 hr)
  | heard hpc =>
      rcases h.count.at_pc hpc with ⟨hattempt, hbound, hagain⟩
      exact ⟨count_decided hattempt hbound hagain _, respects_snoc h.respects fun _ _ => trivial⟩
  | slept hpc =>
      rcases h.count.at_pc hpc with ⟨hattempt, hbound, hagain⟩
      refine ⟨⟨?_, hbound, ?_⟩, respects_snoc h.respects fun _ _ => trivial⟩
      · simpa [sends] using hattempt
      · simpa [replies] using hagain

theorem Reachable.inv {job : SingleJob} {s : Single} (h : Reachable job s) : Inv s :=
  Machine.Reaches.invariant (fun _ _ _ hs hstep => hs.step hstep) inv_start h

/-- The retry rule of a single run. -/
structure ResendRule (s : Single) : Prop where
  proof : ∀ before req after, s.log = before ++ .submitted req :: after →
    ∀ reply, .replied reply ∈ before → AllowsRetry reply
  bound : s.sends ≤ max 1 policy.maxAttempts
  counted : ∀ jobId attempt, s.pc = .awaiting jobId attempt → attempt = s.sends
  /-- After an unaccountable reply nothing is sent, and the run ends telling a human to look. -/
  stops : ∀ before reply after, s.log = before ++ .replied reply :: after → Unaccountable reply →
    (∀ req, .submitted req ∉ after) ∧ ∀ line code, s.pc = .exited line code → code = 3

theorem Inv.sends_le {s : Single} (h : Inv s) : s.sends ≤ max 1 policy.maxAttempts := by
  have hcount := h.count
  unfold Count at hcount
  split at hcount
  · exact Nat.le_of_lt (by omega)
  · omega
  · omega
  · exact hcount.1
  · rw [hcount.1]
    exact Nat.zero_le _

theorem Inv.resendRule {s : Single} (h : Inv s) : ResendRule s := by
  have hrespects := h.respects
  refine ⟨?_, h.sends_le, ?_, ?_⟩
  · intro before req after hsplit reply hreply
    rw [hsplit] at hrespects
    exact (List.pairwise_append.1 hrespects).2.2 _ hreply (.submitted req) (by simp)
  · intro jobId attempt hpc
    have hcount := h.count.at_pc hpc
    exact hcount.1
  · intro before reply after hsplit hunaccountable
    have hmem : reply ∈ s.replies := mem_replies.2 (by simp [hsplit])
    constructor
    · intro req hsent
      rw [hsplit] at hrespects
      -- A submission after the reply would have to respect it.
      have htail := (List.pairwise_append.1 hrespects).2.1
      have hallows : AllowsRetry reply := (List.pairwise_cons.1 htail).1 (.submitted req) hsent
      exact not_allowsRetry_of_halts (halts_of_unaccountable hunaccountable) hallows
    · intro line code hpc
      have hcount := h.count.at_pc hpc
      exact hcount.2 reply hmem hunaccountable

end Single

/-! ## Both loops -/

/-- In a batch and in a single run alike, a trainee is asked for again only on proof. -/
theorem resent_only_on_proof :
    (∀ b store e, Batch.Reachable b store e → ResendRule b e) ∧
      ∀ job s, Single.Reachable job s → Single.ResendRule s :=
  ⟨fun _ _ _ h => h.resendRule, fun _ _ h => h.inv.resendRule⟩

def retriedJob : SingleJob :=
  { trainee := { id := some "7" }, session := pairBatch.session }

def retriedReply : Response :=
  { status := .error, errorCode := some "TIMEOUT", provesNothingSubmitted := some true }

/-- A timeout that proves nothing was submitted, then a confirmation. -/
def retriedInputs : List SingleInput :=
  [.connected (.ok ()), .newId "a", .reply (.ok { status := .ok }), .newId "b",
    .reply (.error "no options"), .newId "c", .tick, .reply (.ok retriedReply), .tick, .tick,
    .reply (.ok pairConfirmed)]

def retriedEnd : Single :=
  (Machine.run (Single.step retriedJob) Single.start retriedInputs).getD Single.start

theorem retriedEnd_reachable : Single.Reachable retriedJob retriedEnd :=
  ⟨retriedInputs, rfl⟩

theorem resent_only_on_proof_in_both :
    ResendRule pairBatch pairEnd ∧ retriedEnd.sends = 2 ∧ Single.ResendRule retriedEnd :=
  ⟨resent_only_on_proof.1 pairBatch pairStore pairEnd pairEnd_reachable, rfl,
    resent_only_on_proof.2 retriedJob retriedEnd retriedEnd_reachable⟩

end DsspBot

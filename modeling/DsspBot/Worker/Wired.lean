import DsspBot.Lib.Places
import DsspBot.Worker.Answers
import Mathlib.Algebra.GroupWithZero.Nat

/-!
# Wired — a retry loop over the real pipes

The link of the end-to-end result is an idea of a pipe. Here a retry loop calls the client itself,
its requests and replies travel as lines, and the worker's loop reads and writes them. What the link
promises still holds: the training of a trainee is posted at most once.
-/

namespace DsspBot

/-! ## One request at a time -/

namespace ClientRun

/-- What the last call of `send` has returned. -/
def lastReply (log : List ClientEvent) : Option Reply :=
  (log.filterMap fun
    | .sent _ _ reply => some reply
    | _ => none).getLast?

variable {wire : Wire} {c c' : ClientRun}

/-- Every request that was tried has been answered, but the one that is waited for, or the one with
which the client has broken down. -/
structure Even (c : ClientRun) : Prop where
  asking : ∀ req, c.calling = some (.send req) →
    tried c.log = (succeeded c.log).map (·.1) ++ [req]
  idle : (∀ req, c.calling ≠ some (.send req)) →
    tried c.log = (succeeded c.log).map (·.1) ∨
      c.client.unusable ≠ none ∧ (∃ req, tried c.log = (succeeded c.log).map (·.1) ++ [req]) ∧
        ∃ text, lastReply c.log = some (.error text)

theorem lastReply_snoc (log : List ClientEvent) (req : Request) (line : Option Nat)
    (reply : Reply) : lastReply (log ++ [.sent req line reply]) = some reply := by
  simp [lastReply]

theorem lastReply_append {log events : List ClientEvent}
    (h : ∀ ev ∈ events, ∀ req line reply, ev ≠ .sent req line reply) :
    lastReply (log ++ events) = lastReply log := by
  have hnone : (events.filterMap fun
      | .sent _ _ reply => some reply
      | _ => none) = [] := by
    rw [List.filterMap_eq_nil_iff]
    intro ev hev
    cases ev with
    | sent req line reply => exact absurd rfl (h _ hev req line reply)
    | _ => rfl
  unfold lastReply
  rw [List.filterMap_append, hnone, List.append_nil]

theorem even_spawned (timeouts : Timeouts) : Even (spawned timeouts) where
  asking req h := by cases h
  idle _ := .inl rfl

/-- Nothing is called and nothing is said. -/
theorem Even.frame (h : Even c) (events : List ClientEvent)
    (hlog : c'.log = c.log ++ events) (htried : tried events = [])
    (hsucceeded : succeeded events = [])
    (hsent : ∀ ev ∈ events, ∀ req line reply, ev ≠ .sent req line reply)
    (hcalling : ∀ req, c'.calling = some (.send req) ↔ c.calling = some (.send req))
    (hbroken : c.client.unusable ≠ none → c'.client.unusable ≠ none) : Even c' := by
  have htried' : tried c'.log = tried c.log := by rw [hlog, tried_append, htried, List.append_nil]
  have hsucceeded' : succeeded c'.log = succeeded c.log := by
    rw [hlog, succeeded_append, hsucceeded, List.append_nil]
  have hlast : lastReply c'.log = lastReply c.log := by rw [hlog, lastReply_append hsent]
  refine ⟨?_, ?_⟩
  · intro req hreq
    rw [htried', hsucceeded']
    exact h.asking req ((hcalling req).1 hreq)
  · intro hidle
    rw [htried', hsucceeded', hlast]
    rcases h.idle fun req hreq => hidle req ((hcalling req).2 hreq) with heven | ⟨hunusable, hlate⟩
    · exact .inl heven
    · exact .inr ⟨hbroken hunusable, hlate⟩

/-- The client is usable, so nothing is left over unless it waits. -/
theorem Even.level (h : Even c) (husable : c.client.unusable = none)
    (hidle : ∀ req, c.calling ≠ some (.send req)) :
    tried c.log = (succeeded c.log).map (·.1) := by
  rcases h.idle hidle with heven | ⟨hunusable, -⟩
  · exact heven
  · exact absurd husable hunusable

/-- A call that fails is the last that could be tried. -/
theorem even_of_error (hidle : ∀ req, c.calling ≠ some (.send req))
    (hunusable : c.client.unusable ≠ none)
    (htried : tried c.log = (succeeded c.log).map (·.1) ∨
      ∃ req, tried c.log = (succeeded c.log).map (·.1) ++ [req])
    (hlast : ∃ text, lastReply c.log = some (.error text)) : Even c where
  asking req hreq := absurd hreq (hidle req)
  idle _ := htried.imp id fun hone => ⟨hunusable, hone, hlast⟩

theorem read_calling (c : ClientRun) (item : Line) : (c.read item).calling = c.calling := by
  unfold read
  dsimp only
  split <;> rfl

/-- A call that returns with an error. -/
theorem Even.fails (h : Even c) {call : Call} {line : Option Nat} {text : String}
    (hcalling : c.calling = some call) (husable : c.client.unusable = none)
    (hlog : c'.log = c.log ++ [call.failure line text]) (hidle : c'.calling = none)
    (hbroken : c'.client.unusable ≠ none) : Even c' := by
  cases call with
  | waitReady =>
      refine h.frame _ hlog rfl rfl ?_ ?_ fun hunusable => absurd husable hunusable
      · simp [Call.failure]
      · simp [hcalling, hidle]
  | send req =>
      have htried : tried c'.log = tried c.log := by
        rw [hlog, tried_append]
        exact List.append_nil _
      have hsucceeded : succeeded c'.log = succeeded c.log := by
        rw [hlog, succeeded_append]
        exact List.append_nil _
      refine even_of_error (by simp [hidle]) hbroken (.inr ⟨req, ?_⟩) ⟨text, ?_⟩
      · rw [htried, hsucceeded]
        exact h.asking req hcalling
      · rw [hlog]
        exact lastReply_snoc _ _ _ _

/-- A call that returns with a reply. -/
theorem Even.returns (h : Even c) {req : Request} {line : Option Nat} {resp : Response}
    (hcalling : c.calling = some (.send req))
    (hlog : c'.log = c.log ++ [.sent req line (.ok resp)]) (hidle : c'.calling = none) :
    Even c' := by
  refine ⟨by simp [hidle], fun _ => .inl ?_⟩
  have htried : tried c'.log = tried c.log := by
    rw [hlog, tried_append]
    exact List.append_nil _
  rw [htried, h.asking req hcalling, hlog, succeeded_append, List.map_append]
  rfl

theorem Even.step (h : Even c) (hwhole : Whole c) (hstep : Step wire c c') : Even c' := by
  cases hstep with
  | read item hreading heq =>
      subst heq
      rcases c.read_keeps item with ⟨hlog, -, hclient⟩
      refine h.frame _ hlog rfl rfl (by simp) ?_ fun hunusable => hclient ▸ hunusable
      intro req
      rw [read_calling]
  | refused call text hunusable heq =>
      subst heq
      have hnone := (hwhole.broken hunusable).1
      cases call with
      | waitReady =>
          refine h.frame _ rfl rfl rfl (by simp [Call.failure]) (fun req => Iff.rfl) id
      | send req =>
          have htried : tried (c.emit [.sent req none (.error text)]).log = tried c.log := by
            simp [emit, tried]
          have hsucceeded : succeeded (c.emit [.sent req none (.error text)]).log =
              succeeded c.log := by
            simp [emit, succeeded]
          refine even_of_error (by simp [emit, hnone]) hunusable ?_ ⟨text, lastReply_snoc _ _ _ _⟩
          rw [Call.failure, htried, hsucceeded]
          exact (h.idle (by simp [hnone])).imp id fun hlate => hlate.2.1
  | asked call husable hidle heq =>
      subst heq
      have heven := h.level husable (by simp [hidle])
      cases call with
      | waitReady =>
          exact h.frame [] rfl rfl rfl (by simp) (by simp [hidle]) id
      | send req =>
          refine ⟨?_, fun hnone => absurd rfl (hnone req)⟩
          intro req' hreq
          cases hreq
          simp only [emit, Call.writes, tried_append, succeeded_append, heven]
          simp [tried, succeeded]
  | unsent req events text husable hidle htried heq =>
      subst heq
      have heven := h.level husable (by simp [hidle])
      refine even_of_error (by simp) (unusable_invalidate _ _) ?_ ⟨text, ?_⟩
      · rcases htried with rfl | rfl
        · refine .inl ?_
          simp only [emit, tried_append, succeeded_append, heven]
          simp [tried, succeeded]
        · refine .inr ⟨req, ?_⟩
          simp only [emit, tried_append, succeeded_append, heven]
          simp [tried, succeeded]
      · rw [emit, ← List.append_assoc]
        exact lastReply_snoc _ _ _ _
  | unanswered call text hcalling heq =>
      subst heq
      exact h.fails hcalling (hwhole.usable_of_calling hcalling) rfl rfl (unusable_invalidate _ _)
  | answered call item n queue hcalling hqueue hfinished =>
      have husable := hwhole.usable_of_calling hcalling
      cases hfinished with
      | failed text heq =>
          subst heq
          exact h.fails hcalling husable rfl rfl (unusable_invalidate _ _)
      | greeted hcall _ heq =>
          subst heq hcall
          exact h.frame _ rfl rfl rfl (by simp) (by simp [hcalling]) fun hunusable =>
            absurd husable hunusable
      | replied hcall _ _ _ heq =>
          subst heq hcall
          exact h.returns hcalling rfl rfl
      | misread text hcall _ _ _ heq =>
          subst heq hcall
          exact h.returns hcalling rfl rfl
  | closed exited hidle heq =>
      subst heq
      exact h.frame _ rfl rfl rfl (by simp) (fun req => Iff.rfl) fun _ => unusable_shutdown _ _

theorem Reachable.even {timeouts : Timeouts} (h : Reachable wire timeouts c) : Even c := by
  have hall : Inv wire c ∧ Even c := by
    refine Machine.Reaches.invariant (P := fun c => Inv wire c ∧ Even c) ?_
      ⟨inv_spawned wire timeouts, even_spawned timeouts⟩ h
    rintro x input x' ⟨hinv, heven⟩ hinput
    exact ⟨hinv.step hinput, heven.step hinv.whole (step_cases hinv.whole hinput)⟩
  exact hall.2

theorem Sends.tried {req : Request} {left : Option String} {events : List ClientEvent}
    {put : List String} (h : Sends wire c req left c' events put) :
    ClientRun.tried events = [] ∨ ClientRun.tried events = [req] := by
  cases h with
  | refused htried => exact .inl htried
  | failed htried => exact .inr htried
  | written htried => exact .inr htried

/-- Only `send` tries a request. -/
theorem tried_of_step {input : ClientInput} (hsend : ∀ req write, input ≠ .send req write)
    (h : step wire c input = some c') : tried c'.log = tried c.log := by
  cases input with
  | line item =>
      rcases Option.ite_none_right_eq_some.1 h with ⟨-, heq⟩
      cases heq
      rw [(c.read_keeps item).1, tried_append]
      exact List.append_nil _
  | _ =>
      rcases adds_of_step hsend (by simp) h with ⟨events, hadds, htried⟩
      rw [hadds.tried, htried, List.append_nil]

/-- The last reply is that of the last success, if it is one. -/
theorem succeeded_of_lastReply {log : List ClientEvent} {resp : Response}
    (h : lastReply log = some (.ok resp)) :
    ∃ req line, (succeeded log).getLast? = some (req, line, resp) := by
  induction log using List.reverseRecOn with
  | nil => cases h
  | append_singleton log ev ih =>
      cases ev with
      | sent req line reply =>
          rw [lastReply_snoc] at h
          cases h
          refine ⟨req, line, ?_⟩
          rw [succeeded_append]
          exact List.getLast?_concat
      | _ =>
          have hsame : lastReply log = some (.ok resp) := by
            rw [← h]
            exact (lastReply_append (by simp)).symm
          rw [succeeded_append]
          exact (List.append_nil (succeeded log)).symm ▸ ih hsame

/-- When the last call has returned a reply, every request has. -/
theorem Even.last (h : Even c) (hidle : c.calling = none) {resp : Response}
    (hlast : lastReply c.log = some (.ok resp)) :
    ∃ req line, (succeeded c.log)[(tried c.log).length - 1]? = some (req, line, resp) := by
  rcases h.idle (by simp [hidle]) with heven | ⟨-, -, text, herror⟩
  · rcases succeeded_of_lastReply hlast with ⟨req, line, hreq⟩
    rw [List.getLast?_eq_getElem?] at hreq
    refine ⟨req, line, ?_⟩
    rw [← hreq, heven, List.length_map]
  · rw [hlast] at herror
    cases herror

end ClientRun

/-! ## A caller over the pipes -/

/-- A caller whose requests go through the pipes. -/
structure Wired (σ κ : Type*) where
  caller : σ
  pipes : Pipes
  /-- For whom each request was tried. A request that is no submission is for nobody. -/
  asked : List (Option κ) := []

inductive WiredInput (ι : Type*)
  /-- The caller goes on, and what it writes, if anything, goes into the pipe. -/
  | act (input : ι) (write : Except String Unit) (left : Option String)
  /-- The caller makes a request that is no submission. -/
  | ask (req : Request) (write : Except String Unit) (left : Option String)
  | pipes (input : PipesInput)
  /-- The call that the caller waits for returns to it. -/
  | returns

def PipesInput.isSend : PipesInput → Bool
  | .send _ _ _ => true
  | _ => false

/-- Everything the worker has taken up, with what it has asked of the portal for it. -/
def WorkerLoop.entries (w : WorkerLoop) : List (Request × List Issued) :=
  w.served.map (fun served => (served.req, served.issued)) ++ w.unanswered.toList

namespace Wired

section Step

variable {σ ι κ : Type*} {Soup Tag : Type} (wire : Wire) (json : WorkerJson)
  (lib : Libraries Soup Tag) (pages : PageReader Soup)
  (c : Link.Caller σ ι κ Request Response String) (s : Wired σ κ)

def sends (caller : σ) (whose : Option κ) (req : Request) (write : Except String Unit)
    (left : Option String) : Option (Wired σ κ) :=
  (Pipes.step wire json lib pages s.pipes (.send req write left)).map fun pipes =>
    { caller := caller
      pipes := pipes
      asked := s.asked ++
        List.replicate ((ClientRun.tried pipes.client.log).length - s.asked.length) whose }

def step : WiredInput ι → Option (Wired σ κ)
  | .act input write left =>
      -- What a caller is told about a request comes from the client.
      if (c.waiting s.caller).isSome && c.isReply input then none
      else
        (c.step s.caller input).bind fun caller =>
          match c.writes s.caller input with
          | some (key, req) => s.sends wire json lib pages caller (some key) req write left
          | none => some { s with caller := caller }
  | .ask req write left =>
      if (c.waiting s.caller).isSome || req.op = Op.submitTraining then none
      else s.sends wire json lib pages s.caller none req write left
  | .pipes input =>
      if input.isSend then none
      else
        (Pipes.step wire json lib pages s.pipes input).map fun pipes => { s with pipes := pipes }
  | .returns =>
      match c.waiting s.caller, s.pipes.client.calling, ClientRun.lastReply s.pipes.client.log with
      | some _, none, some reply =>
          (c.step s.caller (c.reply reply)).map fun caller => { s with caller := caller }
      | _, _, _ => none

/-- How often the worker has posted for a request that was made for this key. -/
def postsFor [DecidableEq κ] (key : κ) : Nat :=
  ((s.pipes.worker.entries.zip s.asked).map fun entry =>
    if entry.2 = some key then posts entry.1.2 else 0).sum

end Step

/-- Whether a request is one to make for this key. -/
def Suits {κ : Type*} (right : κ → Request → Prop) : Option κ → Request → Prop
  | some key, req => right key req
  | none, req => req.op ≠ Op.submitTraining

section Sound

variable {σ ι κ : Type*} {Soup Tag : Type} {wire : Wire} {json : WorkerJson}
  {lib : Libraries Soup Tag} {pages : PageReader Soup}
  {c : Link.Caller σ ι κ Request Response String} {Good : σ → Prop} {right : κ → Request → Prop}
  {timeouts : Timeouts} {s s' : Wired σ κ}

/-- What was asked for a key before is answered, and was heard, unless the caller still waits. -/
structure Sound (c : Link.Caller σ ι κ Request Response String) (right : κ → Request → Prop)
    (s : Wired σ κ) : Prop where
  length : s.asked.length = (ClientRun.tried s.pipes.client.log).length
  named : ∀ (k : Nat) (whose : Option κ) (req : Request), s.asked[k]? = some whose →
    (ClientRun.tried s.pipes.client.log)[k]? = some req → Suits right whose req
  accounted : ∀ (k : Nat) (key : κ), s.asked[k]? = some (some key) →
    (c.waiting s.caller = some key ∧ k + 1 = s.asked.length) ∨
      ∃ answer, (key, answer) ∈ c.heard s.caller ∧ ∀ resp, answer = some resp →
        ∃ req line, (ClientRun.succeeded s.pipes.client.log)[k]? = some (req, line, resp)
  again : ∀ (j k : Nat) (key : κ), j < k → s.asked[j]? = some (some key) →
    s.asked[k]? = some (some key) →
      ∃ req line resp, (ClientRun.succeeded s.pipes.client.log)[j]? = some (req, line, resp) ∧
        Proves resp

/-- The caller and the pipes go on, and nothing is asked. -/
theorem Sound.frame (h : Sound c right s)
    (hwaiting : c.waiting s'.caller = c.waiting s.caller)
    (hheard : c.heard s'.caller = c.heard s.caller) (hasked : s'.asked = s.asked)
    (htried : ClientRun.tried s'.pipes.client.log = ClientRun.tried s.pipes.client.log)
    (hsucceeded : ClientRun.succeeded s.pipes.client.log <+:
      ClientRun.succeeded s'.pipes.client.log) : Sound c right s' where
  length := by rw [hasked, htried, h.length]
  named := by
    rw [hasked, htried]
    exact h.named
  accounted := by
    rw [hasked, hwaiting, hheard]
    intro k key hk
    rcases h.accounted k key hk with hnow | ⟨answer, hmem, hanswer⟩
    · exact .inl hnow
    · refine .inr ⟨answer, hmem, fun resp hresp => ?_⟩
      rcases hanswer resp hresp with ⟨req, line, hgot⟩
      exact ⟨req, line, Places.of_prefix hsucceeded hgot⟩
  again := by
    rw [hasked]
    intro j k key hlt hj hk
    rcases h.again j k key hlt hj hk with ⟨req, line, resp, hgot, hproves⟩
    exact ⟨req, line, resp, Places.of_prefix hsucceeded hgot, hproves⟩

/-- A caller that waits for nothing has heard of everything it has asked. -/
theorem Sound.settled (h : Sound c right s) (hidle : c.waiting s.caller = none) {k : Nat} {key : κ}
    (hk : s.asked[k]? = some (some key)) :
    ∃ answer, (key, answer) ∈ c.heard s.caller ∧ ∀ resp, answer = some resp →
      ∃ req line, (ClientRun.succeeded s.pipes.client.log)[k]? = some (req, line, resp) := by
  rcases h.accounted k key hk with ⟨hwaiting, -⟩ | hheard
  · rw [hidle] at hwaiting
    cases hwaiting
  · exact hheard

/-- One more request is tried, for a key that all is proven about, or for nobody. -/
theorem Sound.asks (h : Sound c right s) {whose : Option κ} {req : Request}
    (hidle : c.waiting s.caller = none) (hwaiting : c.waiting s'.caller = whose)
    (hheard : c.heard s'.caller = c.heard s.caller)
    (hproven : ∀ key, whose = some key → Link.Proven Proves (c.heard s.caller) key)
    (hsuits : Suits right whose req) (hasked : s'.asked = s.asked ++ [whose])
    (htried : ClientRun.tried s'.pipes.client.log =
      ClientRun.tried s.pipes.client.log ++ [req])
    (hsucceeded : ClientRun.succeeded s'.pipes.client.log =
      ClientRun.succeeded s.pipes.client.log) : Sound c right s' where
  length := by
    rw [hasked, htried, List.length_append, List.length_append, h.length]
    rfl
  named := by
    intro k whose' req' hk hreq
    rw [hasked] at hk
    rw [htried] at hreq
    rcases Places.snoc_cases hk with hbefore | ⟨hlast, rfl⟩
    · have hlt := (List.getElem?_eq_some_iff.1 hbefore).1
      rw [List.getElem?_append_left (h.length ▸ hlt)] at hreq
      exact h.named k whose' req' hbefore hreq
    · rw [hlast, h.length, List.getElem?_concat_length] at hreq
      exact Option.some.inj hreq ▸ hsuits
  accounted := by
    rw [hasked, hwaiting, hheard, hsucceeded]
    intro k key hk
    rcases Places.snoc_cases hk with hbefore | ⟨hlast, hwhose⟩
    · exact .inr (h.settled hidle hbefore)
    · exact .inl ⟨hwhose, by simp [hlast]⟩
  again := by
    rw [hasked, hsucceeded]
    intro j k key hlt hj hk
    have hlength : k < s.asked.length + 1 := by
      simpa using (List.getElem?_eq_some_iff.1 hk).1
    rw [List.getElem?_append_left (by omega)] at hj
    rcases Places.snoc_cases hk with hbefore | ⟨-, hwhose⟩
    · exact h.again j k key hlt hj hbefore
    · -- What was heard of the earlier request is a reply that proves nothing was submitted.
      rcases h.settled hidle hj with ⟨answer, hmem, hanswer⟩
      rcases hproven key hwhose (key, answer) hmem rfl with ⟨resp, hresp, hproves⟩
      rcases hanswer resp hresp with ⟨req, line, hgot⟩
      exact ⟨req, line, resp, hgot, hproves⟩

/-- The caller hears what its call has returned. -/
theorem Sound.hears (h : Sound c right s) {key : κ} {reply : Reply}
    (hwaiting : c.waiting s.caller = some key)
    (heven : ClientRun.Even s.pipes.client) (hcalling : s.pipes.client.calling = none)
    (hlast : ClientRun.lastReply s.pipes.client.log = some reply)
    (hheard : c.heard s'.caller = c.heard s.caller ++ [(key, reply.toOption)])
    (hasked : s'.asked = s.asked) (hpipes : s'.pipes = s.pipes) : Sound c right s' where
  length := by rw [hasked, hpipes, h.length]
  named := by
    rw [hasked, hpipes]
    exact h.named
  accounted := by
    rw [hasked, hpipes, hheard]
    intro k key' hk
    right
    rcases h.accounted k key' hk with ⟨hnow, hlength⟩ | ⟨answer, hmem, hanswer⟩
    · -- The call that returns is the last request that was tried, or it failed.
      obtain rfl : key = key' := Option.some.inj (hwaiting.symm.trans hnow)
      refine ⟨reply.toOption, List.mem_append_right _ List.mem_cons_self, ?_⟩
      intro resp hresp
      cases reply with
      | error text => cases hresp
      | ok resp' =>
          cases hresp
          rcases heven.last hcalling hlast with ⟨req, line, hgot⟩
          refine ⟨req, line, ?_⟩
          rw [← hgot, ← h.length, ← hlength, Nat.add_sub_cancel]
    · exact ⟨answer, List.mem_append_left _ hmem, hanswer⟩
  again := by
    rw [hasked, hpipes]
    exact h.again

/-- A call of `send` tries its request or fails before that, and no call succeeds meanwhile. -/
theorem tried_of_send {p p' : Pipes} {req : Request} {write : Except String Unit}
    {left : Option String} (hwhole : ClientRun.Whole p.client)
    (h : Pipes.step wire json lib pages p (.send req write left) = some p') :
    ClientRun.succeeded p'.client.log = ClientRun.succeeded p.client.log ∧
      (ClientRun.tried p'.client.log = ClientRun.tried p.client.log ∨
        ClientRun.tried p'.client.log = ClientRun.tried p.client.log ++ [req]) := by
  rcases Option.ite_none_right_eq_some.1 h with ⟨-, hmap⟩
  rcases Option.map_eq_some_iff.1 hmap with ⟨next, hnext, rfl⟩
  have hclient := Pipes.client_of_call hnext
  rcases @ClientRun.sends_of_step wire p.client next.client req write left hwhole hclient with
    ⟨events, hadds, hsucceeded, hsends⟩
  refine ⟨?_, ?_⟩
  · change ClientRun.succeeded next.client.log = _
    rw [hadds.log, ClientRun.succeeded_append, hsucceeded, List.append_nil]
  · change ClientRun.tried next.client.log = _ ∨ ClientRun.tried next.client.log = _
    rw [hadds.tried]
    rcases hsends.tried with hnone | hone
    · exact .inl (by rw [hnone, List.append_nil])
    · exact .inr (by rw [hone])

theorem Sound.sends (h : Sound c right s) (hwhole : ClientRun.Whole s.pipes.client)
    {caller : σ} {whose : Option κ} {req : Request} {write : Except String Unit}
    {left : Option String} (hidle : c.waiting s.caller = none) (hwaiting : c.waiting caller = whose)
    (hheard : c.heard caller = c.heard s.caller)
    (hproven : ∀ key, whose = some key → Link.Proven Proves (c.heard s.caller) key)
    (hsuits : Suits right whose req)
    (hsends : s.sends wire json lib pages caller whose req write left = some s') :
    Sound c right s' := by
  rcases Option.map_eq_some_iff.1 hsends with ⟨pipes, hstep, rfl⟩
  rcases tried_of_send hwhole hstep with ⟨hsucceeded, hsame | htried⟩
  · -- Nothing was tried, so the caller waits for a call that has failed.
    have hnone : (ClientRun.tried pipes.client.log).length - s.asked.length = 0 := by
      rw [hsame, h.length, Nat.sub_self]
    simp only [hnone, List.replicate_zero, List.append_nil]
    refine ⟨?_, ?_, ?_, ?_⟩
    · exact h.length.trans (congrArg List.length hsame.symm)
    · simp only [hsame]
      exact h.named
    · simp only [hsucceeded, hheard]
      intro k key hk
      exact .inr (h.settled hidle hk)
    · simp only [hsucceeded]
      exact h.again
  · have hone : (ClientRun.tried pipes.client.log).length - s.asked.length = 1 := by
      rw [htried, List.length_append, h.length]
      simp
    simp only [hone, List.replicate_one]
    exact h.asks hidle hwaiting hheard hproven hsuits rfl htried hsucceeded

/-- Nothing but `send` asks, and what has succeeded stays so. -/
theorem Sound.pipes (h : Sound c right s) (hwhole : ClientRun.Whole s.pipes.client)
    {input : PipesInput} (hsend : ∀ req write left, input ≠ .send req write left) {p : Pipes}
    (hstep : Pipes.step wire json lib pages s.pipes input = some p) :
    Sound c right { s with pipes := p } := by
  refine h.frame rfl rfl rfl ?_ ?_
  · rcases Pipes.client_of_step hstep with hsame | ⟨input', hinput, hsends⟩
    · exact congrArg (fun client => ClientRun.tried client.log) hsame
    · refine ClientRun.tried_of_step ?_ hinput
      intro req write heq
      rcases hsends req write heq with ⟨left, hleft⟩
      exact hsend req write left hleft
  · rcases (Pipes.moves_of_step hwhole hstep).grows.1 with ⟨events, hlog⟩
    refine ⟨ClientRun.succeeded events, ?_⟩
    rw [← ClientRun.succeeded_append, hlog]

/-- What a caller over the pipes keeps. -/
structure Kept (wire : Wire) (json : WorkerJson) (lib : Libraries Soup Tag)
    (pages : PageReader Soup) (c : Link.Caller σ ι κ Request Response String) (Good : σ → Prop)
    (right : κ → Request → Prop) (timeouts : Timeouts) (s : Wired σ κ) : Prop where
  good : Good s.caller
  reachable : Pipes.Reachable wire json lib pages timeouts s.pipes
  sound : Sound c right s

theorem Kept.step (hlawful : c.Lawful Proves Good)
    (hright : ∀ x input key req, c.writes x input = some (key, req) → right key req)
    (h : Kept wire json lib pages c Good right timeouts s) {input : WiredInput ι}
    (hstep : s.step wire json lib pages c input = some s') :
    Kept wire json lib pages c Good right timeouts s' := by
  have hclient := h.reachable.client
  have hwhole := hclient.inv.whole
  cases input with
  | act input write left =>
      simp only [Wired.step] at hstep
      split at hstep
      · cases hstep
      · next hreply =>
          rcases Option.bind_eq_some_iff.1 hstep with ⟨caller, hcaller, hnext⟩
          have hgood := hlawful.good _ _ _ h.good hcaller
          split at hnext
          · next key req hwrites =>
              rcases hlawful.writes _ _ _ _ _ h.good hcaller hwrites with
                ⟨hidle, hwaiting, hheard, hproven⟩
              have hsound := h.sound.sends hwhole hidle hwaiting hheard
                (by rintro _ ⟨⟩; exact hproven) (hright _ _ _ _ hwrites) hnext
              rcases Option.map_eq_some_iff.1 hnext with ⟨pipes, hpipes, rfl⟩
              exact ⟨hgood, h.reachable.tail hpipes, hsound⟩
          · next hwrites =>
              cases hnext
              rcases hlawful.acts _ _ _ h.good (by simpa using hreply) hcaller hwrites with
                ⟨hwaiting, hheard⟩
              exact ⟨hgood, h.reachable,
                h.sound.frame hwaiting hheard rfl rfl List.prefix_rfl⟩
  | ask req write left =>
      simp only [Wired.step] at hstep
      split at hstep
      · cases hstep
      · next hfree =>
          simp only [Bool.or_eq_true, decide_eq_true_eq, not_or, Bool.not_eq_true,
            Option.isSome_eq_false_iff, Option.isNone_iff_eq_none] at hfree
          have hsound := h.sound.sends hwhole hfree.1 hfree.1 rfl (by rintro _ ⟨⟩) hfree.2 hstep
          rcases Option.map_eq_some_iff.1 hstep with ⟨pipes, hpipes, rfl⟩
          exact ⟨h.good, h.reachable.tail hpipes, hsound⟩
  | pipes input =>
      simp only [Wired.step] at hstep
      split at hstep
      · cases hstep
      · next hsend =>
          rcases Option.map_eq_some_iff.1 hstep with ⟨pipes, hpipes, rfl⟩
          refine ⟨h.good, h.reachable.tail hpipes, h.sound.pipes hwhole ?_ hpipes⟩
          rintro req write left rfl
          exact hsend rfl
  | returns =>
      simp only [Wired.step] at hstep
      split at hstep
      · next key reply hwaiting hcalling hlast =>
          rcases Option.map_eq_some_iff.1 hstep with ⟨caller, hcaller, rfl⟩
          rcases hlawful.hears _ _ _ _ h.good hwaiting hcaller with ⟨hidle, hheard⟩
          exact ⟨hlawful.good _ _ _ h.good hcaller, h.reachable,
            h.sound.hears hwaiting hclient.even hcalling hlast hheard rfl rfl⟩
      · cases hstep

theorem Kept.of_run (hlawful : c.Lawful Proves Good)
    (hright : ∀ x input key req, c.writes x input = some (key, req) → right key req)
    {start : σ} (hgood : Good start)
    (h : Machine.Reaches (fun (s : Wired σ κ) input => s.step wire json lib pages c input)
      { caller := start, pipes := Pipes.spawned timeouts } s) :
    Kept wire json lib pages c Good right timeouts s := by
  have hpipes : Pipes.Reachable wire json lib pages timeouts (Pipes.spawned timeouts) :=
    Machine.Reaches.refl _
  have hsound : Sound c right
      ({ caller := start, pipes := Pipes.spawned timeouts } : Wired σ κ) := by
    refine ⟨rfl, ?_, ?_, ?_⟩
    · intro k whose req hk
      cases hk
    · intro k key hk
      cases hk
    · intro j k key _ hj
      cases hj
  exact h.invariant (fun _ _ _ hs hstep => hs.step hlawful hright hstep) ⟨hgood, hpipes, hsound⟩

end Sound

/-! ## What the portal gets -/

theorem sum_le_one {counts : List Nat} (hone : ∀ n ∈ counts, n ≤ 1)
    (hzero : counts.Pairwise fun m n => m = 0 ∨ n = 0) : counts.sum ≤ 1 := by
  induction counts with
  | nil => exact Nat.zero_le 1
  | cons n counts ih =>
      rcases List.pairwise_cons.1 hzero with ⟨hhead, htail⟩
      have hrest := ih (fun m hm => hone m (List.mem_cons_of_mem _ hm)) htail
      rw [List.sum_cons]
      rcases Nat.eq_zero_or_pos n with rfl | hpos
      · omega
      · have hnone : counts.sum = 0 := by
          rw [List.sum_eq_zero_iff_forall_eq_nat]
          intro m hm
          have hor := hhead m hm
          omega
        have hn := hone n List.mem_cons_self
        omega

theorem entries_begun (w : WorkerLoop) : w.entries.map (·.1) = w.begun := by
  simp [WorkerLoop.entries, WorkerLoop.begun]

theorem entries_of_served {w : WorkerLoop} {k : Nat} {served : Served}
    (hk : w.served[k]? = some served) : w.entries[k]? = some (served.req, served.issued) := by
  have hlt := (List.getElem?_eq_some_iff.1 hk).1
  rw [WorkerLoop.entries, List.getElem?_append_left (by simpa using hlt), List.getElem?_map, hk]
  rfl

theorem modest_of_entry {w : WorkerLoop} (h : Pipes.Sincere w) {entry : Request × List Issued}
    (hentry : entry ∈ w.entries) : Pipes.Modest entry.1 entry.2 := by
  rcases List.mem_append.1 hentry with hserved | hunanswered
  · rcases List.mem_map.1 hserved with ⟨served, hmem, rfl⟩
    exact (h.served served hmem).1
  · exact h.unanswered _ _ (Option.mem_toList.1 hunanswered)

section Delivered

variable {σ ι κ : Type*} {Soup Tag : Type} {wire : Wire} {json : WorkerJson}
  {lib : Libraries Soup Tag} {pages : PageReader Soup}
  {c : Link.Caller σ ι κ Request Response String} {Good : σ → Prop} {right : κ → Request → Prop}
  {timeouts : Timeouts} {s : Wired σ κ}

/-- Of two requests for one key, the earlier has posted nothing. -/
theorem Kept.earlier (h : Kept wire json lib pages c Good right timeouts s)
    (hund : Pipes.Understood wire json s.pipes) {j k : Nat} {key : κ} (hlt : j < k)
    (hj : s.asked[j]? = some (some key)) (hk : s.asked[k]? = some (some key))
    {entry : Request × List Issued} (hentry : s.pipes.worker.entries[j]? = some entry) :
    posts entry.2 = 0 := by
  rcases h.sound.again j k key hlt hj hk with ⟨req, line, resp, hgot, hproves⟩
  have hkept := Pipes.Kept.of_run h.reachable hund
  have hsincere := Pipes.Sincere.of_run h.reachable
  rcases hkept.proven hsincere hgot hproves with ⟨served, hserved, -, hnone⟩
  rw [entries_of_served hserved] at hentry
  rw [← Option.some.inj hentry]
  exact hnone

theorem Kept.postsFor_le [DecidableEq κ]
    (h : Kept wire json lib pages c Good right timeouts s)
    (hund : Pipes.Understood wire json s.pipes) (key : κ) : s.postsFor key ≤ 1 := by
  have hsincere := Pipes.Sincere.of_run h.reachable
  refine sum_le_one ?_ ?_
  · intro n hn
    rcases List.mem_map.1 hn with ⟨⟨entry, whose⟩, hmem, rfl⟩
    have hmodest := modest_of_entry hsincere (List.of_mem_zip hmem).1
    dsimp only
    split
    · refine Nat.le_trans hmodest ?_
      split <;> omega
    · exact Nat.zero_le 1
  · rw [List.pairwise_iff_getElem]
    intro j k hj hk hlt
    simp only [List.length_map, List.length_zip] at hj hk
    simp only [List.getElem_map, List.getElem_zip]
    split
    · next hwhose =>
        split
        · next hwhose' =>
            left
            have hasked : s.asked[j]? = some (some key) := by
              rw [List.getElem?_eq_getElem (by omega), hwhose]
            have hasked' : s.asked[k]? = some (some key) := by
              rw [List.getElem?_eq_getElem (by omega), hwhose']
            exact h.earlier hund hlt hasked hasked' (List.getElem?_eq_getElem (by omega))
        · exact .inr rfl
    · exact .inl rfl

/-- Nothing is posted but for a key, by a request that is right for it. -/
theorem Kept.wanted (h : Kept wire json lib pages c Good right timeouts s)
    (hund : Pipes.Understood wire json s.pipes) {k : Nat} {entry : Request × List Issued}
    (hentry : s.pipes.worker.entries[k]? = some entry) (hposts : 0 < posts entry.2) :
    ∃ key, s.asked[k]? = some (some key) ∧ right key entry.1 := by
  rcases (Pipes.Kept.of_run h.reachable hund).fed with ⟨pending, torn, hfed⟩
  have htried : (ClientRun.tried s.pipes.client.log)[k]? = some entry.1 := by
    refine Places.of_prefix hfed.begun ?_
    rw [← entries_begun, List.getElem?_map, hentry]
    rfl
  have hlt : k < s.asked.length := by
    rw [h.sound.length]
    exact (List.getElem?_eq_some_iff.1 htried).1
  have hsuits := h.sound.named k _ _ (List.getElem?_eq_getElem hlt) htried
  cases hwhose : s.asked[k] with
  | some key =>
      rw [hwhose] at hsuits
      exact ⟨key, by rw [List.getElem?_eq_getElem hlt, hwhose], hsuits⟩
  | none =>
      rw [hwhose] at hsuits
      have hmodest := modest_of_entry (Pipes.Sincere.of_run h.reachable)
        (List.mem_of_getElem? hentry)
      rw [Pipes.Modest, if_neg hsuits] at hmodest
      omega

end Delivered

end Wired

/-! ## The two retry loops -/

/-- A batch over the pipes. -/
def Batch.WiredWith {Soup Tag : Type} (wire : Wire) (json : WorkerJson) (lib : Libraries Soup Tag)
    (pages : PageReader Soup) (timeouts : Timeouts) (b : Batch) (store : CheckpointStore)
    (s : Wired Engine Task) : Prop :=
  ∃ control : Option BatchControl, (control = none ∨ control = some {}) ∧
    Machine.Reaches (fun (s : Wired Engine Task) input => s.step wire json lib pages b.caller input)
      { caller := b.start control store, pipes := Pipes.spawned timeouts } s

/-- A single run over the pipes. -/
def Single.WiredWith {Soup Tag : Type} (wire : Wire) (json : WorkerJson) (lib : Libraries Soup Tag)
    (pages : PageReader Soup) (timeouts : Timeouts) (job : SingleJob) (s : Wired Single Unit) :
    Prop :=
  Machine.Reaches
    (fun (s : Wired Single Unit) input => s.step wire json lib pages (Single.caller job) input)
    { caller := Single.start, pipes := Pipes.spawned timeouts } s

theorem Batch.writes_right {b : Batch} {e : Engine} {input : Input} {task : Task} {req : Request}
    (h : b.caller.writes e input = some (task, req)) :
    ∃ jobId, req = .submitTraining jobId task.payload b.session := by
  change b.writes e input = _ at h
  unfold Batch.writes at h
  split at h
  · split at h
    · next task' a _ =>
        cases h
        exact ⟨a.jobId, rfl⟩
    · cases h
  · cases h

theorem Single.writes_right {job : SingleJob} {x : Single} {input : SingleInput} {key : Unit}
    {req : Request} (h : (Single.caller job).writes x input = some (key, req)) :
    ∃ jobId, req = .submitTraining jobId job.trainee job.session := by
  change Single.writes job x input = _ at h
  unfold Single.writes at h
  split at h
  · split at h
    · next jobId attempt _ =>
        cases h
        exact ⟨jobId, rfl⟩
    · cases h
  · cases h

/-- However the pipes delay, cut or lose what is written, the training of a trainee is posted at
most once, and every POST is made by a request that its own retry loop has made for the trainee. -/
theorem wired_posts_once {Soup Tag : Type} (wire : Wire) (json : WorkerJson)
    (lib : Libraries Soup Tag) (pages : PageReader Soup) (timeouts : Timeouts) :
    (∀ b store s, Batch.WiredWith wire json lib pages timeouts b store s →
      Pipes.Understood wire json s.pipes →
        (∀ task, s.postsFor task ≤ 1) ∧
          ∀ (k : Nat) (entry : Request × List Issued), s.pipes.worker.entries[k]? = some entry →
            0 < posts entry.2 → ∃ task jobId, s.asked[k]? = some (some task) ∧
              entry.1 = .submitTraining jobId task.payload b.session) ∧
      ∀ job s, Single.WiredWith wire json lib pages timeouts job s →
        Pipes.Understood wire json s.pipes →
          s.postsFor () ≤ 1 ∧
            ∀ (k : Nat) (entry : Request × List Issued), s.pipes.worker.entries[k]? = some entry →
              0 < posts entry.2 → ∃ jobId, s.asked[k]? = some (some ()) ∧
                entry.1 = .submitTraining jobId job.trainee job.session := by
  refine ⟨?_, ?_⟩
  · rintro b store s ⟨control, hcontrol, hreaches⟩ hund
    have hstart : b.Reachable store (b.start control store) :=
      ⟨control, hcontrol, Machine.Reaches.refl _⟩
    have hkept := Wired.Kept.of_run (b.caller_lawful store) (fun _ _ _ _ => Batch.writes_right)
      hstart hreaches
    refine ⟨hkept.postsFor_le hund, ?_⟩
    intro k entry hentry hposts
    rcases hkept.wanted hund hentry hposts with ⟨task, hasked, jobId, hreq⟩
    exact ⟨task, jobId, hasked, hreq⟩
  · intro job s hreaches hund
    have hkept := Wired.Kept.of_run (Single.caller_lawful job) (fun _ _ _ _ => Single.writes_right)
      (Machine.Reaches.refl _) hreaches
    refine ⟨hkept.postsFor_le hund (), ?_⟩
    intro k entry hentry hposts
    rcases hkept.wanted hund hentry hposts with ⟨⟨⟩, hasked, jobId, hreq⟩
    exact ⟨jobId, hasked, hreq⟩

/-! ### A trainee that is asked for twice -/

namespace Wired

def twiceReply : Response :=
  (serve plainLibraries plainPages (plainPortal "form") Pipes.graceRequest).1

def twiceWire : Wire where
  toString _ := .ok "submit"
  trim := strip
  fromStr text :=
    if text = "ready" then .ok { status := .ready }
    else if text = "missing" then .ok Pipes.graceReply
    else if text = "done" then .ok twiceReply
    else .error "expected value"
  debug text := text

def twiceJson : WorkerJson where
  loads text := if text = "submit" then .ok Pipes.graceRequest else .error "Expecting value"
  dumps resp :=
    if resp.status = .ready then "ready"
    else if resp.provesNothingSubmitted = some true then "missing"
    else "done"

/-- The form is missing at first, and there at the second look. -/
def twiceInputs : List (WiredInput Input) :=
  [.pipes .waitReady, .pipes (.works (plainPortal "form")), .pipes .reads, .pipes .received,
    .act (.newId "ensure") (.ok ()) none, .act (.reply (.ok { status := .ok })) (.ok ()) none,
    .act .tick (.ok ()) none, .act .tick (.ok ()) none, .act (.write "1" (.ok ())) (.ok ()) none,
    .act (.newId "job") (.ok ()) none, .act .tick (.ok ()) none, .act .tick (.ok ()) none,
    .pipes (.works (plainPortal "maintenance")), .pipes .reads, .pipes .received, .returns,
    .act .tick (.ok ()) none, .act .tick (.ok ()) none, .act .tick (.ok ()) none,
    .pipes (.works (plainPortal "form")), .pipes .reads, .pipes .received, .returns]

def twiceStart : Wired Engine Task :=
  { caller := pairBatch.start none pairStore, pipes := Pipes.spawned {} }

def twiceRun : Option (Wired Engine Task) :=
  Machine.run
    (fun (s : Wired Engine Task) input =>
      s.step twiceWire twiceJson plainLibraries plainPages pairBatch.caller input)
    twiceStart twiceInputs

def twice : Wired Engine Task :=
  twiceRun.getD twiceStart

theorem twice_wired : Batch.WiredWith twiceWire twiceJson plainLibraries plainPages {} pairBatch
    pairStore twice := by
  have hsome : twiceRun.isSome = true := by decide +kernel
  rcases Option.isSome_iff_exists.1 hsome with ⟨s, hs⟩
  have hend : twice = s := by simp [twice, hs]
  rw [hend]
  exact ⟨none, .inl rfl, twiceInputs, hs⟩

theorem twice_understood : Pipes.Understood twiceWire twiceJson twice.pipes where
  requests := by
    have hwritten : ClientRun.written twice.pipes.client.log =
        [Pipes.graceRequest, Pipes.graceRequest] := by decide +kernel
    rw [hwritten]
    intro req hmem
    obtain rfl : req = Pipes.graceRequest := by simpa using hmem
    exact ⟨by decide +kernel, rfl⟩
  torn := by
    have htried : ClientRun.tried twice.pipes.client.log =
        [Pipes.graceRequest, Pipes.graceRequest] := by decide +kernel
    rw [htried]
    intro req hmem text _ other hloads
    obtain rfl : req = Pipes.graceRequest := by simpa using hmem
    simp only [twiceJson] at hloads
    split at hloads
    · exact (Except.ok.inj hloads).symm
    · cases hloads
  greeting := by
    have hgreeting : twice.pipes.worker.greeting = some twiceJson.readyLine := by decide +kernel
    have hread : twiceWire.fromStr (twiceWire.trim twiceJson.readyLine) =
        .ok { status := .ready } := by decide +kernel
    intro text htext other hother
    obtain rfl : twiceJson.readyLine = text := Option.some.inj (hgreeting.symm.trans htext)
    exact (Except.ok.inj (hread.symm.trans hother)).symm
  replies := by
    have hserved : twice.pipes.worker.served.map (fun served => (served.resp, served.line)) =
        [Pipes.graceReply, twiceReply].map fun resp => (resp, twiceJson.writeLine resp) := by
      decide +kernel
    have hread : ∀ resp ∈ [Pipes.graceReply, twiceReply],
        twiceWire.fromStr (twiceWire.trim (twiceJson.writeLine resp)) = .ok resp := by
      decide +kernel
    intro served hmem other hother
    have hentry : (served.resp, served.line) ∈
        [Pipes.graceReply, twiceReply].map fun resp => (resp, twiceJson.writeLine resp) :=
      hserved ▸ List.mem_map_of_mem hmem
    rcases List.mem_map.1 hentry with ⟨resp, hresp, heq⟩
    rcases Prod.mk.inj heq with ⟨rfl, hline⟩
    rw [← hline, hread _ hresp] at hother
    exact (Except.ok.inj hother).symm

end Wired

theorem wired_posts_once_for_grace :
    Wired.twice.pipes.worker.entries.map (fun entry => posts entry.2) = [0, 1] ∧
      Wired.twice.postsFor ⟨"7", { id := some "7" }⟩ ≤ 1 := by
  have hall := (wired_posts_once Wired.twiceWire Wired.twiceJson plainLibraries plainPages {}).1
  exact ⟨by decide +kernel, (hall _ _ _ Wired.twice_wired Wired.twice_understood).1 _⟩

end DsspBot

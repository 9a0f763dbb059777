import DsspBot.Worker.Client

/-!
# Pairing — which reply a call returns

Once a call on a client has failed, later calls are refused and nothing is written any more. Every
line is taken by one call, and as long as the worker writes one line for each request, the line a
successful call takes is the one written for its request.
-/

namespace DsspBot

namespace ClientRun

variable {wire : Wire} {s s' : ClientRun}

/-! ## Silence after a failure -/

/-- What a step adds to the log, as far as silence goes. -/
structure Appends (s s' : ClientRun) (events : List ClientEvent) : Prop where
  log : s'.log = s.log ++ events
  silent : s.client.unusable ≠ none → ∀ ev ∈ events, ev.Silent
  apart : events.Pairwise fun earlier later => earlier.Silences → later.Silent
  silences : ∀ ev ∈ events, ev.Silences → s'.client.unusable ≠ none
  latched : s.client.unusable ≠ none → s'.client.unusable ≠ none

@[simp] theorem unusable_invalidate (c : WorkerClient) (text : String) :
    (c.invalidate text).unusable ≠ none :=
  Option.some_ne_none _

@[simp] theorem unusable_shutdown (c : WorkerClient) (exited : Bool) :
    (c.shutdown exited).unusable ≠ none := by
  rcases c.shutdown_eq exited with ⟨reaped, hshut⟩
  rw [hshut]
  exact unusable_invalidate c _

theorem silent_failure (call : Call) (text : String) : (call.failure none text).Silent := by
  cases call with
  | waitReady => exact ⟨rfl, text, rfl⟩
  | send req => exact ⟨rfl, text, rfl⟩

/-- A step that leaves the client unusable may add any one event while the client was usable. -/
theorem Appends.of_broken {events : List ClientEvent} (hlog : s'.log = s.log ++ events)
    (husable : s.client.unusable = none) (hbroken : s'.client.unusable ≠ none)
    (hapart : events.Pairwise fun earlier later => earlier.Silences → later.Silent) :
    Appends s s' events :=
  ⟨hlog, fun h => absurd husable h, hapart, fun _ _ _ => hbroken, fun _ => hbroken⟩

/-- So may one that adds nothing that silences. -/
theorem Appends.of_usable {events : List ClientEvent} (hlog : s'.log = s.log ++ events)
    (husable : s.client.unusable = none) (hnone : ∀ ev ∈ events, ¬ev.Silences) :
    Appends s s' events := by
  refine ⟨hlog, fun h => absurd husable h, ?_, ?_, fun h => absurd husable h⟩
  · refine List.pairwise_of_forall_mem_list ?_
    exact fun earlier hmem _ _ hsilences => absurd hsilences (hnone earlier hmem)
  · exact fun ev hmem hsilences => absurd hsilences (hnone ev hmem)

theorem Step.appends (h : Whole s) (hstep : Step wire s s') : ∃ events, Appends s s' events := by
  cases hstep with
  | read item hreading heq =>
      subst heq
      rcases s.read_keeps item with ⟨hlog, -, hclient⟩
      refine ⟨_, hlog, ?_, List.pairwise_singleton _ _, ?_, fun hbroken => hclient ▸ hbroken⟩
      · intro _ ev hev
        rw [List.mem_singleton.1 hev]
        trivial
      · intro ev hev hsilences
        rw [List.mem_singleton.1 hev] at hsilences
        exact hsilences.elim
  | refused call text hunusable heq =>
      subst heq
      refine ⟨_, rfl, ?_, List.pairwise_singleton _ _, fun _ _ _ => hunusable, id⟩
      intro _ ev hev
      rw [List.mem_singleton.1 hev]
      exact silent_failure call text
  | asked call husable hidle heq =>
      subst heq
      refine ⟨_, .of_usable rfl husable ?_⟩
      intro ev hev
      cases call with
      | waitReady => cases hev
      | send req =>
          rw [List.mem_singleton.1 hev]
          exact id
  | unsent req tried text husable hidle htried heq =>
      subst heq
      refine ⟨_, .of_broken rfl husable (unusable_invalidate _ _) ?_⟩
      rcases htried with rfl | rfl
      · exact List.pairwise_singleton _ _
      · exact List.pairwise_pair.2 (fun hsilences => hsilences.elim)
  | unanswered call text hcalling heq =>
      subst heq
      exact ⟨_, .of_broken rfl (h.usable_of_calling hcalling) (unusable_invalidate _ _)
        (List.pairwise_singleton _ _)⟩
  | answered call item n queue hcalling hqueue hfinished =>
      have husable := h.usable_of_calling hcalling
      cases hfinished with
      | failed text heq =>
          subst heq
          exact ⟨_, .of_broken rfl husable (unusable_invalidate _ _) (List.pairwise_singleton _ _)⟩
      | greeted _ _ heq =>
          subst heq
          refine ⟨_, .of_usable rfl husable ?_⟩
          intro ev hev
          rw [List.mem_singleton.1 hev]
          exact id
      | replied _ _ _ hstatus heq =>
          subst heq
          refine ⟨_, .of_usable rfl husable ?_⟩
          intro ev hev
          rw [List.mem_singleton.1 hev]
          exact hstatus
      | misread text _ _ _ _ heq =>
          subst heq
          exact ⟨_, .of_broken rfl husable (unusable_invalidate _ _) (List.pairwise_singleton _ _)⟩
  | closed exited hidle heq =>
      subst heq
      refine ⟨_, rfl, ?_, List.pairwise_singleton _ _, fun _ _ _ => unusable_shutdown _ _,
        fun _ => unusable_shutdown _ _⟩
      intro _ ev hev
      rw [List.mem_singleton.1 hev]
      trivial

/-- After a failure the client is unusable, and everything since was silent. -/
structure Quiet (s : ClientRun) : Prop where
  unusable : ∀ ev ∈ s.log, ev.Silences → s.client.unusable ≠ none
  silent : s.log.Pairwise fun earlier later => earlier.Silences → later.Silent

theorem Quiet.step (h : Quiet s) {events : List ClientEvent} (happends : Appends s s' events) :
    Quiet s' := by
  refine ⟨?_, ?_⟩
  · intro ev hev hsilences
    rw [happends.log] at hev
    rcases List.mem_append.1 hev with hbefore | hnow
    · exact happends.latched (h.unusable ev hbefore hsilences)
    · exact happends.silences ev hnow hsilences
  · rw [happends.log]
    refine List.pairwise_append.2 ⟨h.silent, happends.apart, ?_⟩
    intro earlier hearlier later hlater hsilences
    exact happends.silent (h.unusable earlier hearlier hsilences) later hlater

/-! ## Every line is taken once -/

/-- The reply a call returned was read off a line of its own, and passed the checks. -/
def AnsweredBy (wire : Wire) (s : ClientRun) (req : Request) (line : Option Nat)
    (resp : Response) : Prop :=
  ∃ n text, line = some n ∧ s.lines[n]? = some (.ok text) ∧
    wire.fromStr (wire.trim text) = .ok resp ∧ Attributed req resp

/-- The calls have taken the first lines in order, and the channel holds the rest. -/
structure Taken (wire : Wire) (s : ClientRun) : Prop where
  numbered : ∀ (n : Nat) (item : Line), s.lines[n]? = some item → .read n item ∈ s.log
  taken : ∃ m, s.log.filterMap ClientEvent.consumed = List.range m ∧ m ≤ s.lines.length ∧
    ∀ queue, s.client.responses = some queue → queue = s.lines.zipIdx.drop m
  answered : ∀ req line resp, .sent req line (.ok resp) ∈ s.log → AnsweredBy wire s req line resp

theorem AnsweredBy.mono {req : Request} {line : Option Nat} {resp : Response}
    (h : AnsweredBy wire s req line resp) (hlines : s.lines <+: s'.lines) :
    AnsweredBy wire s' req line resp := by
  rcases h with ⟨n, text, hline, htext, hparse, hattributed⟩
  rcases hlines with ⟨more, hmore⟩
  have hn : n < s.lines.length := (List.getElem?_eq_some_iff.1 htext).1
  refine ⟨n, text, hline, ?_, hparse, hattributed⟩
  rw [← hmore, List.getElem?_append_left hn]
  exact htext

theorem zipIdx_concat {α : Type} (xs : List α) (x : α) :
    (xs ++ [x]).zipIdx = xs.zipIdx ++ [(x, xs.length)] := by
  simp [List.zipIdx_append]

namespace Taken

/-- The line at the head of the channel is the next one. -/
theorem head (h : Taken wire s) {item : Line} {n : Nat} {queue : List (Line × Nat)}
    (hqueue : s.client.responses = some ((item, n) :: queue)) :
    s.lines[n]? = some item ∧ s.log.filterMap ClientEvent.consumed = List.range n ∧
      queue = s.lines.zipIdx.drop (n + 1) := by
  rcases h.taken with ⟨m, hconsumed, hle, hqueued⟩
  have hrest := hqueued _ hqueue
  have hm : m < s.lines.length := by
    by_contra hend
    have hnone : s.lines.zipIdx.drop m = [] := List.drop_eq_nil_of_le (by simp; omega)
    simp [hnone] at hrest
  rw [List.drop_eq_getElem_cons (by simpa using hm), List.getElem_zipIdx, Nat.zero_add,
    List.cons.injEq, Prod.mk.injEq] at hrest
  rcases hrest with ⟨⟨hitem, rfl⟩, htail⟩
  exact ⟨by rw [List.getElem?_eq_getElem hm, hitem], hconsumed, htail⟩

/-- Nothing is taken off the channel. -/
theorem frame (h : Taken wire s) {events : List ClientEvent} (hlines : s'.lines = s.lines)
    (hlog : s'.log = s.log ++ events)
    (hconsumed : ∀ ev ∈ events, ev.consumed = none)
    (hsent : ∀ req line resp, .sent req line (.ok resp) ∉ events)
    (hresponses : ∀ queue, s'.client.responses = some queue → s.client.responses = some queue) :
    Taken wire s' := by
  refine ⟨?_, ?_, ?_⟩
  · intro n item hitem
    rw [hlines] at hitem
    rw [hlog]
    exact List.mem_append_left _ (h.numbered n item hitem)
  · rcases h.taken with ⟨m, htaken, hle, hqueued⟩
    refine ⟨m, ?_, hlines ▸ hle, ?_⟩
    · rw [hlog, List.filterMap_append, List.filterMap_eq_nil_iff.2 hconsumed, htaken,
        List.append_nil]
    · intro queue hqueue
      rw [hlines]
      exact hqueued queue (hresponses queue hqueue)
  · intro req line resp hmem
    rw [hlog] at hmem
    have hbefore := (List.mem_append.1 hmem).resolve_right (hsent req line resp)
    exact (h.answered req line resp hbefore).mono (hlines ▸ List.prefix_refl _)

/-- A call comes back with the next line. -/
theorem answer (h : Taken wire s) {item : Line} {n : Nat} {queue : List (Line × Nat)}
    {ev : ClientEvent} (hqueue : s.client.responses = some ((item, n) :: queue))
    (hlines : s'.lines = s.lines) (hlog : s'.log = s.log ++ [ev])
    (hconsumed : ev.consumed = some n)
    (hsent : ∀ req line resp, ev = .sent req line (.ok resp) → AnsweredBy wire s req line resp)
    (hresponses : ∀ left, s'.client.responses = some left → left = queue) : Taken wire s' := by
  rcases h.head hqueue with ⟨hitem, htaken, hrest⟩
  refine ⟨?_, ⟨n + 1, ?_, ?_, ?_⟩, ?_⟩
  · intro i found hfound
    rw [hlines] at hfound
    rw [hlog]
    exact List.mem_append_left _ (h.numbered i found hfound)
  · rw [hlog, List.filterMap_append, htaken, List.range_succ]
    simp [hconsumed]
  · rw [hlines]
    exact (List.getElem?_eq_some_iff.1 hitem).1
  · intro left hleft
    rw [hresponses left hleft, hlines, hrest]
  · intro req line resp hmem
    rw [hlog] at hmem
    have hanswered : AnsweredBy wire s req line resp := by
      rcases List.mem_append.1 hmem with hbefore | hnow
      · exact h.answered req line resp hbefore
      · exact hsent req line resp (List.mem_singleton.1 hnow).symm
    exact hanswered.mono (hlines ▸ List.prefix_refl _)

theorem read (h : Taken wire s) (item : Line) : Taken wire (s.read item) := by
  rcases s.read_keeps item with ⟨hlog, hlines, -⟩
  rcases h.taken with ⟨m, htaken, hle, hqueued⟩
  refine ⟨?_, ⟨m, ?_, ?_, ?_⟩, ?_⟩
  · intro n found hfound
    rw [hlog]
    rw [hlines] at hfound
    rcases Nat.lt_trichotomy n s.lines.length with hlt | rfl | hgt
    · rw [List.getElem?_append_left hlt] at hfound
      exact List.mem_append_left _ (h.numbered n found hfound)
    · have hsame : item = found := by simpa using hfound
      exact List.mem_append_right _ (hsame ▸ List.mem_singleton_self _)
    · rw [List.getElem?_eq_none (by simp; omega)] at hfound
      cases hfound
  · rw [hlog, List.filterMap_append, htaken]
    exact List.append_nil _
  · rw [hlines, List.length_append]
    omega
  · intro queue hqueue
    cases hbefore : s.client.responses with
    | none =>
        rw [read_of_none item hbefore] at hqueue
        cases hbefore.symm.trans hqueue
    | some before =>
        rw [read_of_some item hbefore] at hqueue
        rcases Option.some.inj hqueue with rfl
        rw [hlines, zipIdx_concat, List.drop_append_of_le_length (by simpa using hle),
          hqueued before hbefore]
  · intro req line resp hmem
    rw [hlog] at hmem
    have hbefore : .sent req line (.ok resp) ∈ s.log := by simpa using hmem
    exact (h.answered req line resp hbefore).mono (hlines ▸ List.prefix_append _ _)

/-- A response is read off the line at the head of the channel. -/
theorem parsed (h : Taken wire s) {call : Call} {item : Line} {n : Nat}
    {queue : List (Line × Nat)} {resp : Response}
    (hqueue : s.client.responses = some ((item, n) :: queue))
    (hread : s.readFor wire call (.ok item) = .ok resp) :
    ∃ text, s.lines[n]? = some (.ok text) ∧ wire.fromStr (wire.trim text) = .ok resp ∧
      resp.v = V := by
  have hresponse : resp.v = V ∧ ∃ line, (.ok item : Except RecvTimeoutError Line) = .ok (.ok line) ∧
      wire.fromStr (wire.trim line) = .ok resp := by
    cases call with
    | waitReady => exact WorkerClient.readResponse_eq_ok hread
    | send req => exact WorkerClient.readResponse_eq_ok hread
  rcases hresponse with ⟨hversion, text, hitem, hparse⟩
  rw [Except.ok.inj hitem] at hqueue
  exact ⟨text, (h.head hqueue).1, hparse, hversion⟩

/-- What a call read off its line, if it passed the checks. -/
theorem answeredBy (h : Taken wire s) {call : Call} {req : Request} {item : Line} {n : Nat}
    {queue : List (Line × Nat)} {resp : Response}
    (hqueue : s.client.responses = some ((item, n) :: queue))
    (hread : s.readFor wire call (.ok item) = .ok resp)
    (hechoed : WorkerClient.echoed req resp = .ok resp) :
    AnsweredBy wire s req (some n) resp := by
  rcases h.parsed hqueue hread with ⟨text, hline, hparse, hversion⟩
  rcases WorkerClient.echoed_eq_ok hechoed with ⟨-, hjob, hop, hidentity⟩
  exact ⟨n, text, rfl, hline, hparse, hversion, hjob, hop, hidentity⟩

theorem step (h : Taken wire s) (hstep : Step wire s s') : Taken wire s' := by
  cases hstep with
  | read item hreading heq =>
      subst heq
      exact h.read item
  | refused call text hunusable heq =>
      subst heq
      refine h.frame rfl rfl ?_ ?_ (fun _ hqueue => hqueue)
      · intro ev hev
        rw [List.mem_singleton.1 hev]
        exact call.failure_consumed none text
      · intro req line resp hmem
        exact call.failure_ne_ok (List.mem_singleton.1 hmem).symm
  | asked call husable hidle heq =>
      subst heq
      refine h.frame rfl rfl ?_ ?_ (fun _ hqueue => hqueue)
      · intro ev hev
        exact Call.consumed_of_writes hev
      · intro req line resp hmem
        cases call with
        | waitReady => cases hmem
        | send req' => cases List.mem_singleton.1 hmem
  | unsent req tried text husable hidle htried heq =>
      subst heq
      refine h.frame rfl rfl ?_ ?_ (fun _ hqueue => by cases hqueue)
      · intro ev hev
        rcases htried with rfl | rfl
        · rw [List.mem_singleton.1 hev]
          rfl
        · rcases List.mem_cons.1 hev with rfl | hlast
          · rfl
          · rw [List.mem_singleton.1 hlast]
            rfl
      · intro req' line resp hmem
        rcases htried with rfl | rfl <;> simp at hmem
  | unanswered call text hcalling heq =>
      subst heq
      refine h.frame rfl rfl ?_ ?_ (fun _ hqueue => by cases hqueue)
      · intro ev hev
        rw [List.mem_singleton.1 hev]
        exact call.failure_consumed none text
      · intro req line resp hmem
        exact call.failure_ne_ok (List.mem_singleton.1 hmem).symm
  | answered call item n queue hcalling hqueue hfinished =>
      cases hfinished with
      | failed text heq =>
          subst heq
          refine h.answer hqueue rfl rfl (call.failure_consumed _ text) ?_
            (fun _ hleft => by cases hleft)
          exact fun _ _ _ heq => absurd heq call.failure_ne_ok
      | greeted _ _ heq =>
          subst heq
          refine h.answer hqueue rfl rfl rfl ?_ (fun _ hleft => (Option.some.inj hleft).symm)
          intro req line resp heq
          cases heq
      | replied _ hresult hechoed _ heq =>
          subst heq
          refine h.answer hqueue rfl rfl rfl ?_ (fun _ hleft => (Option.some.inj hleft).symm)
          intro req line resp heq
          cases heq
          exact h.answeredBy hqueue hresult hechoed
      | misread text _ hresult hechoed _ heq =>
          subst heq
          refine h.answer hqueue rfl rfl rfl ?_ (fun _ hleft => by cases hleft)
          intro req line resp heq
          cases heq
          exact h.answeredBy hqueue hresult hechoed
  | closed exited hidle heq =>
      subst heq
      refine h.frame rfl rfl ?_ ?_ ?_
      · intro ev hev
        rw [List.mem_singleton.1 hev]
        rfl
      · intro req line resp hmem
        cases List.mem_singleton.1 hmem
      · intro queue hqueue
        rcases s.client.shutdown_eq exited with ⟨reaped, hshut⟩
        simp [hshut, WorkerClient.invalidate] at hqueue

end Taken

structure Inv (wire : Wire) (s : ClientRun) : Prop where
  whole : Whole s
  quiet : Quiet s
  taken : Taken wire s

theorem Inv.step (h : Inv wire s) {input : ClientInput} (hinput : step wire s input = some s') :
    Inv wire s' := by
  have hstep := step_cases h.whole hinput
  rcases hstep.appends h.whole with ⟨events, happends⟩
  exact ⟨h.whole.step hstep, h.quiet.step happends, h.taken.step hstep⟩

theorem inv_spawned (wire : Wire) (timeouts : Timeouts) : Inv wire (spawned timeouts) where
  whole := ⟨fun _ => ⟨rfl, [], rfl⟩, fun hunusable => absurd rfl hunusable⟩
  quiet := ⟨fun ev hev => absurd hev List.not_mem_nil, List.Pairwise.nil⟩
  taken :=
    { numbered := fun n item hitem => by cases hitem
      taken := ⟨0, rfl, Nat.le_refl 0, fun queue hqueue => (Option.some.inj hqueue).symm⟩
      answered := fun req line resp hmem => by cases hmem }

theorem Reachable.inv {timeouts : Timeouts} (h : Reachable wire timeouts s) : Inv wire s :=
  Machine.Reaches.invariant (P := Inv wire) (fun _ _ _ hinv hstep => hinv.step hstep)
    (inv_spawned wire timeouts) h

/-! ## One line for each request -/

/-- The requests that made it into the pipe. -/
def written (log : List ClientEvent) : List Request :=
  log.filterMap fun
    | .wrote req true => some req
    | _ => none

/-- The calls of `send` that succeeded, each with the line it took. -/
def succeeded (log : List ClientEvent) : List (Request × Option Nat × Response) :=
  log.filterMap fun
    | .sent req line (.ok resp) => some (req, line, resp)
    | _ => none

@[simp] theorem written_append (log events : List ClientEvent) :
    written (log ++ events) = written log ++ written events :=
  List.filterMap_append

@[simp] theorem succeeded_append (log events : List ClientEvent) :
    succeeded (log ++ events) = succeeded log ++ succeeded events :=
  List.filterMap_append

@[simp] theorem written_failure (call : Call) (line : Option Nat) (text : String) :
    written [call.failure line text] = [] := by
  cases call with
  | waitReady => rfl
  | send req => rfl

@[simp] theorem succeeded_failure (call : Call) (line : Option Nat) (text : String) :
    succeeded [call.failure line text] = [] := by
  cases call with
  | waitReady => rfl
  | send req => rfl

/-- The worker greets with one handshake line, if it greets at all, and writes one line for each
request after it has got it. So the line of the `k`-th request is the `k`-th after the greeting. -/
structure OneLineEach (wire : Wire) (greets : Bool) (s : ClientRun) : Prop where
  prompt : ∀ before n text after, s.log = before ++ .read n (.ok text) :: after →
    n < greets.toNat + (written before).length
  greeting : greets = true → ∀ text resp, s.lines[0]? = some (.ok text) →
    wire.fromStr (wire.trim text) = .ok resp → resp.status = .ready

theorem OneLineEach.before {greets : Bool} (h : OneLineEach wire greets s')
    (hlog : s.log <+: s'.log) (hlines : s.lines <+: s'.lines) : OneLineEach wire greets s := by
  refine ⟨?_, ?_⟩
  · intro before n text after hsplit
    rcases hlog with ⟨more, hmore⟩
    refine h.prompt before n text (after ++ more) ?_
    rw [← hmore, hsplit, List.append_assoc, List.cons_append]
  · intro hgreets text resp hline hparse
    rcases hlines with ⟨more, hmore⟩
    refine h.greeting hgreets text resp ?_ hparse
    rw [← hmore, List.getElem?_append_left (List.getElem?_eq_some_iff.1 hline).1]
    exact hline

/-- The line of the `k`-th successful call is the one written for the `k`-th request. Only a
greeting that nobody waited for may be taken for the first reply. -/
def PairedBy (greets : Bool) (k : Nat) (line : Option Nat) (resp : Response) : Prop :=
  line = some (k + greets.toNat) ∨
    (greets = true ∧ k = 0 ∧ line = some 0 ∧ resp.status = .ready)

/-- How far a usable client has come: the handshakes it waited for, the requests it wrote and the
lines it took. -/
structure Level (greets : Bool) (s : ClientRun) (waited : Nat) : Prop where
  consumed : s.log.filterMap ClientEvent.consumed =
    List.range (waited + (succeeded s.log).length)
  waited_le : waited ≤ greets.toNat
  greeted : waited < greets.toNat → succeeded s.log = []
  idle : (∀ req, s.calling ≠ some (.send req)) →
    (written s.log).length = (succeeded s.log).length
  asking : ∀ req, s.calling = some (.send req) →
    ∃ before, written s.log = before ++ [req] ∧ before.length = (succeeded s.log).length

structure Paired (greets : Bool) (s : ClientRun) : Prop where
  pairs : ∀ k req line resp, (succeeded s.log)[k]? = some (req, line, resp) →
    (written s.log)[k]? = some req ∧ PairedBy greets k line resp
  level : s.client.unusable = none → ∃ waited, Level greets s waited
  prompt : ∀ (n : Nat) text, s.lines[n]? = some (.ok text) →
    n < greets.toNat + (written s.log).length

namespace Paired

variable {greets : Bool}

theorem written_of_log {events : List ClientEvent} (hlog : s'.log = s.log ++ events)
    (hnone : written events = []) : written s'.log = written s.log := by
  simp [hlog, hnone]

theorem succeeded_of_log {events : List ClientEvent} (hlog : s'.log = s.log ++ events)
    (hnone : succeeded events = []) : succeeded s'.log = succeeded s.log := by
  simp [hlog, hnone]

/-- Nothing was written and no call of `send` succeeded. -/
theorem of_quiet (h : Paired greets s) {events : List ClientEvent}
    (hlog : s'.log = s.log ++ events) (hlines : s'.lines = s.lines)
    (hwritten : written events = []) (hsucceeded : succeeded events = [])
    (hlevel : s'.client.unusable = none → ∃ waited, Level greets s' waited) :
    Paired greets s' := by
  refine ⟨?_, hlevel, ?_⟩
  · intro k req line resp hk
    rw [succeeded_of_log hlog hsucceeded] at hk
    rw [written_of_log hlog hwritten]
    exact h.pairs k req line resp hk
  · intro n text hn
    rw [hlines] at hn
    rw [written_of_log hlog hwritten]
    exact h.prompt n text hn

/-- Once the client is unusable, only what was written and returned counts. -/
theorem of_broken (h : Paired greets s) {events : List ClientEvent}
    (hlog : s'.log = s.log ++ events) (hlines : s'.lines = s.lines)
    (hbroken : s'.client.unusable ≠ none) (hwritten : written events = [])
    (hsucceeded : succeeded events = []) : Paired greets s' :=
  h.of_quiet hlog hlines hwritten hsucceeded fun husable => absurd husable hbroken

/-- One more successful call, of the request that was written last. -/
theorem reply (h : Paired greets s) {req : Request} {line : Option Nat} {resp : Response}
    {before : List Request} (hlog : s'.log = s.log ++ [.sent req line (.ok resp)])
    (hwritten : written s.log = before ++ [req])
    (hlength : before.length = (succeeded s.log).length)
    (hpaired : PairedBy greets (succeeded s.log).length line resp) :
    ∀ k req line resp, (succeeded s'.log)[k]? = some (req, line, resp) →
      (written s'.log)[k]? = some req ∧ PairedBy greets k line resp := by
  have hwritten' : written s'.log = written s.log := by
    rw [hlog, written_append]
    exact List.append_nil _
  have hsucceeded' : succeeded s'.log = succeeded s.log ++ [(req, line, resp)] := by
    rw [hlog, succeeded_append]
    rfl
  intro k found line' resp' hk
  rw [hsucceeded'] at hk
  rw [hwritten']
  rcases Nat.lt_trichotomy k (succeeded s.log).length with hlt | rfl | hgt
  · rw [List.getElem?_append_left hlt] at hk
    exact h.pairs k found line' resp' hk
  · have hsame : (req, line, resp) = (found, line', resp') := by simpa using hk
    cases hsame
    refine ⟨?_, hpaired⟩
    rw [hwritten, ← hlength]
    simp
  · rw [List.getElem?_eq_none (by simp; omega)] at hk
    cases hk

/-- The line a call of `send` takes is its own, or else the greeting. -/
theorem own_line (h : Paired greets s) (hone : OneLineEach wire greets s) (htaken : Taken wire s)
    (husable : s.client.unusable = none) {req : Request} {item : Line} {n : Nat}
    {queue : List (Line × Nat)} {resp : Response} (hcalling : s.calling = some (.send req))
    (hqueue : s.client.responses = some ((item, n) :: queue))
    (hread : s.readFor wire (.send req) (.ok item) = .ok resp) :
    n = (succeeded s.log).length + greets.toNat ∨
      (greets = true ∧ succeeded s.log = [] ∧ n = 0 ∧ resp.status = .ready) := by
  rcases h.level husable with ⟨waited, hlevel⟩
  rcases hlevel.asking req hcalling with ⟨before, hwritten, hlength⟩
  rcases htaken.head hqueue with ⟨-, hconsumed, -⟩
  rcases htaken.parsed hqueue hread with ⟨text, hline, hparse, -⟩
  have hn : n = waited + (succeeded s.log).length := by
    simpa using congrArg List.length (hconsumed.symm.trans hlevel.consumed)
  rcases Nat.lt_or_ge waited greets.toNat with hless | hall
  · -- Nobody has waited for the greeting, so it is the first line of the channel.
    have hgreets : greets = true := by
      cases greets with
      | true => rfl
      | false => cases hless
    have hfirst : n = 0 := by
      rw [hn, hlevel.greeted hless]
      simp [hgreets] at hless
      simpa using hless
    exact Or.inr ⟨hgreets, hlevel.greeted hless, hfirst,
      hone.greeting hgreets text resp (hfirst ▸ hline) hparse⟩
  · have hwaited := hlevel.waited_le
    exact Or.inl (by omega)

theorem step_read (h : Paired greets s) (item : Line)
    (hone : OneLineEach wire greets (s.read item)) : Paired greets (s.read item) := by
  rcases s.read_keeps item with ⟨hlog, hlines, hclient⟩
  have hcalling : (s.read item).calling = s.calling := by
    cases hqueue : s.client.responses with
    | none =>
        rw [read_of_none item hqueue]
        rfl
    | some queue =>
        rw [read_of_some item hqueue]
        rfl
  have hwritten : written (s.read item).log = written s.log := by
    rw [hlog, written_append]
    exact List.append_nil _
  have hsucceeded : succeeded (s.read item).log = succeeded s.log := by
    rw [hlog, succeeded_append]
    exact List.append_nil _
  refine ⟨?_, ?_, ?_⟩
  · rw [hsucceeded, hwritten]
    exact h.pairs
  · intro husable
    rcases h.level (hclient ▸ husable) with ⟨waited, hlevel⟩
    refine ⟨waited, ⟨?_, hlevel.waited_le, ?_, ?_, ?_⟩⟩
    · rw [hsucceeded, ← hlevel.consumed, hlog, List.filterMap_append]
      exact List.append_nil _
    · rw [hsucceeded]
      exact hlevel.greeted
    · rw [hcalling, hwritten, hsucceeded]
      exact hlevel.idle
    · rw [hcalling, hwritten, hsucceeded]
      exact hlevel.asking
  · intro n text hn
    rw [hlines] at hn
    rw [hwritten]
    rcases Nat.lt_trichotomy n s.lines.length with hlt | rfl | hgt
    · rw [List.getElem?_append_left hlt] at hn
      exact h.prompt n text hn
    · -- A new line comes after the request it answers.
      have hitem : item = .ok text := by simpa using hn
      exact hone.prompt s.log _ text [] (hitem ▸ hlog)
    · rw [List.getElem?_eq_none (by simp; omega)] at hn
      cases hn

theorem step_asked (h : Paired greets s) (call : Call) (husable : s.client.unusable = none)
    (hidle : s.calling = none) :
    Paired greets { s.emit call.writes with calling := some call } := by
  rcases h.level husable with ⟨waited, hlevel⟩
  have hbefore := hlevel.idle (by simp [hidle])
  cases call with
  | waitReady =>
      have hlog : (s.emit (Call.writes .waitReady)).log = s.log ++ [] := rfl
      have hconsumed : (s.log ++ []).filterMap ClientEvent.consumed =
          List.range (waited + (succeeded (s.log ++ [])).length) := by
        simpa using hlevel.consumed
      refine h.of_quiet hlog rfl rfl rfl fun _ => ⟨waited, hconsumed, hlevel.waited_le, ?_, ?_, ?_⟩
      · simpa [hlog] using hlevel.greeted
      · simpa [hlog] using hbefore
      · intro req hcalling
        cases hcalling
  | send req =>
      have hlog : (s.emit (Call.writes (.send req))).log = s.log ++ [.wrote req true] := rfl
      have hwritten : written (s.log ++ [.wrote req true]) = written s.log ++ [req] :=
        written_append _ _
      have hsucceeded : succeeded (s.log ++ [.wrote req true]) = succeeded s.log := by
        rw [succeeded_append]
        exact List.append_nil _
      refine ⟨?_, fun _ => ⟨waited, ⟨?_, hlevel.waited_le, ?_, ?_, ?_⟩⟩, ?_⟩
      · intro k found line resp hk
        rw [hlog, hsucceeded] at hk
        rcases h.pairs k found line resp hk with ⟨hfound, hpaired⟩
        refine ⟨?_, hpaired⟩
        rw [hlog, hwritten, List.getElem?_append_left (List.getElem?_eq_some_iff.1 hfound).1]
        exact hfound
      · rw [hlog, hsucceeded, ← hlevel.consumed, List.filterMap_append]
        exact List.append_nil _
      · rw [hlog, hsucceeded]
        exact hlevel.greeted
      · intro hnone
        exact absurd rfl (hnone req)
      · intro found hfound
        cases hfound
        exact ⟨written s.log, by rw [hlog, hwritten], by rw [hlog, hsucceeded, hbefore]⟩
      · intro n text hn
        rw [hlog, hwritten, List.length_append]
        exact Nat.lt_add_right 1 (h.prompt n text hn)

theorem step_answered (h : Paired greets s) (hone : OneLineEach wire greets s)
    (htaken : Taken wire s) (husable : s.client.unusable = none) {call : Call} {item : Line}
    {n : Nat} {queue : List (Line × Nat)} (hcalling : s.calling = some call)
    (hqueue : s.client.responses = some ((item, n) :: queue))
    (hfinished : Finished { s with client := { s.client with responses := some queue } } call
      (some n) (s.readFor wire call (.ok item)) s') : Paired greets s' := by
  rcases h.level husable with ⟨waited, hlevel⟩
  rcases htaken.head hqueue with ⟨-, hconsumed, -⟩
  have hn : n = waited + (succeeded s.log).length := by
    simpa using congrArg List.length (hconsumed.symm.trans hlevel.consumed)
  cases hfinished with
  | failed text heq =>
      subst heq
      exact h.of_broken rfl rfl (unusable_invalidate _ _) (written_failure _ _ _)
        (succeeded_failure _ _ _)
  | greeted hcall hresult heq =>
      have hlog : s'.log = s.log ++ [.ready (some n) (.ok ())] := by
        rw [heq]
        rfl
      rcases hcall with rfl
      rcases htaken.parsed hqueue hresult with ⟨text, hline, -, -⟩
      have hidle := hlevel.idle (by simp [hcalling])
      -- No request is out, so the line is the greeting, and the only one.
      have hgreeting : waited < greets.toNat := by
        have hprompt := h.prompt n text hline
        omega
      have hone' : greets.toNat ≤ 1 := Bool.toNat_le greets
      have hwritten := written_of_log hlog rfl
      have hsucceeded := succeeded_of_log hlog rfl
      have hlines : s'.lines = s.lines := by rw [heq]; rfl
      refine h.of_quiet hlog hlines rfl rfl fun _ => ⟨waited + 1, ⟨?_, hgreeting, ?_, ?_, ?_⟩⟩
      · have hnext : waited + 1 + (succeeded s.log).length = n + 1 := by omega
        rw [hsucceeded, hnext, hlog, List.filterMap_append, hconsumed, List.range_succ]
        rfl
      · intro hless
        omega
      · intro _
        rw [hwritten, hsucceeded]
        exact hidle
      · intro req hreq
        rw [heq] at hreq
        cases hreq
  | @replied req resp hcall hresult hechoed hstatus heq =>
      have hlog : s'.log = s.log ++ [.sent req (some n) (.ok resp)] := by
        rw [heq]
        rfl
      rcases hcall with rfl
      rcases hlevel.asking req hcalling with ⟨before, hwritten, hlength⟩
      have hown : n = (succeeded s.log).length + greets.toNat :=
        (h.own_line hone htaken husable hcalling hqueue hresult).resolve_right
          fun hgreeting => hstatus hgreeting.2.2.2
      have hwritten' := written_of_log hlog rfl
      have hsucceeded' : succeeded s'.log = succeeded s.log ++ [(req, some n, resp)] := by
        rw [hlog, succeeded_append]
        rfl
      refine ⟨h.reply hlog hwritten hlength (Or.inl (congrArg some hown)),
        fun _ => ⟨waited, ⟨?_, hlevel.waited_le, ?_, ?_, ?_⟩⟩, ?_⟩
      · have hnext : waited + (succeeded s'.log).length = n + 1 := by
          rw [hsucceeded', List.length_append, hn]
          rfl
        rw [hnext, hlog, List.filterMap_append, hconsumed, List.range_succ]
        rfl
      · intro hless
        omega
      · intro _
        rw [hwritten', hsucceeded', hwritten, List.length_append, List.length_append, hlength]
        rfl
      · intro found hfound
        rw [heq] at hfound
        cases hfound
      · rw [hwritten', heq]
        exact h.prompt
  | @misread req resp text hcall hresult hechoed hstatus heq =>
      have hlog : s'.log = s.log ++ [.sent req (some n) (.ok resp)] := by
        rw [heq]
        rfl
      rcases hcall with rfl
      rcases hlevel.asking req hcalling with ⟨before, hwritten, hlength⟩
      have hpaired : PairedBy greets (succeeded s.log).length (some n) resp := by
        rcases h.own_line hone htaken husable hcalling hqueue hresult with
          hown | ⟨hgreets, hfirst, hzero, -⟩
        · exact Or.inl (congrArg some hown)
        · exact Or.inr ⟨hgreets, by rw [hfirst]; rfl, congrArg some hzero, hstatus⟩
      refine ⟨h.reply hlog hwritten hlength hpaired, ?_, ?_⟩
      · intro husable'
        rw [heq] at husable'
        exact absurd husable' (unusable_invalidate _ _)
      · rw [written_of_log hlog rfl, heq]
        exact h.prompt

theorem step (h : Paired greets s) (hinv : Inv wire s) (hstep : Step wire s s')
    (hone : OneLineEach wire greets s) (hone' : OneLineEach wire greets s') :
    Paired greets s' := by
  cases hstep with
  | read item hreading heq =>
      subst heq
      exact h.step_read item hone'
  | refused call text hunusable heq =>
      subst heq
      exact h.of_broken rfl rfl hunusable (written_failure _ _ _) (succeeded_failure _ _ _)
  | asked call husable hidle heq =>
      subst heq
      exact h.step_asked call husable hidle
  | unsent req tried text husable hidle htried heq =>
      subst heq
      refine h.of_broken rfl rfl (unusable_invalidate _ _) ?_ ?_
      · rcases htried with rfl | rfl <;> rfl
      · rcases htried with rfl | rfl <;> rfl
  | unanswered call text hcalling heq =>
      subst heq
      exact h.of_broken rfl rfl (unusable_invalidate _ _) (written_failure _ _ _)
        (succeeded_failure _ _ _)
  | answered call item n queue hcalling hqueue hfinished =>
      exact h.step_answered hone hinv.taken (hinv.whole.usable_of_calling hcalling) hcalling hqueue
        hfinished
  | closed exited hidle heq =>
      subst heq
      exact h.of_broken rfl rfl (unusable_shutdown _ _) rfl rfl

end Paired

theorem Step.lines_prefix (hstep : Step wire s s') : s.lines <+: s'.lines := by
  cases hstep with
  | read item hreading heq =>
      subst heq
      rw [(s.read_keeps item).2.1]
      exact List.prefix_append _ _
  | answered call item n queue hcalling hqueue hfinished =>
      cases hfinished with
      | failed text heq => exact heq ▸ List.prefix_refl _
      | greeted _ _ heq => exact heq ▸ List.prefix_refl _
      | replied _ _ _ _ heq => exact heq ▸ List.prefix_refl _
      | misread _ _ _ _ _ heq => exact heq ▸ List.prefix_refl _
  | refused _ _ _ heq => exact heq ▸ List.prefix_refl _
  | asked _ _ _ heq => exact heq ▸ List.prefix_refl _
  | unsent _ _ _ _ _ _ heq => exact heq ▸ List.prefix_refl _
  | unanswered _ _ _ heq => exact heq ▸ List.prefix_refl _
  | closed _ _ heq => exact heq ▸ List.prefix_refl _

theorem paired_spawned (greets : Bool) (timeouts : Timeouts) :
    Paired greets (spawned timeouts) where
  pairs := fun k req line resp hk => by cases hk
  level := fun _ => ⟨0, rfl, Nat.zero_le _, fun _ => rfl, fun _ => rfl, fun req h => by cases h⟩
  prompt := fun n text hn => by cases hn

theorem Reachable.paired {timeouts : Timeouts} {greets : Bool} (h : Reachable wire timeouts s)
    (hone : OneLineEach wire greets s) : Paired greets s := by
  have hall : Inv wire s ∧ (OneLineEach wire greets s → Paired greets s) := by
    refine Machine.Reaches.invariant
      (P := fun s => Inv wire s ∧ (OneLineEach wire greets s → Paired greets s)) ?_
      ⟨inv_spawned wire timeouts, fun _ => paired_spawned greets timeouts⟩ h
    rintro x input x' ⟨hinv, hpaired⟩ hinput
    refine ⟨hinv.step hinput, ?_⟩
    intro hone'
    have hstep := step_cases hinv.whole hinput
    rcases hstep.appends hinv.whole with ⟨events, happends⟩
    -- A worker that kept to its lines so far kept to them before.
    have hbefore : OneLineEach wire greets x :=
      hone'.before (happends.log ▸ List.prefix_append _ _) hstep.lines_prefix
    exact (hpaired hbefore).step hinv hstep hbefore hone'
  exact hall.2 hone

/-- A call of `send` on a silenced client returns at once, with nothing but its refusal to show. -/
theorem Inv.refuses (h : Inv wire s) (hsilenced : ∃ ev ∈ s.log, ev.Silences) (req : Request)
    (write : Except String Unit) :
    ∃ text,
      ClientRun.step wire s (.send req write) = some (s.emit [.sent req none (.error text)]) := by
  rcases hsilenced with ⟨ev, hev, hsilences⟩
  have hunusable := h.quiet.unusable ev hev hsilences
  rcases Option.ne_none_iff_exists'.1 hunusable with ⟨reason, hreason⟩
  refine ⟨s!"worker client unusable: {reason}", ?_⟩
  simp [ClientRun.step, (h.whole.broken hunusable).1, send, WorkerClient.checkUsable, hreason]

/-- Over any calls on a client, and any lines of the worker at any time: a client that failed stays
silent, no line answers twice, a reply carries the marks of its request, and as long as the worker
writes one line for each request, it is the one written for it. -/
theorem replies_are_paired {timeouts : Timeouts} (h : Reachable wire timeouts s) :
    (s.log.Pairwise fun earlier later => earlier.Silences → later.Silent) ∧
      ((∃ ev ∈ s.log, ev.Silences) → ∀ req write, ∃ text,
        step wire s (.send req write) = some (s.emit [.sent req none (.error text)])) ∧
        (s.log.filterMap ClientEvent.consumed).Nodup ∧
          (∀ req line resp, .sent req line (.ok resp) ∈ s.log →
            AnsweredBy wire s req line resp) ∧
            ∀ greets, OneLineEach wire greets s → ∀ k req line resp,
              (succeeded s.log)[k]? = some (req, line, resp) →
                (written s.log)[k]? = some req ∧ PairedBy greets k line resp := by
  have hinv := h.inv
  refine ⟨hinv.quiet.silent, hinv.refuses, ?_, hinv.taken.answered, ?_⟩
  · rcases hinv.taken.taken with ⟨m, hconsumed, -⟩
    rw [hconsumed]
    exact List.nodup_range
  · intro greets hone
    exact (h.paired hone).pairs

/-! ### A handshake, a request and its reply -/

def pongResponse : Response :=
  { jobId := "job", op := Op.ping, status := .ok }

def echoWire : Wire where
  toString req := .ok req.op
  trim line := line
  fromStr line :=
    if line = "ready" then .ok { status := .ready }
    else if line = "pong" then .ok pongResponse
    else .error "expected value"
  debug line := line

def pingRequest : Request :=
  { jobId := "job", op := Op.ping }

def pingInputs : List ClientInput :=
  [.waitReady, .line (.ok "ready"), .received, .send pingRequest (.ok ()), .line (.ok "pong"),
    .received]

def pingLog : List ClientEvent :=
  [.read 0 (.ok "ready"), .ready (some 0) (.ok ()), .wrote pingRequest true, .read 1 (.ok "pong"),
    .sent pingRequest (some 1) (.ok pongResponse)]

/-- The first reply is the line after the handshake. -/
theorem replies_are_paired_for_ping : ∃ s, Reachable echoWire {} s ∧ s.log = pingLog ∧
    (s.log.filterMap ClientEvent.consumed).Nodup ∧ OneLineEach echoWire true s ∧
      PairedBy true 0 (some 1) pongResponse := by
  have hreachable : ∃ s, Machine.run (step echoWire) (spawned {}) pingInputs = some s ∧
      s.log = pingLog ∧ s.lines = [.ok "ready", .ok "pong"] := ⟨_, rfl, rfl, rfl⟩
  rcases hreachable with ⟨s, hrun, hlog, hlines⟩
  have hone : OneLineEach echoWire true s := by
    refine ⟨?_, ?_⟩
    · intro before n text after hsplit
      rw [hlog] at hsplit
      -- The two lines stand before any request, and after the only one.
      rcases before with _ | ⟨_, _ | ⟨_, _ | ⟨_, _ | ⟨_, _ | ⟨_, before⟩⟩⟩⟩⟩ <;>
        simp [pingLog] at hsplit
      · rw [← hsplit.1.1]
        decide
      · rcases hsplit with ⟨rfl, rfl, rfl, ⟨rfl, -⟩, -⟩
        decide
    · intro _ text resp hfirst hparse
      have htext : text = "ready" := by simpa [hlines, eq_comm] using hfirst
      subst htext
      cases hparse
      rfl
  have h := replies_are_paired ⟨pingInputs, hrun⟩
  have hpaired := h.2.2.2.2 true hone 0 pingRequest (some 1) pongResponse (by rw [hlog]; rfl)
  exact ⟨s, ⟨pingInputs, hrun⟩, hlog, h.2.2.1, hone, hpaired.2⟩

end ClientRun

end DsspBot

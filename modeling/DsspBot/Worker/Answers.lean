import DsspBot.Worker.Loop

/-!
# Answers — what a call of the worker client comes back with

The client tells replies apart by their requests, and the worker answers its lines in order. Over a
whole run, therefore, a call returns what the worker has made of its own request, and the portal is
asked for nothing that no call has tried to write.
-/

namespace DsspBot

namespace Pipes

section Steps

variable {Soup Tag : Type} {wire : Wire} {json : WorkerJson} {lib : Libraries Soup Tag}
  {pages : PageReader Soup} {s s' : Pipes} {timeouts : Timeouts} {portal : Portal}

/-! ## Whose reply a call returns -/

/-- Every reply but a handshake is what the worker has made of the very request. -/
def Answered (s : Pipes) : Prop :=
  ∀ (k : Nat) (req : Request) (line : Option Nat) (resp : Response),
    (ClientRun.succeeded s.client.log)[k]? = some (req, line, resp) →
      resp ≠ { status := .ready } →
        ∃ issued written, s.worker.served[k]? =
          some { req := req, resp := resp, issued := issued, line := written }

theorem sent_of_succeeded {log : List ClientEvent} {k : Nat} {req : Request} {line : Option Nat}
    {resp : Response} (hk : (ClientRun.succeeded log)[k]? = some (req, line, resp)) :
    .sent req line (.ok resp) ∈ log := by
  rcases List.mem_filterMap.1 (List.mem_of_getElem? hk) with ⟨ev, hev, hsome⟩
  cases ev with
  | sent req' line' reply =>
      cases reply with
      | ok resp' =>
          cases hsome
          exact hev
      | error text => cases hsome
  | _ => cases hsome

/-- As long as the worker has kept to its lines, the calls that succeeded are paired with what it
has served. -/
theorem answered_of_follows (h : Follows wire s) (hund : Understood wire json s)
    (hwritten : ∃ pending, ClientRun.written s.client.log = s.worker.begun ++ pending)
    (hclient : ClientRun.Reachable wire timeouts s.client) : Answered s := by
  intro k req line resp hk hother
  rcases (hclient.paired h.each).pairs k req line resp hk with ⟨hreq, hline⟩
  rcases hclient.inv.taken.answered req line resp (sent_of_succeeded hk) with
    ⟨n, text, hn, htext, hparse, -⟩
  have hspoken := h.heard.lines n text htext
  have hready : s.worker.ready = true := by
    by_contra hunready
    have hfalse : s.worker.ready = false := by simpa using hunready
    have hnone : s.worker.greeting = none := by simpa [WorkerLoop.ready] using hfalse
    simp [transcript, hnone, h.heard.early hfalse] at hspoken
  rcases Option.isSome_iff_exists.1 hready with ⟨greeting, hgreets⟩
  have hown : n = k + 1 := by
    rcases hline with hown | ⟨-, -, hgreeting, -⟩
    · exact Option.some.inj (hn.symm.trans hown)
    · -- The line of the greeting holds nothing but the greeting.
      obtain rfl : n = 0 := Option.some.inj (hn.symm.trans hgreeting)
      have htext' : greeting = text := by simpa [transcript, hgreets] using hspoken
      rw [← htext'] at hparse
      exact absurd (hund.greeting greeting hgreets resp hparse) hother
  subst hown
  have hserved : ∃ served, s.worker.served[k]? = some served ∧ served.line = text := by
    simpa [transcript, hgreets] using hspoken
  rcases hserved with ⟨served, hserved, rfl⟩
  have hresp : resp = served.resp :=
    hund.replies served (List.mem_of_getElem? hserved) resp hparse
  have hsame : served.req = req := by
    rcases hwritten with ⟨pending, hwritten⟩
    have hlt : k < s.worker.served.length := (List.getElem?_eq_some_iff.1 hserved).1
    rw [hwritten, WorkerLoop.begun, List.append_assoc, List.getElem?_append_left (by simpa),
      List.getElem?_map, hserved] at hreq
    exact Option.some.inj hreq
  exact ⟨served.issued, served.line, by rw [hserved, hresp, ← hsame]⟩

/-- A client that is no longer usable has no more success. -/
theorem succeeded_of_silent {events : List ClientEvent} (h : ∀ ev ∈ events, ev.Silent) :
    ClientRun.succeeded events = [] := by
  rw [ClientRun.succeeded, List.filterMap_eq_nil_iff]
  intro ev hev
  have hsilent := h ev hev
  cases ev with
  | sent req line reply =>
      rcases hsilent with ⟨-, text, rfl⟩
      rfl
  | _ => rfl

/-! ## Runs -/

theorem client_of_call {input : ClientInput} (h : s.call wire input = some s') :
    ClientRun.step wire s.client input = some s'.client := by
  rcases Option.map_eq_some_iff.1 h with ⟨client, hclient, rfl⟩
  exact hclient

/-- The client of a pipe runs like any other, and writes only when it is told to. -/
theorem client_of_step {input : PipesInput} (h : step wire json lib pages s input = some s') :
    s'.client = s.client ∨ ∃ input', ClientRun.step wire s.client input' = some s'.client ∧
      ∀ req write, input' = .send req write → ∃ left, input = .send req write left := by
  cases input with
  | waitReady => exact .inr ⟨_, client_of_call h, by simp⟩
  | received => exact .inr ⟨_, client_of_call h, by simp⟩
  | timedOut => exact .inr ⟨_, client_of_call h, by simp⟩
  | shutdown exited => exact .inr ⟨_, client_of_call h, by simp⟩
  | readFails text => exact .inr ⟨_, client_of_call h, by simp⟩
  | send req write left =>
      rcases Option.ite_none_right_eq_some.1 h with ⟨-, hmap⟩
      rcases Option.map_eq_some_iff.1 hmap with ⟨next, hnext, rfl⟩
      have hclient := client_of_call hnext
      exact .inr ⟨_, hclient, by simp⟩
  | reads =>
      simp only [step] at h
      split at h
      · cases h
      · rcases Option.map_eq_some_iff.1 h with ⟨next, hnext, rfl⟩
        have hclient := client_of_call hnext
        exact .inr ⟨_, hclient, by simp⟩
  | works portal =>
      simp only [step, works] at h
      split at h
      · cases h
      · split at h
        · cases h
          exact .inl rfl
        · split at h
          · cases h
          · cases h
            exact .inl rfl
  | dies portal asked =>
      simp only [step, dies] at h
      split at h
      · cases h
      · split at h
        · cases h
        · cases h
          exact .inl rfl
  | tears portal left =>
      simp only [step, tears] at h
      split at h
      · cases h
      · split at h
        · split at h <;> cases h
          exact .inl rfl
        · split at h
          · cases h
          · split at h <;> cases h
            exact .inl rfl
  | exits =>
      cases h
      exact .inl rfl

theorem Reachable.client (h : Reachable wire json lib pages timeouts s) :
    ClientRun.Reachable wire timeouts s.client := by
  have hstart : ClientRun.Reachable wire timeouts (spawned timeouts).client :=
    Machine.Reaches.refl _
  refine Machine.Reaches.invariant (P := fun s => ClientRun.Reachable wire timeouts s.client) ?_
    hstart h
  intro x input x' hx hstep
  rcases client_of_step hstep with hsame | ⟨input', hinput, -⟩
  · rwa [hsame]
  · exact hx.tail hinput

/-- What holds of a run whose lines are understood. -/
structure Kept (wire : Wire) (json : WorkerJson) (s : Pipes) : Prop where
  fed : ∃ pending torn, Fed wire s pending torn
  follows : s.client.client.unusable = none → Follows wire s
  answered : Answered s

theorem kept_spawned : Kept wire json (spawned timeouts) where
  fed := ⟨[], [], rfl, List.nil_prefix, by simp, Nat.zero_le _, by simp, fun _ => rfl,
    fun _ => ⟨rfl, rfl, rfl⟩⟩
  follows _ :=
    { each := ⟨fun before n text after h => by simp [spawned, ClientRun.spawned] at h, by
        simp [spawned, ClientRun.spawned]⟩
      heard := ⟨fun _ => rfl, fun _ => rfl, fun n text h => by
        simp [spawned, ClientRun.spawned] at h⟩ }
  answered := by
    intro k req line resp hk
    simp [spawned, ClientRun.spawned, ClientRun.succeeded] at hk

/-- A reply that has been paired stays so. -/
theorem Answered.mono (h : Answered s) (hserved : s.worker.served <+: s'.worker.served)
    (hsucceeded : ClientRun.succeeded s'.client.log = ClientRun.succeeded s.client.log) :
    Answered s' := by
  intro k req line resp hk hother
  rw [hsucceeded] at hk
  rcases h k req line resp hk hother with ⟨issued, written, hentry⟩
  rcases hserved with ⟨more, hmore⟩
  refine ⟨issued, written, ?_⟩
  rw [← hmore, List.getElem?_append_left (List.getElem?_eq_some_iff.1 hentry).1]
  exact hentry

theorem Kept.step (h : Kept wire json s) (hund' : Understood wire json s')
    (hclient : ClientRun.Reachable wire timeouts s.client)
    (hclient' : ClientRun.Reachable wire timeouts s'.client)
    (hmoves : Moves wire json lib pages s s') : Kept wire json s' := by
  have hund := hund'.before hmoves.grows
  have hwhole := hclient.inv.whole
  rcases h.fed with ⟨pending, torn, hfed⟩
  have hfollows : s.client.client.unusable = none → Follows wire s' := fun husable =>
    (h.follows husable).step h.fed hund hwhole husable hmoves
  refine ⟨hfed.step hund hmoves, fun husable => hfollows (hmoves.usable_before husable), ?_⟩
  · cases hmoves with
    | returns hadds htried happends =>
        by_cases husable : s.client.client.unusable = none
        · refine answered_of_follows (hfollows husable) hund' ⟨pending, ?_⟩ hclient'
          rw [hadds.written, ClientRun.written_of_tried htried, List.append_nil]
          exact (hfed.whole husable).2.2
        · refine h.answered.mono List.prefix_rfl ?_
          rw [hadds.log, ClientRun.succeeded_append,
            succeeded_of_silent (happends.silent husable), List.append_nil]
    | sends hadds hsucceeded _ _ =>
        refine h.answered.mono List.prefix_rfl ?_
        rw [hadds.log, ClientRun.succeeded_append, hsucceeded, List.append_nil]
    | reads _ _ =>
        refine h.answered.mono List.prefix_rfl ?_
        rw [(s.client.read_keeps _).1, ClientRun.succeeded_append]
        exact List.append_nil _
    | readFails text _ =>
        refine h.answered.mono List.prefix_rfl ?_
        rw [(s.client.read_keeps _).1, ClientRun.succeeded_append]
        exact List.append_nil _
    | answers => exact h.answered.mono (List.prefix_append _ _) rfl
    | _ => exact h.answered.mono List.prefix_rfl rfl

theorem Kept.of_run (h : Reachable wire json lib pages timeouts s)
    (hund : Understood wire json s) : Kept wire json s := by
  have hall : Reachable wire json lib pages timeouts s ∧
      (Understood wire json s → Kept wire json s) := by
    refine Machine.Reaches.invariant
      (P := fun s => Reachable wire json lib pages timeouts s ∧
        (Understood wire json s → Kept wire json s)) ?_
      ⟨Machine.Reaches.refl _, fun _ => kept_spawned⟩ h
    rintro x input x' ⟨hx, hkept⟩ hstep
    have hx' : Reachable wire json lib pages timeouts x' := Machine.Reaches.tail hx hstep
    have hmoves := moves_of_step hx.client.inv.whole hstep
    refine ⟨hx', fun hund => ?_⟩
    exact (hkept (hund.before hmoves.grows)).step hund hx.client hx'.client hmoves
  exact hall.2 hund

/-- No handler but that of a submission posts. -/
theorem handlers_keeps {op : String} {handler : Request → Py Response}
    (h : Worker.handlers lib pages portal op = some handler) (hop : op ≠ Op.submitTraining)
    (req : Request) : Raising.Keeps (Posted 0) (fun _ => True) (handler req) := by
  unfold Worker.handlers at h
  split at h
  · cases h
    exact .pure _
  split at h
  · cases h
    exact .bind (ensureSession_keeps lib pages portal) fun _ => .pure _
  split at h
  · cases h
    exact .bind (listTrainees_keeps lib pages portal) fun _ => .pure _
  split at h
  · cases h
    exact .bind (getFormOptions_keeps lib pages portal req.traineeId) fun _ => .pure _
  · cases h

theorem posts_handle {req : Request} (hop : req.op ≠ Op.submitTraining) :
    posts ((Worker.handle lib pages portal req).run []).2 = 0 := by
  have hnone : Posted 0 [] := rfl
  by_cases hempty : req.op = ""
  · unfold Worker.handle
    rw [if_pos hempty]
    rfl
  cases hhandler : Worker.handlers lib pages portal req.op with
  | none =>
      unfold Worker.handle
      simp only [if_neg hempty, hhandler]
      rfl
  | some handler =>
      rcases (handlers_keeps hhandler hop req).run hnone with
        ⟨resp, issued, hrun, hposted⟩ | ⟨e, issued, hrun, hposted, -⟩
      · rw [Worker.handle_of_ok hempty hhandler hrun]
        exact hposted
      · rw [Worker.handle_of_error hempty hhandler hrun]
        exact hposted

/-- A request posts at most once, and only if it is a submission. -/
def Modest (req : Request) (issued : List Issued) : Prop :=
  posts issued ≤ if req.op = Op.submitTraining then 1 else 0

theorem modest_handle (req : Request) :
    Modest req ((Worker.handle lib pages portal req).run []).2 := by
  unfold Modest
  split
  · exact (handle_honest lib pages portal req).1
  · next hop => exact Nat.le_of_eq (posts_handle hop)

theorem Modest.take {req : Request} {issued : List Issued} (h : Modest req issued) (asked : Nat) :
    Modest req (issued.take asked) :=
  Nat.le_trans (List.Sublist.countP_le (List.take_sublist asked issued)) h

/-- What a worker has done to the portal for each request, and what its replies say of it. -/
structure Sincere (w : WorkerLoop) : Prop where
  served : ∀ served ∈ w.served, Modest served.req served.issued ∧
    HonestReply served.resp served.issued
  unanswered : ∀ req issued, w.unanswered = some (req, issued) → Modest req issued

theorem Sincere.step (h : Sincere s.worker) (hmoves : Moves wire json lib pages s s') :
    Sincere s'.worker := by
  cases hmoves with
  | @answers line _ _ _ portal _ _ _ _ hreplies =>
      refine ⟨?_, h.unanswered⟩
      intro entry hmem
      rcases List.mem_append.1 hmem with hbefore | hnow
      · exact h.served entry hbefore
      · cases hreplies with
        | unserved => cases hnow
        | @handled served _ hmain =>
            rcases main_cases json lib pages portal line with
              hnone | ⟨other, -, hsame, hresp, hissued⟩
            · rw [hmain] at hnone
              cases hnone
            · obtain rfl : served = other :=
                Option.some.inj (congrArg Prod.fst (hmain.symm.trans hsame))
              rw [List.mem_singleton.1 hnow]
              simp only [hresp, hissued]
              exact ⟨modest_handle _, handle_honest lib pages portal _⟩
  | @dies line _ portal asked _ _ =>
      refine ⟨h.served, ?_⟩
      intro req issued hunanswered
      rcases main_cases json lib pages portal line with hnone | ⟨served, -, hmain, -, hissued⟩
      · simp [hnone] at hunanswered
      · simp only [hmain, Option.map_some, Option.some.injEq, Prod.mk.injEq] at hunanswered
        rcases hunanswered with ⟨rfl, rfl⟩
        rw [hissued]
        exact (modest_handle served.req).take asked
  | _ => exact ⟨h.served, h.unanswered⟩

theorem Sincere.of_run (h : Reachable wire json lib pages timeouts s) : Sincere s.worker := by
  have hall : Reachable wire json lib pages timeouts s ∧ Sincere s.worker := by
    refine Machine.Reaches.invariant
      (P := fun s => Reachable wire json lib pages timeouts s ∧ Sincere s.worker) ?_
      ⟨Machine.Reaches.refl _, by simp [spawned], by simp [spawned]⟩ h
    rintro x input x' ⟨hx, hsincere⟩ hstep
    exact ⟨Machine.Reaches.tail hx hstep,
      hsincere.step (moves_of_step hx.client.inv.whole hstep)⟩
  exact hall.2

/-- How many of these requests are submissions. -/
def submissions (reqs : List Request) : Nat :=
  reqs.countP fun req => decide (req.op = Op.submitTraining)

/-- How often the worker has posted. -/
def allPosts (w : WorkerLoop) : Nat :=
  (w.served.map fun served => posts served.issued).sum +
    (w.unanswered.toList.map fun entry => posts entry.2).sum

theorem sum_le_submissions {α : Type} {entries : List α} {count : α → Nat} {req : α → Request}
    (h : ∀ entry ∈ entries, count entry ≤ if (req entry).op = Op.submitTraining then 1 else 0) :
    (entries.map count).sum ≤ submissions (entries.map req) := by
  induction entries with
  | nil => exact Nat.le_refl 0
  | cons entry entries ih =>
      have hhead := h entry List.mem_cons_self
      have htail := ih fun other hmem => h other (List.mem_cons_of_mem _ hmem)
      simp only [submissions, List.map_cons, List.sum_cons, List.countP_cons, decide_eq_true_eq]
        at htail ⊢
      omega

theorem Sincere.allPosts_le {w : WorkerLoop} (h : Sincere w) :
    allPosts w ≤ submissions w.begun := by
  have hserved : (w.served.map fun served => posts served.issued).sum ≤
      submissions (w.served.map (·.req)) :=
    sum_le_submissions fun served hmem => (h.served served hmem).1
  have hunanswered : (w.unanswered.toList.map fun entry => posts entry.2).sum ≤
      submissions (w.unanswered.toList.map (·.1)) :=
    sum_le_submissions fun entry hmem => h.unanswered entry.1 entry.2 (Option.mem_toList.1 hmem)
  have hsplit : submissions w.begun = submissions (w.served.map (·.req)) +
      submissions (w.unanswered.toList.map (·.1)) := List.countP_append
  rw [hsplit]
  exact Nat.add_le_add hserved hunanswered

theorem Fed.begun {pending : List Request} {torn : List (Request × String)}
    (h : Fed wire s pending torn) : s.worker.begun <+: ClientRun.tried s.client.log := by
  refine List.IsPrefix.trans ?_ h.order
  rw [List.append_assoc]
  exact List.prefix_append _ _

/-- A reply that proves nothing was submitted is the reply to a request that posted nothing. -/
theorem Kept.proven (h : Kept wire json s) (hsincere : Sincere s.worker) {k : Nat} {req : Request}
    {line : Option Nat} {resp : Response}
    (hk : (ClientRun.succeeded s.client.log)[k]? = some (req, line, resp))
    (hproves : Proves resp) :
    ∃ served, s.worker.served[k]? = some served ∧ served.req = req ∧ posts served.issued = 0 := by
  rcases h.answered k req line resp hk (by rintro rfl; cases hproves) with
    ⟨issued, written, hserved⟩
  exact ⟨_, hserved, rfl, (hsincere.served _ (List.mem_of_getElem? hserved)).2.2 hproves⟩

/-- The worker takes up nothing but what a client has tried to write, each once and in order; the
portal gets no more submissions than were written; and a reply that proves nothing was submitted is
the reply to a request that posted nothing. -/
theorem portal_gets_what_was_tried (h : Reachable wire json lib pages timeouts s)
    (hund : Understood wire json s) :
    s.worker.begun <+: ClientRun.tried s.client.log ∧
      allPosts s.worker ≤ submissions (ClientRun.tried s.client.log) ∧
        ∀ (k : Nat) (req : Request) (line : Option Nat) (resp : Response),
          (ClientRun.succeeded s.client.log)[k]? = some (req, line, resp) → Proves resp →
            ∃ served, s.worker.served[k]? = some served ∧ served.req = req ∧
              posts served.issued = 0 := by
  have hkept := Kept.of_run h hund
  have hsincere := Sincere.of_run h
  rcases hkept.fed with ⟨pending, torn, hfed⟩
  refine ⟨hfed.begun, Nat.le_trans hsincere.allPosts_le ?_, ?_⟩
  · exact List.Sublist.countP_le hfed.begun.sublist
  · intro k req line resp hk hproves
    exact hkept.proven hsincere hk hproves

end Steps

/-! ### A form that is missing -/

def graceRequest : Request :=
  .submitTraining "job" { id := some "7" } pairBatch.session

/-- Nothing was submitted, and the reply proves it. -/
def graceReply : Response :=
  (serve plainLibraries plainPages (plainPortal "maintenance") graceRequest).1

def graceWire : Wire where
  toString _ := .ok "submit"
  trim := strip
  fromStr text :=
    if text = "ready" then .ok { status := .ready }
    else if text = "reply" then .ok graceReply
    else .error "expected value"
  debug text := text

def graceJson : WorkerJson where
  loads text := if text = "submit" then .ok graceRequest else .error "Expecting value"
  dumps resp := if resp.status = .ready then "ready" else "reply"

def graceInputs : List PipesInput :=
  [.waitReady, .works (plainPortal "maintenance"), .reads, .received,
    .send graceRequest (.ok ()) none, .works (plainPortal "maintenance"), .reads, .received]

def gracePipes : Pipes :=
  (Machine.run (step graceWire graceJson plainLibraries plainPages) (spawned {})
    graceInputs).getD (spawned {})

theorem grace_reachable :
    Reachable graceWire graceJson plainLibraries plainPages {} gracePipes :=
  ⟨graceInputs, rfl⟩

theorem grace_understood : Understood graceWire graceJson gracePipes where
  requests := by
    have hwritten : ClientRun.written gracePipes.client.log = [graceRequest] := rfl
    rw [hwritten]
    intro req hmem
    rw [List.mem_singleton.1 hmem]
    exact ⟨by decide +kernel, rfl⟩
  torn := by
    have htried : ClientRun.tried gracePipes.client.log = [graceRequest] := rfl
    rw [htried]
    intro req hmem text _ other hloads
    rw [List.mem_singleton.1 hmem]
    simp only [graceJson] at hloads
    split at hloads
    · exact (Except.ok.inj hloads).symm
    · cases hloads
  greeting := by
    have hgreeting : gracePipes.worker.greeting = some "ready\n" := by decide +kernel
    have hread : graceWire.fromStr (graceWire.trim "ready\n") = .ok { status := .ready } := by
      decide +kernel
    intro text htext other hother
    obtain rfl : "ready\n" = text := Option.some.inj (hgreeting.symm.trans htext)
    exact (Except.ok.inj (hread.symm.trans hother)).symm
  replies := by
    have hserved : gracePipes.worker.served.map (fun served => (served.resp, served.line)) =
        [(graceReply, "reply\n")] := by decide +kernel
    have hread : graceWire.fromStr (graceWire.trim "reply\n") = .ok graceReply := by
      decide +kernel
    intro served hmem other hother
    have hentry : (served.resp, served.line) ∈ [(graceReply, "reply\n")] :=
      hserved ▸ List.mem_map_of_mem hmem
    rcases Prod.mk.inj (List.mem_singleton.1 hentry) with ⟨hresp, hline⟩
    rw [hline] at hother
    exact (Except.ok.inj (hother.symm.trans hread)).trans hresp.symm

theorem nothing_was_posted_for_grace : ∃ served, gracePipes.worker.served[0]? = some served ∧
    served.req = graceRequest ∧ posts served.issued = 0 := by
  have hk : (ClientRun.succeeded gracePipes.client.log)[0]? =
      some (graceRequest, some 1, graceReply) := by decide +kernel
  have hproves : Proves graceReply := by
    unfold Proves
    decide +kernel
  exact (portal_gets_what_was_tried grace_reachable grace_understood).2.2 0 graceRequest (some 1)
    graceReply hk hproves

end Pipes

end DsspBot

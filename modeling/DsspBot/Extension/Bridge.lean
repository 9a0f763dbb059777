import DsspBot.Engine.Roster
import DsspBot.Extension.DialogGate
import Mathlib.Data.List.DropRight

/-!
# Bridge — calls between the two worlds of a page

The content script cannot see the page's own dialogs and requests. Its other half in the page's
world can, and the two talk over messages that are posted in the window: everybody there hears all
of them, and the page may post its own. A call is told from another by its id. The page's world
keeps what it has seen in two logs of limited length, and announces it as well.
-/

namespace DsspBot

namespace Extension

/-! ## Messages -/

structure PortalAlert where
  message : String
  time : String
  deriving DecidableEq, Repr

structure PortalResponse where
  status : Nat
  body : String
  url : String
  time : String
  deriving DecidableEq, Repr

inductive PortalEvent
  | alert (entry : PortalAlert)
  | submissionResponse (entry : PortalResponse)
  deriving DecidableEq, Repr

inductive MainCommand
  | ping
  | drainAlerts
  | drainResponses
  | dialogs (command : BridgeCommand)
  /-- Any other value, with its type if it has one. -/
  | unknown (type : String)
  deriving DecidableEq

inductive MainReply
  | ready (url : String)
  | alerts (drained : List PortalAlert)
  | responses (drained : List PortalResponse)
  | dialogs (response : BridgeResponse)
  | failed (error code : String)
  deriving DecidableEq

/-- What is posted in the window. -/
inductive Frame
  | request (id : String) (command : MainCommand)
  | response (id : String) (reply : MainReply)
  | event (event : PortalEvent)
  /-- Without the mark of the bridge, or from another window. -/
  | other
  deriving DecidableEq

/-! ## The page's world -/

def MAX_LOG : Nat := 50

/-- The oldest entry makes room. -/
def pushLog {α : Type} (log : List α) (entry : α) : List α :=
  let longer := log ++ [entry]
  if MAX_LOG < longer.length then longer.tail else longer

structure MainWorld where
  dialogs : DialogGate := {}
  alertLog : List PortalAlert := []
  responseLog : List PortalResponse := []
  deriving DecidableEq

namespace MainWorld

variable (main : MainWorld)

/-- What the wrappers around dialogs and requests record. -/
def record : PortalEvent → MainWorld
  | .alert entry => { main with alertLog := pushLog main.alertLog entry }
  | .submissionResponse entry => { main with responseLog := pushLog main.responseLog entry }

def handle (now : Millis) (href : String) : MainCommand → MainWorld × MainReply
  | .ping => (main, .ready href)
  | .drainAlerts => ({ main with alertLog := [] }, .alerts main.alertLog)
  | .drainResponses => ({ main with responseLog := [] }, .responses main.responseLog)
  | .dialogs command =>
      let handled := Extension.handle main.dialogs now command
      ({ main with dialogs := handled.1 }, .dialogs handled.2)
  | .unknown type =>
      let name := if type.isEmpty then "unknown command" else type
      (main, .failed s!"MAIN world cannot handle {name}" "PORTAL_NOT_MAPPED")

end MainWorld

/-! ## The two worlds -/

/-- What happens in the page's world. -/
inductive Happening
  | recorded (event : PortalEvent)
  | handled (id : String) (command : MainCommand) (reply : MainReply)
  deriving DecidableEq

structure Bridge where
  /-- Posted in the window, and not heard yet. -/
  frames : List Frame := []
  /-- The client listens. -/
  started : Bool := false
  sequence : Nat := 0
  pending : List String := []
  /-- The page's world has been set up. -/
  injected : Bool := false
  main : MainWorld := {}
  /-- Every call that has been made. -/
  sent : List (String × MainCommand) := []
  /-- How the calls have ended, without a reply where the time was up. -/
  settled : List (String × Option MainReply) := []
  /-- What the handlers of the client have been told. -/
  heard : List PortalEvent := []
  history : List Happening := []

inductive BridgeInput
  | start
  | injected
  | send (command : MainCommand)
  /-- The next message is heard in both worlds. -/
  | delivered (now : Millis) (href : String)
  | timedOut (id : String)
  /-- The page shows a dialog, or gets the response to a post of its own. -/
  | recorded (event : PortalEvent)
  /-- The page posts a message. -/
  | posted (frame : Frame)
  deriving DecidableEq

def bridgeId (sequence : Nat) : String :=
  "dssp-" ++ toString sequence

namespace Bridge

variable (b : Bridge)

def send (command : MainCommand) : Bridge :=
  let id := bridgeId (b.sequence + 1)
  { b with
    started := true
    sequence := b.sequence + 1
    pending := b.pending ++ [id]
    frames := b.frames ++ [.request id command]
    sent := b.sent ++ [(id, command)] }

/-- A call that is still waiting ends, and any other is left alone. -/
def settle (id : String) (reply : Option MainReply) : Bridge :=
  if id ∈ b.pending then
    { b with
      pending := b.pending.erase id
      settled := b.settled ++ [(id, reply)] }
  else b

def clientHears : Frame → Bridge
  | .response id reply => b.settle id (some reply)
  | .event event => { b with heard := b.heard ++ [event] }
  | _ => b

def mainHears (now : Millis) (href : String) : Frame → Bridge
  | .request id command =>
      let handled := b.main.handle now href command
      { b with
        main := handled.1
        frames := b.frames ++ [.response id handled.2]
        history := b.history ++ [.handled id command handled.2] }
  | _ => b

def delivered (now : Millis) (href : String) (frame : Frame) : Bridge :=
  let b := if b.started then b.clientHears frame else b
  if b.injected then b.mainHears now href frame else b

def step : BridgeInput → Option Bridge
  | .start => some { b with started := true }
  | .injected => some { b with injected := true }
  | .send command => some (b.send command)
  | .delivered now href =>
      match b.frames with
      | [] => none
      | frame :: frames => some ({ b with frames := frames }.delivered now href frame)
  | .timedOut id => if id ∈ b.pending then some (b.settle id none) else none
  | .recorded event =>
      if b.injected then
        some
          { b with
            main := b.main.record event
            frames := b.frames ++ [.event event]
            history := b.history ++ [.recorded event] }
      else none
  | .posted frame => some { b with frames := b.frames ++ [frame] }

/-! ## Calls and their replies -/

/-- The ids of the client begin like this. -/
def Reserved (id : String) : Prop :=
  "dssp-".toList <+: id.toList

instance (id : String) : Decidable (Reserved id) :=
  inferInstanceAs (Decidable ("dssp-".toList <+: id.toList))

theorem reserved_bridgeId (sequence : Nat) : Reserved (bridgeId sequence) := by
  rw [Reserved, bridgeId, String.toList_append]
  exact List.prefix_append _ _

theorem bridgeId_injective : Function.Injective bridgeId := by
  intro m n h
  have hlists := congrArg String.toList h
  rw [bridgeId, bridgeId, String.toList_append, String.toList_append] at hlists
  exact repr_injective (String.toList_inj.1 (List.append_cancel_left hlists))

/-- The requests among these messages that bear an id of the client. -/
def ownRequests (frames : List Frame) : List (String × MainCommand) :=
  frames.filterMap fun
    | .request id command => if Reserved id then some (id, command) else none
    | _ => none

/-- The requests that have been handled and bear an id of the client. -/
def ownHandled (history : List Happening) : List (String × MainCommand) :=
  history.filterMap fun
    | .handled id command _ => if Reserved id then some (id, command) else none
    | _ => none

/-- The page posts no request and no reply under an id of the client. -/
def Unforged : BridgeInput → Prop
  | .posted (.request id _) => ¬Reserved id
  | .posted (.response id _) => ¬Reserved id
  | _ => True

structure Correlated (b : Bridge) : Prop where
  ids : b.sent.map (·.1) = (List.range b.sequence).map fun index => bridgeId (index + 1)
  split : (b.settled.map (·.1) ++ b.pending).Perm (b.sent.map (·.1))
  order : (ownHandled b.history ++ ownRequests b.frames).Sublist b.sent
  replies : ∀ id reply, .response id reply ∈ b.frames → Reserved id →
    ∃ command, .handled id command reply ∈ b.history
  answered : ∀ id reply, (id, some reply) ∈ b.settled →
    ∃ command, .handled id command reply ∈ b.history

section Steps

variable {b b' : Bridge} {frame : Frame} {frames : List Frame} {id : String}

theorem Correlated.reserved (h : Correlated b) (hid : id ∈ b.pending) : Reserved id := by
  have hsent : id ∈ b.sent.map (·.1) := h.split.subset (List.mem_append_right _ hid)
  rw [h.ids] at hsent
  rcases List.mem_map.1 hsent with ⟨index, -, rfl⟩
  exact reserved_bridgeId _

theorem Correlated.nodup (h : Correlated b) : (b.sent.map (·.1)).Nodup := by
  rw [h.ids]
  refine List.nodup_range.map ?_
  intro m n heq
  exact Nat.succ.inj (bridgeId_injective heq)

theorem correlated_start : Correlated {} where
  ids := rfl
  split := .refl _
  order := List.Sublist.refl _
  replies := by simp
  answered := by simp

theorem Correlated.send (h : Correlated b) (command : MainCommand) :
    Correlated (b.send command) where
  ids := by
    simp [Bridge.send, List.range_succ, h.ids]
  split := by
    simp only [Bridge.send, List.map_append, List.map_cons, List.map_nil]
    rw [← List.append_assoc]
    exact h.split.append_right _
  order := by
    have hown : ownRequests (b.send command).frames =
        ownRequests b.frames ++ [(bridgeId (b.sequence + 1), command)] := by
      simp [Bridge.send, ownRequests, reserved_bridgeId]
    rw [hown, ← List.append_assoc]
    exact h.order.append_right _
  replies := by
    intro id reply hmem
    refine h.replies id reply ?_
    simpa [Bridge.send] using hmem
  answered := h.answered

/-- A call that ends was waiting, and a reply comes from the page's world. -/
theorem Correlated.settle (h : Correlated b) {reply : Option MainReply}
    (hreply : ∀ r, reply = some r → Reserved id →
      ∃ command, .handled id command r ∈ b.history) : Correlated (b.settle id reply) := by
  unfold Bridge.settle
  split
  · next hpending =>
      refine ⟨h.ids, ?_, h.order, h.replies, ?_⟩
      · refine List.Perm.trans ?_ h.split
        simp only [List.map_append, List.map_cons, List.map_nil, List.append_assoc,
          List.singleton_append]
        exact (List.perm_cons_erase hpending).symm.append_left _
      · intro id' r hmem
        rcases List.mem_append.1 hmem with hbefore | hnow
        · exact h.answered id' r hbefore
        · obtain ⟨rfl, rfl⟩ := Prod.mk.inj (List.mem_singleton.1 hnow)
          exact hreply r rfl (h.reserved hpending)
  · exact h

/-- A message that nobody makes anything of. -/
theorem Correlated.drop (h : Correlated b) (hframes : b.frames = frame :: frames) :
    Correlated { b with frames := frames } where
  ids := h.ids
  split := h.split
  order := by
    refine List.Sublist.trans ?_ h.order
    rw [hframes]
    exact ((List.sublist_cons_self frame frames).filterMap _).append_left _
  replies := by
    intro id reply hmem
    refine h.replies id reply ?_
    rw [hframes]
    exact List.mem_cons_of_mem _ hmem
  answered := h.answered

/-- A call is handled in its turn, and its reply is on the way. -/
theorem Correlated.handles (h : Correlated b) {command : MainCommand}
    (hframes : b.frames = .request id command :: frames) (now : Millis) (href : String) :
    Correlated ({ b with frames := frames }.mainHears now href (.request id command)) where
  ids := h.ids
  split := h.split
  order := by
    have horder := h.order
    rw [hframes] at horder
    by_cases hid : Reserved id <;>
      simpa [mainHears, ownHandled, ownRequests, hid] using horder
  replies := by
    intro id' reply hmem hid'
    rcases List.mem_append.1 hmem with hbefore | hnow
    · rcases h.replies id' reply (hframes ▸ List.mem_cons_of_mem _ hbefore) hid' with
        ⟨other, hhandled⟩
      exact ⟨other, List.mem_append_left _ hhandled⟩
    · cases List.mem_singleton.1 hnow
      exact ⟨command, List.mem_append_right _ (List.mem_singleton_self _)⟩
  answered := by
    intro id' reply hmem
    rcases h.answered id' reply hmem with ⟨other, hhandled⟩
    exact ⟨other, List.mem_append_left _ hhandled⟩

theorem Correlated.delivered (h : Correlated b) (hframes : b.frames = frame :: frames)
    (now : Millis) (href : String) :
    Correlated ({ b with frames := frames }.delivered now href frame) := by
  have hdropped := h.drop hframes
  cases frame with
  | request id command =>
      simp only [Bridge.delivered, clientHears, ite_self]
      split
      · exact h.handles hframes now href
      · exact hdropped
  | response id reply =>
      simp only [Bridge.delivered, mainHears, ite_self]
      split
      · refine hdropped.settle ?_
        intro r hr hid
        obtain rfl := Option.some.inj hr
        exact h.replies id reply (hframes ▸ List.mem_cons_self) hid
      · exact hdropped
  | event event =>
      simp only [Bridge.delivered, mainHears, ite_self]
      split
      · exact ⟨hdropped.ids, hdropped.split, hdropped.order, hdropped.replies, hdropped.answered⟩
      · exact hdropped
  | other =>
      simp only [Bridge.delivered, clientHears, mainHears, ite_self]
      exact hdropped

theorem Correlated.step (h : Correlated b) {input : BridgeInput} (hinput : Unforged input)
    (hstep : b.step input = some b') : Correlated b' := by
  cases input with
  | start =>
      cases hstep
      exact ⟨h.ids, h.split, h.order, h.replies, h.answered⟩
  | injected =>
      cases hstep
      exact ⟨h.ids, h.split, h.order, h.replies, h.answered⟩
  | send command =>
      cases hstep
      exact h.send command
  | delivered now href =>
      simp only [Bridge.step] at hstep
      split at hstep
      · cases hstep
      · next frame frames hframes =>
          cases hstep
          exact h.delivered hframes now href
  | timedOut id =>
      simp only [Bridge.step] at hstep
      split at hstep <;> cases hstep
      exact h.settle (by simp)
  | recorded event =>
      simp only [Bridge.step] at hstep
      split at hstep <;> cases hstep
      refine ⟨h.ids, h.split, ?_, ?_, ?_⟩
      · simpa [ownHandled, ownRequests] using h.order
      · intro id reply hmem hid
        rcases h.replies id reply (by simpa using hmem) hid with ⟨command, hhandled⟩
        exact ⟨command, List.mem_append_left _ hhandled⟩
      · intro id reply hmem
        rcases h.answered id reply hmem with ⟨command, hhandled⟩
        exact ⟨command, List.mem_append_left _ hhandled⟩
  | posted frame =>
      cases hstep
      refine ⟨h.ids, h.split, ?_, ?_, h.answered⟩
      · have hown : ownRequests [frame] = [] := by
          cases frame with
          | request id command => simp [ownRequests, show ¬Reserved id from hinput]
          | _ => rfl
        have happend : ownRequests (b.frames ++ [frame]) = ownRequests b.frames ++ [] := by
          rw [← hown]
          exact List.filterMap_append
        rw [happend, List.append_nil]
        exact h.order
      · intro id reply hmem hid
        rcases List.mem_append.1 hmem with hbefore | hnow
        · exact h.replies id reply hbefore hid
        · cases List.mem_singleton.1 hnow
          exact absurd hid hinput

/-- Every call is still waiting or has ended, and none has ended twice; the page's world has handled
each once at most, in the order of the calls; and a reply is what it made of this very call. -/
theorem calls_are_answered {inputs : List BridgeInput} (hinputs : ∀ input ∈ inputs, Unforged input)
    (hrun : Machine.run step {} inputs = some b) :
    (b.settled.map (·.1) ++ b.pending).Perm (b.sent.map (·.1)) ∧ (b.sent.map (·.1)).Nodup ∧
      (ownHandled b.history).Sublist b.sent ∧
        ∀ id reply, (id, some reply) ∈ b.settled →
          ∃ command, (id, command) ∈ b.sent ∧ .handled id command reply ∈ b.history := by
  have heach : Machine.EachStep step (fun _ input => Unforged input) {} inputs :=
    fun before input _ hbefore _ => hinputs input (hbefore.subset (by simp))
  have h : Correlated b :=
    heach.invariant (P := Correlated) (fun _ _ _ h hinput hstep => h.step hinput hstep)
      correlated_start hrun
  have horder := (List.sublist_append_left _ _).trans h.order
  refine ⟨h.split, h.nodup, horder, ?_⟩
  intro id reply hmem
  rcases h.answered id reply hmem with ⟨command, hhandled⟩
  refine ⟨command, horder.subset ?_, hhandled⟩
  have hsent : id ∈ b.sent.map (·.1) :=
    h.split.subset (List.mem_append_left _ (List.mem_map_of_mem hmem))
  rw [h.ids] at hsent
  rcases List.mem_map.1 hsent with ⟨index, -, rfl⟩
  exact List.mem_filterMap.2 ⟨_, hhandled, if_pos (reserved_bridgeId _)⟩

/-! ## The logs -/

theorem settle_history (id : String) (reply : Option MainReply) :
    (b.settle id reply).history = b.history ∧ (b.settle id reply).main = b.main := by
  unfold settle
  split <;> exact ⟨rfl, rfl⟩

/-- What a step adds to the history, and what it makes of the page's world. -/
theorem history_cases {input : BridgeInput} (hstep : b.step input = some b') :
    (b'.history = b.history ∧ b'.main = b.main) ∨
      (∃ event, input = .recorded event ∧ b'.history = b.history ++ [.recorded event] ∧
        b'.main = b.main.record event) ∨
      ∃ now href id command,
        b'.history = b.history ++ [.handled id command (b.main.handle now href command).2] ∧
          b'.main = (b.main.handle now href command).1 := by
  cases input with
  | delivered now href =>
      simp only [step] at hstep
      split at hstep
      · cases hstep
      · next frame frames hframes =>
          cases hstep
          cases frame with
          | request id command =>
              simp only [delivered, clientHears, ite_self]
              split
              · exact .inr (.inr ⟨now, href, id, command, rfl, rfl⟩)
              · exact .inl ⟨rfl, rfl⟩
          | response id reply =>
              simp only [delivered, mainHears, ite_self]
              split
              · exact .inl (settle_history _ _)
              · exact .inl ⟨rfl, rfl⟩
          | event event =>
              simp only [delivered, mainHears, ite_self]
              split <;> exact .inl ⟨rfl, rfl⟩
          | other =>
              refine .inl ?_
              simp [delivered, clientHears, mainHears]
  | timedOut id =>
      simp only [step] at hstep
      split at hstep <;> cases hstep
      exact .inl (settle_history _ _)
  | recorded event =>
      simp only [step] at hstep
      split at hstep <;> cases hstep
      exact .inr (.inl ⟨event, rfl, rfl, rfl⟩)
  | _ =>
      cases hstep
      exact .inl ⟨rfl, rfl⟩

end Steps

end Bridge

/-- One of the two logs, with the command that drains it. -/
structure Drain (α : Type) where
  command : MainCommand
  pick : PortalEvent → Option α
  unpack : MainReply → List α
  log : MainWorld → List α
  empty : log {} = []
  record : ∀ main event, log (main.record event) =
    match pick event with
    | some entry => pushLog (log main) entry
    | none => log main
  drains : ∀ main now href, unpack (main.handle now href command).2 = log main ∧
    log (main.handle now href command).1 = []
  spares : ∀ main now href other, other ≠ command →
    unpack (main.handle now href other).2 = [] ∧ log (main.handle now href other).1 = log main

namespace Drain

def alerts : Drain PortalAlert where
  command := .drainAlerts
  pick
    | .alert entry => some entry
    | _ => none
  unpack
    | .alerts drained => drained
    | _ => []
  log main := main.alertLog
  empty := rfl
  record main event := by cases event <;> rfl
  drains main now href := ⟨rfl, rfl⟩
  spares main now href other hother := by
    cases other <;> first | exact absurd rfl hother | exact ⟨rfl, rfl⟩

def responses : Drain PortalResponse where
  command := .drainResponses
  pick
    | .submissionResponse entry => some entry
    | _ => none
  unpack
    | .responses drained => drained
    | _ => []
  log main := main.responseLog
  empty := rfl
  record main event := by cases event <;> rfl
  drains main now href := ⟨rfl, rfl⟩
  spares main now href other hother := by
    cases other <;> first | exact absurd rfl hother | exact ⟨rfl, rfl⟩

variable {α : Type} (drain : Drain α)

/-- One more thing has happened. -/
def sinceStep (found : List α) : Happening → List α
  | .recorded event => found ++ (drain.pick event).toList
  | .handled _ command _ => if command = drain.command then [] else found

/-- What has been recorded since the log was drained last. -/
def since (history : List Happening) : List α :=
  history.foldl drain.sinceStep []

def recorded (history : List Happening) : List α :=
  history.filterMap fun
    | .recorded event => drain.pick event
    | _ => none

/-- What has been handed out, one batch after the other. -/
def drained (history : List Happening) : List α :=
  history.flatMap fun
    | .handled _ _ reply => drain.unpack reply
    | _ => []

/-- A batch is the newest part of what has come since the one before it; nothing is handed out
twice, and nothing is lost as long as the log is drained in time. -/
structure Keeps (main : MainWorld) (history : List Happening) : Prop where
  batch : ∀ before id reply after,
    history = before ++ .handled id drain.command reply :: after →
      drain.unpack reply = (drain.since before).rtake MAX_LOG
  left : drain.log main = (drain.since history).rtake MAX_LOG
  once : (drain.drained history ++ drain.log main).Sublist (drain.recorded history)
  all : (∀ before, before <+: history → (drain.since before).length ≤ MAX_LOG) →
    drain.drained history ++ drain.log main = drain.recorded history

/-- The log of limited length is the newest part of the log without a limit. -/
theorem pushLog_rtake (found : List α) (entry : α) :
    pushLog (found.rtake MAX_LOG) entry = (found ++ [entry]).rtake MAX_LOG := by
  have hlength : (found.rtake MAX_LOG).length = min found.length MAX_LOG := by
    simp only [List.rtake, List.length_drop]
    omega
  unfold pushLog
  simp only [List.length_append, List.length_singleton, hlength]
  by_cases hfull : MAX_LOG ≤ found.length
  · rw [if_pos (by omega)]
    calc (found.rtake MAX_LOG ++ [entry]).tail
        = ((found ++ [entry]).drop (found.length - MAX_LOG)).tail := by
          rw [List.drop_append_of_le_length (by omega)]
          rfl
      _ = (found ++ [entry]).drop (found.length - MAX_LOG + 1) := List.tail_drop
      _ = (found ++ [entry]).rtake MAX_LOG := by
          rw [List.rtake, List.length_append, List.length_singleton]
          congr 1
          omega
  · rw [if_neg (by omega)]
    have hshort : found.rtake MAX_LOG = found := by
      rw [List.rtake, Nat.sub_eq_zero_of_le (by omega), List.drop_zero]
    have hshort' : (found ++ [entry]).rtake MAX_LOG = found ++ [entry] := by
      rw [List.rtake, Nat.sub_eq_zero_of_le (by simp; omega), List.drop_zero]
    rw [hshort, hshort']

theorem pushLog_sublist (log : List α) (entry : α) :
    (pushLog log entry).Sublist (log ++ [entry]) := by
  unfold pushLog
  dsimp only
  split
  · exact List.tail_sublist _
  · exact List.Sublist.refl _

theorem pushLog_of_short {log : List α} (entry : α) (h : log.length < MAX_LOG) :
    pushLog log entry = log ++ [entry] := by
  unfold pushLog
  exact if_neg (by simp; omega)

variable {drain} {main : MainWorld} {history : List Happening} {happening : Happening}

theorem since_concat : drain.since (history ++ [happening]) =
    drain.sinceStep (drain.since history) happening := by
  simp [since]

/-- What a batch was has been settled before. -/
theorem batch_concat {id : String} {reply : MainReply} {before after : List Happening}
    (hbatch : ∀ before id reply after,
      history = before ++ .handled id drain.command reply :: after →
        drain.unpack reply = (drain.since before).rtake MAX_LOG)
    (hlast : ∀ id reply, happening = .handled id drain.command reply →
      drain.unpack reply = (drain.since history).rtake MAX_LOG)
    (hsplit : history ++ [happening] = before ++ .handled id drain.command reply :: after) :
    drain.unpack reply = (drain.since before).rtake MAX_LOG := by
  rcases List.eq_nil_or_concat after with rfl | ⟨rest, last, rfl⟩
  · obtain ⟨rfl, hsame⟩ := List.append_inj' hsplit rfl
    exact hlast id reply (List.singleton_inj.1 hsame)
  · rw [List.concat_eq_append, ← List.cons_append, ← List.append_assoc] at hsplit
    exact hbatch before id reply rest (List.append_inj' hsplit rfl).1

theorem Keeps.recorded (h : drain.Keeps main history) (event : PortalEvent) :
    drain.Keeps (main.record event) (history ++ [.recorded event]) := by
  have hdrained : drain.drained (history ++ [.recorded event]) = drain.drained history := by
    simp [drained]
  have hrecorded : drain.recorded (history ++ [.recorded event]) =
      drain.recorded history ++ (drain.pick event).toList := by
    unfold Drain.recorded
    rw [List.filterMap_append]
    cases hpick : drain.pick event <;> simp [hpick]
  have hsince : drain.since (history ++ [.recorded event]) =
      drain.since history ++ (drain.pick event).toList := since_concat
  refine ⟨?_, ?_, ?_, ?_⟩
  · intro before id reply after hsplit
    exact batch_concat h.batch (by simp) hsplit
  · rw [drain.record, hsince]
    cases drain.pick event with
    | none => simpa using h.left
    | some entry =>
        rw [h.left]
        exact pushLog_rtake _ _
  · rw [hdrained, hrecorded, drain.record]
    cases drain.pick event with
    | none => simpa using h.once
    | some entry =>
        refine ((pushLog_sublist _ entry).append_left _).trans ?_
        rw [← List.append_assoc]
        exact h.once.append_right [entry]
  · intro hall
    have hbefore := h.all fun before hbegins => hall before (hbegins.trans (List.prefix_append _ _))
    have hshort := hall _ List.prefix_rfl
    rw [hdrained, hrecorded, drain.record, ← hbefore]
    rw [hsince] at hshort
    cases hpick : drain.pick event with
    | none => simp
    | some entry =>
        have hroom : (drain.log main).length < MAX_LOG := by
          rw [h.left, List.rtake, List.length_drop]
          simp [hpick] at hshort
          omega
        simp [pushLog_of_short entry hroom]

theorem Keeps.handled (h : drain.Keeps main history) (now : Millis) (href id : String)
    (command : MainCommand) :
    drain.Keeps (main.handle now href command).1
      (history ++ [.handled id command (main.handle now href command).2]) := by
  have hrecorded : drain.recorded
      (history ++ [.handled id command (main.handle now href command).2]) =
        drain.recorded history := by
    simp [Drain.recorded]
  have hdrained : drain.drained
      (history ++ [.handled id command (main.handle now href command).2]) =
        drain.drained history ++ drain.unpack (main.handle now href command).2 := by
    simp [drained]
  by_cases hcommand : command = drain.command
  · subst hcommand
    rcases drain.drains main now href with ⟨hunpack, hlog⟩
    refine ⟨?_, ?_, ?_, ?_⟩
    · intro before id' reply after hsplit
      refine batch_concat h.batch ?_ hsplit
      intro id'' reply' hsame
      cases hsame
      rw [hunpack, h.left]
    · rw [hlog, since_concat]
      simp [sinceStep]
    · rw [hdrained, hrecorded, hlog, hunpack, List.append_nil]
      exact h.once
    · intro hall
      rw [hdrained, hrecorded, hlog, hunpack, List.append_nil]
      exact h.all fun before hbegins => hall before (hbegins.trans (List.prefix_append _ _))
  · rcases drain.spares main now href command hcommand with ⟨hunpack, hlog⟩
    refine ⟨?_, ?_, ?_, ?_⟩
    · intro before id' reply after hsplit
      refine batch_concat h.batch ?_ hsplit
      intro id'' reply' hsame
      cases hsame
      exact absurd rfl hcommand
    · rw [hlog, since_concat]
      simpa [sinceStep, hcommand] using h.left
    · rw [hdrained, hrecorded, hlog, hunpack, List.append_nil]
      exact h.once
    · intro hall
      rw [hdrained, hrecorded, hlog, hunpack, List.append_nil]
      exact h.all fun before hbegins => hall before (hbegins.trans (List.prefix_append _ _))

theorem keeps_start : drain.Keeps {} [] where
  batch before id reply after hsplit := by simp at hsplit
  left := drain.empty
  once := by simp [drained, Drain.recorded, drain.empty]
  all _ := by simp [drained, Drain.recorded, drain.empty]

theorem Keeps.step {b b' : Bridge} {input : BridgeInput} (h : drain.Keeps b.main b.history)
    (hstep : b.step input = some b') : drain.Keeps b'.main b'.history := by
  rcases Bridge.history_cases hstep with ⟨hhistory, hmain⟩ | ⟨event, -, hhistory, hmain⟩ |
    ⟨now, href, id, command, hhistory, hmain⟩
  · rwa [hhistory, hmain]
  · rw [hhistory, hmain]
    exact h.recorded event
  · rw [hhistory, hmain]
    exact h.handled now href id command

theorem keeps_of_run (drain : Drain α) {inputs : List BridgeInput} {b : Bridge}
    (hrun : Machine.run Bridge.step {} inputs = some b) : drain.Keeps b.main b.history :=
  Machine.Reaches.invariant (P := fun b => drain.Keeps b.main b.history)
    (fun _ _ _ h hstep => h.step hstep) keeps_start ⟨inputs, hrun⟩

end Drain

namespace Bridge

/-- Both logs hand out what was recorded in order and once; of a batch only the oldest entries can
be missing, where more than it holds had come since the last one. -/
theorem logs_are_drained {inputs : List BridgeInput} {b : Bridge}
    (hrun : Machine.run step {} inputs = some b) :
    Drain.alerts.Keeps b.main b.history ∧ Drain.responses.Keeps b.main b.history :=
  ⟨Drain.keeps_of_run _ hrun, Drain.keeps_of_run _ hrun⟩

/-! ## The announcements -/

/-- The announcements among these messages. -/
def events (frames : List Frame) : List PortalEvent :=
  frames.filterMap fun
    | .event event => some event
    | _ => none

/-- What has been announced. -/
def emitted (history : List Happening) : List PortalEvent :=
  history.filterMap fun
    | .recorded event => some event
    | _ => none

/-- The page posts no announcement of its own. -/
def Quiet : BridgeInput → Prop
  | .posted (.event _) => False
  | _ => True

/-- Whatever has been announced was missed, or has been heard, or is on its way, in this order. -/
def Told (missed : List PortalEvent) (b : Bridge) : Prop :=
  emitted b.history = missed ++ b.heard ++ events b.frames

section Announcing

variable {b b' : Bridge} {missed : List PortalEvent}

/-- What a step does to the announcements. -/
inductive Announces (b b' : Bridge) : Prop
  | silent (hemitted : emitted b'.history = emitted b.history) (hheard : b'.heard = b.heard)
      (hevents : events b'.frames = events b.frames)
  | posts (event : PortalEvent) (hemitted : emitted b'.history = emitted b.history ++ [event])
      (hheard : b'.heard = b.heard) (hevents : events b'.frames = events b.frames ++ [event])
  | arrives (event : PortalEvent) (hemitted : emitted b'.history = emitted b.history)
      (hheard : b'.heard = if b.started then b.heard ++ [event] else b.heard)
      (hevents : events b.frames = event :: events b'.frames)

theorem settle_announces (id : String) (reply : Option MainReply) :
    emitted (b.settle id reply).history = emitted b.history ∧
      (b.settle id reply).heard = b.heard ∧ events (b.settle id reply).frames = events b.frames ∧
        (b.settle id reply).started = b.started := by
  unfold settle
  split <;> exact ⟨rfl, rfl, rfl, rfl⟩

/-- Who has begun to listen goes on. -/
theorem announces_delivered {frame : Frame} {frames : List Frame}
    (hframes : b.frames = frame :: frames) (now : Millis) (href : String) :
    Announces b ({ b with frames := frames }.delivered now href frame) ∧
      ({ b with frames := frames }.delivered now href frame).started = b.started := by
  cases frame with
  | request id command =>
      simp only [delivered, clientHears, ite_self]
      split
      · refine ⟨.silent ?_ rfl ?_, rfl⟩
        · simp [mainHears, emitted]
        · simp [mainHears, events, hframes]
      · exact ⟨.silent rfl rfl (by simp [events, hframes]), rfl⟩
  | response id reply =>
      have hrest : events frames = events b.frames := by simp [events, hframes]
      simp only [delivered, mainHears, ite_self]
      split
      · rcases settle_announces (b := { b with frames := frames }) id (some reply) with
          ⟨hemitted, hheard, hevents, hstarted⟩
        exact ⟨.silent hemitted hheard (hevents.trans hrest), hstarted⟩
      · exact ⟨.silent rfl rfl hrest, rfl⟩
  | event event =>
      have hrest : events b.frames = event :: events frames := by simp [events, hframes]
      simp only [delivered, mainHears, ite_self]
      split
      · next hstarted => exact ⟨.arrives event rfl (if_pos hstarted).symm hrest, rfl⟩
      · next hdeaf => exact ⟨.arrives event rfl (if_neg hdeaf).symm hrest, rfl⟩
  | other =>
      simp only [delivered, clientHears, mainHears, ite_self]
      exact ⟨.silent rfl rfl (by simp [events, hframes]), trivial⟩

theorem announces_of_step {input : BridgeInput} (hquiet : Quiet input)
    (hstep : b.step input = some b') : Announces b b' ∧ (b.started = true → b'.started = true) := by
  cases input with
  | delivered now href =>
      simp only [step] at hstep
      split at hstep
      · cases hstep
      · next frame frames hframes =>
          cases hstep
          rcases announces_delivered hframes now href with ⟨hannounces, hstarted⟩
          exact ⟨hannounces, fun h => hstarted.trans h⟩
  | timedOut id =>
      simp only [step] at hstep
      split at hstep <;> cases hstep
      rcases settle_announces (b := b) id none with ⟨hemitted, hheard, hevents, hstarted⟩
      exact ⟨.silent hemitted hheard hevents, fun h => hstarted.trans h⟩
  | recorded event =>
      simp only [step] at hstep
      split at hstep <;> cases hstep
      exact ⟨.posts event (by simp [emitted]) rfl (by simp [events]), id⟩
  | posted frame =>
      cases hstep
      refine ⟨.silent rfl rfl ?_, id⟩
      cases frame with
      | event event => exact absurd hquiet id
      | _ => simp [events]
  | send command =>
      cases hstep
      exact ⟨.silent rfl rfl (by simp [Bridge.send, events]), fun _ => rfl⟩
  | start =>
      cases hstep
      exact ⟨.silent rfl rfl rfl, fun _ => rfl⟩
  | injected =>
      cases hstep
      exact ⟨.silent rfl rfl rfl, id⟩

/-- Nothing is missed by a client that listens. -/
theorem Told.step (h : Told missed b) (hannounces : Announces b b') (hstarted : b.started = true) :
    Told missed b' := by
  unfold Told at h ⊢
  cases hannounces with
  | silent hemitted hheard hevents => rwa [hemitted, hheard, hevents]
  | posts event hemitted hheard hevents =>
      rw [hemitted, hheard, hevents, h]
      simp
  | arrives event hemitted hheard hevents =>
      rw [hemitted, hheard, if_pos hstarted, h, hevents]
      simp

/-- A client that does not listen yet misses what comes. -/
theorem Told.step_early (h : Told missed b) (hannounces : Announces b b')
    (hdeaf : b.started = false) (hheard : b.heard = []) :
    ∃ missed', Told missed' b' ∧ b'.heard = [] := by
  unfold Told at h ⊢
  rw [hheard, List.append_nil] at h
  cases hannounces with
  | silent hemitted hheard' hevents =>
      refine ⟨missed, ?_, hheard'.trans hheard⟩
      rw [hemitted, hheard', hevents, hheard, h, List.append_nil]
  | posts event hemitted hheard' hevents =>
      refine ⟨missed, ?_, hheard'.trans hheard⟩
      rw [hemitted, hheard', hevents, hheard, h]
      simp
  | arrives event hemitted hheard' hevents =>
      rw [hdeaf, if_neg Bool.false_ne_true, hheard] at hheard'
      refine ⟨missed ++ [event], ?_, hheard'⟩
      rw [hemitted, hheard', h, hevents]
      simp

theorem told_of_run {inputs : List BridgeInput} (hquiet : ∀ input ∈ inputs, Quiet input)
    (hrun : Machine.run step {} inputs = some b) :
    ∃ missed, Told missed b ∧ (b.started = false → b.heard = []) := by
  have heach : Machine.EachStep step (fun _ input => Quiet input) {} inputs :=
    fun before input _ hbefore _ => hquiet input (hbefore.subset (by simp))
  refine heach.invariant (P := fun b => ∃ missed, Told missed b ∧
    (b.started = false → b.heard = [])) ?_ ⟨[], rfl, fun _ => rfl⟩ hrun
  rintro b input b' ⟨missed, htold, hearly⟩ hinput hstep
  rcases announces_of_step hinput hstep with ⟨hannounces, hon⟩
  cases hstarted : b.started with
  | true =>
      refine ⟨missed, htold.step hannounces hstarted, ?_⟩
      intro hdeaf
      rw [hon hstarted] at hdeaf
      cases hdeaf
  | false =>
      rcases htold.step_early hannounces hstarted (hearly hstarted) with ⟨missed', htold', hnone⟩
      exact ⟨missed', htold', fun _ => hnone⟩

/-- From when on the client listens it hears of everything that is announced, in order and once, and
what it does not know yet is on its way. -/
theorem announcements_are_heard {inputs more : List BridgeInput}
    (hquiet : ∀ input ∈ inputs ++ more, Quiet input)
    (hrun : Machine.run step {} inputs = some b) (hstarted : b.started = true)
    (hmore : Machine.run step b more = some b') :
    ∃ missed, Told missed b ∧ Told missed b' := by
  rcases told_of_run (fun input hmem => hquiet input (List.mem_append_left _ hmem)) hrun with
    ⟨missed, htold, -⟩
  refine ⟨missed, htold, ?_⟩
  have heach : Machine.EachStep step (fun _ input => Quiet input) b more :=
    fun before input _ hbefore _ =>
      hquiet input (List.mem_append_right _ (hbefore.subset (by simp)))
  have hboth : Told missed b' ∧ b'.started = true := by
    refine heach.invariant (P := fun b => Told missed b ∧ b.started = true) ?_ ⟨htold, hstarted⟩
      hmore
    rintro b input b' ⟨h, hon⟩ hinput hstep
    rcases announces_of_step hinput hstep with ⟨hannounces, hkept⟩
    exact ⟨h.step hannounces hon, hkept hon⟩
  exact hboth.1

end Announcing

/-! ### An alert that is drained -/

def savedAlert : PortalAlert where
  message := "Saved."
  time := "2024-05-06T10:00:00.000Z"

/-- An alert is shown before the client listens. -/
def alertedEarly : List BridgeInput :=
  [.injected, .recorded (.alert savedAlert), .delivered 0 "https://portal", .start]

def alertDrained : List BridgeInput :=
  [.send .drainAlerts, .recorded (.alert savedAlert), .delivered 0 "https://portal",
    .delivered 0 "https://portal", .delivered 0 "https://portal"]

def listeningBridge : Bridge :=
  (Machine.run step {} alertedEarly).getD {}

def drainedBridge : Bridge :=
  (Machine.run step {} (alertedEarly ++ alertDrained)).getD {}

theorem drain_is_answered : ∃ command, ("dssp-1", command) ∈ drainedBridge.sent ∧
    .handled "dssp-1" command (.alerts [savedAlert, savedAlert]) ∈ drainedBridge.history := by
  have hrun : Machine.run step {} (alertedEarly ++ alertDrained) = some drainedBridge := rfl
  refine (calls_are_answered ?_ hrun).2.2.2 "dssp-1" (.alerts [savedAlert, savedAlert]) ?_
  · simp [alertedEarly, alertDrained, Unforged]
  · decide +kernel

theorem saved_is_drained_once :
    Drain.alerts.Keeps drainedBridge.main drainedBridge.history ∧
      Drain.responses.Keeps drainedBridge.main drainedBridge.history := by
  have hrun : Machine.run step {} (alertedEarly ++ alertDrained) = some drainedBridge := rfl
  exact logs_are_drained hrun

theorem second_alert_is_heard :
    ∃ missed, Told missed listeningBridge ∧ Told missed drainedBridge := by
  have hrun : Machine.run step {} alertedEarly = some listeningBridge := rfl
  have hmore : Machine.run step listeningBridge alertDrained = some drainedBridge := rfl
  exact announcements_are_heard (by simp [alertedEarly, alertDrained, Quiet]) hrun rfl hmore

end Bridge

end Extension

end DsspBot

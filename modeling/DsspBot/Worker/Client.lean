import DsspBot.Protocol
import DsspBot.Lib.Machine
import Mathlib.Data.List.Basic
import Mathlib.Data.List.Range

/-!
# Client — the supervisor's end of the pipe to the worker

A reader thread passes the lines of the worker on through a channel. A call writes at most one
request and blocks until the channel yields a line, fails, or the time is up. Retries reuse their
job id, so the echoes alone do not pair a reply with its request: a call that fails closes both ends
of the pipe, and no late line can answer anything after it.
-/

namespace DsspBot

/-- The JSON library, and what the client does to the text of a line. -/
structure Wire where
  toString : Request → Except String String
  trim : String → String
  fromStr : String → Except String Response
  debug : String → String

/-- In milliseconds. -/
structure Timeouts where
  ready : Nat := 10000
  response : Nat := 360000
  deriving DecidableEq, Repr

/-- What the reader thread passes on: a line, or why there are no more. -/
abbrev Line := Except String String

inductive RecvTimeoutError
  | timeout
  | disconnected
  deriving DecidableEq, Repr

def Status.debug : Status → String
  | .ok => "Ok"
  | .error => "Error"
  | .ready => "Ready"

/-- Refuse a response written to a different version of the protocol. -/
def checkVersion (resp : Response) : Except String Unit :=
  if resp.v = V then .ok ()
  else
    let v := resp.v
    .error (s!"protocol version mismatch: the worker speaks v{v}, this build speaks v{V} — " ++
      "refusing to act on fields that may not mean the same thing")

/-! ## The client -/

/-- Each line of the channel keeps its position in what the worker wrote. -/
structure WorkerClient where
  stdin : Bool := true
  responses : Option (List (Line × Nat)) := some []
  timeouts : Timeouts := {}
  unusable : Option String := none
  reaped : Bool := false

namespace WorkerClient

variable (c : WorkerClient)

def checkUsable : Except String Unit :=
  match c.unusable with
  | some reason => .error s!"worker client unusable: {reason}"
  | none => .ok ()

/-- Late replies cannot be consumed by another request. -/
def invalidate (reason : String) : WorkerClient :=
  { c with unusable := some (c.unusable.getD reason), stdin := false, responses := none }

/-- `read_response`, from the return of `recv_timeout` on. -/
def readResponse (wire : Wire) (timeout : Nat) (phase : String) :
    Except RecvTimeoutError Line → Except String Response
  | .error .timeout => .error s!"{phase} timed out after {timeout} ms"
  | .error .disconnected => .error "worker response reader disconnected"
  | .ok (.error text) => .error text
  | .ok (.ok line) =>
      match wire.fromStr (wire.trim line) with
      | .error e =>
          let shown := wire.debug (wire.trim line)
          .error s!"invalid protocol line ({e}): {shown}"
      | .ok resp =>
          match checkVersion resp with
          | .error text => .error text
          | .ok () => .ok resp

/-- The rest of `wait_ready`: any failure poisons the client. -/
def readyRead (result : Except String Response) : Except String Unit × WorkerClient :=
  let result : Except String Unit :=
    match result with
    | .error text => .error text
    | .ok resp =>
        match resp.status with
        | .ready => .ok ()
        | other =>
            let shown := other.debug
            .error s!"expected ready handshake, got {shown}"
  match result with
  | .error text => (.error text, c.invalidate text)
  | .ok () => (.ok (), c)

/-- The echo checks at the end of `send_request`. -/
def echoed (req : Request) (resp : Response) : Except String Response :=
  if resp.jobId ≠ req.jobId then
    let sent := req.jobId
    let received := resp.jobId
    .error s!"job_id mismatch: sent {sent}, received {received} — protocol violation"
  else if resp.op ≠ req.op then
    let sent := req.op
    let received := resp.op
    .error s!"op mismatch: sent {sent}, received {received} — protocol violation"
  else
    -- Only a returned identity is compared, and only with an explicitly requested id.
    match req.asksFor, resp.trainee with
    | some expected, some actual =>
        if expected ≠ actual.id then
          let received := actual.id
          .error (s!"trainee_id mismatch: sent {expected}, received {received} — " ++
            "protocol violation")
        else .ok resp
    | _, _ => .ok resp

/-- The rest of `send`: a failure poisons the client, and so does a handshake line mid-flow. -/
def replyRead (req : Request) (result : Except String Response) : Reply × WorkerClient :=
  match result.bind (echoed req) with
  | .error text => (.error text, c.invalidate text)
  | .ok resp =>
      if resp.status = .ready then (.ok resp, c.invalidate "unexpected ready line mid-flow")
      else (.ok resp, c)

/-- `shutdown`: the last flag is whether the process was seen to exit. -/
def shutdown (exited : Bool) : WorkerClient :=
  let c := c.invalidate "worker shut down"
  if c.reaped then c else { c with reaped := exited }

end WorkerClient

/-! ## Calls on a client, and the reader beside them -/

inductive Call
  | waitReady
  | send (req : Request)
  deriving DecidableEq, Repr

/-- What was seen of a client from outside. The line a call consumed stands beside its result. -/
inductive ClientEvent
  | read (n : Nat) (item : Line)
  | wrote (req : Request) (landed : Bool)
  | ready (line : Option Nat) (result : Except String Unit)
  | sent (req : Request) (line : Option Nat) (result : Reply)
  | shutDown

structure ClientRun where
  client : WorkerClient := {}
  /-- The call that blocks on the channel. -/
  calling : Option Call := none
  /-- Whether the reader thread is still at it, and what it has read. -/
  reading : Bool := true
  lines : List Line := []
  log : List ClientEvent := []

inductive ClientInput
  | line (item : Line)
  | waitReady
  | send (req : Request) (write : Except String Unit)
  | received
  | timedOut
  | shutdown (exited : Bool)

namespace ClientRun

variable (s : ClientRun)

def emit (events : List ClientEvent) : ClientRun :=
  { s with log := s.log ++ events }

/-- The reader thread hands a line to the channel, and ends with the stream or the receiver. -/
def read (item : Line) : ClientRun :=
  let n := s.lines.length
  let s := { s.emit [.read n item] with lines := s.lines ++ [item] }
  match s.client.responses with
  | none => { s with reading := false }
  | some queue =>
      { s with
        client := { s.client with responses := some (queue ++ [(item, n)]) }
        reading := item.isOk }

/-- How a call returns. -/
def finish (call : Call) (line : Option Nat) (result : Except String Response) : ClientRun :=
  match call with
  | .waitReady =>
      let (result, client) := s.client.readyRead result
      { s.emit [.ready line result] with client := client, calling := none }
  | .send req =>
      let (reply, client) := s.client.replyRead req result
      { s.emit [.sent req line reply] with client := client, calling := none }

def waitReady : ClientRun :=
  match s.client.checkUsable with
  | .error text => s.emit [.ready none (.error text)]
  | .ok () =>
      match s.client.responses with
      | none => s.finish .waitReady none (.error "worker response channel closed")
      | some _ => { s with calling := some .waitReady }

def send (wire : Wire) (req : Request) (write : Except String Unit) : ClientRun :=
  match s.client.checkUsable with
  | .error text => s.emit [.sent req none (.error text)]
  | .ok () =>
      match wire.toString req with
      | .error e => s.finish (.send req) none (.error s!"serialize: {e}")
      | .ok _ =>
          if s.client.stdin then
            match write with
            | .error e =>
                (s.emit [.wrote req false]).finish (.send req) none
                  (.error s!"write to worker failed: {e}")
            | .ok () =>
                let s := s.emit [.wrote req true]
                match s.client.responses with
                | none => s.finish (.send req) none (.error "worker response channel closed")
                | some _ => { s with calling := some (.send req) }
          else s.finish (.send req) none (.error "worker stdin closed")

/-- The time and the words each call waits with. -/
def readFor (wire : Wire) (call : Call) (received : Except RecvTimeoutError Line) :
    Except String Response :=
  let t := s.client.timeouts
  match call with
  | .waitReady => WorkerClient.readResponse wire t.ready "ready handshake" received
  | .send _ => WorkerClient.readResponse wire t.response "worker response" received

/-- The channel yields the oldest line, or says that there will be none. -/
def received (wire : Wire) : Option ClientRun :=
  match s.calling, s.client.responses with
  | some call, some ((item, n) :: queue) =>
      let taken := { s with client := { s.client with responses := some queue } }
      some (taken.finish call (some n) (s.readFor wire call (.ok item)))
  | some call, some [] =>
      -- A reader that ended without a word has dropped its end of the channel.
      if s.reading then none
      else some (s.finish call none (s.readFor wire call (.error .disconnected)))
  | _, _ => none

/-- The time is up while the channel is empty. -/
def timedOut (wire : Wire) : Option ClientRun :=
  match s.calling, s.client.responses with
  | some call, some [] =>
      if s.reading then some (s.finish call none (s.readFor wire call (.error .timeout)))
      else none
  | _, _ => none

/-- A call borrows the client, so no other starts before it has returned. -/
def step (wire : Wire) (s : ClientRun) : ClientInput → Option ClientRun
  | .line item => if s.reading then some (s.read item) else none
  | .waitReady => if s.calling = none then some s.waitReady else none
  | .send req write => if s.calling = none then some (s.send wire req write) else none
  | .received => s.received wire
  | .timedOut => s.timedOut wire
  | .shutdown exited =>
      if s.calling = none then
        some { s.emit [.shutDown] with client := s.client.shutdown exited }
      else none

/-- A freshly spawned worker. -/
def spawned (timeouts : Timeouts) : ClientRun :=
  { client := { timeouts := timeouts } }

def Reachable (wire : Wire) (timeouts : Timeouts) (s : ClientRun) : Prop :=
  Machine.Reaches (step wire) (spawned timeouts) s

/-! ## What each step does -/

/-- A client that is still usable has both ends of the pipe, and one that is not has neither. -/
structure Whole (s : ClientRun) : Prop where
  usable : s.client.unusable = none →
    s.client.stdin = true ∧ ∃ queue, s.client.responses = some queue
  broken : s.client.unusable ≠ none → s.calling = none ∧ s.client.responses = none

end ClientRun

/-- What a successful return of a call says about the response behind it. -/
structure Attributed (req : Request) (resp : Response) : Prop where
  version : resp.v = V
  jobId : resp.jobId = req.jobId
  op : resp.op = req.op
  identity : ∀ expected actual, req.asksFor = some expected → resp.trainee = some actual →
    actual.id = expected

namespace WorkerClient

variable {c : WorkerClient} {wire : Wire} {req : Request} {resp : Response}

theorem readResponse_eq_ok {timeout : Nat} {phase : String}
    {received : Except RecvTimeoutError Line}
    (h : readResponse wire timeout phase received = .ok resp) :
    resp.v = V ∧ ∃ line, received = .ok (.ok line) ∧ wire.fromStr (wire.trim line) = .ok resp := by
  unfold readResponse at h
  split at h
  · cases h
  · cases h
  · cases h
  · next line =>
      split at h
      · cases h
      · next found hfound =>
          split at h
          · cases h
          · next hversion =>
              cases h
              refine ⟨?_, line, rfl, hfound⟩
              by_contra hother
              simp [checkVersion, hother] at hversion

theorem readyRead_of_other (c : WorkerClient) (h : resp.status ≠ .ready) :
    ∃ text, c.readyRead (.ok resp) = (.error text, c.invalidate text) := by
  cases hstatus : resp.status with
  | ready => exact absurd hstatus h
  | ok =>
      let shown := Status.ok.debug
      refine ⟨s!"expected ready handshake, got {shown}", ?_⟩
      simp only [readyRead, hstatus]
      rfl
  | error =>
      let shown := Status.error.debug
      refine ⟨s!"expected ready handshake, got {shown}", ?_⟩
      simp only [readyRead, hstatus]
      rfl

theorem shutdown_eq (c : WorkerClient) (exited : Bool) :
    ∃ reaped, c.shutdown exited = { c.invalidate "worker shut down" with reaped := reaped } := by
  by_cases hreaped : c.reaped = true
  · exact ⟨c.reaped, by simp [shutdown, invalidate, hreaped]⟩
  · exact ⟨exited, by simp [shutdown, invalidate, hreaped]⟩

theorem echoed_eq_ok {result : Response} (h : echoed req resp = .ok result) :
    result = resp ∧ resp.jobId = req.jobId ∧ resp.op = req.op ∧
      ∀ expected actual, req.asksFor = some expected → resp.trainee = some actual →
        actual.id = expected := by
  unfold echoed at h
  split at h
  · cases h
  · next hjob =>
      split at h
      · cases h
      · next hop =>
          refine ⟨?_, not_not.1 hjob, not_not.1 hop, ?_⟩
          · split at h
            · split at h
              · cases h
              · cases h
                rfl
            · cases h
              rfl
          · intro expected actual hexpected hactual
            by_contra hother
            simp [hexpected, hactual, Ne.symm hother] at h

end WorkerClient

namespace ClientEvent

/-- After it the client stays silent. -/
def Silences : ClientEvent → Prop
  | .ready _ (.error _) => True
  | .sent _ _ (.error _) => True
  | .sent _ _ (.ok resp) => resp.status = .ready
  | .shutDown => True
  | _ => False

/-- All that a silenced client lets happen: calls are refused, and nothing is written or read off
the channel. -/
def Silent : ClientEvent → Prop
  | .wrote _ _ => False
  | .ready line result => line = none ∧ ∃ text, result = .error text
  | .sent _ line reply => line = none ∧ ∃ text, reply = .error text
  | _ => True

/-- The line a call consumed. -/
def consumed : ClientEvent → Option Nat
  | .ready line _ => line
  | .sent _ line _ => line
  | _ => none

end ClientEvent

/-- What a call that fails leaves in the log. -/
def Call.failure (call : Call) (line : Option Nat) (text : String) : ClientEvent :=
  match call with
  | .waitReady => .ready line (.error text)
  | .send req => .sent req line (.error text)

/-- What a call writes before it waits. -/
def Call.writes : Call → List ClientEvent
  | .waitReady => []
  | .send req => [.wrote req true]

theorem Call.failure_consumed (call : Call) (line : Option Nat) (text : String) :
    (call.failure line text).consumed = line := by
  cases call with
  | waitReady => rfl
  | send req => rfl

theorem Call.failure_ne_ok (call : Call) {line line' : Option Nat} {text : String} {req : Request}
    {resp : Response} : call.failure line text ≠ .sent req line' (.ok resp) := by
  intro heq
  cases call with
  | waitReady => cases heq
  | send req' => cases heq

theorem Call.consumed_of_writes {call : Call} {ev : ClientEvent} (h : ev ∈ call.writes) :
    ev.consumed = none := by
  cases call with
  | waitReady => cases h
  | send req =>
      rw [List.mem_singleton.1 h]
      rfl

namespace ClientRun

variable {wire : Wire} {s s' : ClientRun}

/-- How a call comes back from the channel. -/
inductive Finished (s : ClientRun) (call : Call) (line : Option Nat)
    (result : Except String Response) (s' : ClientRun) : Prop
  | failed (text : String) (heq : s' = { s.emit [call.failure line text] with
      client := s.client.invalidate text, calling := none })
  | greeted {resp : Response} (hcall : call = .waitReady) (hresult : result = .ok resp)
      (heq : s' = { s.emit [.ready line (.ok ())] with calling := none })
  | replied {req : Request} {resp : Response} (hcall : call = .send req)
      (hresult : result = .ok resp) (hechoed : WorkerClient.echoed req resp = .ok resp)
      (hstatus : resp.status ≠ .ready)
      (heq : s' = { s.emit [.sent req line (.ok resp)] with calling := none })
  /-- A handshake line that passes for a reply: it is returned, and it is the last. -/
  | misread {req : Request} {resp : Response} (text : String) (hcall : call = .send req)
      (hresult : result = .ok resp) (hechoed : WorkerClient.echoed req resp = .ok resp)
      (hstatus : resp.status = .ready)
      (heq : s' = { s.emit [.sent req line (.ok resp)] with
        client := s.client.invalidate text, calling := none })

/-- A call that already failed comes back as a failure. -/
theorem finish_error (s : ClientRun) (call : Call) (line : Option Nat) (text : String) :
    s.finish call line (.error text) = { s.emit [call.failure line text] with
      client := s.client.invalidate text, calling := none } := by
  cases call with
  | waitReady => rfl
  | send req => rfl

theorem finished (s : ClientRun) (call : Call) (line : Option Nat)
    (result : Except String Response) :
    Finished s call line result (s.finish call line result) := by
  cases result with
  | error text => exact .failed text (s.finish_error call line text)
  | ok resp =>
      cases call with
      | waitReady =>
          by_cases hstatus : resp.status = .ready
          · refine .greeted rfl rfl ?_
            have hread : s.client.readyRead (.ok resp) = (.ok (), s.client) := by
              simp [WorkerClient.readyRead, hstatus]
            simp only [finish, hread]
            rfl
          · rcases WorkerClient.readyRead_of_other s.client hstatus with ⟨text, hread⟩
            refine .failed text ?_
            simp only [finish, hread]
            rfl
      | send req =>
          cases hechoed : WorkerClient.echoed req resp with
          | error text =>
              have hread : s.client.replyRead req (.ok resp) =
                  (.error text, s.client.invalidate text) := by
                simp [WorkerClient.replyRead, Except.bind, hechoed]
              refine .failed text ?_
              simp only [finish, hread]
              rfl
          | ok found =>
              rcases (WorkerClient.echoed_eq_ok hechoed).1 with rfl
              by_cases hstatus : found.status = .ready
              · have hread : s.client.replyRead req (.ok found) =
                    (.ok found, s.client.invalidate "unexpected ready line mid-flow") := by
                  simp [WorkerClient.replyRead, Except.bind, hechoed, hstatus]
                refine .misread "unexpected ready line mid-flow" rfl rfl hechoed hstatus ?_
                simp only [finish, hread]
              · have hread : s.client.replyRead req (.ok found) = (.ok found, s.client) := by
                  simp [WorkerClient.replyRead, Except.bind, hechoed, hstatus]
                refine .replied rfl rfl hechoed hstatus ?_
                simp only [finish, hread]
                rfl

/-- The reader thread and the calls, one constructor for each way the state moves on. -/
inductive Step (wire : Wire) (s s' : ClientRun) : Prop
  | read (item : Line) (hreading : s.reading = true) (heq : s' = s.read item)
  /-- A call on a client that is no longer usable. -/
  | refused (call : Call) (text : String) (hunusable : s.client.unusable ≠ none)
      (heq : s' = s.emit [call.failure none text])
  | asked (call : Call) (husable : s.client.unusable = none) (hidle : s.calling = none)
      (heq : s' = { s.emit call.writes with calling := some call })
  /-- The request did not make it into the pipe. -/
  | unsent (req : Request) (tried : List ClientEvent) (text : String)
      (husable : s.client.unusable = none) (hidle : s.calling = none)
      (htried : tried = [] ∨ tried = [.wrote req false])
      (heq : s' = { s.emit (tried ++ [.sent req none (.error text)]) with
        client := s.client.invalidate text, calling := none })
  | unanswered (call : Call) (text : String) (hcalling : s.calling = some call)
      (heq : s' = { s.emit [call.failure none text] with
        client := s.client.invalidate text, calling := none })
  | answered (call : Call) (item : Line) (n : Nat) (queue : List (Line × Nat))
      (hcalling : s.calling = some call)
      (hqueue : s.client.responses = some ((item, n) :: queue))
      (hfinished : Finished { s with client := { s.client with responses := some queue } } call
        (some n) (s.readFor wire call (.ok item)) s')
  | closed (exited : Bool) (hidle : s.calling = none)
      (heq : s' = { s.emit [.shutDown] with client := s.client.shutdown exited })

theorem step_send (hwhole : Whole s) (hidle : s.calling = none) (req : Request)
    (write : Except String Unit) : Step wire s (s.send wire req write) := by
  unfold send
  cases hunusable : s.client.unusable with
  | some reason =>
      simp only [WorkerClient.checkUsable, hunusable]
      exact .refused (.send req) _ (by simp [hunusable]) rfl
  | none =>
      rcases hwhole.usable hunusable with ⟨hstdin, queue, hqueue⟩
      simp only [WorkerClient.checkUsable, hunusable]
      cases wire.toString req with
      | error e => exact .unsent req [] _ hunusable hidle (Or.inl rfl) rfl
      | ok line =>
          simp only [hstdin, if_true]
          cases write with
          | error e =>
              refine .unsent req [.wrote req false] s!"write to worker failed: {e}" hunusable hidle
                (Or.inr rfl) ?_
              simp [finish, WorkerClient.replyRead, Except.bind, emit]
          | ok done =>
              have hqueue' : (s.emit [.wrote req true]).client.responses = some queue := hqueue
              simp only [hqueue']
              exact .asked (.send req) hunusable hidle rfl

theorem step_waitReady (hwhole : Whole s) (hidle : s.calling = none) :
    Step wire s s.waitReady := by
  unfold waitReady
  cases hunusable : s.client.unusable with
  | some reason =>
      simp only [WorkerClient.checkUsable, hunusable]
      exact .refused .waitReady _ (by simp [hunusable]) rfl
  | none =>
      rcases hwhole.usable hunusable with ⟨-, queue, hqueue⟩
      simp only [WorkerClient.checkUsable, hunusable, hqueue]
      refine .asked .waitReady hunusable hidle ?_
      simp [emit, Call.writes]

theorem step_cases (hwhole : Whole s) {input : ClientInput} (h : step wire s input = some s') :
    Step wire s s' := by
  cases input with
  | line item =>
      rcases Option.ite_none_right_eq_some.1 h with ⟨hreading, heq⟩
      exact .read item hreading (Option.some.inj heq).symm
  | waitReady =>
      rcases Option.ite_none_right_eq_some.1 h with ⟨hidle, heq⟩
      exact Option.some.inj heq ▸ step_waitReady hwhole hidle
  | send req write =>
      rcases Option.ite_none_right_eq_some.1 h with ⟨hidle, heq⟩
      exact Option.some.inj heq ▸ step_send hwhole hidle req write
  | received =>
      simp only [step, received] at h
      split at h
      · next call item n queue hcalling hqueue =>
          cases h
          exact .answered call item n queue hcalling hqueue (finished _ _ _ _)
      · next call hcalling _ =>
          rcases Option.ite_none_left_eq_some.1 h with ⟨-, heq⟩
          cases heq
          cases call with
          | waitReady => exact .unanswered .waitReady _ hcalling rfl
          | send req => exact .unanswered (.send req) _ hcalling rfl
      · cases h
  | timedOut =>
      simp only [step, timedOut] at h
      split at h
      · next call hcalling _ =>
          rcases Option.ite_none_right_eq_some.1 h with ⟨-, heq⟩
          cases heq
          cases call with
          | waitReady => exact .unanswered .waitReady _ hcalling rfl
          | send req => exact .unanswered (.send req) _ hcalling rfl
      · cases h
  | shutdown exited =>
      rcases Option.ite_none_right_eq_some.1 h with ⟨hidle, heq⟩
      exact .closed exited hidle (Option.some.inj heq).symm

theorem read_of_none (item : Line) (h : s.client.responses = none) :
    s.read item = { s.emit [.read s.lines.length item] with
      lines := s.lines ++ [item], reading := false } := by
  simp only [read, emit, h]

theorem read_of_some (item : Line) {queue : List (Line × Nat)}
    (h : s.client.responses = some queue) :
    s.read item = { s.emit [.read s.lines.length item] with
      lines := s.lines ++ [item]
      client := { s.client with responses := some (queue ++ [(item, s.lines.length)]) }
      reading := item.isOk } := by
  simp only [read, emit, h]

theorem read_keeps (s : ClientRun) (item : Line) :
    (s.read item).log = s.log ++ [.read s.lines.length item] ∧
      (s.read item).lines = s.lines ++ [item] ∧
        (s.read item).client.unusable = s.client.unusable := by
  cases hqueue : s.client.responses with
  | none =>
      rw [read_of_none item hqueue]
      exact ⟨rfl, rfl, rfl⟩
  | some queue =>
      rw [read_of_some item hqueue]
      exact ⟨rfl, rfl, rfl⟩

/-- A call begins on a usable client, and is answered while it still is one. -/
theorem Whole.usable_of_calling (h : Whole s) {call : Call} (hcalling : s.calling = some call) :
    s.client.unusable = none := by
  by_contra hunusable
  simp [(h.broken hunusable).1] at hcalling

theorem whole_invalidated {c : WorkerClient} {text : String} {log : List ClientEvent}
    (s : ClientRun) :
    Whole { s with client := c.invalidate text, calling := none, log := log } where
  usable h := by simp [WorkerClient.invalidate] at h
  broken _ := ⟨rfl, rfl⟩

theorem Whole.step (h : Whole s) (hstep : Step wire s s') : Whole s' := by
  cases hstep with
  | read item hreading heq =>
      subst heq
      cases hqueue : s.client.responses with
      | none =>
          have hunusable : s.client.unusable ≠ none := by
            intro husable
            rcases h.usable husable with ⟨-, queue, hsome⟩
            cases hqueue.symm.trans hsome
          rw [read_of_none item hqueue]
          exact ⟨fun husable => absurd husable hunusable, h.broken⟩
      | some queue =>
          rw [read_of_some item hqueue]
          refine ⟨fun husable => ⟨(h.usable husable).1, _, rfl⟩, ?_⟩
          intro hunusable
          cases (h.broken hunusable).2.symm.trans hqueue
  | refused call text hunusable heq =>
      subst heq
      exact ⟨h.usable, h.broken⟩
  | asked call husable hidle heq =>
      subst heq
      exact ⟨h.usable, fun hunusable => absurd husable hunusable⟩
  | unsent req tried text husable hidle htried heq =>
      subst heq
      exact whole_invalidated s
  | unanswered call text hcalling heq =>
      subst heq
      exact whole_invalidated s
  | answered call item n queue hcalling hqueue hfinished =>
      have husable := h.usable_of_calling hcalling
      cases hfinished with
      | failed text heq =>
          subst heq
          exact whole_invalidated s
      | greeted _ _ heq =>
          subst heq
          exact ⟨fun _ => ⟨(h.usable husable).1, queue, rfl⟩, fun hbroken => absurd husable hbroken⟩
      | replied _ _ _ _ heq =>
          subst heq
          exact ⟨fun _ => ⟨(h.usable husable).1, queue, rfl⟩, fun hbroken => absurd husable hbroken⟩
      | misread text _ _ _ _ heq =>
          subst heq
          exact whole_invalidated s
  | closed exited hidle heq =>
      subst heq
      rcases s.client.shutdown_eq exited with ⟨reaped, hshut⟩
      refine ⟨?_, fun _ => ⟨hidle, ?_⟩⟩
      · intro husable
        simp [hshut, WorkerClient.invalidate] at husable
      · simp [hshut, WorkerClient.invalidate]

end ClientRun

end DsspBot

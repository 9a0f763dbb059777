import DsspBot.Worker.EndToEnd
import DsspBot.Worker.Pairing
import Mathlib.Algebra.GroupWithZero.Nat

/-!
# Loop — the worker's main loop at the other end of the pipe

The worker greets once, and then answers the lines of its input one by one, each with one line of
its output. Writing, reading and dying are all that a step can do to the two ends; what the worker
takes up is what the client tried to write, in the same order, and what the client reads is what the
worker has written.
-/

namespace DsspBot

/-- The worker's JSON library. What is no object counts as an error too. -/
structure WorkerJson where
  loads : String → Except String Request
  dumps : Response → String

namespace WorkerJson

variable (json : WorkerJson)

/-- `write_line`. -/
def writeLine (resp : Response) : String :=
  json.dumps resp ++ "\n"

def readyLine : String :=
  json.writeLine { status := .ready }

end WorkerJson

/-- A request that has been handled, the reply, and what was asked of the portal meanwhile. -/
structure Served where
  req : Request
  resp : Response
  issued : List Issued
  /-- What has been written of the line of the reply: all of it, if it has gone on. -/
  line : String

structure WorkerLoop where
  /-- What has been written of the line that it greets with. -/
  greeting : Option String := none
  exited : Bool := false
  served : List Served := []
  /-- What it was at when it came to its end, and what it had asked of the portal for it. -/
  unanswered : Option (Request × List Issued) := none

def WorkerLoop.ready (w : WorkerLoop) : Bool :=
  w.greeting.isSome

/-- Every request that it has taken up. -/
def WorkerLoop.begun (w : WorkerLoop) : List Request :=
  w.served.map (·.req) ++ w.unanswered.toList.map (·.1)

section Worker

variable {Soup Tag : Type} (json : WorkerJson) (lib : Libraries Soup Tag)
  (pages : PageReader Soup) (portal : Portal)

/-- One line of the input: the request on it, if there is one, and the line it is answered with. -/
def WorkerLoop.main (line : String) : Option Served × Option String :=
  if strip line = "" then (none, none)
  else
    match json.loads (strip line) with
    | .error exc =>
        (none,
          some (json.writeLine (errorResponse "" "" ERR_BAD_REQUEST s!"invalid JSON: {exc}")))
    | .ok req =>
        let out := (Worker.handle lib pages portal req).run []
        (some { req := req, resp := out.1, issued := out.2, line := json.writeLine out.1 },
          some (json.writeLine out.1))

end Worker

/-! ## Both ends of the pipes -/

/-- A client, a worker and the lines on their way between them. -/
structure Pipes where
  client : ClientRun
  stdin : List String := []
  worker : WorkerLoop := {}
  stdout : List String := []

inductive PipesInput
  | waitReady
  /-- What a write that fails has left in the pipe is the beginning of the line. -/
  | send (req : Request) (write : Except String Unit) (left : Option String)
  | received
  | timedOut
  | shutdown (exited : Bool)
  /-- The reader thread reads a line, or the end or an error of the stream. -/
  | reads
  | readFails (text : String)
  /-- The worker goes on, and the portal behaves like this meanwhile. -/
  | works (portal : Portal)
  /-- It comes to its end before it has answered, having asked the portal this often. -/
  | dies (portal : Portal) (asked : Nat)
  /-- It comes to its end in the middle of a line, of which this is left. -/
  | tears (portal : Portal) (left : String)
  /-- It comes to its end between two requests. -/
  | exits

/-- The line of a request. -/
def Wire.lineOf (wire : Wire) (req : Request) : String :=
  match wire.toString req with
  | .ok line => line ++ "\n"
  | .error _ => ""

/-- What a call of `send` puts into the pipe. -/
def ClientRun.puts (wire : Wire) (s : ClientRun) (req : Request) (write : Except String Unit)
    (left : Option String) : List String :=
  match s.client.checkUsable, wire.toString req, write with
  | .ok (), .ok _, .ok () => if s.client.stdin then [wire.lineOf req] else []
  | .ok (), .ok _, .error _ => if s.client.stdin then left.toList else []
  | _, _, _ => []

/-- The requests that a client has tried to write. -/
def ClientRun.tried (log : List ClientEvent) : List Request :=
  log.filterMap fun
    | .wrote req _ => some req
    | _ => none

namespace Pipes

variable {Soup Tag : Type} (wire : Wire) (json : WorkerJson) (lib : Libraries Soup Tag)
  (pages : PageReader Soup) (s : Pipes)

def call (input : ClientInput) : Option Pipes :=
  (ClientRun.step wire s.client input).map fun client => { s with client := client }

def works (portal : Portal) : Option Pipes :=
  if s.worker.exited then none
  else if !s.worker.ready then
    some { s with
      worker := { s.worker with greeting := some json.readyLine }
      stdout := s.stdout ++ [json.readyLine] }
  else
    match s.stdin with
    | [] => none
    | line :: stdin =>
        let out := WorkerLoop.main json lib pages portal line
        some { s with
          stdin := stdin
          worker := { s.worker with served := s.worker.served ++ out.1.toList }
          stdout := s.stdout ++ out.2.toList }

def dies (portal : Portal) (asked : Nat) : Option Pipes :=
  if s.worker.exited || !s.worker.ready then none
  else
    match s.stdin with
    | [] => none
    | line :: stdin =>
        let out := WorkerLoop.main json lib pages portal line
        some { s with
          stdin := stdin
          worker :=
            { s.worker with
              exited := true
              unanswered := out.1.map fun served => (served.req, served.issued.take asked) } }

def tears (portal : Portal) (left : String) : Option Pipes :=
  if s.worker.exited || left.isEmpty then none
  else if !s.worker.ready then
    if left.toList <+: json.readyLine.toList then
      some { s with
        worker := { s.worker with exited := true, greeting := some left }
        stdout := s.stdout ++ [left] }
    else none
  else
    match s.stdin with
    | [] => none
    | line :: stdin =>
        let out := WorkerLoop.main json lib pages portal line
        if out.2.any fun whole => left.toList <+: whole.toList then
          some { s with
            stdin := stdin
            worker :=
              { s.worker with
                exited := true
                served := s.worker.served ++
                  out.1.toList.map fun served => { served with line := left } }
            stdout := s.stdout ++ [left] }
        else none

def step : PipesInput → Option Pipes
  | .waitReady => s.call wire .waitReady
  | .send req write left =>
      if left.all fun text => text.toList <+: (wire.lineOf req).toList then
        (s.call wire (.send req write)).map fun next =>
          { next with stdin := s.stdin ++ s.client.puts wire req write left }
      else none
  | .received => s.call wire .received
  | .timedOut => s.call wire .timedOut
  | .shutdown exited => s.call wire (.shutdown exited)
  | .reads =>
      match s.stdout with
      | [] => none
      | line :: stdout =>
          (s.call wire (.line (.ok line))).map fun next => { next with stdout := stdout }
  | .readFails text => s.call wire (.line (.error text))
  | .works portal => s.works json lib pages portal
  | .dies portal asked => s.dies json lib pages portal asked
  | .tears portal left => s.tears json lib pages portal left
  | .exits => some { s with worker := { s.worker with exited := true } }

def spawned (timeouts : Timeouts) : Pipes :=
  { client := ClientRun.spawned timeouts }

def Reachable (timeouts : Timeouts) (s : Pipes) : Prop :=
  Machine.Reaches (step wire json lib pages) (spawned timeouts) s

/-- The JSON libraries at both ends understand each other in what is written in this run. -/
structure Understood (s : Pipes) : Prop where
  requests : ∀ req ∈ ClientRun.written s.client.log,
    strip (wire.lineOf req) ≠ "" ∧ json.loads (strip (wire.lineOf req)) = .ok req
  /-- The beginning of a request's line is not another request. -/
  torn : ∀ req ∈ ClientRun.tried s.client.log, ∀ text : String,
    text.toList <+: (wire.lineOf req).toList → ∀ other, json.loads (strip text) = .ok other →
      other = req
  /-- Nor is what has been written of a line of the worker's another line. -/
  greeting : ∀ text ∈ s.worker.greeting, ∀ other, wire.fromStr (wire.trim text) = .ok other →
    other = { status := .ready }
  replies : ∀ served ∈ s.worker.served, ∀ other,
    wire.fromStr (wire.trim served.line) = .ok other → other = served.resp

/-! ## What the worker has got -/

/-- The worker has taken up what was written, in order; the lines of the pending requests are still
in the pipe, and what is left of one whose write has failed. -/
structure Fed (s : Pipes) (pending : List Request) (torn : List (Request × String)) : Prop where
  stdin : s.stdin = pending.map wire.lineOf ++ torn.map (·.2)
  order : s.worker.begun ++ pending ++ torn.map (·.1) <+: ClientRun.tried s.client.log
  written : ∀ req ∈ pending, req ∈ ClientRun.written s.client.log
  one : torn.length ≤ 1
  left : ∀ entry ∈ torn, entry.2.toList <+: (wire.lineOf entry.1).toList
  alive : s.worker.exited = false → s.worker.unanswered = none
  whole : s.client.client.unusable = none → torn = [] ∧
    ClientRun.tried s.client.log = ClientRun.written s.client.log ∧
      ClientRun.written s.client.log = s.worker.begun ++ pending

/-- What the worker has written so far, as long as it was asked for nothing but requests. -/
def transcript (w : WorkerLoop) : List String :=
  w.greeting.toList ++ w.served.map (·.line)

/-- What the reader thread has read is the beginning of what the worker has written. -/
structure Heard (s : Pipes) : Prop where
  early : s.worker.ready = false → s.worker.served = []
  rest : s.client.reading = true →
    s.client.lines ++ s.stdout.map Except.ok = (transcript s.worker).map Except.ok
  lines : ∀ (n : Nat) (text : String), s.client.lines[n]? = some (.ok text) →
    (transcript s.worker)[n]? = some text

end Pipes

/-! ## One step of the client -/

namespace ClientRun

variable {wire : Wire} {c c' : ClientRun} {req : Request} {write : Except String Unit}
  {left : Option String} {input : ClientInput}

@[simp] theorem tried_append (log events : List ClientEvent) :
    tried (log ++ events) = tried log ++ tried events :=
  List.filterMap_append

/-- A step adds these events, and reads nothing. -/
structure Adds (c c' : ClientRun) (events : List ClientEvent) : Prop where
  log : c'.log = c.log ++ events
  unread : ∀ n item, .read n item ∉ events
  lines : c'.lines = c.lines
  reading : c'.reading = c.reading

theorem Adds.of_emit {events : List ClientEvent} (hunread : ∀ n item, .read n item ∉ events) :
    Adds c (c.emit events) events :=
  ⟨rfl, hunread, rfl, rfl⟩

theorem Adds.tried {events : List ClientEvent} (h : Adds c c' events) :
    tried c'.log = tried c.log ++ tried events := by
  rw [h.log, tried_append]

theorem Adds.written {events : List ClientEvent} (h : Adds c c' events) :
    written c'.log = written c.log ++ written events := by
  rw [h.log, written_append]

/-- A call that comes back writes nothing. -/
theorem finish_adds (c : ClientRun) (call : Call) (line : Option Nat)
    (result : Except String Response) :
    ∃ ev, Adds c (c.finish call line result) [ev] ∧ ClientRun.tried [ev] = [] := by
  cases call with
  | waitReady => exact ⟨_, ⟨rfl, by simp, rfl, rfl⟩, rfl⟩
  | send req => exact ⟨_, ⟨rfl, by simp, rfl, rfl⟩, rfl⟩

/-- Nothing but `send` writes, and nothing but the reader thread reads. -/
theorem adds_of_step (hsend : ∀ req write, input ≠ .send req write)
    (hline : ∀ item, input ≠ .line item) (h : step wire c input = some c') :
    ∃ events, Adds c c' events ∧ ClientRun.tried events = [] := by
  cases input with
  | line item => exact absurd rfl (hline item)
  | send req write => exact absurd rfl (hsend req write)
  | waitReady =>
      rcases Option.ite_none_right_eq_some.1 h with ⟨-, heq⟩
      cases heq
      unfold waitReady
      split
      · exact ⟨_, .of_emit (by simp), rfl⟩
      · split
        · rcases c.finish_adds .waitReady none (.error "worker response channel closed") with
            ⟨ev, hadds, htried⟩
          exact ⟨[ev], hadds, htried⟩
        · exact ⟨[], ⟨(List.append_nil _).symm, by simp, rfl, rfl⟩, rfl⟩
  | received =>
      simp only [step, received] at h
      split at h
      · next call item n queue _ _ =>
          cases h
          rcases finish_adds { c with client := { c.client with responses := some queue } } call
            (some n) (c.readFor wire call (.ok item)) with ⟨ev, hadds, htried⟩
          exact ⟨[ev], ⟨hadds.log, hadds.unread, hadds.lines, hadds.reading⟩, htried⟩
      · next call _ _ =>
          rcases Option.ite_none_left_eq_some.1 h with ⟨-, heq⟩
          cases heq
          rcases c.finish_adds call none (c.readFor wire call (.error .disconnected)) with
            ⟨ev, hadds, htried⟩
          exact ⟨[ev], hadds, htried⟩
      · cases h
  | timedOut =>
      simp only [step, timedOut] at h
      split at h
      · next call _ _ =>
          rcases Option.ite_none_right_eq_some.1 h with ⟨-, heq⟩
          cases heq
          rcases c.finish_adds call none (c.readFor wire call (.error .timeout)) with
            ⟨ev, hadds, htried⟩
          exact ⟨[ev], hadds, htried⟩
      · cases h
  | shutdown exited =>
      rcases Option.ite_none_right_eq_some.1 h with ⟨-, heq⟩
      cases heq
      exact ⟨_, ⟨rfl, by simp, rfl, rfl⟩, rfl⟩

/-- What is tried and what is written. -/
theorem written_of_tried {events : List ClientEvent} (h : tried events = []) :
    written events = [] := by
  rw [tried, List.filterMap_eq_nil_iff] at h
  rw [ClientRun.written, List.filterMap_eq_nil_iff]
  intro ev hev
  have hnone := h ev hev
  cases ev with
  | wrote req landed => cases hnone
  | _ => rfl

/-- What a call of `send` does with its request. -/
inductive Sends (wire : Wire) (c : ClientRun) (req : Request) (left : Option String)
    (c' : ClientRun) (events : List ClientEvent) : List String → Prop
  /-- It is refused, or cannot be written as a line. -/
  | refused (htried : tried events = [])
      (hsame : c'.client.unusable = none → c.client.unusable = none) :
      Sends wire c req left c' events []
  | failed (htried : tried events = [req]) (hbroken : c'.client.unusable ≠ none)
      (husable : c.client.unusable = none) : Sends wire c req left c' events left.toList
  | written (htried : tried events = [req]) (hwritten : written events = [req])
      (husable : c.client.unusable = none) : Sends wire c req left c' events [wire.lineOf req]

theorem unsent_adds (c : ClientRun) (req : Request) (text : String) :
    Adds c ((c.emit [.wrote req false]).finish (.send req) none (.error text))
      [.wrote req false, .sent req none (.error text)] := by
  rw [finish_error]
  exact ⟨by simp [emit, Call.failure], by simp, rfl, rfl⟩

theorem sends_of_step (hwhole : Whole c) (h : step wire c (.send req write) = some c') :
    ∃ events, Adds c c' events ∧ succeeded events = [] ∧
      Sends wire c req left c' events (c.puts wire req write left) := by
  rcases Option.ite_none_right_eq_some.1 h with ⟨-, heq⟩
  cases heq
  unfold puts send
  cases hunusable : c.client.unusable with
  | some reason =>
      simp only [WorkerClient.checkUsable, hunusable]
      exact ⟨_, .of_emit (by simp), rfl, .refused rfl (by simp [emit, hunusable])⟩
  | none =>
      rcases hwhole.usable hunusable with ⟨hstdin, queue, hqueue⟩
      simp only [WorkerClient.checkUsable, hunusable]
      cases wire.toString req with
      | error e =>
          simp only [finish_error]
          exact ⟨_, ⟨rfl, by simp [Call.failure], rfl, rfl⟩, rfl, .refused rfl fun _ => hunusable⟩
      | ok line =>
          cases write with
          | error e =>
              simp only [hstdin, if_true]
              refine ⟨_, c.unsent_adds req s!"write to worker failed: {e}", rfl,
                .failed rfl ?_ hunusable⟩
              rw [finish_error]
              exact unusable_invalidate _ _
          | ok done =>
              have hqueue' : (c.emit [.wrote req true]).client.responses = some queue := hqueue
              simp only [hstdin, if_true, hqueue']
              exact ⟨[.wrote req true], ⟨rfl, by simp, rfl, rfl⟩, rfl, .written rfl rfl hunusable⟩

/-- A worker that has kept to its lines still does after events without new lines. -/
theorem OneLineEach.adds {greets : Bool} {events : List ClientEvent}
    (h : OneLineEach wire greets c) (hadds : Adds c c' events) : OneLineEach wire greets c' where
  prompt := by
    intro before n text after hsplit
    rw [hadds.log] at hsplit
    rcases List.append_eq_append_iff.1 hsplit with ⟨middle, -, hevents⟩ | ⟨middle, hlog, hrest⟩
    · refine absurd ?_ (hadds.unread n (.ok text))
      rw [hevents]
      simp
    · cases middle with
      | nil =>
          refine absurd ?_ (hadds.unread n (.ok text))
          rw [List.nil_append] at hrest
          rw [← hrest]
          exact List.mem_cons_self
      | cons ev middle =>
          rw [List.cons_append, List.cons.injEq] at hrest
          exact h.prompt before n text middle (by rw [hlog, hrest.1])
  greeting := by
    rw [hadds.lines]
    exact h.greeting

/-- A new line that is no later than its request, and greets if it is the first. -/
theorem OneLineEach.read {greets : Bool} {item : Line} (h : OneLineEach wire greets c)
    (hnext : ∀ text, item = .ok text → c.lines.length < greets.toNat + (written c.log).length)
    (hfirst : c.lines = [] → ∀ text resp, item = .ok text →
      wire.fromStr (wire.trim text) = .ok resp → resp.status = .ready) :
    OneLineEach wire greets (c.read item) := by
  rcases c.read_keeps item with ⟨hlog, hlines, -⟩
  refine ⟨?_, ?_⟩
  · intro before n text after hsplit
    rw [hlog] at hsplit
    rcases List.eq_nil_or_concat' after with rfl | ⟨more, last, rfl⟩
    · have hlast := List.append_inj' hsplit rfl
      have hread := List.cons.inj hlast.2
      injection hread.1 with hnumber hitem
      rw [← hlast.1, ← hnumber]
      exact hnext text hitem
    · rw [← List.cons_append, ← List.append_assoc] at hsplit
      exact h.prompt before n text more (List.append_inj' hsplit rfl).1
  · intro hgreets text resp hline hparse
    rw [hlines] at hline
    cases hempty : c.lines with
    | nil =>
        rw [hempty] at hline
        exact hfirst hempty text resp (Option.some.inj hline) hparse
    | cons first rest =>
        rw [hempty] at hline
        exact h.greeting hgreets text resp (by rw [hempty]; exact hline) hparse

end ClientRun

/-! ## One step of the pipes -/

namespace Pipes

section Steps

variable {Soup Tag : Type} {wire : Wire} {json : WorkerJson} {lib : Libraries Soup Tag}
  {pages : PageReader Soup} {s s' : Pipes} {timeouts : Timeouts} {portal : Portal}

/-- What becomes of the line that the worker has taken up, and what it writes. Only its last line
may be torn. -/
inductive Replies (json : WorkerJson) (lib : Libraries Soup Tag) (pages : PageReader Soup)
    (portal : Portal) (line : String) : List Served → List String → Prop
  | unserved {written : List String}
      (hnone : (WorkerLoop.main json lib pages portal line).1 = none) :
      Replies json lib pages portal line [] written
  | handled {served : Served} {left : String}
      (hmain : WorkerLoop.main json lib pages portal line = (some served, some served.line)) :
      Replies json lib pages portal line [{ served with line := left }] [left]

/-- What a step does to the two ends. -/
inductive Moves (wire : Wire) (json : WorkerJson) (lib : Libraries Soup Tag)
    (pages : PageReader Soup) (s : Pipes) : Pipes → Prop
  | returns {client : ClientRun} {events : List ClientEvent}
      (hadds : ClientRun.Adds s.client client events) (htried : ClientRun.tried events = [])
      (happends : ClientRun.Appends s.client client events) :
      Moves wire json lib pages s { s with client := client }
  | sends {client : ClientRun} {events : List ClientEvent} {req : Request} {left : Option String}
      {put : List String} (hadds : ClientRun.Adds s.client client events)
      (hsucceeded : ClientRun.succeeded events = [])
      (hleft : ∀ text ∈ left, text.toList <+: (wire.lineOf req).toList)
      (hsends : ClientRun.Sends wire s.client req left client events put) :
      Moves wire json lib pages s { s with client := client, stdin := s.stdin ++ put }
  | reads {line : String} {stdout : List String} (hreading : s.client.reading = true)
      (hstdout : s.stdout = line :: stdout) :
      Moves wire json lib pages s
        { s with client := s.client.read (.ok line), stdout := stdout }
  | readFails (text : String) (hreading : s.client.reading = true) :
      Moves wire json lib pages s { s with client := s.client.read (.error text) }
  | greets {line : String} (exited : Bool) (hready : s.worker.ready = false)
      (halive : s.worker.exited = false) :
      Moves wire json lib pages s
        { s with
          worker := { s.worker with exited := exited, greeting := some line }
          stdout := s.stdout ++ [line] }
  | answers {line : String} {stdin written : List String} {got : List Served} (portal : Portal)
      (exited : Bool) (hready : s.worker.ready = true) (halive : s.worker.exited = false)
      (hstdin : s.stdin = line :: stdin)
      (hreplies : Replies json lib pages portal line got written) :
      Moves wire json lib pages s
        { s with
          stdin := stdin
          worker := { s.worker with exited := exited, served := s.worker.served ++ got }
          stdout := s.stdout ++ written }
  | dies {line : String} {stdin : List String} (portal : Portal) (asked : Nat)
      (halive : s.worker.exited = false) (hstdin : s.stdin = line :: stdin) :
      Moves wire json lib pages s
        { s with
          stdin := stdin
          worker :=
            { s.worker with
              exited := true
              unanswered := (WorkerLoop.main json lib pages portal line).1.map fun served =>
                (served.req, served.issued.take asked) } }
  | exits : Moves wire json lib pages s { s with worker := { s.worker with exited := true } }

/-- What the worker makes of a line. -/
theorem main_cases (json : WorkerJson) (lib : Libraries Soup Tag) (pages : PageReader Soup)
    (portal : Portal) (line : String) :
    (WorkerLoop.main json lib pages portal line).1 = none ∨
      ∃ served, json.loads (strip line) = .ok served.req ∧
        WorkerLoop.main json lib pages portal line = (some served, some served.line) ∧
          served.resp = ((Worker.handle lib pages portal served.req).run []).1 ∧
            served.issued = ((Worker.handle lib pages portal served.req).run []).2 := by
  unfold WorkerLoop.main
  split
  · exact .inl rfl
  · split
    · exact .inl rfl
    · next req hloads => exact .inr ⟨_, hloads, rfl, rfl, rfl⟩

theorem main_of_loads (lib : Libraries Soup Tag) (pages : PageReader Soup) (portal : Portal)
    {line : String} {req : Request} (hblank : strip line ≠ "")
    (hloads : json.loads (strip line) = .ok req) :
    ∃ served, WorkerLoop.main json lib pages portal line = (some served, some served.line) ∧
      served.req = req := by
  rcases main_cases json lib pages portal line with hnone | ⟨served, hother, hmain, -⟩
  · simp [WorkerLoop.main, hblank, hloads] at hnone
  · exact ⟨served, hmain, Except.ok.inj (hother.symm.trans hloads)⟩

theorem replies_main (portal : Portal) (line : String) :
    Replies json lib pages portal line (WorkerLoop.main json lib pages portal line).1.toList
      (WorkerLoop.main json lib pages portal line).2.toList := by
  rcases main_cases json lib pages portal line with hnone | ⟨served, -, hmain, -⟩
  · rw [hnone]
    exact .unserved hnone
  · rw [hmain]
    exact .handled hmain

theorem replies_torn (portal : Portal) (line left : String) :
    Replies json lib pages portal line
      ((WorkerLoop.main json lib pages portal line).1.toList.map fun served =>
        { served with line := left })
      [left] := by
  rcases main_cases json lib pages portal line with hnone | ⟨served, -, hmain, -⟩
  · rw [hnone]
    exact .unserved hnone
  · rw [hmain]
    exact .handled hmain

theorem Replies.requests {line : String} {got : List Served} {written : List String}
    (h : Replies json lib pages portal line got written) :
    got.map (·.req) = (WorkerLoop.main json lib pages portal line).1.toList.map (·.req) := by
  cases h with
  | unserved hnone =>
      rw [hnone]
      rfl
  | handled hmain =>
      rw [hmain]
      rfl

theorem moves_of_call {input : ClientInput} (hwhole : ClientRun.Whole s.client)
    (hsend : ∀ req write, input ≠ .send req write) (hline : ∀ item, input ≠ .line item)
    (h : s.call wire input = some s') :
    Moves wire json lib pages s s' := by
  rcases Option.map_eq_some_iff.1 h with ⟨client, hclient, rfl⟩
  rcases ClientRun.adds_of_step hsend hline hclient with ⟨events, hadds, htried⟩
  rcases (ClientRun.step_cases hwhole hclient).appends hwhole with ⟨events', happends⟩
  have hsame : events' = events := List.append_cancel_left (happends.log.symm.trans hadds.log)
  exact .returns hadds htried (hsame ▸ happends)

theorem moves_of_send {req : Request} {write : Except String Unit} {left : Option String}
    (hwhole : ClientRun.Whole s.client)
    (h : step wire json lib pages s (.send req write left) = some s') :
    Moves wire json lib pages s s' := by
  rcases Option.ite_none_right_eq_some.1 h with ⟨hleft, hsent⟩
  rcases Option.map_eq_some_iff.1 hsent with ⟨next, hnext, rfl⟩
  rcases Option.map_eq_some_iff.1 hnext with ⟨client, hclient, rfl⟩
  rcases ClientRun.sends_of_step hwhole hclient with ⟨events, hadds, hsucceeded, hsends⟩
  refine .sends hadds hsucceeded ?_ hsends
  rintro text rfl
  simpa using hleft

theorem moves_of_works {portal : Portal} (h : s.works json lib pages portal = some s') :
    Moves wire json lib pages s s' := by
  rcases Option.ite_none_left_eq_some.1 h with ⟨halive, hgoes⟩
  split at hgoes
  · next hready =>
      cases hgoes
      exact .greets _ (by simpa using hready) (by simpa using halive)
  · next hready =>
      split at hgoes
      · cases hgoes
      · next line stdin hstdin =>
          cases hgoes
          exact .answers portal _ (by simpa using hready) (by simpa using halive) hstdin
            (replies_main portal line)

theorem moves_of_dies {portal : Portal} {asked : Nat}
    (h : s.dies json lib pages portal asked = some s') : Moves wire json lib pages s s' := by
  rcases Option.ite_none_left_eq_some.1 h with ⟨halive, hgoes⟩
  split at hgoes
  · cases hgoes
  · next line stdin hstdin =>
      cases hgoes
      simp only [Bool.or_eq_true, not_or, Bool.not_eq_true] at halive
      exact .dies portal asked halive.1 hstdin

theorem moves_of_tears {portal : Portal} {left : String}
    (h : s.tears json lib pages portal left = some s') : Moves wire json lib pages s s' := by
  rcases Option.ite_none_left_eq_some.1 h with ⟨halive, hgoes⟩
  simp only [Bool.or_eq_true, not_or, Bool.not_eq_true] at halive
  split at hgoes
  · next hready =>
      split at hgoes <;> cases hgoes
      exact .greets _ (by simpa using hready) halive.1
  · next hready =>
      split at hgoes
      · cases hgoes
      · next line stdin hstdin =>
          dsimp only at hgoes
          split at hgoes <;> cases hgoes
          exact .answers portal _ (by simpa using hready) halive.1 hstdin
            (replies_torn portal line left)

theorem moves_of_step (hwhole : ClientRun.Whole s.client) {input : PipesInput}
    (h : step wire json lib pages s input = some s') : Moves wire json lib pages s s' := by
  cases input with
  | waitReady => exact moves_of_call hwhole (by simp) (by simp) h
  | received => exact moves_of_call hwhole (by simp) (by simp) h
  | timedOut => exact moves_of_call hwhole (by simp) (by simp) h
  | shutdown exited => exact moves_of_call hwhole (by simp) (by simp) h
  | send req write left => exact moves_of_send hwhole h
  | reads =>
      simp only [step] at h
      split at h
      · cases h
      · next line stdout hstdout =>
          rcases Option.map_eq_some_iff.1 h with ⟨next, hnext, rfl⟩
          rcases Option.map_eq_some_iff.1 hnext with ⟨client, hclient, rfl⟩
          rcases Option.ite_none_right_eq_some.1 hclient with ⟨hreading, heq⟩
          cases heq
          exact .reads hreading hstdout
  | readFails text =>
      rcases Option.map_eq_some_iff.1 h with ⟨client, hclient, rfl⟩
      rcases Option.ite_none_right_eq_some.1 hclient with ⟨hreading, heq⟩
      cases heq
      exact .readFails text hreading
  | works portal => exact moves_of_works h
  | dies portal asked => exact moves_of_dies h
  | tears portal left => exact moves_of_tears h
  | exits =>
      cases h
      exact .exits

/-- Nothing that was written or served is forgotten. -/
structure Grows (s s' : Pipes) : Prop where
  log : s.client.log <+: s'.client.log
  served : s.worker.served <+: s'.worker.served
  greeting : ∀ text ∈ s.worker.greeting, text ∈ s'.worker.greeting

theorem Moves.grows (h : Moves wire json lib pages s s') : Grows s s' := by
  cases h with
  | returns hadds => exact ⟨hadds.log ▸ List.prefix_append _ _, List.prefix_rfl, fun _ h => h⟩
  | sends hadds => exact ⟨hadds.log ▸ List.prefix_append _ _, List.prefix_rfl, fun _ h => h⟩
  | reads =>
      refine ⟨?_, List.prefix_rfl, fun _ h => h⟩
      rw [(s.client.read_keeps _).1]
      exact List.prefix_append _ _
  | readFails text =>
      refine ⟨?_, List.prefix_rfl, fun _ h => h⟩
      rw [(s.client.read_keeps _).1]
      exact List.prefix_append _ _
  | greets _ hready =>
      refine ⟨List.prefix_rfl, List.prefix_rfl, fun text htext => ?_⟩
      simp [WorkerLoop.ready, Option.mem_def.1 htext] at hready
  | answers => exact ⟨List.prefix_rfl, List.prefix_append _ _, fun _ h => h⟩
  | _ => exact ⟨List.prefix_rfl, List.prefix_rfl, fun _ h => h⟩

/-- A client that is still usable was so before. -/
theorem Moves.usable_before (h : Moves wire json lib pages s s')
    (husable : s'.client.client.unusable = none) : s.client.client.unusable = none := by
  cases h with
  | returns _ _ happends =>
      by_contra hbroken
      exact happends.latched hbroken husable
  | sends _ _ _ hsends =>
      cases hsends with
      | refused _ hsame => exact hsame husable
      | failed _ _ hbefore => exact hbefore
      | written _ _ hbefore => exact hbefore
  | reads => exact (s.client.read_keeps _).2.2 ▸ husable
  | readFails text => exact (s.client.read_keeps (.error text)).2.2 ▸ husable
  | _ => exact husable

theorem Understood.before (h : Understood wire json s') (hgrows : Grows s s') :
    Understood wire json s := by
  rcases hgrows with ⟨⟨events, hlog⟩, hserved, hgreeting⟩
  refine ⟨?_, ?_, fun text htext => h.greeting text (hgreeting text htext),
    fun served hmem => h.replies served (hserved.subset hmem)⟩
  · intro req hmem
    refine h.requests req ?_
    rw [← hlog, ClientRun.written_append]
    exact List.mem_append_left _ hmem
  · intro req hmem
    refine h.torn req ?_
    rw [← hlog, ClientRun.tried_append]
    exact List.mem_append_left _ hmem

namespace Fed

variable {pending : List Request} {torn : List (Request × String)}

/-- The next line is that of the next request, or what is left of one. -/
theorem head (h : Fed wire s pending torn) {line : String} {stdin : List String}
    (hstdin : s.stdin = line :: stdin) :
    (∃ req rest, pending = req :: rest ∧ line = wire.lineOf req ∧
        stdin = rest.map wire.lineOf ++ torn.map (·.2)) ∨
      ∃ req, pending = [] ∧ torn = [(req, line)] ∧ stdin = [] := by
  have hsplit := h.stdin
  rw [hstdin] at hsplit
  cases pending with
  | cons req rest =>
      rw [List.map_cons, List.cons_append, List.cons.injEq] at hsplit
      exact .inl ⟨req, rest, rfl, hsplit.1, hsplit.2⟩
  | nil =>
      cases torn with
      | nil => cases hsplit
      | cons entry more =>
          have hnone : more = [] := by
            have hone := h.one
            simpa using hone
          subst hnone
          rw [List.map_nil, List.nil_append, List.map_cons, List.map_nil, List.cons.injEq] at hsplit
          exact .inr ⟨entry.1, rfl, by rw [hsplit.1], hsplit.2⟩

/-- What the client has to do with it stays as it was. -/
theorem frame (h : Fed wire s pending torn) (hstdin : s'.stdin = s.stdin)
    (hworker : s'.worker.begun = s.worker.begun)
    (halive : s'.worker.exited = false → s'.worker.unanswered = none)
    (htried : ClientRun.tried s'.client.log = ClientRun.tried s.client.log)
    (hwritten : ClientRun.written s'.client.log = ClientRun.written s.client.log)
    (hlatched : s'.client.client.unusable = none → s.client.client.unusable = none) :
    Fed wire s' pending torn where
  stdin := hstdin.trans h.stdin
  order := by
    rw [hworker, htried]
    exact h.order
  written := by
    rw [hwritten]
    exact h.written
  one := h.one
  left := h.left
  alive := halive
  whole := by
    rw [hworker, htried, hwritten]
    exact fun husable => h.whole (hlatched husable)

end Fed

/-- The worker has got a request off the next line, or nothing at all. -/
theorem Fed.takes {pending : List Request} {torn : List (Request × String)}
    (h : Fed wire s pending torn) (hund : Understood wire json s) {line : String}
    {stdin : List String} (hstdin : s.stdin = line :: stdin) (portal : Portal) :
    ∃ got : List Request, (WorkerLoop.main json lib pages portal line).1.toList.map (·.req) = got ∧
      ∃ pending' torn', stdin = pending'.map wire.lineOf ++ torn'.map (·.2) ∧
        (∀ begun, begun ++ pending ++ torn.map (·.1) <+: ClientRun.tried s.client.log →
          begun ++ got ++ pending' ++ torn'.map (·.1) <+: ClientRun.tried s.client.log) ∧
          (torn = [] → torn' = [] ∧ pending = got ++ pending') ∧ pending' ⊆ pending ∧
            torn' ⊆ torn ∧ torn'.length ≤ 1 := by
  rcases h.head hstdin with ⟨req, rest, rfl, rfl, hrest⟩ | ⟨req, rfl, rfl, rfl⟩
  · rcases hund.requests req (h.written req List.mem_cons_self) with ⟨hblank, hloads⟩
    rcases main_of_loads lib pages portal hblank hloads with ⟨served, hmain, hreq⟩
    refine ⟨[req], ?_, rest, torn, hrest, ?_, ?_, ?_, ?_, h.one⟩
    · rw [hmain, ← hreq]
      rfl
    · intro begun hbegun
      simpa using hbegun
    · exact fun htorn => ⟨htorn, rfl⟩
    · exact fun _ hmem => List.mem_cons_of_mem _ hmem
    · exact fun _ hmem => hmem
  · rcases main_cases json lib pages portal line with hnone | ⟨served, hloads, hmain, -⟩
    · refine ⟨[], by rw [hnone]; rfl, [], [], rfl, ?_, by simp, by simp, by simp, by simp⟩
      intro begun hbegun
      exact (List.prefix_append _ _).trans (by simpa using hbegun)
    · have hsame : served.req = req := by
        refine hund.torn req ?_ line (h.left (req, line) List.mem_cons_self) served.req hloads
        exact h.order.subset (by simp)
      subst hsame
      refine ⟨[served.req], by rw [hmain]; rfl, [], [], rfl, ?_, by simp, by simp, by simp,
        by simp⟩
      intro begun hbegun
      simpa using hbegun

/-- A call of `send` puts another request behind the pending ones, or the last piece there is. -/
theorem Fed.sends {pending : List Request} {torn : List (Request × String)}
    (h : Fed wire s pending torn) {client : ClientRun} {events : List ClientEvent} {req : Request}
    {left : Option String} {put : List String} (hadds : ClientRun.Adds s.client client events)
    (hleft : ∀ text ∈ left, text.toList <+: (wire.lineOf req).toList)
    (hsends : ClientRun.Sends wire s.client req left client events put) :
    ∃ pending torn, Fed wire { s with client := client, stdin := s.stdin ++ put } pending torn := by
  cases hsends with
  | refused htried hsame =>
      refine ⟨pending, torn, h.frame (List.append_nil _) rfl h.alive ?_ ?_ hsame⟩
      · rw [hadds.tried, htried, List.append_nil]
      · rw [hadds.written, ClientRun.written_of_tried htried, List.append_nil]
  | failed htried hbroken husable =>
      rcases h.whole husable with ⟨rfl, hsame, hwritten⟩
      -- Whatever is left of the line is the last that the worker gets.
      refine ⟨pending, left.toList.map fun text => (req, text), ?_⟩
      refine ⟨?_, ?_, ?_, ?_, ?_, h.alive, fun husable => absurd husable hbroken⟩
      · cases left <;> simp [h.stdin]
      · rw [hadds.tried, htried, hsame, hwritten]
        cases left <;> simp
      · intro other hmem
        rw [hadds.written]
        exact List.mem_append_left _ (h.written other hmem)
      · cases left <;> simp
      · intro entry hmem
        rcases List.mem_map.1 hmem with ⟨text, htext, rfl⟩
        exact hleft text (Option.mem_toList.1 htext)
  | written htried hwritten husable =>
      rcases h.whole husable with ⟨rfl, hsame, hbegun⟩
      refine ⟨pending ++ [req], [], ?_, ?_, ?_, Nat.zero_le _, by simp, h.alive, ?_⟩
      · simp [h.stdin]
      · rw [hadds.tried, htried, hsame, hbegun]
        simp
      · intro other hmem
        rw [hadds.written, hwritten]
        rcases List.mem_append.1 hmem with hmem | hmem
        · exact List.mem_append_left _ (h.written other hmem)
        · exact List.mem_append_right _ hmem
      · intro _
        rw [hadds.tried, htried, hadds.written, hwritten, hsame, hbegun]
        simp

/-- What the client reads is no concern of the worker's input. -/
theorem Fed.hears {pending : List Request} {torn : List (Request × String)}
    (h : Fed wire s pending torn) (item : Line) (stdout : List String) :
    Fed wire { s with client := s.client.read item, stdout := stdout } pending torn := by
  rcases s.client.read_keeps item with ⟨hlog, -, hclient⟩
  refine h.frame rfl rfl h.alive ?_ ?_ fun husable => hclient ▸ husable
  · rw [hlog, ClientRun.tried_append]
    exact List.append_nil _
  · rw [hlog, ClientRun.written_append]
    exact List.append_nil _

/-- The worker has taken up the next line, whether it has answered it or not. -/
theorem Fed.taken {pending : List Request} {torn : List (Request × String)}
    (h : Fed wire s pending torn) (hund : Understood wire json s) {line : String}
    {stdin : List String} (hstdin : s.stdin = line :: stdin) (lib : Libraries Soup Tag)
    (pages : PageReader Soup) (portal : Portal) (hclient : s'.client = s.client)
    (hrest : s'.stdin = stdin)
    (hbegun : s'.worker.begun =
      s.worker.begun ++ (WorkerLoop.main json lib pages portal line).1.toList.map (·.req))
    (halive : s'.worker.exited = false → s'.worker.unanswered = none) :
    ∃ pending torn, Fed wire s' pending torn := by
  rcases h.takes hund hstdin portal with
    ⟨got, hgot, pending', torn', hstdin', horder, hwhole, hpending, htorn, hone⟩
  rw [hgot] at hbegun
  refine ⟨pending', torn', hrest.trans hstdin', ?_, ?_, hone,
    fun entry hmem => h.left entry (htorn hmem), halive, ?_⟩
  · rw [hbegun, hclient]
    exact horder _ h.order
  · rw [hclient]
    exact fun req hmem => h.written req (hpending hmem)
  · rw [hclient]
    intro husable
    rcases h.whole husable with ⟨hnone, htried, hwritten⟩
    rcases hwhole hnone with ⟨hnone', hsplit⟩
    refine ⟨hnone', htried, ?_⟩
    rw [hbegun, hwritten, hsplit, List.append_assoc]

/-- The worker gets what has been written, and in order. -/
theorem Fed.step {pending : List Request} {torn : List (Request × String)}
    (h : Fed wire s pending torn) (hund : Understood wire json s)
    (hmoves : Moves wire json lib pages s s') :
    ∃ pending torn, Fed wire s' pending torn := by
  cases hmoves with
  | returns hadds htried happends =>
      refine ⟨pending, torn, h.frame rfl rfl h.alive ?_ ?_ fun husable => ?_⟩
      · rw [hadds.tried, htried, List.append_nil]
      · rw [hadds.written, ClientRun.written_of_tried htried, List.append_nil]
      · by_contra hbroken
        exact happends.latched hbroken husable
  | sends hadds _ hleft hsends => exact h.sends hadds hleft hsends
  | reads => exact ⟨pending, torn, h.hears _ _⟩
  | readFails => exact ⟨pending, torn, h.hears _ _⟩
  | greets _ _ halive =>
      exact ⟨pending, torn, h.frame rfl rfl (fun _ => h.alive halive) rfl rfl id⟩
  | answers portal _ _ halive hstdin hreplies =>
      have hidle := h.alive halive
      refine h.taken hund hstdin lib pages portal rfl rfl ?_ fun _ => hidle
      rw [← hreplies.requests]
      simp [WorkerLoop.begun, hidle]
  | @dies line _ portal asked halive hstdin =>
      have hidle := h.alive halive
      refine h.taken hund hstdin lib pages portal rfl rfl ?_ fun hgone => by cases hgone
      cases (WorkerLoop.main json lib pages portal line).1 <;> simp [WorkerLoop.begun, hidle]
  | exits => exact ⟨pending, torn, h.frame rfl rfl (fun halive => by cases halive) rfl rfl id⟩

/-- As long as the client is usable, what it reads is what the worker has written. -/
structure Follows (wire : Wire) (s : Pipes) : Prop where
  each : ClientRun.OneLineEach wire true s.client
  heard : Heard s

/-- What has been read is no longer than what has been written, and not ahead of the requests. -/
theorem Heard.next (h : Heard s) (hreading : s.client.reading = true) {line : String}
    {stdout : List String} (hstdout : s.stdout = line :: stdout) :
    (transcript s.worker)[s.client.lines.length]? = some line ∧
      s.client.lines.length < 1 + s.worker.served.length ∧ s.worker.ready = true := by
  have hrest := h.rest hreading
  rw [hstdout, List.map_cons] at hrest
  have hnext : ((transcript s.worker).map
      (Except.ok : String → Line))[s.client.lines.length]? = some (.ok line) := by
    rw [← hrest]
    simp
  have hlength := congrArg List.length hrest
  simp only [List.length_append, List.length_cons, List.length_map] at hlength
  have hready : s.worker.ready = true := by
    by_contra hunready
    have hfalse : s.worker.ready = false := by simpa using hunready
    have hnone : s.worker.greeting = none := by simpa [WorkerLoop.ready] using hfalse
    simp [transcript, hnone, h.early hfalse] at hlength
  refine ⟨?_, ?_, hready⟩
  · simpa using hnext
  · rcases Option.isSome_iff_exists.1 hready with ⟨text, htext⟩
    simp [transcript, htext] at hlength
    omega

theorem Follows.reads (h : Follows wire s) (hfed : ∃ pending torn, Fed wire s pending torn)
    (hund : Understood wire json s) (hwhole : ClientRun.Whole s.client)
    (husable : s.client.client.unusable = none) (hreading : s.client.reading = true)
    {line : String} {stdout : List String} (hstdout : s.stdout = line :: stdout) :
    Follows wire { s with client := s.client.read (.ok line), stdout := stdout } := by
  rcases h.heard.next hreading hstdout with ⟨hnext, hless, hready⟩
  rcases hfed with ⟨pending, torn, hfed⟩
  rcases hfed.whole husable with ⟨-, -, hwritten⟩
  rcases hwhole.usable husable with ⟨-, queue, hqueue⟩
  have hread := ClientRun.read_of_some (.ok line) hqueue
  refine ⟨h.each.read ?_ ?_, ?_⟩
  · intro text _
    rw [hwritten, WorkerLoop.begun]
    simp only [List.length_append, List.length_map, Bool.toNat_true]
    omega
  · intro hempty text resp hitem hparse
    cases hitem
    rcases Option.isSome_iff_exists.1 hready with ⟨greeting, hgreeting⟩
    have hfirst : greeting = line := by
      rw [hempty] at hnext
      simpa [transcript, hgreeting] using hnext
    rw [← hfirst] at hparse
    rw [hund.greeting greeting hgreeting resp hparse]
  · rw [hread]
    refine ⟨h.heard.early, ?_, ?_⟩
    · intro _
      simpa [hstdout] using h.heard.rest hreading
    · intro n text hn
      rcases Nat.lt_trichotomy n s.client.lines.length with hlt | rfl | hgt
      · rw [List.getElem?_append_left hlt] at hn
        exact h.heard.lines n text hn
      · have hsame : line = text := by simpa using hn
        exact hsame ▸ hnext
      · rw [List.getElem?_eq_none (by simp; omega)] at hn
        cases hn

/-- The reader thread has come to its end. -/
theorem Follows.readFails (h : Follows wire s) (hwhole : ClientRun.Whole s.client)
    (husable : s.client.client.unusable = none) (text : String) :
    Follows wire { s with client := s.client.read (.error text) } := by
  rcases hwhole.usable husable with ⟨-, queue, hqueue⟩
  have hread := ClientRun.read_of_some (.error text) hqueue
  refine ⟨h.each.read (by simp) (by simp), ?_⟩
  rw [hread]
  refine ⟨h.heard.early, (fun hreading => by cases hreading), ?_⟩
  intro n line hn
  rcases Nat.lt_or_ge n s.client.lines.length with hlt | hge
  · rw [List.getElem?_append_left hlt] at hn
    exact h.heard.lines n line hn
  · rw [List.getElem?_append_right hge] at hn
    simpa using List.mem_of_getElem? hn

/-- The worker has written one more line, and the reader thread will read it. -/
theorem Heard.write (h : Heard s) {worker : WorkerLoop} {stdin : List String} {line : String}
    (hearly : worker.ready = false → worker.served = [])
    (htranscript : transcript worker = transcript s.worker ++ [line]) :
    Heard { s with stdin := stdin, worker := worker, stdout := s.stdout ++ [line] } where
  early := hearly
  rest hreading := by
    rw [htranscript, List.map_append, List.map_append, ← List.append_assoc, h.rest hreading]
  lines n text hn := by
    rw [htranscript]
    have hbefore := h.lines n text hn
    rwa [List.getElem?_append_left (List.getElem?_eq_some_iff.1 hbefore).1]

theorem Follows.step (h : Follows wire s) (hfed : ∃ pending torn, Fed wire s pending torn)
    (hund : Understood wire json s) (hwhole : ClientRun.Whole s.client)
    (husable : s.client.client.unusable = none) (hmoves : Moves wire json lib pages s s') :
    Follows wire s' := by
  cases hmoves with
  | returns hadds _ _ =>
      refine ⟨h.each.adds hadds, h.heard.early, ?_, ?_⟩
      · rw [hadds.reading, hadds.lines]
        exact h.heard.rest
      · rw [hadds.lines]
        exact h.heard.lines
  | sends hadds _ _ _ =>
      refine ⟨h.each.adds hadds, h.heard.early, ?_, ?_⟩
      · rw [hadds.reading, hadds.lines]
        exact h.heard.rest
      · rw [hadds.lines]
        exact h.heard.lines
  | reads hreading hstdout => exact h.reads hfed hund hwhole husable hreading hstdout
  | readFails text _ => exact h.readFails hwhole husable text
  | greets _ hready =>
      refine ⟨h.each, h.heard.write (fun hunready => by cases hunready) ?_⟩
      have hnone : s.worker.greeting = none := by simpa [WorkerLoop.ready] using hready
      simp [transcript, hnone, h.heard.early hready]
  | @answers line stdin written got portal exited hready halive hstdin hreplies =>
      rcases hfed with ⟨pending, torn, hfed⟩
      rcases hfed.head hstdin with ⟨req, rest, rfl, rfl, -⟩ | ⟨req, -, rfl, -⟩
      · rcases hund.requests req (hfed.written req List.mem_cons_self) with ⟨hblank, hloads⟩
        rcases main_of_loads lib pages portal hblank hloads with ⟨served, hmain, -⟩
        cases hreplies with
        | unserved hnone =>
            rw [hmain] at hnone
            cases hnone
        | handled =>
            refine ⟨h.each, h.heard.write (fun hunready => ?_) ?_⟩
            · exact absurd (hready.symm.trans hunready) (by simp)
            · simp [transcript]
      · exact absurd (hfed.whole husable).1 (by simp)
  | dies => exact ⟨h.each, h.heard.early, h.heard.rest, h.heard.lines⟩
  | exits => exact ⟨h.each, h.heard.early, h.heard.rest, h.heard.lines⟩

end Steps

end Pipes

end DsspBot

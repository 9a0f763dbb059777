import DsspBot.Daemon.Http
import DsspBot.Worker.Portal

/-!
# Route — who may ask the daemon for anything

Every connection carries one request. Before the daemon's state is looked at, the request has to
bring the token, to come from a configured origin if it comes from a browser at all, and to be JSON
where it could act. A server is the daemon together with the connections it has answered at once;
how many are served at a time is the listener's business.
-/

namespace DsspBot

structure Config where
  origins : List String
  token : String
  deriving DecidableEq, Repr

/-- The JSON library on a request body. -/
structure BodyReader where
  batch : List UInt8 → Except String BatchRequest
  value : List UInt8 → Except String Json

/-! ## Checking a request -/

/-- Every byte is compared, wherever the first difference is. -/
def equalToken (a b : String) : Bool :=
  let diff := (utf8 b).zipIdx.foldl
    (fun diff entry => diff ||| ((utf8 a)[entry.2]?.getD 0 ^^^ entry.1).toNat)
    ((utf8 a).length ^^^ (utf8 b).length)
  decide (diff = 0)

/-- The value of a `Content-Type` asks for JSON, whatever its parameters. -/
def isJson (value : String) : Bool :=
  let mediaType := Words.trim isWhitespace (value.toList.takeWhile (· ≠ ';'))
  -- `eq_ignore_ascii_case`.
  decide (mediaType.map Char.toLower = "application/json".toList)

/-- The endpoints that act on a batch. -/
def BATCH_PATHS : List String :=
  ["/batch", "/batch/pause", "/batch/resume", "/batch/stop"]

/-! ## Routing -/

/-- An answer given at once. What is on record is shown as it stands. -/
inductive Shown
  | reply (reply : HttpReply)
  | report (report : Option BatchReport)
  | checkpoint (cp : Option BatchCheckpoint)
  deriving DecidableEq, Repr

def Shown.error (code : Nat) (message : String) : Shown :=
  .reply (httpError code message)

inductive Routed
  | answered (shown : Shown)
  /-- Handed on to the daemon, whose threads answer later. -/
  | handed (input : DaemonInput)

section Routing

variable (config : Config) (body : BodyReader)

/-- The match on method and path. -/
def dispatch (request : HttpRequest) (d : Daemon) : Routed :=
  match request.method, request.path with
  | "GET", "/status" => .answered (.reply { code := 200, body := .progress d.state.progress })
  | "GET", "/report" => .answered (.report d.state.report)
  | "GET", "/checkpoint" =>
      match d.store.load with
      | .ok cp => .answered (.checkpoint cp)
      | .error text => .answered (.error 500 text)
  | "GET", "/form-options" => .handed .getFormOptions
  | "POST", "/batch" =>
      match body.batch request.body with
      | .ok req => .handed (.post req)
      | .error text => .answered (.error 422 s!"invalid batch: {text}")
  | "POST", "/batch/pause" => control .pause
  | "POST", "/batch/resume" => control .resume
  | "POST", "/batch/stop" => control .stop
  | _, _ => .answered (.error 405 "method/endpoint not implemented")
where
  control (c : ControlRequest) : Routed :=
    match body.value request.body with
    | .ok (.object []) => .handed (.control c)
    | _ => .answered (.error 422 "control body must be JSON \x7b\x7d")

def route (request : HttpRequest) (d : Daemon) : Routed :=
  if !equalToken ((header request.headers "authorization").getD "") ("Bearer " ++ config.token) then
    .answered (.error 401 "valid bearer token required")
  else if (header request.headers "origin").any fun origin => !config.origins.contains origin then
    .answered (.error 403 "Origin is not allowed")
  else if decide (request.method = "POST") && BATCH_PATHS.contains request.path &&
      !(header request.headers "content-type").any isJson then
    .answered (.error 415 "Content-Type application/json required")
  else
    dispatch body request d

end Routing

/-! ## The server -/

structure Server where
  daemon : Daemon
  /-- What was answered at once, in order. -/
  replies : List (Connection × Shown) := []

inductive ServerInput
  | connect (stream : Connection)
  | inner (input : DaemonInput)

/-- What only a connection brings. -/
def DaemonInput.arrives : DaemonInput → Bool
  | .control _ => true
  | .post _ => true
  | .getFormOptions => true
  | _ => false

namespace Server

variable (s : Server)

def answer (stream : Connection) (shown : Shown) : Server :=
  { s with replies := s.replies ++ [(stream, shown)] }

def act (toUppercase : String → String) (input : DaemonInput) : Option Server :=
  (s.daemon.step toUppercase input).map fun d => { s with daemon := d }

/-- `connection`: read one request and route it. -/
def connect (config : Config) (body : BodyReader) (toUppercase : String → String)
    (stream : Connection) : Option Server :=
  match (readRequest stream).1 with
  | .error reply => some (s.answer stream (.reply reply))
  | .ok request =>
      match route config body request s.daemon with
      | .answered shown => some (s.answer stream shown)
      | .handed input => s.act toUppercase input

def step (config : Config) (body : BodyReader) (toUppercase : String → String) (s : Server) :
    ServerInput → Option Server
  | .connect stream => s.connect config body toUppercase stream
  | .inner input => if input.arrives then none else s.act toUppercase input

end Server

end DsspBot

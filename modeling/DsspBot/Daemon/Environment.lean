import DsspBot.Daemon.Listener

/-!
# Environment — what the daemon is configured with

Port, origins and the place of the token come from the environment. An origin can only be that of an
extension, so no web page is ever listened to, though pages may take the permits of others.
-/

namespace DsspBot

/-! ## Reading the environment -/

/-- `std::env::var`, which also has nothing for what is no Unicode, and `std::env::var_os` for what
is a path. -/
structure Environment where
  var : String → Option String
  varOs : String → Option PathBuf

/-- The configuration with the port and the path that go with it. -/
structure DaemonSetup where
  port : Nat
  config : Config
  checkpoint : PathBuf
  deriving DecidableEq, Repr

/-- `parse::<u16>` -/
def parseU16 (text : String) : Option Nat :=
  let digits := if text.toList.head? = some '+' then text.toList.tail else text.toList
  if digits = [] ∨ digits.all isDigit = false then none
  else
    let value := decimalValue (String.ofList digits)
    if value < 65536 then some value else none

def EXTENSION_SCHEMES : List String :=
  ["chrome-extension://", "moz-extension://"]

def validOrigin (origin : String) : Bool :=
  EXTENSION_SCHEMES.any fun scheme =>
    -- `strip_prefix`
    scheme.toList.isPrefixOf origin.toList &&
      let id := String.ofList (origin.toList.drop scheme.toList.length)
      decide (id ≠ "") && (utf8 id).all fun b => isAlphanumeric b || decide (b = 45)

def DEFAULT_FILE_NAME : String :=
  "dssp.checkpoint.json"

/-- `resolve_path` -/
def resolvePath (jobPath : PathBuf) (overridePath : Option PathBuf) : PathBuf :=
  overridePath.getD (jobPath.withFileName DEFAULT_FILE_NAME)

namespace Environment

variable (env : Environment) (pythonDir : PathBuf)

/-- Where the browser profile is: a relative path starts where the worker does. -/
def profile : PathBuf :=
  let configured := (env.varOs "DSSP_PROFILE_DIR").getD [.normal ".pw-profile"]
  if configured.head? = some .root then configured
  else pythonDir ++ configured.filter fun component => decide (component ≠ .cur)

def tokenPath : PathBuf :=
  (env.profile pythonDir).directory ++ [.normal "dssp.daemon.token"]

/-- `Config::environment` -/
def setup (tokenFile : PathBuf → Except String String) : Except String DaemonSetup :=
  match parseU16 ((env.var "DSSP_DAEMON_PORT").getD "8765") with
  | none => .error "DSSP_DAEMON_PORT must be a port number"
  | some port =>
      if port = 0 then .error "DSSP_DAEMON_PORT must not be zero"
      else
        let listed := ((env.var "DSSP_DAEMON_ORIGINS").getD "").toList
        let origins := (Words.words (fun c => decide (c = ',')) listed).map String.ofList
        if origins.isEmpty || origins.any fun origin => !validOrigin origin then
          .error ("DSSP_DAEMON_ORIGINS requires comma-separated exact chrome-extension://id or " ++
            "moz-extension://uuid Origins (no paths/wildcards/whitespace)")
        else
          match tokenFile (env.tokenPath pythonDir) with
          | .error text => .error text
          | .ok token =>
              .ok {
                port := port
                config := { origins := origins, token := token }
                checkpoint := resolvePath [.normal "job.json"] (env.varOs "DSSP_CHECKPOINT") }

end Environment

/-! ## What is configured -/

/-- The origin of an extension, and nothing after its id. -/
def IsExtension (origin : String) : Prop :=
  ∃ scheme ∈ EXTENSION_SCHEMES, ∃ id : String, origin = scheme ++ id ∧ id ≠ "" ∧
    ∀ b ∈ utf8 id, isAlphanumeric b = true ∨ b = 45

theorem validOrigin_iff (origin : String) : validOrigin origin = true ↔ IsExtension origin := by
  unfold validOrigin IsExtension
  rw [List.any_eq_true]
  refine exists_congr fun scheme => and_congr_right fun _ => ?_
  simp only [Bool.and_eq_true, decide_eq_true_eq, List.all_eq_true, Bool.or_eq_true,
    List.isPrefixOf_iff_prefix]
  refine ⟨?_, ?_⟩
  · rintro ⟨⟨id, hid⟩, hne, hbytes⟩
    rw [← hid, List.drop_left] at hne hbytes
    refine ⟨String.ofList id, ?_, hne, hbytes⟩
    rw [← String.toList_inj, ← hid]
    simp
  · rintro ⟨id, rfl, hne, hbytes⟩
    simpa using ⟨hne, hbytes⟩

theorem parseU16_lt {text : String} {port : Nat} (h : parseU16 text = some port) :
    port < 65536 := by
  have hbound : ∀ digits : List Char,
      (if digits = [] ∨ digits.all isDigit = false then none
        else if decimalValue (String.ofList digits) < 65536 then
          some (decimalValue (String.ofList digits))
        else none) = some port → port < 65536 := by
    intro digits hport
    rcases Option.ite_none_left_eq_some.1 hport with ⟨-, hvalue⟩
    rcases Option.ite_none_right_eq_some.1 hvalue with ⟨hlt, heq⟩
    exact Option.some.inj heq ▸ hlt
  exact hbound _ h

/-- Only ports that can be bound, and only extensions, are configured. -/
theorem setup_sound {env : Environment} {pythonDir : PathBuf}
    {tokenFile : PathBuf → Except String String} {setup : DaemonSetup}
    (h : env.setup pythonDir tokenFile = .ok setup) :
    0 < setup.port ∧ setup.port < 65536 ∧ setup.config.origins ≠ [] ∧
      (∀ origin ∈ setup.config.origins, IsExtension origin) ∧
        tokenFile (env.tokenPath pythonDir) = .ok setup.config.token := by
  unfold Environment.setup at h
  split at h
  · cases h
  · next port hport =>
      split at h
      · cases h
      · next hzero =>
          dsimp only at h
          split at h
          · cases h
          · next horigins =>
              split at h
              · cases h
              · next token htoken =>
                  cases h
                  simp only [Bool.or_eq_true, not_or, List.any_eq_true, not_exists, not_and,
                    Bool.not_eq_true', Bool.not_eq_true, Bool.not_eq_false,
                    List.isEmpty_eq_false_iff] at horigins
                  refine ⟨Nat.pos_of_ne_zero hzero, parseU16_lt hport, horigins.1, ?_, htoken⟩
                  intro origin hmem
                  exact (validOrigin_iff origin).1 (horigins.2 origin hmem)

/-! ## Whoever is no extension -/

/-- A request of something in a browser that is no extension. -/
def HttpRequest.fromPage (request : HttpRequest) : Bool :=
  (header request.headers "origin").any fun origin => !validOrigin origin

/-- What comes in is such a request. -/
def isFromPage (stream : Connection) : Bool :=
  (readRequest stream).1.toOption.any HttpRequest.fromPage

/-- No page is admitted where only extensions are configured. -/
theorem not_admits_of_fromPage {config : Config}
    (horigins : ∀ origin ∈ config.origins, IsExtension origin) {stream : Connection}
    (hpage : isFromPage stream = true) : config.admits stream = false := by
  by_contra hadmitted
  have hadmits : config.admits stream = true := eq_true_of_ne_false hadmitted
  unfold Config.admits at hadmits
  split at hadmits
  · next request hread =>
      have htrusts : config.Trusts request := of_decide_eq_true hadmits
      have hfrom : request.fromPage = true := by
        simpa [isFromPage, hread, Except.toOption] using hpage
      unfold HttpRequest.fromPage at hfrom
      cases horigin : header request.headers "origin" with
      | none => simp [horigin] at hfrom
      | some origin =>
          have hvalid := (validOrigin_iff origin).2 (horigins origin (htrusts.origin _ horigin))
          simp [horigin, hvalid] at hfrom
  · cases hadmits

namespace Listener

open Server (fixtureConfig emptyBodyReader foreignArrivals)

def fixtureEnvironment : Environment where
  var name :=
    if name = "DSSP_DAEMON_ORIGINS" then some ",chrome-extension://fixture-extension" else none
  varOs _ := none

/-- It asks for a stop. -/
def page (id : Nat) : Client where
  id := id
  stream := foreignArrivals

/-- The same request from the configured extension. -/
def extensionArrivals : Connection where
  segments :=
    ["POST /batch/stop HTTP/1.1\r\nHost: a\r\n",
      "Authorization: Bearer " ++ fixtureConfig.token ++ "\r\n",
      "Origin: chrome-extension://fixture-extension\r\nContent-Type: application/json\r\n\r\n"].map
      fun piece => piece.toList.map fun c => UInt8.ofNat c.toNat
  nonempty := by decide +kernel
  ending := .closed

def extension (id : Nat) : Client where
  id := id
  stream := extensionArrivals

/-- The page is answered while the request of the extension is read. -/
def pageRun : List ListenerInput :=
  [.dispatch (page 0) true, .dispatch (extension 1) true, .route (page 0), .close (page 0)]

theorem fixture_setup :
    fixtureEnvironment.setup [.root, .normal "python"] (fun _ => .ok fixtureConfig.token) =
      .ok { port := 8765, config := fixtureConfig, checkpoint := [.normal DEFAULT_FILE_NAME] } := by
  decide +kernel

/-- Pages that hold all permits keep the extension out. -/
theorem pages_take_all_permits :
    ((Machine.run (step fixtureConfig emptyBodyReader id) (start (Daemon.start pairStore))
        ((List.range CONNECTION_LIMIT).map (fun id => .dispatch (page id) true) ++
          [.dispatch (extension CONNECTION_LIMIT) true])).map (·.turnedAway)) =
      some [extension CONNECTION_LIMIT] := by
  decide +kernel

end Listener

end DsspBot

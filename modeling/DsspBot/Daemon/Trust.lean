import DsspBot.Daemon.Route
import Mathlib.Data.Nat.Bitwise

/-!
# Trust — a connection that is not trusted has no effect

Whom the daemon trusts is stated without the code's comparisons, and the comparisons are shown to
decide it. A connection without such a request is answered from the configuration and the request
alone, and the daemon is in the same state as if it had never come.
-/

namespace DsspBot

/-! ## The comparisons -/

/-- Differences that are collected by `or` are nothing exactly when each is nothing. -/
theorem foldl_or_eq_zero_iff {α : Type*} (difference : α → Nat) (xs : List α) (seed : Nat) :
    xs.foldl (fun diff x => diff ||| difference x) seed = 0 ↔
      seed = 0 ∧ ∀ x ∈ xs, difference x = 0 := by
  induction xs generalizing seed with
  | nil => simp
  | cons x xs ih =>
      rw [List.foldl_cons, ih, Nat.or_eq_zero_iff, List.forall_mem_cons, and_assoc]

theorem equalToken_iff (a b : String) : equalToken a b = true ↔ a = b := by
  unfold equalToken
  rw [decide_eq_true_iff, foldl_or_eq_zero_iff, Nat.xor_eq_zero_iff]
  constructor
  · rintro ⟨hlength, hbytes⟩
    apply utf8_injective
    apply List.ext_getElem hlength
    intro index ha hb
    have hmem : ((utf8 b)[index], index) ∈ (utf8 b).zipIdx :=
      List.mem_zipIdx_iff_getElem?.2 (List.getElem?_eq_getElem hb)
    -- Both texts have a byte at this place, so nothing was made up for a missing one.
    have hsame := hbytes _ hmem
    rw [List.getElem?_eq_getElem ha] at hsame
    exact UInt8.xor_eq_zero_iff.1 (UInt8.toNat_inj.1 hsame)
  · rintro rfl
    refine ⟨rfl, ?_⟩
    intro entry hentry
    rw [List.mem_zipIdx_iff_getElem?.1 hentry]
    simp

/-- The media type in front of any `;` is JSON, in any case and between any blanks. -/
def IsJson (value : String) : Prop :=
  ∃ before name after rest, value.toList = before ++ name ++ after ++ rest ∧
    (∀ c ∈ before, isWhitespace c = true) ∧ (∀ c ∈ after, isWhitespace c = true) ∧
      name.map Char.toLower = "application/json".toList ∧ (rest = [] ∨ rest.head? = some ';')

theorem toLower_of_isWhitespace {c : Char} (h : isWhitespace c = true) : c.toLower = c := by
  unfold Char.toLower
  split
  · next hupper =>
      have hrange : 65 ≤ c.toNat ∧ c.toNat ≤ 90 :=
        ⟨UInt32.le_iff_toNat_le.1 hupper.1, UInt32.le_iff_toNat_le.1 hupper.2⟩
      simp [isWhitespace] at h
      omega
  · rfl

/-- What is JSON in lower case has neither blanks nor parameters. -/
theorem plain_of_toLower {name : List Char}
    (h : name.map Char.toLower = "application/json".toList) :
    ∀ c ∈ name, isWhitespace c = false ∧ c ≠ ';' := by
  have htarget :
      ("application/json".toList.all fun c => !isWhitespace c && decide (c ≠ ';')) = true := by
    decide +kernel
  intro c hc
  have hlower : isWhitespace c.toLower = false ∧ c.toLower ≠ ';' := by
    simpa using List.all_eq_true.1 htarget c.toLower (h ▸ List.mem_map_of_mem hc)
  refine ⟨?_, ?_⟩
  · cases hblank : isWhitespace c with
    | false => rfl
    | true =>
        rw [toLower_of_isWhitespace hblank, hblank] at hlower
        exact hlower.1
  · rintro rfl
    exact hlower.2 rfl

theorem isJson_iff (value : String) : isJson value = true ↔ IsJson value := by
  have hblank : ∀ c, isWhitespace c = true → c ≠ ';' := by
    rintro c hc rfl
    exact absurd hc (by decide)
  unfold isJson
  rw [decide_eq_true_iff]
  constructor
  · intro h
    rcases Words.exists_eq_append_trim isWhitespace (value.toList.takeWhile (· ≠ ';')) with
      ⟨before, after, hsplit, hbefore, hafter⟩
    refine ⟨before, _, after, value.toList.dropWhile (· ≠ ';'), ?_, hbefore, hafter, h, ?_⟩
    · rw [← hsplit, List.takeWhile_append_dropWhile]
    · cases hrest : value.toList.dropWhile (· ≠ ';') with
      | nil => exact Or.inl rfl
      | cons c rest =>
          have hstop := List.head?_dropWhile_not (· ≠ ';') value.toList
          rw [hrest] at hstop
          exact Or.inr (by simpa using hstop)
  · rintro ⟨before, name, after, rest, hvalue, hbefore, hafter, hname, hrest⟩
    have hplain := plain_of_toLower hname
    have hfront : value.toList.takeWhile (· ≠ ';') = before ++ name ++ after := by
      rw [hvalue, List.takeWhile_append_of_pos]
      · rcases hrest with rfl | hhead
        · simp
        · rcases List.head?_eq_some_iff.1 hhead with ⟨tail, rfl⟩
          simp
      · intro c hc
        rcases List.mem_append.1 hc with hc | hc
        · rcases List.mem_append.1 hc with hc | hc
          · simpa using hblank c (hbefore c hc)
          · simpa using (hplain c hc).2
        · simpa using hblank c (hafter c hc)
    rw [hfront, Words.trim_append_append hbefore (fun c hc => (hplain c hc).1) hafter]
    exact hname

/-! ## Whom the daemon trusts -/

/-- The request brings the token, names no foreign origin, and is JSON where it could act. -/
structure Config.Trusts (config : Config) (request : HttpRequest) : Prop where
  bearer : header request.headers "authorization" = some ("Bearer " ++ config.token)
  origin : ∀ origin, header request.headers "origin" = some origin → origin ∈ config.origins
  media : request.method = "POST" → request.path ∈ BATCH_PATHS →
    ∃ value, header request.headers "content-type" = some value ∧ IsJson value

section Requests

variable {config : Config} {request : HttpRequest}

theorem bearer_iff :
    equalToken ((header request.headers "authorization").getD "") ("Bearer " ++ config.token) =
        true ↔
      header request.headers "authorization" = some ("Bearer " ++ config.token) := by
  rw [equalToken_iff]
  cases hvalue : header request.headers "authorization" with
  | some value => simp
  | none =>
      -- What stands for a missing header begins like no one's token.
      simp

theorem foreign_iff :
    ((header request.headers "origin").any fun origin => !config.origins.contains origin) = false ↔
      ∀ origin, header request.headers "origin" = some origin → origin ∈ config.origins := by
  cases header request.headers "origin" <;> simp

theorem media_iff :
    (decide (request.method = "POST") && BATCH_PATHS.contains request.path &&
        !(header request.headers "content-type").any isJson) = false ↔
      (request.method = "POST" → request.path ∈ BATCH_PATHS →
        ∃ value, header request.headers "content-type" = some value ∧ IsJson value) := by
  have hvalue : (header request.headers "content-type").any isJson = true ↔
      ∃ value, header request.headers "content-type" = some value ∧ IsJson value := by
    cases header request.headers "content-type" <;> simp [isJson_iff]
  rw [← hvalue]
  simp only [Bool.and_eq_false_iff, decide_eq_false_iff_not, Bool.not_eq_false',
    List.contains_eq_mem]
  tauto

theorem trusts_iff :
    config.Trusts request ↔
      equalToken ((header request.headers "authorization").getD "") ("Bearer " ++ config.token) =
          true ∧
        ((header request.headers "origin").any fun origin => !config.origins.contains origin) =
            false ∧
          (decide (request.method = "POST") && BATCH_PATHS.contains request.path &&
            !(header request.headers "content-type").any isJson) = false := by
  rw [bearer_iff, foreign_iff, media_iff]
  exact ⟨fun h => ⟨h.bearer, h.origin, h.media⟩, fun h => ⟨h.1, h.2.1, h.2.2⟩⟩

instance : Decidable (config.Trusts request) :=
  decidable_of_iff' _ trusts_iff

/-- A trusted request is dispatched; any other one is refused with one of three codes, whatever the
daemon is doing. -/
theorem route_cases (config : Config) (body : BodyReader) (request : HttpRequest) :
    config.Trusts request ∧ (∀ d, route config body request d = dispatch body request d) ∨
      ¬config.Trusts request ∧ ∃ code ∈ [401, 403, 415], ∃ message,
        ∀ d, route config body request d = .answered (.error code message) := by
  rw [trusts_iff]
  unfold route
  cases hbearer : equalToken ((header request.headers "authorization").getD "")
      ("Bearer " ++ config.token) with
  | false => exact Or.inr ⟨by simp, 401, by simp, _, fun _ => rfl⟩
  | true =>
      cases hforeign : (header request.headers "origin").any fun origin =>
          !config.origins.contains origin with
      | true => exact Or.inr ⟨by simp, 403, by simp, _, fun _ => rfl⟩
      | false =>
          cases hmedia : decide (request.method = "POST") && BATCH_PATHS.contains request.path &&
              !(header request.headers "content-type").any isJson with
          | true =>
              exact Or.inr
                ⟨by simp, 415, by simp, "Content-Type application/json required", fun _ => by simp⟩
          | false => exact Or.inl ⟨by simp, fun _ => by simp⟩

end Requests

/-! ## The server -/

/-- The connection carries a request that the daemon trusts. -/
def Config.admits (config : Config) (stream : Connection) : Bool :=
  match (readRequest stream).1 with
  | .ok request => decide (config.Trusts request)
  | .error _ => false

namespace Server

variable {config : Config} {body : BodyReader} {toUppercase : String → String}

/-- The daemon, and what trusted parties were answered. -/
def trusted (config : Config) (s : Server) : Daemon × List (Connection × Shown) :=
  (s.daemon, s.replies.filter fun entry => config.admits entry.1)

/-- Whoever is not trusted is told the same in every state, and nothing else happens. -/
theorem connect_of_not_admitted (body : BodyReader) (toUppercase : String → String)
    {stream : Connection} (h : config.admits stream = false) :
    ∃ reply, ∀ s : Server,
      s.connect config body toUppercase stream = some (s.answer stream (.reply reply)) := by
  unfold Config.admits at h
  unfold connect
  cases hread : (readRequest stream).1 with
  | error reply => exact ⟨reply, fun _ => rfl⟩
  | ok request =>
      rw [hread] at h
      rcases route_cases config body request with
        ⟨htrusts, -⟩ | ⟨-, code, -, message, hroute⟩
      · simp [htrusts] at h
      · refine ⟨httpError code message, fun s => ?_⟩
        simp only [hroute]
        rfl

theorem act_daemon {s s' : Server} {input : DaemonInput} (h : s.act toUppercase input = some s') :
    s.daemon.step toUppercase input = some s'.daemon ∧ s'.replies = s.replies := by
  rcases Option.map_eq_some_iff.1 h with ⟨d, hd, rfl⟩
  exact ⟨hd, rfl⟩

/-- A server's daemon only does what a daemon does. -/
theorem step_reaches {s s' : Server} {input : ServerInput}
    (h : step config body toUppercase s input = some s') :
    Machine.Reaches (Daemon.step toUppercase) s.daemon s'.daemon := by
  cases input with
  | connect stream =>
      simp only [step, connect] at h
      split at h
      · cases h
        exact .refl _
      · split at h
        · cases h
          exact .refl _
        · exact .single (act_daemon h).1
  | inner input =>
      simp only [step] at h
      split at h
      · cases h
      · exact .single (act_daemon h).1

theorem daemon_reachable {store : CheckpointStore} {s : Server}
    (h : Machine.Reaches (step config body toUppercase) { daemon := Daemon.start store } s) :
    Daemon.Reachable toUppercase store s.daemon := by
  have hstart : Daemon.Reachable toUppercase store (Daemon.start store) := .refl _
  refine Machine.Reaches.invariant (P := fun s => Daemon.Reachable toUppercase store s.daemon) ?_
    hstart h
  intro s input s' hs hstep
  exact hs.trans (step_reaches hstep)

/-- A request without the token, from a foreign origin, or not in JSON where it could act, is
refused, with a reply that is told from the configuration and the request. It changes nothing. -/
theorem untrusted_request_has_no_effect (config : Config) (body : BodyReader)
    (toUppercase : String → String) {stream : Connection} {request : HttpRequest}
    (hread : (readRequest stream).1 = .ok request) (huntrusted : ¬config.Trusts request) :
    ∃ reply : HttpReply, reply.code ∈ [401, 403, 415] ∧
      (∀ d, route config body request d = .answered (.reply reply)) ∧
        ∀ s : Server, s.step config body toUppercase (.connect stream) =
          some { s with replies := s.replies ++ [(stream, .reply reply)] } := by
  rcases route_cases config body request with
    ⟨htrusts, -⟩ | ⟨-, code, hcode, message, hroute⟩
  · exact absurd htrusts huntrusted
  · refine ⟨httpError code message, hcode, hroute, ?_⟩
    intro s
    unfold step connect
    simp only [hread, hroute]
    rfl

/-! ### A page with the right token and the wrong origin -/

def fixtureConfig : Config :=
  { origins := ["chrome-extension://fixture-extension"]
    token := "0123456789abcdef0123456789abcdef0123456789abcdef0123456789abcdef" }

/-- The JSON library on an empty body. -/
def emptyBodyReader : BodyReader where
  batch _ := .error "EOF while parsing a value at line 1 column 0"
  value _ := .error "EOF while parsing a value at line 1 column 0"

def foreignArrivals : Connection where
  segments :=
    ["POST /batch/stop HTTP/1.1\r\nHost: a\r\n",
      "Authorization: Bearer " ++ fixtureConfig.token ++ "\r\n",
      "Origin: null\r\nContent-Type: Application/JSON;\r\n\r\n"].map fun piece =>
        piece.toList.map fun c => UInt8.ofNat c.toNat
  nonempty := by decide +kernel
  ending := .closed

def foreignRequest : HttpRequest where
  method := "POST"
  path := "/batch/stop"
  headers :=
    [("host", "a"), ("authorization", "Bearer " ++ fixtureConfig.token), ("origin", "null"),
      ("content-type", "Application/JSON;")]
  body := []

theorem foreign_stop_has_no_effect :
    fixtureConfig.Trusts { foreignRequest with headers := foreignRequest.headers.eraseIdx 2 } ∧
      ∃ reply : HttpReply, reply.code ∈ [401, 403, 415] ∧
        (∀ d, route fixtureConfig emptyBodyReader foreignRequest d =
          .answered (.reply reply)) ∧
          ∀ s : Server, s.step fixtureConfig emptyBodyReader id (.connect foreignArrivals) =
            some { s with replies := s.replies ++ [(foreignArrivals, .reply reply)] } := by
  have hread : (readRequest foreignArrivals).1 = .ok foreignRequest := by decide +kernel
  have huntrusted : ¬fixtureConfig.Trusts foreignRequest := by decide +kernel
  exact ⟨by decide +kernel,
    untrusted_request_has_no_effect fixtureConfig emptyBodyReader id hread huntrusted⟩

end Server

end DsspBot

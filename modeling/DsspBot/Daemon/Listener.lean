import DsspBot.Daemon.Trust

/-!
# Listener — the connections that are served at a time

The listener takes one connection after another and gives each a thread of its own, at most sixteen
at a time: one more is closed without an answer. A connection keeps its permit while its request is
read, routed and answered. Whoever is not trusted therefore has no effect but this one: as long as
such connections last, others may find no permit left.
-/

namespace DsspBot

def CONNECTION_LIMIT : Nat := 16

/-- A connection, and how many had come before. -/
structure Client where
  id : Nat
  stream : Connection
  deriving DecidableEq

structure Listener where
  server : Server
  /-- Their requests are being read. -/
  reading : List Client := []
  /-- Their requests have been routed. -/
  answering : List Client := []
  /-- Closed without an answer. -/
  turnedAway : List Client := []

inductive ListenerInput
  /-- A connection comes in, and a thread could be started for it or not. -/
  | dispatch (client : Client) (spawned : Bool)
  /-- Its request has been read, or has been given up, and is routed. -/
  | route (client : Client)
  /-- Its answer has been written, or could not be. -/
  | close (client : Client)
  | inner (input : DaemonInput)

namespace Listener

def start (d : Daemon) : Listener where
  server := { daemon := d }

variable (l : Listener)

/-- The permits that are out. -/
def active : Nat :=
  l.reading.length + l.answering.length

/-- `dispatch` -/
def accept (client : Client) (spawned : Bool) : Listener :=
  if l.active < CONNECTION_LIMIT ∧ spawned = true then
    { l with reading := l.reading ++ [client] }
  else { l with turnedAway := l.turnedAway ++ [client] }

/-- What is read does not depend on the daemon, so all that counts is when it is routed. -/
def routes (config : Config) (body : BodyReader) (toUppercase : String → String)
    (client : Client) : Option Listener :=
  if client ∈ l.reading then
    (l.server.connect config body toUppercase client.stream).map fun server =>
      { l with
        server := server
        reading := l.reading.erase client
        answering := l.answering ++ [client] }
  else none

/-- The permit is dropped. A request that was handed on may be answered at any time. -/
def closes (client : Client) : Option Listener :=
  if client ∈ l.answering then some { l with answering := l.answering.erase client } else none

def step (config : Config) (body : BodyReader) (toUppercase : String → String) (l : Listener) :
    ListenerInput → Option Listener
  | .dispatch client spawned => some (l.accept client spawned)
  | .route client => l.routes config body toUppercase client
  | .close client => l.closes client
  | .inner input =>
      (l.server.step config body toUppercase (.inner input)).map fun server =>
        { l with server := server }

end Listener

/-! ## What is served -/

namespace Listener

section Steps

variable {config : Config} {body : BodyReader} {toUppercase : String → String} {l l' : Listener}

/-- Whatever happens to connections, the server does what a server does, or nothing. -/
theorem step_server {input : ListenerInput} (h : step config body toUppercase l input = some l') :
    Machine.Reaches (Server.step config body toUppercase) l.server l'.server := by
  cases input with
  | dispatch client spawned =>
      cases h
      unfold accept
      split <;> exact .refl _
  | route client =>
      simp only [step, routes] at h
      split at h
      · rcases Option.map_eq_some_iff.1 h with ⟨server, hserver, rfl⟩
        exact .single (i := .connect client.stream) hserver
      · cases h
  | close client =>
      simp only [step, closes] at h
      split at h <;> cases h
      exact .refl _
  | inner input =>
      rcases Option.map_eq_some_iff.1 h with ⟨server, hserver, rfl⟩
      exact .single hserver

theorem server_reaches (h : Machine.Reaches (step config body toUppercase) l l') :
    Machine.Reaches (Server.step config body toUppercase) l.server l'.server := by
  refine Machine.Reaches.invariant
    (P := fun l' => Machine.Reaches (Server.step config body toUppercase) l.server l'.server) ?_
    (.refl _) h
  intro middle input next hmiddle hstep
  exact hmiddle.trans (step_server hstep)

/-- Never more than sixteen are served at a time. -/
theorem active_le (h : Machine.Reaches (step config body toUppercase) l l')
    (hactive : l.active ≤ CONNECTION_LIMIT) : l'.active ≤ CONNECTION_LIMIT := by
  refine Machine.Reaches.invariant (P := fun l => l.active ≤ CONNECTION_LIMIT) ?_ hactive h
  intro l input l' hbound hstep
  cases input with
  | dispatch client spawned =>
      cases hstep
      unfold accept
      split
      · next hroom =>
          have hlength : active { l with reading := l.reading ++ [client] } = l.active + 1 := by
            simp only [active, List.length_append, List.length_singleton]
            omega
          rw [hlength]
          exact hroom.1
      · exact hbound
  | route client =>
      simp only [step, routes] at hstep
      split at hstep
      · next hreading =>
          rcases Option.map_eq_some_iff.1 hstep with ⟨server, -, rfl⟩
          have hlength := List.length_erase_of_mem hreading
          have hpos := List.length_pos_of_mem hreading
          simp only [active, List.length_append, List.length_singleton] at hbound ⊢
          omega
      · cases hstep
  | close client =>
      simp only [step, closes] at hstep
      split at hstep
      · cases hstep
        have hlength := List.length_erase_le (a := client) (l := l.answering)
        simp only [active] at hbound ⊢
        omega
      · cases hstep
  | inner input =>
      rcases Option.map_eq_some_iff.1 hstep with ⟨server, -, rfl⟩
      exact hbound

end Steps

end Listener

/-! ## Leaving connections out -/

/-- Without the answers to the connections that are dropped. -/
def Server.without (dropped : Connection → Bool) (s : Server) : Server :=
  { s with replies := s.replies.filter fun entry => !dropped entry.1 }

namespace Server

variable {config : Config} {body : BodyReader} {toUppercase : String → String}
  {dropped : Connection → Bool} {s s' : Server} {stream : Connection}

theorem act_without {input : DaemonInput} (h : s.act toUppercase input = some s') :
    (s.without dropped).act toUppercase input = some (s'.without dropped) := by
  rcases Option.map_eq_some_iff.1 h with ⟨d, hd, rfl⟩
  unfold act
  rw [without, hd]
  rfl

theorem answer_without (hkept : dropped stream = false) (shown : Shown) :
    (s.without dropped).answer stream shown = (s.answer stream shown).without dropped := by
  simp [answer, without, hkept]

theorem connect_without (hkept : dropped stream = false)
    (h : s.connect config body toUppercase stream = some s') :
    (s.without dropped).connect config body toUppercase stream = some (s'.without dropped) := by
  unfold connect at h ⊢
  split at h
  · cases h
    rw [answer_without hkept]
  · next request _ =>
      have hdaemon : (s.without dropped).daemon = s.daemon := rfl
      rw [hdaemon]
      cases hroute : route config body request s.daemon with
      | answered shown =>
          rw [hroute] at h
          cases h
          exact congrArg some (answer_without hkept shown)
      | handed input =>
          rw [hroute] at h
          exact act_without h

/-- Whoever is dropped and not trusted leaves nothing behind. -/
theorem without_of_connect (hdropped : dropped stream = true)
    (hadmits : config.admits stream = false)
    (h : s.connect config body toUppercase stream = some s') :
    s'.without dropped = s.without dropped := by
  rcases connect_of_not_admitted body toUppercase hadmits with ⟨reply, hreply⟩
  obtain rfl := Option.some.inj ((hreply s).symm.trans h)
  simp [answer, without, hdropped]

/-- Nobody who is trusted is dropped, so they are told the same. -/
theorem trusted_without
    (hdropped : ∀ stream, dropped stream = true → config.admits stream = false) :
    (s.without dropped).trusted config = s.trusted config := by
  unfold trusted without
  rw [List.filter_filter]
  refine Prod.ext rfl (List.filter_congr ?_)
  intro entry _
  cases hentry : dropped entry.1 with
  | true => simp [hdropped _ hentry]
  | false => simp

end Server

/-- The connection that an input is about. -/
def ListenerInput.client : ListenerInput → Option Client
  | .dispatch client _ => some client
  | .route client => some client
  | .close client => some client
  | .inner _ => none

def ListenerInput.kept (dropped : Connection → Bool) (input : ListenerInput) : Bool :=
  input.client.all fun client => !dropped client.stream

theorem ListenerInput.kept_eq {dropped : Connection → Bool} {input : ListenerInput}
    {client : Client} (h : input.client = some client) :
    input.kept dropped = !dropped client.stream := by
  unfold kept
  rw [h]
  rfl

namespace Listener

section Without

variable {config : Config} {body : BodyReader} {toUppercase : String → String}
  {dropped : Connection → Bool} {l l' : Listener}

def without (dropped : Connection → Bool) (l : Listener) : Listener where
  server := l.server.without dropped
  reading := l.reading.filter fun client => !dropped client.stream
  answering := l.answering.filter fun client => !dropped client.stream
  turnedAway := l.turnedAway.filter fun client => !dropped client.stream

/-- A connection that is not dropped finds a permit. -/
def Room (dropped : Connection → Bool) (l : Listener) : ListenerInput → Prop
  | .dispatch client _ => dropped client.stream = false → l.active < CONNECTION_LIMIT
  | _ => True

instance (input : ListenerInput) : Decidable (Room dropped l input) :=
  match input with
  | .dispatch client _ =>
      inferInstanceAs (Decidable (dropped client.stream = false → l.active < CONNECTION_LIMIT))
  | .route _ => .isTrue trivial
  | .close _ => .isTrue trivial
  | .inner _ => .isTrue trivial

/-- The daemon, and what trusted parties were answered, if they were at all. -/
def trusted (config : Config) (l : Listener) :
    (Daemon × List (Connection × Shown)) × List Client :=
  (l.server.trusted config, l.turnedAway.filter fun client => config.admits client.stream)

theorem active_without_le : (l.without dropped).active ≤ l.active :=
  Nat.add_le_add (List.length_filter_le _ _) (List.length_filter_le _ _)

theorem accept_without {client : Client} {spawned : Bool} (hkept : dropped client.stream = false)
    (hroom : l.active < CONNECTION_LIMIT) :
    (l.without dropped).accept client spawned = (l.accept client spawned).without dropped := by
  have hless : (l.without dropped).active < CONNECTION_LIMIT :=
    Nat.lt_of_le_of_lt active_without_le hroom
  unfold accept
  cases spawned with
  | true =>
      rw [if_pos ⟨hless, rfl⟩, if_pos ⟨hroom, rfl⟩]
      simp [without, hkept]
  | false => simp [without, hkept]

/-- What is not dropped goes on without the rest as it did with it. -/
theorem step_without {input : ListenerInput} (hkept : input.kept dropped = true)
    (hroom : Room dropped l input) (hstep : step config body toUppercase l input = some l') :
    step config body toUppercase (l.without dropped) input = some (l'.without dropped) := by
  have hstays : ∀ client, input.client = some client → dropped client.stream = false := by
    intro client hinput
    simpa [ListenerInput.kept_eq hinput] using hkept
  have hserver : (l.without dropped).server = l.server.without dropped := rfl
  cases input with
  | dispatch client spawned =>
      have hclient := hstays client rfl
      cases hstep
      exact congrArg some (accept_without hclient (hroom hclient))
  | route client =>
      have hclient := hstays client rfl
      rcases Option.ite_none_right_eq_some.1 hstep with ⟨hreading, hgoes⟩
      rcases Option.map_eq_some_iff.1 hgoes with ⟨server, hconnect, rfl⟩
      have hmem : client ∈ (l.without dropped).reading :=
        List.mem_filter.2 ⟨hreading, by simp [hclient]⟩
      simp only [step, routes]
      rw [if_pos hmem, hserver, Server.connect_without hclient hconnect]
      simp [without, hclient, List.erase_filter]
  | close client =>
      have hclient := hstays client rfl
      rcases Option.ite_none_right_eq_some.1 hstep with ⟨hanswering, hgoes⟩
      cases hgoes
      have hmem : client ∈ (l.without dropped).answering :=
        List.mem_filter.2 ⟨hanswering, by simp [hclient]⟩
      simp only [step, closes]
      rw [if_pos hmem]
      simp [without, List.erase_filter]
  | inner input =>
      rcases Option.map_eq_some_iff.1 hstep with ⟨server, hinner, rfl⟩
      simp only [step, Server.step] at hinner ⊢
      split at hinner
      · cases hinner
      · next harrives =>
          rw [if_neg harrives, hserver, Server.act_without hinner]
          rfl

/-- What is dropped, and not trusted, is not missed. -/
theorem without_of_step {input : ListenerInput}
    (hdropped : ∀ stream, dropped stream = true → config.admits stream = false)
    (hkept : input.kept dropped = false)
    (hstep : step config body toUppercase l input = some l') :
    l'.without dropped = l.without dropped := by
  have hgoes : ∀ client, input.client = some client → dropped client.stream = true := by
    intro client hinput
    simpa [ListenerInput.kept_eq hinput] using hkept
  cases input with
  | dispatch client spawned =>
      have hclient := hgoes client rfl
      cases hstep
      unfold accept
      split <;> simp [without, hclient]
  | route client =>
      have hclient := hgoes client rfl
      rcases Option.ite_none_right_eq_some.1 hstep with ⟨-, hrouted⟩
      rcases Option.map_eq_some_iff.1 hrouted with ⟨server, hconnect, rfl⟩
      have hserved := Server.without_of_connect hclient (hdropped _ hclient) hconnect
      simp [without, hserved, hclient, ← List.erase_filter, List.erase_of_not_mem]
  | close client =>
      have hclient := hgoes client rfl
      rcases Option.ite_none_right_eq_some.1 hstep with ⟨-, hclosed⟩
      cases hclosed
      simp [without, hclient, ← List.erase_filter, List.erase_of_not_mem]
  | inner input => cases hkept

theorem projects (body : BodyReader) (toUppercase : String → String)
    (hdropped : ∀ stream, dropped stream = true → config.admits stream = false) :
    Machine.Projects (step config body toUppercase) (step config body toUppercase)
      (without dropped) (ListenerInput.kept dropped) (Room dropped) where
  follows := fun _ _ _ hkept hroom hstep => step_without hkept hroom hstep
  unnoticed := fun _ _ _ hkept hstep => without_of_step hdropped hkept hstep

/-- Whoever is not trusted may be left out of a run, as long as everybody else finds a permit: the
daemon does the same, and the trusted are told the same. -/
theorem trusted_filter {d : Daemon} {inputs : List ListenerInput}
    (hdropped : ∀ stream, dropped stream = true → config.admits stream = false)
    (hroom : Machine.EachStep (step config body toUppercase) (Room dropped) (start d) inputs)
    (hrun : Machine.run (step config body toUppercase) (start d) inputs = some l') :
    ∃ l'', Machine.run (step config body toUppercase) (start d)
        (inputs.filter (ListenerInput.kept dropped)) = some l'' ∧
      l'.trusted config = l''.trusted config := by
  refine ⟨l'.without dropped, (projects body toUppercase hdropped).run_filter hroom hrun, ?_⟩
  have hserver : (l'.without dropped).server = l'.server.without dropped := rfl
  unfold trusted
  rw [hserver, Server.trusted_without hdropped, without, List.filter_filter]
  refine Prod.ext rfl (List.filter_congr ?_)
  intro client _
  cases hclient : dropped client.stream with
  | true => simp [hdropped _ hclient]
  | false => simp

/-- In any run in which whoever is trusted finds a permit, the daemon does and the trusted are told
what they would be if nobody else had come. -/
theorem strangers_change_nothing {d : Daemon} {inputs : List ListenerInput}
    (hroom : Machine.EachStep (step config body toUppercase)
      (Room fun stream => !config.admits stream) (start d) inputs)
    (hrun : Machine.run (step config body toUppercase) (start d) inputs = some l') :
    ∃ l'', Machine.run (step config body toUppercase) (start d)
        (inputs.filter (ListenerInput.kept fun stream => !config.admits stream)) = some l'' ∧
      l'.trusted config = l''.trusted config :=
  trusted_filter (by simp) hroom hrun

end Without

end Listener

end DsspBot

import DsspBot.Extension.DaemonClient
import DsspBot.Extension.Shared
import DsspBot.Lib.Freshness
import DsspBot.Lib.Machine

/-!
# Popup — what the administrator may press, and when

The popup polls the daemon, sends it requests and may be pointed at another one. None of this waits
for anything else: a read that was begun before a request may come back after it, and one that was
begun with other settings may come back at any time. The buttons are set whenever something has
changed, and stay as they are in between.
-/

namespace DsspBot

namespace Extension

open Freshness

/-! ## Reads -/

/-- Two clients are different ones even if their settings are the same. -/
structure Client where
  id : Nat
  settings : DaemonSettings
  deriving DecidableEq

/-- What `refresh` has in hand. -/
structure Read where
  id : Nat
  client : Client
  generation : Nat
  deriving DecidableEq

def Read.stamp (read : Read) : Option Client × Nat :=
  (some read.client, read.generation)

structure DaemonView where
  progress : BatchProgress
  report : Option DaemonReport
  checkpoint : Option DaemonCheckpoint

/-- How one of the three requests of `readDaemonView` ends. -/
inductive Part
  | status (answer : Except DaemonError BatchProgress)
  | report (answer : Except DaemonError (Option DaemonReport))
  | checkpoint (answer : Except DaemonError (Option DaemonCheckpoint))

/-- A `readDaemonView` that is under way, and what it has got so far. -/
structure Reading where
  read : Read
  status : Option BatchProgress := none
  report : Option (Option DaemonReport) := none
  checkpoint : Option (Option DaemonCheckpoint) := none

namespace Reading

/-- The first request that fails fails the whole. -/
def receive (reading : Reading) : Part → Except DaemonError Reading
  | .status answer => answer.map fun value => { reading with status := some value }
  | .report answer => answer.map fun value => { reading with report := some value }
  | .checkpoint answer => answer.map fun value => { reading with checkpoint := some value }

def readDaemonView (reading : Reading) : Option DaemonView := do
  return {
    progress := ← reading.status
    report := ← reading.report
    checkpoint := ← reading.checkpoint }

theorem receive_read {reading reading' : Reading} {part : Part}
    (h : reading.receive part = .ok reading') : reading'.read = reading.read := by
  cases part with
  | status answer =>
      cases answer <;> cases h
      rfl
  | report answer =>
      cases answer <;> cases h
      rfl
  | checkpoint answer =>
      cases answer <;> cases h
      rfl

end Reading

/-! ## Requests of the administrator -/

inductive Action
  | pause
  | resume
  | stop
  deriving DecidableEq, Repr

/-- What stands in the form. -/
structure Form where
  trainees : String
  trainingDate : String
  instructor : String
  trainingType : String
  deriving DecidableEq, Repr

structure DaemonBatchInput where
  trainees : List String
  trainingDate : String
  instructor : String
  trainingType : String
  resume : Bool
  deriving DecidableEq, Repr

structure TrainingFormOptions where
  instructors : List FormOption
  trainingTypes : List FormOption
  deriving DecidableEq, Repr

inductive PopupRequest
  | control (action : Action)
  | formOptions
  | start (input : DaemonBatchInput)
  deriving DecidableEq, Repr

inductive PopupReply
  | accepted
  | options (options : TrainingFormOptions)
  | failed
  deriving DecidableEq, Repr

/-- A request in flight. Once it has been answered, its last handler is still to run. -/
structure Outgoing where
  request : PopupRequest
  client : Client
  answered : Bool := false
  deriving DecidableEq

/-! ## The popup -/

/-- Which elements are disabled. At first this is as the page has it. -/
structure Controls where
  pause : Bool := true
  resume : Bool := true
  stop : Bool := true
  start : Bool := false
  loadOptions : Bool := true
  instructor : Bool := true
  trainingType : Bool := true
  trainingDate : Bool := false
  trainees : Bool := false
  save : Bool := false
  deriving DecidableEq, Repr

def Controls.action (ui : Controls) : Action → Bool
  | .pause => ui.pause
  | .resume => ui.resume
  | .stop => ui.stop

/-- What makes stale what has been read. -/
inductive Cause
  /-- There is a new client. -/
  | connected
  /-- A request is over: it has been answered, and its last handler has run. -/
  | completed
  deriving DecidableEq, Repr

structure Popup where
  client : Option Client := none
  connected : Bool := false
  optionsReady : Bool := false
  polling : Option Read := none
  progress : Option BatchProgress := none
  busy : Bool := false
  viewGeneration : Nat := 0
  ui : Controls := {}
  /-- The storage has not said yet which settings are kept there. -/
  loading : Bool := true
  /-- Settings on their way to the storage. -/
  saving : List DaemonSettings := []
  reading : List Reading := []
  requests : List Outgoing := []
  /-- How many clients there have been. -/
  clients : Nat := 0
  /-- How many reads there have been. -/
  reads : Nat := 0
  /-- What has happened, the latest first. -/
  events : List (Event Read BatchProgress Cause) := []

/-- The session may not be touched in this state. -/
def sessionLocked (state : String) : Bool :=
  !(["idle", "stopped", "complete"].contains state)

namespace Popup

variable (p : Popup)

/-- What is not said counts as no. -/
def pauseRequested : Bool :=
  decide (p.progress.bind (·.pauseRequested) = some true)

def stopping : Bool :=
  decide (p.progress.bind (·.stopRequested) = some true)

def controls : Popup :=
  let state := (p.progress.map (·.state)).getD "unknown"
  let locked := !p.connected || p.busy || sessionLocked state || p.pauseRequested || p.stopping
  let active := ["loading_trainee", "submitting", "retrying"].contains state
  let resumable :=
    (decide (state = "paused") &&
      decide (p.progress.bind (·.pauseRequested) ≠ some false)) ||
    (active && p.pauseRequested)
  { p with
    ui :=
      { pause := !p.connected || p.busy || p.stopping || !active || p.pauseRequested
        resume := !p.connected || p.busy || p.stopping || !resumable
        stop := !p.connected || p.busy || p.stopping || !(active || decide (state = "paused"))
        start := locked || !p.optionsReady
        loadOptions := locked
        instructor := locked || !p.optionsReady
        trainingType := locked || !p.optionsReady
        trainingDate := locked
        trainees := locked
        save := p.busy } }

def disconnected : Popup :=
  { p with connected := false, progress := none }.controls

/-! ### Reading -/

def refresh : Popup :=
  match p.client with
  | none => p
  | some client =>
      if p.polling.any fun read =>
          decide (read.client = client) && decide (read.generation = p.viewGeneration) then p
      else
        let read := { id := p.reads, client := client, generation := p.viewGeneration }
        { p with
          polling := some read
          reading := p.reading ++ [{ read := read }]
          reads := p.reads + 1
          events := .asked read :: p.events }

/-- Neither the client nor the generation is another one by now. -/
def expects (read : Read) : Bool :=
  decide (p.client = some read.client) && decide (p.viewGeneration = read.generation)

/-- What `refresh` does at last, however the read has ended. -/
def released (read : Read) : Popup :=
  if p.polling = some read then { p with polling := none } else p

def readFailed (read : Read) : Popup :=
  (if p.expects read then p.disconnected else p).released read

def readAnswered (read : Read) (view : DaemonView) : Popup :=
  let p := { p with events := .answered read view.progress :: p.events }
  (if p.expects read then
    { p with connected := true, progress := some view.progress }.controls
  else p).released read

def arrived (index : Nat) (part : Part) : Option Popup :=
  match p.reading[index]? with
  | none => none
  | some reading =>
      match reading.receive part with
      | .error _ => some ({ p with reading := p.reading.eraseIdx index }.readFailed reading.read)
      | .ok reading' =>
          match reading'.readDaemonView with
          | none => some { p with reading := p.reading.set index reading' }
          | some view =>
              some ({ p with reading := p.reading.eraseIdx index }.readAnswered reading.read view)

/-! ### Settings -/

/-- `client = new DaemonClient(settings)`. -/
def connect (settings : DaemonSettings) : Popup :=
  { p with
    client := some { id := p.clients, settings := settings }
    clients := p.clients + 1
    events := .invalidated .connected :: p.events }

def loaded : Option (Option ℚ × String) → Popup
  | none => p
  | some (port, token) =>
      match validateSettings port token with
      | .error _ => p.disconnected
      | .ok settings => (p.connect settings).refresh

def saveClicked (port : Option ℚ) (token : String) : Popup :=
  match validateSettings port (trim token) with
  | .error _ => p
  | .ok settings => { p with saving := p.saving ++ [settings] }

def saved (settings : DaemonSettings) : Popup :=
  { p.connect settings with optionsReady := false }.disconnected.refresh

/-! ### Requesting -/

def request (request : PopupRequest) (client : Client) : Popup :=
  let p := { p with busy := true }.controls
  { p with requests := p.requests ++ [{ request := request, client := client }] }

def control (action : Action) : Popup :=
  match p.client with
  | none => p
  | some client =>
      if p.busy || p.ui.action action then p else p.request (.control action) client

def loadOptions : Popup :=
  match p.client with
  | none => p
  | some client =>
      if p.busy || p.ui.loadOptions then p else p.request .formOptions client

def start (toLocaleLowerCase : String → String) (form : Form) : Popup :=
  match p.client with
  | none => p
  | some client =>
      if p.busy || p.ui.start then p
      else
        let names := parseTraineeInput toLocaleLowerCase form.trainees
        if names = [] ∨ form.trainingDate = "" ∨ form.instructor = "" ∨
            form.trainingType = "" then p
        else
          let input :=
            { trainees := names
              trainingDate := form.trainingDate
              instructor := form.instructor
              trainingType := form.trainingType
              resume := false }
          p.request (.start input) client

/-- `optionsReady` after the first handler of a request has run. -/
def optionsAfter (outgoing : Outgoing) : PopupReply → Bool
  | .options options =>
      if outgoing.request = .formOptions ∧ p.client = some outgoing.client then
        decide (options.instructors ≠ []) && decide (options.trainingTypes ≠ [])
      else p.optionsReady
  | .failed => if outgoing.request = .formOptions then false else p.optionsReady
  | .accepted => p.optionsReady

def answered (index : Nat) (reply : PopupReply) : Option Popup :=
  match p.requests[index]? with
  | none => none
  | some outgoing =>
      if outgoing.answered then none
      else
        some
          { p with
            requests := p.requests.set index { outgoing with answered := true }
            optionsReady := p.optionsAfter outgoing reply }

def refreshAfterRequest : Popup :=
  ({ p with
    viewGeneration := p.viewGeneration + 1
    connected := false
    busy := false
    events := .invalidated .completed :: p.events }.controls).refresh

def completed (index : Nat) : Option Popup :=
  match p.requests[index]? with
  | none => none
  | some outgoing =>
      if outgoing.answered then
        some { p with requests := p.requests.eraseIdx index }.refreshAfterRequest
      else none

end Popup

/-! ## Runs -/

inductive PopupInput
  | loaded (stored : Option (Option ℚ × String))
  | loadFailed
  | poll
  | arrived (index : Nat) (part : Part)
  | saveClicked (port : Option ℚ) (token : String)
  | saved (index : Nat)
  | saveFailed (index : Nat)
  | controlClicked (action : Action)
  | loadOptionsClicked
  | startClicked (form : Form)
  | answered (index : Nat) (reply : PopupReply)
  | completed (index : Nat)

namespace Popup

/-- The storage answers in the order in which it is asked, and is asked for the settings first. -/
def step (toLocaleLowerCase : String → String) (p : Popup) : PopupInput → Option Popup
  | .loaded stored =>
      if p.loading then some ({ p with loading := false }.loaded stored) else none
  | .loadFailed => if p.loading then some { p with loading := false }.disconnected else none
  | .poll => some p.refresh
  | .arrived index part => p.arrived index part
  | .saveClicked port token => if p.ui.save then none else some (p.saveClicked port token)
  | .saved index =>
      match p.saving[index]? with
      | none => none
      | some settings =>
          if p.loading then none
          else some ({ p with saving := p.saving.eraseIdx index }.saved settings)
  | .saveFailed index => some { p with saving := p.saving.eraseIdx index }
  | .controlClicked action => some (p.control action)
  | .loadOptionsClicked => some p.loadOptions
  | .startClicked form => some (p.start toLocaleLowerCase form)
  | .answered index reply => p.answered index reply
  | .completed index => p.completed index

/-- As the script leaves it. -/
def initial : Popup :=
  ({} : Popup).disconnected

/-! ## What is shown, and whether it is fresh -/

/-- What the popup shows, as a view of the daemon that may become stale. -/
def view (p : Popup) : View (Option Client × Nat) Read BatchProgress Cause :=
  { stamp := (p.client, p.viewGeneration)
    pending := p.reading.map (·.read)
    shown := if p.connected then p.progress else none
    events := p.events }

/-- Nothing speaks against a new batch. -/
structure Unlocked (progress : BatchProgress) : Prop where
  state : progress.state ∈ ["idle", "stopped", "complete"]
  pauseRequested : progress.pauseRequested ≠ some true
  stopRequested : progress.stopRequested ≠ some true

/-- What holds of the data behind the buttons. -/
structure Sound (p : Popup) : Prop where
  fresh : p.view.Fresh Read.stamp
  older : ∀ reading ∈ p.reading,
    reading.read.generation ≤ p.viewGeneration ∧ reading.read.client.id < p.clients
  client : ∀ client, p.client = some client → client.id < p.clients
  busy : p.requests.length = if p.busy then 1 else 0
  connected : p.connected = true → ∃ progress, p.progress = some progress
  loading : p.loading = true → p.client = none

/-- The button is not ahead of the data. -/
structure Guarded (p : Popup) : Prop extends Sound p where
  start : p.ui.start = false →
    p.connected = true ∧ p.busy = false ∧ ∃ progress, p.progress = some progress ∧ Unlocked progress

section Guarded

variable {p : Popup}

theorem sessionLocked_iff (state : String) :
    sessionLocked state = false ↔ state ∈ ["idle", "stopped", "complete"] := by
  rw [sessionLocked, Bool.not_eq_false', List.contains_iff_mem]

/-- What it takes for Start to be enabled. -/
theorem controls_start (h : p.controls.ui.start = false) :
    p.connected = true ∧ p.busy = false ∧
      ∃ progress, p.progress = some progress ∧ Unlocked progress := by
  simp only [controls, Bool.or_eq_false_iff, Bool.not_eq_false'] at h
  rcases h with ⟨⟨⟨⟨⟨hconnected, hbusy⟩, hstate⟩, hpause⟩, hstop⟩, -⟩
  refine ⟨hconnected, hbusy, ?_⟩
  cases hprogress : p.progress with
  | none =>
      rw [hprogress] at hstate
      exact absurd hstate (by decide)
  | some progress =>
      rw [hprogress] at hstate
      refine ⟨progress, rfl, (sessionLocked_iff _).1 hstate, ?_, ?_⟩
      · simpa [pauseRequested, hprogress] using hpause
      · simpa [stopping, hprogress] using hstop

theorem Sound.controls (h : p.Sound) : p.controls.Guarded :=
  { h with start := controls_start }

/-- The options for the form play no part in this. -/
theorem Sound.hidden (h : p.Sound) (optionsReady : Bool) :
    Sound { p with connected := false, progress := none, optionsReady := optionsReady } :=
  { h with
    fresh := h.fresh.hide
    connected := fun hconnected => nomatch hconnected }

theorem Sound.disconnected (h : p.Sound) : p.disconnected.Guarded :=
  (h.hidden p.optionsReady).controls

/-- A client whose read is shown is the current one. -/
theorem Sound.client_of_connected (h : p.Sound) (hconnected : p.connected = true) :
    ∃ client, p.client = some client := by
  rcases h.connected hconnected with ⟨progress, hprogress⟩
  have hshown : p.view.shown = some progress := by simp [view, hconnected, hprogress]
  rcases h.fresh.shown progress hshown with ⟨read, hstamp, -⟩
  exact ⟨read.client, (congrArg Prod.fst hstamp).symm⟩

/-! ### Reading -/

theorem Guarded.refresh (h : p.Guarded) : p.refresh.Guarded := by
  unfold Popup.refresh
  split
  · exact h
  · next client hclient =>
      split
      · exact h
      · have hasked := h.fresh.ask
          { id := p.reads, client := client, generation := p.viewGeneration }
        refine { h with fresh := by simpa [view, View.ask] using hasked, older := ?_ }
        intro reading hreading
        rcases List.mem_append.1 hreading with hbefore | hnew
        · exact h.older reading hbefore
        · rw [List.mem_singleton.1 hnew]
          exact ⟨le_rfl, h.client client hclient⟩

theorem Guarded.released (h : p.Guarded) (read : Read) : (p.released read).Guarded := by
  unfold Popup.released
  split
  · exact { h with }
  · exact h

theorem Guarded.dropped (h : p.Guarded) (index : Nat) :
    Guarded { p with reading := p.reading.eraseIdx index } :=
  { h with
    fresh := by simpa [view, View.drop, List.eraseIdx_map] using h.fresh.drop index
    older := fun reading hreading => h.older reading (List.mem_of_mem_eraseIdx hreading) }

theorem expects_iff (read : Read) :
    p.expects read = true ↔ read.stamp = (p.client, p.viewGeneration) := by
  simp only [expects, Bool.and_eq_true, decide_eq_true_eq, Read.stamp, Prod.mk.injEq]
  exact and_congr eq_comm eq_comm

theorem Guarded.readFailed (h : p.Guarded) (read : Read) : (p.readFailed read).Guarded := by
  unfold Popup.readFailed
  split
  · exact h.toSound.disconnected.released read
  · exact h.released read

theorem Guarded.readAnswered (h : p.Guarded) {index : Nat} {reading : Reading}
    (hreading : p.reading[index]? = some reading) (shown : DaemonView) :
    ({ p with reading := p.reading.eraseIdx index }.readAnswered reading.read shown).Guarded := by
  have hread : p.view.pending[index]? = some reading.read := by simp [view, hreading]
  have hfresh := h.fresh.answer hread shown.progress
  have hdropped := h.dropped index
  unfold Popup.readAnswered
  dsimp only
  split
  · next hexpects =>
      have hstamp := (expects_iff reading.read).1 hexpects
      refine (Sound.controls ?_).released reading.read
      exact
        { hdropped with
          fresh := by simpa [view, View.answer, List.eraseIdx_map, hstamp] using hfresh
          connected := fun _ => ⟨shown.progress, rfl⟩ }
  · next hexpects =>
      have hstamp : ¬reading.read.stamp = (p.client, p.viewGeneration) :=
        fun hcurrent => hexpects ((expects_iff reading.read).2 hcurrent)
      refine Guarded.released ?_ reading.read
      exact
        { hdropped with
          fresh := by simpa [view, View.answer, List.eraseIdx_map, hstamp] using hfresh }

theorem map_read_set {readings : List Reading} {index : Nat} {reading reading' : Reading}
    (hreading : readings[index]? = some reading) (hread : reading'.read = reading.read) :
    (readings.set index reading').map (·.read) = readings.map (·.read) := by
  rcases List.getElem?_eq_some_iff.1 hreading with ⟨hlt, rfl⟩
  have hlt' : index < (readings.map (·.read)).length := by simpa using hlt
  have hsame : (readings.map (·.read))[index] = reading'.read := by rw [List.getElem_map, hread]
  rw [List.map_set, ← hsame, List.set_getElem_self]

theorem Guarded.arrived (h : p.Guarded) {index : Nat} {part : Part} {p' : Popup}
    (hstep : p.arrived index part = some p') : p'.Guarded := by
  unfold Popup.arrived at hstep
  split at hstep
  · cases hstep
  · next reading hreading =>
      split at hstep
      · cases hstep
        exact (h.dropped index).readFailed reading.read
      · next reading' hreceive =>
          have hread := Reading.receive_read hreceive
          split at hstep
          · cases hstep
            have hsame := map_read_set hreading hread
            refine { h with fresh := by simpa [view, hsame] using h.fresh, older := ?_ }
            intro other hother
            rcases List.mem_or_eq_of_mem_set hother with hbefore | rfl
            · exact h.older other hbefore
            · rw [hread]
              exact h.older reading (List.mem_of_getElem? hreading)
          · next shown _ =>
              cases hstep
              exact h.readAnswered hreading shown

/-! ### Settings -/

/-- No read that is under way was asked of a client that is only now made. -/
theorem Sound.connect (h : p.Sound) (settings : DaemonSettings) (hhidden : p.connected = false)
    (hloaded : p.loading = false) : (p.connect settings).Sound where
  fresh := by
    have hnew : ∀ read ∈ p.view.pending,
        read.stamp ≠ (some { id := p.clients, settings := settings }, p.viewGeneration) := by
      intro read hread hstamp
      rcases List.mem_map.1 hread with ⟨reading, hreading, rfl⟩
      have hclient : reading.read.client = { id := p.clients, settings := settings } :=
        Option.some.inj (congrArg Prod.fst hstamp)
      have holder := (h.older reading hreading).2
      rw [hclient] at holder
      exact lt_irrefl _ holder
    simpa [view, View.invalidate, Popup.connect, hhidden] using
      View.Fresh.invalidate p.view hnew Cause.connected
  older := fun reading hreading =>
    ⟨(h.older reading hreading).1, (h.older reading hreading).2.trans (Nat.lt_succ_self _)⟩
  client := by
    rintro client ⟨⟩
    exact Nat.lt_succ_self _
  busy := h.busy
  connected := fun hconnected => nomatch hhidden.symm.trans hconnected
  loading := fun hloading => nomatch hloaded.symm.trans hloading

theorem Guarded.notLoading (h : p.Guarded) : Guarded { p with loading := false } :=
  { h with loading := fun hloading => nomatch hloading }

theorem Guarded.loaded (h : p.Guarded) (hloading : p.loading = true)
    (stored : Option (Option ℚ × String)) :
    ({ p with loading := false }.loaded stored).Guarded := by
  have hnone := h.loading hloading
  have hhidden : p.connected = false := by
    cases hconnected : p.connected with
    | false => rfl
    | true =>
        rcases h.toSound.client_of_connected hconnected with ⟨client, hclient⟩
        cases hnone.symm.trans hclient
  have hloaded := h.notLoading
  cases stored with
  | none => exact hloaded
  | some settings =>
      rcases settings with ⟨port, token⟩
      simp only [Popup.loaded]
      split
      · exact hloaded.toSound.disconnected
      · next settings _ =>
          have hconnected := hloaded.toSound.connect settings hhidden rfl
          exact Guarded.refresh { hconnected with start := h.start }

theorem Guarded.saved (h : p.Guarded) (hloading : p.loading = false) (settings : DaemonSettings) :
    (p.saved settings).Guarded := by
  -- Whether it is hidden before or after there is a new client makes no difference.
  have hconnected := (h.toSound.hidden false).connect settings rfl hloading
  exact (Sound.controls hconnected).refresh

theorem Guarded.saving (h : p.Guarded) (saving : List DaemonSettings) :
    Guarded { p with saving := saving } :=
  { h with }

/-! ### Requesting -/

theorem Guarded.request (h : p.Guarded) (hbusy : p.busy = false) (request : PopupRequest)
    (client : Client) : (p.request request client).Guarded := by
  have hnone : p.requests.length = 0 := by simpa [hbusy] using h.busy
  have hdisabled := controls_start (p := { p with busy := true })
  exact
    { h with
      busy := by simp [Popup.request, Popup.controls, hnone]
      start := hdisabled }

theorem Guarded.control (h : p.Guarded) (action : Action) : (p.control action).Guarded := by
  unfold Popup.control
  split
  · exact h
  · split
    · exact h
    · next hfree =>
        simp only [Bool.or_eq_true, not_or, Bool.not_eq_true] at hfree
        exact h.request hfree.1 _ _

theorem Guarded.loadOptions (h : p.Guarded) : p.loadOptions.Guarded := by
  unfold Popup.loadOptions
  split
  · exact h
  · split
    · exact h
    · next hfree =>
        simp only [Bool.or_eq_true, not_or, Bool.not_eq_true] at hfree
        exact h.request hfree.1 _ _

theorem Guarded.startClicked (h : p.Guarded) (toLocaleLowerCase : String → String) (form : Form) :
    (p.start toLocaleLowerCase form).Guarded := by
  unfold Popup.start
  split
  · exact h
  · split
    · exact h
    · next hfree =>
        simp only [Bool.or_eq_true, not_or, Bool.not_eq_true] at hfree
        dsimp only
        split
        · exact h
        · exact h.request hfree.1 _ _

theorem Guarded.answered (h : p.Guarded) {index : Nat} {reply : PopupReply} {p' : Popup}
    (hstep : p.answered index reply = some p') : p'.Guarded := by
  unfold Popup.answered at hstep
  split at hstep
  · cases hstep
  · split at hstep
    · cases hstep
    · cases hstep
      exact { h with busy := by simpa using h.busy }

theorem Guarded.completed (h : p.Guarded) {index : Nat} {p' : Popup}
    (hstep : p.completed index = some p') : p'.Guarded := by
  unfold Popup.completed at hstep
  split at hstep
  · cases hstep
  · next outgoing houtgoing =>
      split at hstep
      · cases hstep
        have hlt : index < p.requests.length := (List.getElem?_eq_some_iff.1 houtgoing).1
        have hnew : ∀ read ∈ p.view.pending,
            read.stamp ≠ (p.client, p.viewGeneration + 1) := by
          intro read hread hstamp
          rcases List.mem_map.1 hread with ⟨reading, hreading, rfl⟩
          have hgeneration : reading.read.generation = p.viewGeneration + 1 :=
            congrArg Prod.snd hstamp
          have holder := (h.older reading hreading).1
          omega
        refine (Sound.controls ?_).refresh
        exact
          { h with
            fresh := View.Fresh.invalidate p.view hnew Cause.completed
            older := fun reading hreading =>
              ⟨(h.older reading hreading).1.trans (Nat.le_succ _), (h.older reading hreading).2⟩
            busy := by
              have hone := h.busy
              rw [List.length_eraseIdx_of_lt hlt]
              split at hone <;> simp <;> omega
            connected := fun hconnected => nomatch hconnected }
      · cases hstep

theorem Guarded.step (h : p.Guarded) {toLocaleLowerCase : String → String} {input : PopupInput}
    {p' : Popup} (hstep : p.step toLocaleLowerCase input = some p') : p'.Guarded := by
  cases input with
  | loaded stored =>
      rcases Option.ite_none_right_eq_some.1 hstep with ⟨hloading, heq⟩
      cases heq
      exact h.loaded hloading stored
  | loadFailed =>
      rcases Option.ite_none_right_eq_some.1 hstep with ⟨hloading, heq⟩
      cases heq
      exact h.notLoading.toSound.disconnected
  | poll =>
      cases hstep
      exact h.refresh
  | arrived index part => exact h.arrived hstep
  | saveClicked port token =>
      rcases Option.ite_none_left_eq_some.1 hstep with ⟨-, heq⟩
      cases heq
      unfold Popup.saveClicked
      split
      · exact h
      · exact h.saving _
  | saved index =>
      simp only [Popup.step] at hstep
      split at hstep
      · cases hstep
      · next settings _ =>
          rcases Option.ite_none_left_eq_some.1 hstep with ⟨hloading, heq⟩
          cases heq
          exact (h.saving (p.saving.eraseIdx index)).saved (Bool.eq_false_iff.2 hloading) settings
  | saveFailed index =>
      cases hstep
      exact h.saving _
  | controlClicked action =>
      cases hstep
      exact h.control action
  | loadOptionsClicked =>
      cases hstep
      exact h.loadOptions
  | startClicked form =>
      cases hstep
      exact h.startClicked toLocaleLowerCase form
  | answered index reply => exact h.answered hstep
  | completed index => exact h.completed hstep

end Guarded

theorem initial_guarded : initial.Guarded := by
  refine Sound.disconnected ?_
  exact
    { fresh :=
        { current := fun _ hread => nomatch hread
          shown := fun _ hvalue => nomatch hvalue }
      older := fun _ hreading => nomatch hreading
      client := fun _ hclient => nomatch hclient
      busy := rfl
      connected := fun hconnected => nomatch hconnected
      loading := fun _ => rfl }

/-- The events after the last completed request. -/
def sinceCompleted (p : Popup) : List (Event Read BatchProgress Cause) :=
  since (fun cause => decide (cause = .completed)) p.events

/-- Whatever has been pressed and whatever comes back when: as long as Start is enabled, the
progress behind it was read from the current client after the last completed request, nothing in it
speaks against a new batch, and no request is in flight. -/
theorem start_needs_fresh_progress {toLocaleLowerCase : String → String} {p : Popup}
    (h : Machine.Reaches (step toLocaleLowerCase) initial p) (hstart : p.ui.start = false) :
    (∃ read progress, p.client = some read.client ∧ p.progress = some progress ∧
        .asked read ∈ p.sinceCompleted ∧ .answered read progress ∈ p.sinceCompleted ∧
          Unlocked progress) ∧
      p.requests = [] := by
  have hguarded : p.Guarded :=
    Machine.Reaches.invariant (fun _ _ _ hs hstep => hs.step hstep) initial_guarded h
  rcases hguarded.start hstart with ⟨hconnected, hbusy, progress, hprogress, hunlocked⟩
  have hshown : p.view.shown = some progress := by simp [view, hconnected, hprogress]
  rcases hguarded.fresh.shown progress hshown with ⟨read, hstamp, hasked, hanswered⟩
  refine ⟨⟨read, progress, ?_, hprogress, ?_, ?_, hunlocked⟩, ?_⟩
  · exact (congrArg Prod.fst hstamp).symm
  · exact mem_since_of_imp (fun _ _ => rfl) hasked
  · exact mem_since_of_imp (fun _ _ => rfl) hanswered
  · have hnone := hguarded.busy
    rw [hbusy] at hnone
    exact List.length_eq_zero_iff.1 hnone

def idleProgress : BatchProgress :=
  { state := "idle"
    total := 0
    processed := 0
    successful := 0
    failed := 0
    skipped := 0
    indeterminate := 0
    remaining := 0 }

/-- The daemon is idle, and the options are loaded. What was read before that does not count. -/
def loadingOptions : List PopupInput :=
  [.loaded (some (some 8765, "00112233445566778899aabbccddeeff00112233445566778899AABBCCDDEEFF")),
    .arrived 0 (.status (.ok idleProgress)), .arrived 0 (.report (.ok none)),
    .arrived 0 (.checkpoint (.ok none)), .poll, .loadOptionsClicked,
    .answered 0 (.options
      { instructors := [{ value := "3", label := "Ada Obi" }]
        trainingTypes := [{ value := "1", label := "Induction" }] }),
    .completed 0, .arrived 1 (.checkpoint (.ok none)), .arrived 1 (.report (.ok none)),
    .arrived 1 (.status (.ok idleProgress))]

theorem idle_daemon_enables_start :
    ∃ p, Machine.run (step id) initial loadingOptions = some p ∧ p.ui.start = false ∧
      (∃ read progress, p.client = some read.client ∧ p.progress = some progress ∧
        .asked read ∈ p.sinceCompleted ∧ .answered read progress ∈ p.sinceCompleted ∧
          Unlocked progress) ∧
      p.requests = [] := by
  have hrun : Machine.run (step id) initial loadingOptions =
      some ((Machine.run (step id) initial loadingOptions).getD initial) := rfl
  have hstart : ((Machine.run (step id) initial loadingOptions).getD initial).ui.start = false := by
    decide +kernel
  exact ⟨_, hrun, hstart, start_needs_fresh_progress ⟨loadingOptions, hrun⟩ hstart⟩

end Popup

end Extension

end DsspBot

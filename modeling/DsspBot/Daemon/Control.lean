import DsspBot.Daemon.Basic
import DsspBot.Engine.Latch

/-!
# Control — stopping a batch while its thread and others run

Control requests interleave with the batch thread, with each other and with the end of one batch and
the start of the next. A step of the daemon is taken apart once, in `Daemon.step_cases`; what it
means for a controller follows from what the same step means for the engine it belongs to.
-/

namespace DsspBot

/-! ## The branches of a step -/

def DaemonEvent.isControl : DaemonEvent → Bool
  | .controlled _ _ _ => true
  | _ => false

namespace Daemon

variable {toUppercase : String → String} {d d' : Daemon}

/-- Who may hold what: a daemon that is not busy has no holder, and the current controller belongs
to the batch launched last, while that batch may still be controlled. -/
structure Governed (d : Daemon) : Prop where
  busy : d.state.busy = false → d.holder = .nobody
  control : ∀ id, d.state.control = some id → d.holder.engaged = true ∧ id + 1 = d.runs.length

/-- A step of an admission, of a form read or of a teardown. -/
structure Handled (d d' : Daemon) : Prop where
  runs : d'.runs = d.runs
  log : ∃ events, d'.log = d.log ++ events ∧ ∀ ev ∈ events, ev.isControl = false
  governed : d.Governed → d'.Governed

inductive Step (d : Daemon) : Daemon → Prop
  | handled {d' : Daemon} (h : Handled d d') : Step d d'
  | capture {id : Nat} {c : ControlRequest} (hcontrol : d.state.control = some id) :
      Step d { d with captured := d.captured ++ [(id, c)] }
  | refused {captured : List (Nat × ControlRequest)} {id : Option Nat} {c : ControlRequest}
      {text : String} :
      Step d ({ d with captured := captured }.emit (.controlled id c (httpError 409 text)))
  | accepted {captured : List (Nat × ControlRequest)} {id : Nat} {run : DaemonRun}
      {c : ControlRequest} {control control' : BatchControl} (hlock : d.lockHeld id = false)
      (hrun : d.runs[id]? = some run) (hcurrent : d.state.control = some id)
      (hcontrol : run.engine.control = some control) (hrequest : control.request c = .ok control') :
      Step d ({ d with captured := captured }.accept id run c control')
  | engine {run : DaemonRun} {input : Input} {engine : Engine} {state : DaemonState}
      (hholder : d.holder = .running) (hrun : d.runs.getLast? = some run)
      (hstep : run.batch.step run.engine input = some engine)
      (hbusy : state.busy = d.state.busy)
      (hcontrol : state.control = none ∨ state.control = d.state.control) :
      Step d
        { d with
          runs := d.runs.set (d.runs.length - 1) { run with engine := engine }
          store := engine.store
          state := state }
  | launched {a : Admission} {resolved : List TraineeRef} {names : List TraineeInfo} {now : String}
      (hholder : d.holder = .launching a resolved names) :
      Step d (d.launch a resolved names now)

/-! ### Steps that concern no controller -/

/-- From a holder whose batch cannot be controlled, a step that changes neither `busy` nor the
controller. -/
theorem Handled.of_quiet (hheld : d.holder ≠ .nobody)
    (hengaged : d.holder.engaged = false) (hruns : d'.runs = d.runs)
    (hlog : ∃ events, d'.log = d.log ++ events ∧ ∀ ev ∈ events, ev.isControl = false)
    (hbusy : d'.state.busy = d.state.busy) (hcontrol : d'.state.control = d.state.control) :
    Handled d d' where
  runs := hruns
  log := hlog
  governed := by
    intro h
    refine ⟨?_, ?_⟩
    · intro hfree
      exact absurd (h.busy (hbusy.symm.trans hfree)) hheld
    · intro id hid
      have hbefore := (h.control id (hcontrol.symm.trans hid)).1
      simp [hengaged] at hbefore

theorem handled_acquire (endpoint : Endpoint) (holder : Holder) :
    Handled d (d.acquire endpoint holder) := by
  unfold acquire
  split
  · exact ⟨rfl, ⟨_, rfl, by simp [DaemonEvent.isControl]⟩, fun h => ⟨h.busy, h.control⟩⟩
  · next hfree =>
      refine ⟨rfl, ⟨[], by simp, by simp⟩, ?_⟩
      intro h
      refine ⟨fun hbusy => Bool.noConfusion hbusy, ?_⟩
      intro id hid
      -- Nobody held the slot, so no controller was current.
      have hnobody := h.busy (by simpa using hfree)
      have hbefore := (h.control id hid).1
      rw [hnobody] at hbefore
      cases hbefore

/-- What comes of a request at the gate and at the checks behind it, over the store that the gate
left. -/
inductive Gated (d : Daemon) (req : BatchRequest) (batchId : String)
    (gate : Except String Start × CheckpointStore) : Daemon → Prop
  | refused {text : String} (hgate : gate.1 = .error text) :
      Gated d req batchId gate ({ d with store := gate.2 }.reject .batch (httpError 409 text))
  | invalid {start : Start} {message : String} (hgate : gate.1 = .ok start) :
      Gated d req batchId gate ({ d with store := gate.2 }.reject .batch (httpError 422 message))
  | done {start : Start} {previous : BatchCheckpoint} (hgate : gate.1 = .ok start)
      (hprevious : start.previous = some previous)
      (hnobody : (start.plan.work req.trainees).1 = []) :
      Gated d req batchId gate
        ({ d with store := gate.2 }.nothingToRun previous batchId
          (start.plan.work req.trainees).2.1 (start.plan.work req.trainees).2.2)
  | admitted {start : Start} (hgate : gate.1 = .ok start) :
      Gated d req batchId gate
        { d with
          store := gate.2
          state := { d.state with
            progress := progressOf "initializing"
              ((start.plan.work req.trainees).1.length + (start.plan.work req.trainees).2.1.length)
              (start.plan.work req.trainees).2.1 none
            report := none }
          holder := .connecting
            { batchId := batchId
              session := req.session
              wanted := (start.plan.work req.trainees).1
              carried := (start.plan.work req.trainees).2.1
              owed := (start.plan.work req.trainees).2.2 } }

theorem guarded_cases {req : BatchRequest} {batchId : String} {saves : GuardSaves}
    (h : d.guarded req batchId saves = d') :
    d.Gated req batchId (guard d.store req.resume saves) d' := by
  unfold guarded at h
  split at h
  · next text store hguard =>
      rw [hguard]
      subst h
      exact .refused rfl
  · next start store hguard =>
      rw [hguard]
      unfold planned at h
      dsimp only at h
      split at h
      · subst h
        exact .invalid rfl
      · split at h
        · subst h
          exact .invalid rfl
        · split at h
          · next hnobody hprevious =>
              subst h
              exact .done rfl hprevious hnobody
          · subst h
            exact .admitted rfl

section Admitting

variable (hheld : d.holder ≠ .nobody) (hengaged : d.holder.engaged = false)
include hheld hengaged

theorem handled_dismissWorker (endpoint : Endpoint) (reply : HttpReply) :
    Handled d (d.dismissWorker endpoint reply) :=
  .of_quiet hheld hengaged rfl ⟨[], by simp [dismissWorker], by simp⟩ rfl rfl

theorem handled_guarded (req : BatchRequest) (batchId : String) (saves : GuardSaves) :
    Handled d (d.guarded req batchId saves) := by
  generalize hgated : d.guarded req batchId saves = d'
  cases guarded_cases hgated with
  | _ => exact .of_quiet hheld hengaged rfl ⟨[], by simp [reject, nothingToRun], by simp⟩ rfl rfl

theorem handled_connected (endpoint : Endpoint) (holder : Holder) (id : String)
    (result : Except String Unit) : Handled d (d.connected endpoint holder id result) := by
  cases result with
  | error text =>
      refine .of_quiet hheld hengaged rfl ⟨[.factory false], rfl, ?_⟩ rfl rfl
      simp [DaemonEvent.isControl]
  | ok _ =>
      refine .of_quiet hheld hengaged rfl
        ⟨[.factory true, .requested (.ensureSession id)], ?_, ?_⟩ rfl rfl
      · simp [connected, emit]
      · simp [DaemonEvent.isControl]

theorem handled_ensured (endpoint : Endpoint) (holder : Holder) (next : Request) (reply : Reply) :
    Handled d (d.ensured endpoint holder next reply) := by
  unfold ensured
  split
  · exact handled_dismissWorker hheld hengaged _ _
  · split
    · refine .of_quiet hheld hengaged rfl ⟨[.requested next], rfl, ?_⟩ rfl rfl
      simp [DaemonEvent.isControl]
    · exact handled_dismissWorker hheld hengaged _ _

theorem handled_listed (a : Admission) (reply : Reply) :
    Handled d (d.listed toUppercase a reply) := by
  unfold listed
  split
  · exact handled_dismissWorker hheld hengaged _ _
  · split
    · dsimp only
      split
      · exact .of_quiet hheld hengaged rfl ⟨[], by simp, by simp⟩ rfl rfl
      · exact handled_dismissWorker hheld hengaged _ _
    · exact handled_dismissWorker hheld hengaged _ _

theorem handled_formRead (reply : Reply) : Handled d (d.formRead reply) := by
  unfold formRead
  split
  · exact handled_dismissWorker hheld hengaged _ _
  · split
    · exact handled_dismissWorker hheld hengaged _ _
    · exact handled_dismissWorker hheld hengaged _ _

end Admitting

/-- A step that leaves no controller behind. -/
theorem Handled.of_closed (hheld : d.holder ≠ .nobody) (hruns : d'.runs = d.runs)
    (hlog : d'.log = d.log) (hbusy : d'.state.busy = d.state.busy)
    (hcontrol : d'.state.control = none) : Handled d d' where
  runs := hruns
  log := ⟨[], by simp [hlog], by simp⟩
  governed := by
    intro h
    refine ⟨fun hfree => absurd (h.busy (hbusy.symm.trans hfree)) hheld, ?_⟩
    intro id hid
    simp [hcontrol] at hid

@[simp] theorem clearControl_control (state : DaemonState) :
    state.clearControl.control = none := rfl

@[simp] theorem clearControl_busy (state : DaemonState) :
    state.clearControl.busy = state.busy := rfl

theorem handled_spawned {a : Admission} (hholder : d.holder = .spawning a)
    (result : Except String Unit) : Handled d (d.spawned a result) := by
  have hheld : d.holder ≠ .nobody := by simp [hholder]
  cases result with
  | ok _ =>
      refine ⟨rfl, ⟨_, rfl, by simp [DaemonEvent.isControl]⟩, ?_⟩
      intro h
      exact ⟨fun hfree => absurd (h.busy hfree) hheld, fun id hid => ⟨rfl, (h.control id hid).2⟩⟩
  | error text =>
      -- The controls stay current until the drop of the lease, thread or no thread.
      refine ⟨rfl, ⟨[], by simp [spawned], by simp⟩, ?_⟩
      intro h
      exact ⟨fun hfree => absurd (h.busy hfree) hheld, fun id hid => ⟨rfl, (h.control id hid).2⟩⟩

/-- The thread goes on to the end only once `run` has returned. -/
theorem finish_cases (h : d.finish = some d') :
    ∃ run result, d.runs.getLast? = some run ∧ run.engine.pc = .returned result ∧
      d' = d.finished run result := by
  rcases Option.bind_eq_some_iff.1 h with ⟨run, hrun, hrest⟩
  split at hrest
  · next result hpc =>
      cases hrest
      exact ⟨run, result, hrun, hpc, rfl⟩
  · cases hrest

theorem handled_finish (hholder : d.holder = .running) (h : d.finish = some d') : Handled d d' := by
  have hheld : d.holder ≠ .nobody := by simp [hholder]
  rcases finish_cases h with ⟨run, result, -, -, rfl⟩
  cases result with
  | ok report => exact .of_closed hheld rfl rfl rfl rfl
  | error text => exact .of_closed hheld rfl rfl rfl rfl

theorem handled_release (answer : Answer) : Handled d (d.release answer) := by
  have hreleased : ∀ d' : Daemon, d'.holder = .nobody → d'.state.control = none → d'.Governed := by
    intro d' hholder hcontrol
    refine ⟨fun _ => hholder, ?_⟩
    intro id hid
    simp [hcontrol] at hid
  cases answer with
  | none => exact ⟨rfl, ⟨[], by simp [release], by simp⟩, fun _ => hreleased _ rfl rfl⟩
  | some answered =>
      exact ⟨rfl, ⟨_, rfl, by simp [DaemonEvent.isControl]⟩, fun _ => hreleased _ rfl rfl⟩

/-! ### All steps -/

/-- What comes of a captured request once it is served. -/
inductive Served (d : Daemon) (index : Nat) : Daemon → Prop
  | accepted {id : Nat} {run : DaemonRun} {c : ControlRequest} {control control' : BatchControl}
      (hcaptured : d.captured[index]? = some (id, c)) (hlock : d.lockHeld id = false)
      (hrun : d.runs[id]? = some run) (hcurrent : d.state.control = some id)
      (hcontrol : run.engine.control = some control)
      (hrequest : control.request c = .ok control') :
      Served d index
        ({ d with captured := d.captured.eraseIdx index }.accept id run c control')
  | refused {id : Nat} {c : ControlRequest} {text : String}
      (hcaptured : d.captured[index]? = some (id, c)) (hcurrent : d.state.control = some id) :
      Served d index ({ d with captured := d.captured.eraseIdx index }.emit
        (.controlled (some id) c (httpError 409 text)))
  | stale {id : Nat} {c : ControlRequest} (hcaptured : d.captured[index]? = some (id, c))
      (hstale : d.state.control ≠ some id) :
      Served d index ({ d with captured := d.captured.eraseIdx index }.emit
        (.controlled (some id) c (httpError 409 "batch is no longer controllable")))

theorem serve_cases {index : Nat} (h : d.serve index = some d') : d.Served index d' := by
  rcases Option.bind_eq_some_iff.1 h with ⟨⟨id, c⟩, hcaptured, hserved⟩
  unfold controlCaptured at hserved
  split at hserved
  · cases hserved
  · next hlock =>
      rcases Option.bind_eq_some_iff.1 hserved with ⟨run, hrun, hrest⟩
      rcases Option.map_eq_some_iff.1 hrest with ⟨control, hcontrol, rfl⟩
      split
      · -- Only here is a request put to the controller, and it may still refuse it.
        next hcurrent =>
          split
          · next control' hrequest =>
              exact .accepted hcaptured (Bool.eq_false_iff.2 hlock) hrun hcurrent hcontrol hrequest
          · exact .refused hcaptured hcurrent
      · next hstale => exact .stale hcaptured hstale

theorem publish_busy (state : DaemonState) (names : List TraineeInfo) (cp : BatchCheckpoint) :
    (state.publish names cp).busy = state.busy := by
  unfold DaemonState.publish
  dsimp only
  split <;> rfl

theorem publish_control (state : DaemonState) (names : List TraineeInfo) (cp : BatchCheckpoint) :
    (state.publish names cp).control = none ∨ (state.publish names cp).control = state.control := by
  unfold DaemonState.publish
  dsimp only
  split
  · exact Or.inl rfl
  · exact Or.inr rfl

/-- What the batch thread leaves of the daemon: its engine has taken a step, and what it has saved
is published. -/
theorem engineStep_cases {input : Input} (h : d.engineStep input = some d') :
    ∃ run engine, d.runs.getLast? = some run ∧ run.batch.step run.engine input = some engine ∧
      d' =
        { d with
          runs := d.runs.set (d.runs.length - 1) { run with engine := engine }
          store := engine.store
          state := match saved run input with
            | some cp => d.state.publish run.names cp
            | none => d.state } := by
  unfold engineStep at h
  split at h
  · cases h
  · rcases Option.bind_eq_some_iff.1 h with ⟨run, hrun, hrest⟩
    rcases Option.map_eq_some_iff.1 hrest with ⟨engine, hstep, rfl⟩
    exact ⟨run, engine, hrun, hstep, rfl⟩

theorem step_engineStep {input : Input} (hholder : d.holder = .running)
    (h : d.engineStep input = some d') : d.Step d' := by
  rcases engineStep_cases h with ⟨run, engine, hrun, hstep, rfl⟩
  split
  · exact .engine hholder hrun hstep (publish_busy _ _ _) (publish_control _ _ _)
  · exact .engine hholder hrun hstep rfl (Or.inr rfl)

/-- The branches of `Daemon.step` in their order: what anybody may do, then whose turn it is. -/
inductive Branch (toUppercase : String → String) (d : Daemon) : DaemonInput → Daemon → Prop
  | control (c : ControlRequest) : Branch toUppercase d (.control c) (d.applyControl c)
  | serve {index : Nat} {d' : Daemon} (h : d.serve index = some d') :
      Branch toUppercase d (.serve index) d'
  | post (req : BatchRequest) : Branch toUppercase d (.post req) (d.acquire .batch (.starting req))
  | getFormOptions : Branch toUppercase d .getFormOptions (d.acquire .formOptions .formConnecting)
  | guarded {req : BatchRequest} (hholder : d.holder = .starting req) (batchId : String)
      (saves : GuardSaves) :
      Branch toUppercase d (.guarded batchId saves) (d.guarded req batchId saves)
  | connected {a : Admission} (hholder : d.holder = .connecting a) (result : Except String Unit)
      (id : String) :
      Branch toUppercase d (.factory result id) (d.connected .batch (.ensuring a) id result)
  | ensured {a : Admission} (hholder : d.holder = .ensuring a) (reply : Reply) (id : String) :
      Branch toUppercase d (.reply reply id)
        (d.ensured .batch (.listing a) (.listTrainees id) reply)
  | listed {a : Admission} (hholder : d.holder = .listing a) (reply : Reply) (id : String) :
      Branch toUppercase d (.reply reply id) (d.listed toUppercase a reply)
  | launched {a : Admission} {resolved : List TraineeRef} {names : List TraineeInfo}
      (hholder : d.holder = .launching a resolved names) (now : String) :
      Branch toUppercase d (.clock now) (d.launch a resolved names now)
  | spawned {a : Admission} (hholder : d.holder = .spawning a) (result : Except String Unit) :
      Branch toUppercase d (.spawned result) (d.spawned a result)
  | engine (hholder : d.holder = .running) {input : Input} {d' : Daemon}
      (h : d.engineStep input = some d') : Branch toUppercase d (.engine input) d'
  | finished (hholder : d.holder = .running) {d' : Daemon} (h : d.finish = some d') :
      Branch toUppercase d .tick d'
  | unwound (hholder : d.holder = .running) :
      Branch toUppercase d .unwind { d with holder := .leaving none }
  | left {answer : Answer} (hholder : d.holder = .leaving answer) :
      Branch toUppercase d .tick
        { d with state := d.state.clearControl, holder := .tearingDown answer }
  | formConnected (hholder : d.holder = .formConnecting) (result : Except String Unit)
      (id : String) :
      Branch toUppercase d (.factory result id) (d.connected .formOptions .formEnsuring id result)
  | formEnsured (hholder : d.holder = .formEnsuring) (reply : Reply) (id : String) :
      Branch toUppercase d (.reply reply id)
        (d.ensured .formOptions .formReading (.getFormOptions id none) reply)
  | formRead (hholder : d.holder = .formReading) (reply : Reply) (id : String) :
      Branch toUppercase d (.reply reply id) (d.formRead reply)
  | tornDown {answer : Answer} (hholder : d.holder = .tearingDown answer) :
      Branch toUppercase d .tick { d with holder := .releasing answer }
  | released {answer : Answer} (hholder : d.holder = .releasing answer) :
      Branch toUppercase d .tick (d.release answer)

theorem branch_of_step {input : DaemonInput} (h : step toUppercase d input = some d') :
    Branch toUppercase d input d' := by
  unfold step at h
  split at h
  · cases h
    exact .control _
  · exact .serve h
  · cases h
    exact .post _
  · cases h
    exact .getFormOptions
  · next hholder =>
      cases h
      exact .guarded hholder _ _
  · next hholder =>
      cases h
      exact .connected hholder _ _
  · next hholder =>
      cases h
      exact .ensured hholder _ _
  · next hholder =>
      cases h
      exact .listed hholder _ _
  · next hholder =>
      cases h
      exact .launched hholder _
  · next hholder =>
      cases h
      exact .spawned hholder _
  · next hholder => exact .engine hholder h
  · next hholder => exact .finished hholder h
  · next hholder =>
      cases h
      exact .unwound hholder
  · next hholder =>
      cases h
      exact .left hholder
  · next hholder =>
      cases h
      exact .formConnected hholder _ _
  · next hholder =>
      cases h
      exact .formEnsured hholder _ _
  · next hholder =>
      cases h
      exact .formRead hholder _ _
  · next hholder =>
      cases h
      exact .tornDown hholder
  · next hholder =>
      cases h
      exact .released hholder
  · cases h

/-- Every step of the daemon is one of the listed kinds. -/
theorem step_cases {input : DaemonInput} (h : step toUppercase d input = some d') : d.Step d' := by
  cases branch_of_step h with
  | control c =>
      unfold applyControl
      split
      · next id hcontrol => exact .capture hcontrol
      · exact .refused
  | serve h =>
      cases serve_cases h with
      | accepted _ hlock hrun hcurrent hcontrol hrequest =>
          exact .accepted hlock hrun hcurrent hcontrol hrequest
      | refused => exact .refused
      | stale => exact .refused
  | post _ => exact .handled (handled_acquire _ _)
  | getFormOptions => exact .handled (handled_acquire _ _)
  | guarded hholder _ _ =>
      exact .handled (handled_guarded (by simp [hholder]) (by simp [hholder, Holder.engaged]) _ _ _)
  | connected hholder _ _ =>
      have hengaged : d.holder.engaged = false := by simp [hholder, Holder.engaged]
      exact .handled (handled_connected (by simp [hholder]) hengaged _ _ _ _)
  | ensured hholder _ _ =>
      have hengaged : d.holder.engaged = false := by simp [hholder, Holder.engaged]
      exact .handled (handled_ensured (by simp [hholder]) hengaged _ _ _ _)
  | listed hholder _ _ =>
      exact .handled (handled_listed (by simp [hholder]) (by simp [hholder, Holder.engaged]) _ _)
  | launched hholder _ => exact .launched hholder
  | spawned hholder _ => exact .handled (handled_spawned hholder _)
  | engine hholder h => exact step_engineStep hholder h
  | finished hholder h => exact .handled (handled_finish hholder h)
  | unwound hholder =>
      refine .handled ⟨rfl, ⟨[], by simp, by simp⟩, ?_⟩
      intro hgov
      exact ⟨fun hfree => absurd (hgov.busy hfree) (by simp [hholder]),
        fun id hid => ⟨rfl, (hgov.control id hid).2⟩⟩
  | left hholder => exact .handled (.of_closed (by simp [hholder]) rfl rfl rfl rfl)
  | formConnected hholder _ _ =>
      have hengaged : d.holder.engaged = false := by simp [hholder, Holder.engaged]
      exact .handled (handled_connected (by simp [hholder]) hengaged _ _ _ _)
  | formEnsured hholder _ _ =>
      have hengaged : d.holder.engaged = false := by simp [hholder, Holder.engaged]
      exact .handled (handled_ensured (by simp [hholder]) hengaged _ _ _ _)
  | formRead hholder _ _ =>
      exact .handled (handled_formRead (by simp [hholder]) (by simp [hholder, Holder.engaged]) _)
  | tornDown hholder =>
      exact .handled (.of_quiet (by simp [hholder]) (by simp [hholder, Holder.engaged]) rfl
        ⟨[], by simp, by simp⟩ rfl rfl)
  | released _ => exact .handled (handled_release _)

/-! ## What a step means for the batches -/

/-- Every batch is still there and its engine has run on, or stood still. -/
def Continues (d d' : Daemon) : Prop :=
  ∀ (id : Nat) (run : DaemonRun), d.runs[id]? = some run →
    ∃ run' : DaemonRun, d'.runs[id]? = some run' ∧ run'.batch = run.batch ∧
      Machine.Reaches run.batch.step run.engine run'.engine

theorem Continues.refl (d : Daemon) : Continues d d :=
  fun _ run hrun => ⟨run, hrun, rfl, Machine.Reaches.refl _⟩

theorem Continues.trans {d'' : Daemon} (h : Continues d d') (h' : Continues d' d'') :
    Continues d d'' := by
  intro id run hrun
  rcases h id run hrun with ⟨run', hrun', hbatch, hreaches⟩
  rcases h' id run' hrun' with ⟨run'', hrun'', hbatch', hreaches'⟩
  exact ⟨run'', hrun'', hbatch'.trans hbatch, hreaches.trans (hbatch ▸ hreaches')⟩

theorem Continues.of_eq (h : d'.runs = d.runs) : Continues d d' := by
  intro id run hrun
  exact ⟨run, by rw [h]; exact hrun, rfl, Machine.Reaches.refl _⟩

/-- One engine takes a step. -/
theorem Continues.of_set {id : Nat} {run : DaemonRun} {input : Input} {engine : Engine}
    (hrun : d.runs[id]? = some run) (hstep : run.batch.step run.engine input = some engine)
    (hruns : d'.runs = d.runs.set id { run with engine := engine }) : Continues d d' := by
  intro id' run' hrun'
  rw [hruns, List.getElem?_set]
  -- The batch that is set takes the step, every other stands still.
  by_cases hid : id = id'
  · subst hid
    have hsame : run = run' := Option.some.inj (hrun.symm.trans hrun')
    subst hsame
    have hlt : id < d.runs.length := (List.getElem?_eq_some_iff.1 hrun).1
    exact ⟨{ run with engine := engine }, by simp [hlt], rfl, Machine.Reaches.single hstep⟩
  · exact ⟨run', by simp [hid, hrun'], rfl, Machine.Reaches.refl _⟩

theorem getElem?_last {run : DaemonRun} (h : d.runs.getLast? = some run) :
    d.runs[d.runs.length - 1]? = some run := by
  rw [← List.getLast?_eq_getElem?]
  exact h

/-- Outside the moments at which an engine holds its lock, an accepted request is its next input. -/
theorem step_accepted {id : Nat} {run : DaemonRun} {c : ControlRequest}
    {control control' : BatchControl} (hgov : d.Governed) (hlock : d.lockHeld id = false)
    (hrun : d.runs[id]? = some run) (hcurrent : d.state.control = some id)
    (hcontrol : run.engine.control = some control) (hrequest : control.request c = .ok control') :
    run.batch.step run.engine (.request c) = some { run.engine with
      control := some control', log := run.engine.log ++ [.controlled c true] } := by
  rcases hgov.control id hcurrent with ⟨hengaged, hlast⟩
  have hfree : run.engine.lockHeld = false := by
    simpa [lockHeld, hengaged, hlast, hrun] using hlock
  simp [Batch.step, Engine.requested, hfree, hcontrol, hrequest]

theorem Step.continues (hgov : d.Governed) (h : d.Step d') : Continues d d' := by
  cases h with
  | handled h => exact .of_eq h.runs
  | capture _ => exact .of_eq rfl
  | refused => exact .of_eq rfl
  | accepted hlock hrun hcurrent hcontrol hrequest =>
      exact .of_set hrun (step_accepted hgov hlock hrun hcurrent hcontrol hrequest) rfl
  | engine _ hrun hstep _ _ => exact .of_set (getElem?_last hrun) hstep rfl
  | launched _ =>
      intro id run hrun
      have hlt : id < d.runs.length := (List.getElem?_eq_some_iff.1 hrun).1
      refine ⟨run, ?_, rfl, Machine.Reaches.refl _⟩
      simp only [launch]
      rw [List.getElem?_append_left hlt]
      exact hrun

theorem Step.governed (hgov : d.Governed) (h : d.Step d') : d'.Governed := by
  cases h with
  | handled h => exact h.governed hgov
  | capture _ => exact ⟨hgov.busy, hgov.control⟩
  | refused => exact ⟨hgov.busy, hgov.control⟩
  | accepted _ _ _ _ _ =>
      refine ⟨hgov.busy, ?_⟩
      intro id' hid
      rcases hgov.control id' hid with ⟨hengaged, hlast⟩
      exact ⟨hengaged, by simpa [accept, emit] using hlast⟩
  | engine hholder _ _ hbusy hcontrol =>
      refine ⟨fun hfree => hgov.busy (hbusy.symm.trans hfree), ?_⟩
      intro id hid
      rcases hcontrol with hnone | hsame
      · simp [hnone] at hid
      · rcases hgov.control id (hsame.symm.trans hid) with ⟨hengaged, hlast⟩
        exact ⟨hengaged, by simpa using hlast⟩
  -- The new controller belongs to the batch just appended.
  | launched hholder =>
      refine ⟨fun hfree => absurd (hgov.busy hfree) (by simp [hholder]), ?_⟩
      intro id hid
      have hid' : d.runs.length = id := Option.some.inj hid
      exact ⟨rfl, by simp [launch, ← hid']⟩

/-- Every batch of the daemon is a run of its engine. -/
structure Sound (d : Daemon) : Prop where
  governed : d.Governed
  reachable : ∀ (id : Nat) (run : DaemonRun), d.runs[id]? = some run →
    ∃ store, run.batch.Reachable store run.engine

theorem sound_start (store : CheckpointStore) : Sound (start store) where
  governed := ⟨fun _ => rfl, by simp [start]⟩
  reachable := by simp [start]

/-- Only a launch adds a batch, and it adds one at its start. -/
theorem Step.added (h : d.Step d') {id : Nat} {run' : DaemonRun} (hnew : d.runs[id]? = none)
    (hrun' : d'.runs[id]? = some run') : ∃ store, run'.batch.Reachable store run'.engine := by
  have hout : d.runs.length ≤ id := List.getElem?_eq_none_iff.1 hnew
  cases h with
  | handled h =>
      rw [h.runs, hnew] at hrun'
      cases hrun'
  | capture _ =>
      rw [hnew] at hrun'
      cases hrun'
  | refused =>
      have hsame : d.runs[id]? = some run' := hrun'
      simp [hnew] at hsame
  | @accepted _ id' _ _ _ _ _ hrun _ _ _ =>
      have hlt := (List.getElem?_eq_some_iff.1 hrun').1
      have hlength : id < d.runs.length := by simpa [accept, emit] using hlt
      omega
  | engine _ _ _ _ _ =>
      have hlt := (List.getElem?_eq_some_iff.1 hrun').1
      have hlength : id < d.runs.length := by simpa using hlt
      omega
  | launched _ =>
      simp only [launch] at hrun'
      rw [List.getElem?_append_right hout] at hrun'
      -- The index is the first one past the old batches.
      have hfirst : id - d.runs.length = 0 := by
        have hlt := (List.getElem?_eq_some_iff.1 hrun').1
        simpa using hlt
      rw [hfirst] at hrun'
      cases hrun'
      exact ⟨d.store, some {}, Or.inr rfl, Machine.Reaches.refl _⟩

theorem Sound.step (h : Sound d) (hstep : d.Step d') : Sound d' where
  governed := hstep.governed h.governed
  reachable := by
    intro id run' hrun'
    cases hrun : d.runs[id]? with
    | none => exact hstep.added hrun hrun'
    | some run =>
        rcases h.reachable id run hrun with ⟨store, control, hcontrol, hreaches⟩
        -- An old batch runs on from where it was.
        rcases hstep.continues h.governed id run hrun with ⟨run'', hrun'', hbatch, hon⟩
        have hsame : run'' = run' := Option.some.inj (hrun''.symm.trans hrun')
        rw [← hsame, hbatch]
        exact ⟨store, control, hcontrol, hreaches.trans hon⟩

theorem Reachable.sound {store : CheckpointStore} (h : Reachable toUppercase store d) : Sound d :=
  Machine.Reaches.invariant (fun _ _ _ hs hstep => hs.step (step_cases hstep)) (sound_start store) h

/-! ## Answers to control requests -/

/-- The batch of this controller is the last one launched, and not yet being torn down. -/
def Current (d : Daemon) (id : Nat) : Prop :=
  d.holder.engaged = true ∧ id + 1 = d.runs.length

/-- A control request is refused, and nothing else happens, or it is accepted by the controller of
the current batch, whose engine takes it as its next input. -/
theorem Step.answered {captured : Option Nat} {c : ControlRequest} {reply : HttpReply}
    (h : d.Step d') (hlog : d'.log = d.log ++ [.controlled captured c reply]) :
    (reply.code = 409 ∧ d'.state = d.state ∧ d'.runs = d.runs) ∨
      (reply.code = 200 ∧ ∃ id run control control', captured = some id ∧
        d.runs[id]? = some run ∧ run.engine.control = some control ∧
        control.request c = .ok control' ∧
        d'.runs = d.runs.set id { run with engine := { run.engine with
          control := some control', log := run.engine.log ++ [.controlled c true] } }) := by
  have hsilent : d'.log ≠ d.log := by
    rw [hlog]
    simp
  cases h with
  | handled h =>
      rcases h.log with ⟨events, hevents, hnot⟩
      have hsame := List.append_cancel_left (hevents.symm.trans hlog)
      -- A handled step logs no answer to a control.
      have hcontrol := hnot (.controlled captured c reply) (by simp [hsame])
      cases hcontrol
  | capture _ => exact absurd rfl hsilent
  | refused =>
      have hsame := List.append_cancel_left (hlog : d.log ++ [_] = _)
      cases hsame
      exact Or.inl ⟨rfl, rfl, rfl⟩
  | @accepted _ id run c' control control' _ hrun _ hcontrol hrequest =>
      have hsame := List.append_cancel_left (hlog : d.log ++ [_] = _)
      cases hsame
      exact Or.inr ⟨rfl, id, run, control, control', rfl, hrun, hcontrol, hrequest, rfl⟩
  | engine _ _ _ _ _ => exact absurd rfl hsilent
  | launched _ => exact absurd rfl hsilent

/-- Once a batch is stopped, its pauses and resumes are refused. -/
theorem Step.refuses (h : d.Step d') :
    ∃ events, d'.log = d.log ++ events ∧
      ∀ (id : Nat) (run : DaemonRun) c reply, .controlled (some id) c reply ∈ events →
        d.runs[id]? = some run → run.engine.stopRequested = true → c ≠ .stop →
          reply.code = 409 := by
  cases h with
  | handled h =>
      rcases h.log with ⟨events, hevents, hnot⟩
      refine ⟨events, hevents, ?_⟩
      intro id run c reply hmem _ _ _
      cases hnot _ hmem
  | capture _ => exact ⟨[], by simp, by simp⟩
  | refused =>
      refine ⟨_, rfl, ?_⟩
      intro id run c reply hmem _ _ _
      cases List.mem_singleton.1 hmem
      rfl
  | @accepted _ id run c control control' _ hrun _ hcontrol hrequest =>
      refine ⟨_, rfl, ?_⟩
      intro id' run' c' reply hmem hrun' hstop hne
      cases List.mem_singleton.1 hmem
      have hsame : run = run' := Option.some.inj (hrun.symm.trans hrun')
      subst hsame
      -- The controller of a stopped batch accepts nothing but another stop.
      have hset : control.stopRequested = true := by
        simpa [Engine.stopRequested, hcontrol] using hstop
      exact absurd ((BatchControl.request_ok hrequest).2.2.1 hset) hne
  | engine _ _ _ _ _ => exact ⟨[], by simp, by simp⟩
  | launched _ => exact ⟨[], by simp [launch], by simp⟩

/-- What holds of a batch from the answer to its stop, at `d`, until any later moment. -/
structure StoppedSince (id : Nat) (d d' : Daemon) : Prop where
  /-- Nothing more is admitted, the rows stay, and the run ends in an error or aborted. -/
  engine : ∀ run : DaemonRun, d.runs[id]? = some run → ∃ run' : DaemonRun,
    d'.runs[id]? = some run' ∧ Onward EngineEvent.allowedAfterStop run.engine run'.engine ∧
      EndsStopped run'.engine
  refused : ∃ later, d'.log = d.log ++ later ∧
    ∀ c reply, .controlled (some id) c reply ∈ later → c ≠ .stop → reply.code = 409

theorem Sound.stoppedSince (h : Sound d) {id : Nat} {run : DaemonRun}
    (hrun : d.runs[id]? = some run) (hstop : run.engine.stopRequested = true)
    (hreaches : Machine.Reaches (Daemon.step toUppercase) d d') : StoppedSince id d d' := by
  have hall : Sound d' ∧ Continues d d' ∧ ∃ later, d'.log = d.log ++ later ∧
      ∀ c reply, .controlled (some id) c reply ∈ later → c ≠ .stop → reply.code = 409 := by
    refine hreaches.invariant (P := fun x => Sound x ∧ Continues d x ∧ ∃ later,
      x.log = d.log ++ later ∧ ∀ c reply, .controlled (some id) c reply ∈ later → c ≠ .stop →
        reply.code = 409) ?_ ⟨h, .refl d, [], by simp, by simp⟩
    rintro x input x' ⟨hsound, hon, later, hlater, hrefused⟩ hinput
    have hstep := step_cases hinput
    rcases hon id run hrun with ⟨run', hrun', -, hreaches'⟩
    -- The latch is set in every state in between.
    have hset := (Batch.onward_of_stop hstop hreaches').stop hstop
    rcases hstep.refuses with ⟨events, hevents, hrefuses⟩
    refine ⟨hsound.step hstep, hon.trans (hstep.continues hsound.governed), later ++ events, ?_, ?_⟩
    · rw [hevents, hlater, List.append_assoc]
    · intro c reply hmem hne
      rcases List.mem_append.1 hmem with hmem | hmem
      · exact hrefused c reply hmem hne
      · exact hrefuses id run' c reply hmem hrun' hset hne
  rcases hall with ⟨hsound, hon, hrefused⟩
  refine ⟨?_, hrefused⟩
  intro run₀ hrun₀
  have hsame : run = run₀ := Option.some.inj (hrun.symm.trans hrun₀)
  subst hsame
  rcases hon id run hrun with ⟨run', hrun', hbatch, hreaches'⟩
  rcases hsound.reachable id run' hrun' with ⟨store, hreachable⟩
  have honward := Batch.onward_of_stop hstop hreaches'
  exact ⟨run', hrun', honward, hreachable.endsStopped (honward.stop hstop)⟩

/-- A request whose controller is not the current one is refused and changes nothing. -/
theorem Sound.stale (h : Sound d) {index id : Nat} {c : ControlRequest}
    (hcaptured : d.captured[index]? = some (id, c)) (hstale : ¬d.Current id)
    (hserved : d.serve index = some d') :
    d'.log = d.log ++ [.controlled (some id) c (httpError 409 "batch is no longer controllable")] ∧
      d'.state = d.state ∧ d'.runs = d.runs := by
  have hnot : d.state.control ≠ some id := fun hcontrol => hstale (h.governed.control id hcontrol)
  -- Whatever is served under this index is this request.
  cases serve_cases hserved with
  | accepted hcaptured' _ _ hcurrent _ _ =>
      rw [hcaptured] at hcaptured'
      cases hcaptured'
      exact absurd hcurrent hnot
  | refused hcaptured' hcurrent =>
      rw [hcaptured] at hcaptured'
      cases hcaptured'
      exact absurd hcurrent hnot
  | stale hcaptured' _ =>
      rw [hcaptured] at hcaptured'
      cases hcaptured'
      exact ⟨rfl, rfl, rfl⟩

/-- A stop that was answered 200 is a latch for its batch, however control requests, the batch
thread and other batches interleave. A control request that was answered 409 changes nothing, and
one that captured an older controller is answered so. -/
theorem stop_is_a_latch {store : CheckpointStore} (h : Reachable toUppercase store d) :
    (∀ input d₁ id shown, step toUppercase d input = some d₁ →
      d₁.log = d.log ++ [.controlled (some id) .stop { code := 200, body := shown }] →
        ∀ d₂, Machine.Reaches (step toUppercase) d₁ d₂ → StoppedSince id d₁ d₂) ∧
    (∀ input d₁ captured c body, step toUppercase d input = some d₁ →
      d₁.log = d.log ++ [.controlled captured c { code := 409, body := body }] →
        d₁.state = d.state ∧ d₁.runs = d.runs) ∧
    (∀ index d₁ id c, step toUppercase d (.serve index) = some d₁ →
      d.captured[index]? = some (id, c) → ¬d.Current id →
        (∃ text, d₁.log = d.log ++ [.controlled (some id) c (httpError 409 text)]) ∧
          d₁.state = d.state ∧ d₁.runs = d.runs) := by
  refine ⟨?_, ?_, ?_⟩
  · intro input d₁ id shown hinput hlog d₂ hreaches
    have hstep := step_cases hinput
    rcases hstep.answered hlog with
      ⟨hcode, -, -⟩ | ⟨-, id', run, control, control', hid, hrun, hcontrol, hrequest, hruns⟩
    · cases hcode
    · cases hid
      have hlt : id < d.runs.length := (List.getElem?_eq_some_iff.1 hrun).1
      have hrun' : d₁.runs[id]? = some { run with engine := { run.engine with
          control := some control', log := run.engine.log ++ [.controlled .stop true] } } := by
        rw [hruns]
        simp [hlt]
      -- The stop that was answered 200 has set the latch of its batch.
      have hset : control'.stopRequested = true := by
        simpa using (BatchControl.request_ok hrequest).2.2.2
      exact (h.sound.step hstep).stoppedSince hrun' (by simpa [Engine.stopRequested] using hset)
        hreaches
  · intro input d₁ captured c body hinput hlog
    rcases (step_cases hinput).answered hlog with ⟨-, hstate, hruns⟩ | ⟨hcode, -⟩
    · exact ⟨hstate, hruns⟩
    · cases hcode
  · intro index d₁ id c hserve hcaptured hstale
    have hserved : d.serve index = some d₁ := by simpa [step] using hserve
    rcases h.sound.stale hcaptured hstale hserved with ⟨hlog, hstate, hruns⟩
    exact ⟨⟨_, hlog⟩, hstate, hruns⟩

/-! ### A stop of the second batch, and a pause meant for the first -/

def pairRequest (resume : Bool) : BatchRequest :=
  { trainees := pairBatch.trainees, session := pairBatch.session, resume := resume }

def admissionInputs (resume : Bool) : List DaemonInput :=
  [.post (pairRequest resume), .guarded "batch" {}, .factory (.ok ()) "a",
    .reply (.ok { status := .ok }) "b",
    .reply (.ok { status := .ok, trainees := some (BatchRun.portalOf ["7", "8"]) }) "c",
    .clock "0", .spawned (.ok ())]

/-- A pause and a stop of the first batch are captured, and only the stop is served before the batch
ends. The second resumes it, and is asked to stop while its first trainee is being submitted. -/
def latchInputs : List DaemonInput :=
  admissionInputs false ++
    [.control .pause, .control .stop, .serve 1, .engine (.newId "d"),
      .engine (.reply (.ok { status := .ok })), .engine .tick, .engine (.write "1" (.ok ())),
      .engine .tick, .engine (.write "2" (.ok ())), .engine (.clock "3"), .tick, .tick, .tick,
      .tick] ++
    admissionInputs true ++
    [.engine (.newId "e"), .engine (.reply (.ok { status := .ok })), .engine .tick, .engine .tick,
      .engine (.write "4" (.ok ())), .engine (.newId "job"), .engine .tick, .engine .tick,
      .control .stop]

def latchStart : Daemon :=
  start pairStore

def latchState : Daemon :=
  (Machine.run (step id) latchStart latchInputs).getD latchStart

theorem latchState_reachable : Reachable id pairStore latchState :=
  ⟨latchInputs, rfl⟩

def latchStale : Daemon :=
  (step id latchState (.serve 0)).getD latchState

def latchStopped : Daemon :=
  (step id latchState (.serve 1)).getD latchState

/-- The trainee in flight is confirmed, its settlement write fails, and the stop takes effect. -/
def latchRest : List DaemonInput :=
  [.engine (.reply (.ok pairConfirmed)), .engine (.write "5" (.error "disk full")), .engine .tick,
    .engine .tick, .engine (.write "6" (.ok ())), .engine .tick, .engine (.write "7" (.ok ())),
    .engine (.clock "8"), .tick]

def latchEnd : Daemon :=
  (Machine.run (step id) latchStopped latchRest).getD latchStopped

theorem stop_is_a_latch_for_the_pair :
    StoppedSince 1 latchStopped latchEnd ∧
      latchEnd.runs.map (fun run => run.engine.results.map (·.outcome)) =
        [[.skipped, .skipped], [.success, .skipped]] ∧
      latchEnd.state.report.map (·.aborted) = some true ∧
      (latchStale.state = latchState.state ∧ latchStale.runs = latchState.runs) ∧
      ∃ text, latchStale.log =
        latchState.log ++ [.controlled (some 0) .pause (httpError 409 text)] := by
  have hall := stop_is_a_latch latchState_reachable
  have hlatched : StoppedSince 1 latchStopped latchEnd :=
    hall.1 (.serve 1) latchStopped 1 _ rfl rfl latchEnd ⟨latchRest, rfl⟩
  have hstale : ¬latchState.Current 0 := by
    rintro ⟨-, hlast⟩
    have htwo : latchState.runs.length = 2 := rfl
    omega
  have hunchanged : latchStale.state = latchState.state ∧ latchStale.runs = latchState.runs :=
    hall.2.1 (.serve 0) latchStale (some 0) .pause _ rfl rfl
  exact ⟨hlatched, rfl, rfl, hunchanged, (hall.2.2 0 latchStale 0 .pause rfl rfl hstale).1⟩

end Daemon

end DsspBot

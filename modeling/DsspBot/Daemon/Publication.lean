import DsspBot.Daemon.Admission
import DsspBot.Engine.Boundary

/-!
# Publication — the file first, the status after it

The sink of a batch thread saves a checkpoint and only then takes the daemon's lock to publish it.
In between, a control request may be served, the status may be read, a request may be turned away,
and the thread may unwind. `Publishing` is the daemon with that window open.
-/

namespace DsspBot

structure Publishing where
  daemon : Daemon
  /-- Saved by the batch thread, which has still to publish it. -/
  unpublished : Option BatchCheckpoint := none
  /-- What the batch launched last has saved, in order. -/
  saved : List BatchCheckpoint := []

inductive PublishingInput
  | save (now : String)
  | publish
  | other (input : DaemonInput)

namespace Publishing

variable (p : Publishing)

/-- Left to the daemon as it is: no save, and nothing of a thread that has still to publish. -/
def passes : DaemonInput → Bool
  | .engine (.write _ (.ok _)) => false
  | .engine _ => p.unpublished.isNone
  | _ => true

/-- A batch that was just launched has saved nothing. -/
def after (d : Daemon) : Publishing :=
  if d.runs.length = p.daemon.runs.length then { p with daemon := d } else { daemon := d }

/-- The first half of `Sink::write`: the store has the checkpoint, the status has not. -/
def save (now : String) : Option Publishing :=
  match p.daemon.holder, p.unpublished with
  | .running, none =>
      p.daemon.runs.getLast?.bind fun run =>
        (Daemon.saved run (.write now (.ok ()))).map fun cp =>
          { daemon := { p.daemon with store := p.daemon.store.save cp (.ok ()) }
            unpublished := some cp
            saved := p.saved ++ [cp] }
  | _, _ => none

/-- The second half: the lock is taken, and the engine goes on from its write. -/
def publish (toUppercase : String → String) : Option Publishing :=
  match p.daemon.holder, p.unpublished with
  | .running, some cp =>
      (p.daemon.step toUppercase (.engine (.write cp.updatedAt (.ok ())))).map fun d =>
        { p with daemon := d, unpublished := none }
  | _, _ => none

def step (toUppercase : String → String) (p : Publishing) : PublishingInput → Option Publishing
  | .save now => p.save now
  | .publish => p.publish toUppercase
  | .other input =>
      if p.passes input then (p.daemon.step toUppercase input).map p.after else none

def start (store : CheckpointStore) : Publishing :=
  { daemon := Daemon.start store }

def Reachable (toUppercase : String → String) (store : CheckpointStore) (p : Publishing) : Prop :=
  Machine.Reaches (step toUppercase) (start store) p

end Publishing

/-! ## A write that landed -/

namespace Daemon

variable {toUppercase : String → String} {d d' : Daemon}

/-- The daemon after a checkpoint was saved and published. -/
def published (d : Daemon) (run : DaemonRun) (site : WriteSite) (now : String) : Daemon :=
  let engine := run.batch.wrote run.engine site now (.ok ())
  { d with
    runs := d.runs.set (d.runs.length - 1) { run with engine := engine }
    store := engine.store
    state := d.state.publish run.names (run.batch.snapshot run.engine site now) }

theorem step_of_write (toUppercase : String → String) {run : DaemonRun} {site : WriteSite}
    (hholder : d.holder = .running)
    (hrun : d.runs.getLast? = some run) (hpc : run.engine.pc = .writing site) (now : String) :
    d.step toUppercase (.engine (.write now (.ok ()))) = some (d.published run site now) := by
  have hstep : run.batch.step run.engine (.write now (.ok ())) =
      some (run.batch.wrote run.engine site now (.ok ())) := by
    simp [Batch.step, hpc]
  simp [step, hholder, engineStep, hrun, hstep, saved, hpc, published]

theorem write_of_step {now : String}
    (h : d.step toUppercase (.engine (.write now (.ok ()))) = some d') :
    d.holder = .running ∧ ∃ run site, d.runs.getLast? = some run ∧
      run.engine.pc = .writing site ∧ d' = d.published run site now := by
  have hholder : d.holder = .running := by
    cases hheld : d.holder with
    | running => rfl
    | _ => simp [step, hheld] at h
  refine ⟨hholder, ?_⟩
  have hengine : d.engineStep (.write now (.ok ())) = some d' := by
    simpa [step, hholder] using h
  rcases engineStep_cases hengine with ⟨run, engine, hrun, hstep, -⟩
  -- The engine takes the input at a write only.
  cases hpc : run.engine.pc with
  | writing site =>
      have hpublished := step_of_write toUppercase hholder hrun hpc now
      exact ⟨run, site, hrun, hpc, Option.some.inj (h.symm.trans hpublished)⟩
  | _ => simp [Batch.step, hpc] at hstep

end Daemon

/-! ## The daemon is one of its runs -/

namespace Publishing

variable {toUppercase : String → String} {d d' : Daemon}

theorem publish_of_step {p : Publishing} {cp : BatchCheckpoint}
    (hholder : p.daemon.holder = .running) (hcp : p.unpublished = some cp)
    (h : p.daemon.step toUppercase (.engine (.write cp.updatedAt (.ok ()))) = some d) :
    p.step toUppercase .publish = some { p with daemon := d, unpublished := none } := by
  simp [step, publish, hholder, hcp, h]

/-- Left to itself, a batch thread publishes what it has just saved. -/
theorem save_and_publish {run : DaemonRun} {site : WriteSite} (hholder : d.holder = .running)
    (hrun : d.runs.getLast? = some run) (hpc : run.engine.pc = .writing site) (now : String)
    (saved : List BatchCheckpoint) :
    Machine.Reaches (step toUppercase) { daemon := d, saved := saved }
      { daemon := d.published run site now
        saved := saved ++ [run.batch.snapshot run.engine site now] } := by
  have hsave : step toUppercase { daemon := d, saved := saved } (.save now) =
      some
        { daemon := { d with
            store := d.store.save (run.batch.snapshot run.engine site now) (.ok ()) }
          unpublished := some (run.batch.snapshot run.engine site now)
          saved := saved ++ [run.batch.snapshot run.engine site now] } := by
    simp [step, save, hholder, hrun, Daemon.saved, hpc]
  have hpublish := Daemon.step_of_write toUppercase
    (d := { d with store := d.store.save (run.batch.snapshot run.engine site now) (.ok ()) })
    hholder hrun hpc now
  exact (Machine.Reaches.single hsave).tail (publish_of_step hholder rfl hpublish)

/-- A step of the daemon, for which a save and its publication are one step, is a step or two here,
with nothing in between. -/
theorem of_daemon_step {input : DaemonInput} (h : d.step toUppercase input = some d')
    (saved : List BatchCheckpoint) : ∃ saved', Machine.Reaches (step toUppercase)
      { daemon := d, saved := saved } { daemon := d', saved := saved' } := by
  by_cases hpasses : passes { daemon := d, saved := saved } input = true
  · refine ⟨(after { daemon := d, saved := saved } d').saved, Machine.Reaches.single
      (i := .other input) ?_⟩
    have hafter : after { daemon := d, saved := saved } d' =
        { daemon := d', saved := (after { daemon := d, saved := saved } d').saved } := by
      unfold after
      split
      · rfl
      · rfl
    rw [← hafter]
    simp [step, hpasses, h]
  · -- What is not passed on is a write that landed.
    cases input with
    | engine input =>
        cases input with
        | write now result =>
            cases result with
            | error text => exact absurd rfl hpasses
            | ok done =>
                rcases Daemon.write_of_step h with ⟨hholder, run, site, hrun, hpc, rfl⟩
                exact ⟨_, save_and_publish hholder hrun hpc now saved⟩
        | _ => exact absurd rfl hpasses
    | _ => exact absurd rfl hpasses

/-- Every run of the daemon is one of these. -/
theorem of_daemon {store : CheckpointStore} (h : Daemon.Reachable toUppercase store d) :
    ∃ saved, Reachable toUppercase store { daemon := d, saved := saved } := by
  refine Machine.Reaches.invariant (P := fun x => ∃ saved,
    Reachable toUppercase store { daemon := x, saved := saved }) ?_
      ⟨[], Machine.Reaches.refl _⟩ h
  rintro x input x' ⟨saved, hreaches⟩ hstep
  rcases of_daemon_step hstep saved with ⟨saved', hmore⟩
  exact ⟨saved', hreaches.trans hmore⟩

end Publishing

/-! ## What a step of the daemon means for the status -/

/-- The batch launched last has its thread, or is about to. -/
def Holder.atWork : Holder → Bool
  | .spawning _ => true
  | .running => true
  | _ => false

namespace Daemon

/-- How a batch thread comes to run, and what may happen while it is there. -/
inductive Working (d : Daemon) (input : DaemonInput) (d' : Daemon) : Prop
  | launched {a : Admission} {resolved : List TraineeRef} {names : List TraineeInfo} {now : String}
      (hlaunched : d' = d.launch a resolved names now)
  | began {a : Admission} (hholder : d.holder = .spawning a) (hholder' : d'.holder = .running)
      (hruns : d'.runs = d.runs)
  | quiet (hholder : d'.holder = d.holder) (hruns : d'.runs = d.runs)
      (hprogress : d'.state.progress = d.state.progress)
  | controlled {id : Nat} {run : DaemonRun} {c : ControlRequest} {control : BatchControl}
      (hholder : d'.holder = d.holder) (hrun : d.runs[id]? = some run)
      (hruns : d'.runs = d.runs.set id { run with engine := { run.engine with
        control := some control, log := run.engine.log ++ [.controlled c true] } })
      (hprogress : d'.state.progress = d.state.progress.command c)
  | moved {i : Input} {run : DaemonRun} {engine : Engine} (hrunning : d.holder = .running)
      (hholder : d'.holder = .running) (hinput : input = .engine i)
      (hrun : d.runs.getLast? = some run) (hstep : run.batch.step run.engine i = some engine)
      (hruns : d'.runs = d.runs.set (d.runs.length - 1) { run with engine := engine })
      (hstate : d'.state = match saved run i with
        | some cp => d.state.publish run.names cp
        | none => d.state)

variable {toUppercase : String → String} {d d' : Daemon}

theorem working_acquire {input : DaemonInput} {endpoint : Endpoint} {holder : Holder}
    (hnot : holder.atWork = false) (hwork : (d.acquire endpoint holder).holder.atWork = true) :
    Working d input (d.acquire endpoint holder) := by
  by_cases hbusy : d.state.busy = true
  · rw [acquire_of_busy hbusy] at *
    exact .quiet rfl rfl rfl
  · -- A slot that was free is not given to a batch thread.
    have hgiven : (d.acquire endpoint holder).holder = holder := by
      unfold acquire
      rw [if_neg hbusy]
    rw [hgiven, hnot] at hwork
    cases hwork

theorem working_serve {index : Nat} {input : DaemonInput} (h : d.serve index = some d') :
    Working d input d' := by
  cases serve_cases h with
  | accepted _ _ hrun _ _ _ => exact .controlled rfl hrun rfl rfl
  | refused => exact .quiet rfl rfl rfl
  | stale => exact .quiet rfl rfl rfl

theorem working_engineStep {i : Input} (hholder : d.holder = .running)
    (h : d.engineStep i = some d') : Working d (.engine i) d' := by
  rcases engineStep_cases h with ⟨run, engine, hrun, hstep, rfl⟩
  exact .moved hholder hholder rfl hrun hstep rfl rfl

theorem guarded_not_atWork (req : BatchRequest) (batchId : String) (saves : GuardSaves) :
    (d.guarded req batchId saves).holder.atWork = false := by
  generalize hgated : d.guarded req batchId saves = d'
  cases guarded_cases hgated with
  | _ => rfl

theorem connected_not_atWork {endpoint : Endpoint} {holder : Holder}
    (hnot : holder.atWork = false) (id : String) (result : Except String Unit) :
    (d.connected endpoint holder id result).holder.atWork = false := by
  cases result with
  | error text => rfl
  | ok _ => exact hnot

theorem ensured_not_atWork {endpoint : Endpoint} {holder : Holder} (hnot : holder.atWork = false)
    (next : Request) (reply : Reply) :
    (d.ensured endpoint holder next reply).holder.atWork = false := by
  unfold ensured
  split
  · rfl
  · split
    · exact hnot
    · rfl

theorem listed_not_atWork (a : Admission) (reply : Reply) :
    (d.listed toUppercase a reply).holder.atWork = false := by
  unfold listed
  split
  · rfl
  · split
    · dsimp only
      split
      · rfl
      · rfl
    · rfl

theorem formRead_not_atWork (reply : Reply) : (d.formRead reply).holder.atWork = false := by
  unfold formRead
  split
  · rfl
  · split
    · rfl
    · rfl

/-- While a batch thread is there, its own steps and the accepted control requests are all that
changes the batches or the status. -/
theorem working_of_step {input : DaemonInput} (h : step toUppercase d input = some d')
    (hwork : d'.holder.atWork = true) : Working d input d' := by
  have hnot : ∀ {holder : Holder}, holder.atWork = false → d'.holder = holder →
      Working d input d' := by
    intro holder hidle hsame
    rw [hsame, hidle] at hwork
    cases hwork
  cases branch_of_step h with
  | control c =>
      unfold applyControl
      split
      · exact .quiet rfl rfl rfl
      · exact .quiet rfl rfl rfl
  | serve h => exact working_serve h
  | post _ => exact working_acquire rfl hwork
  | getFormOptions => exact working_acquire rfl hwork
  | guarded _ _ _ => exact hnot (guarded_not_atWork _ _ _) rfl
  | connected _ _ _ => exact hnot (connected_not_atWork rfl _ _) rfl
  | ensured _ _ _ => exact hnot (ensured_not_atWork rfl _ _) rfl
  | listed _ _ _ => exact hnot (listed_not_atWork _ _) rfl
  | launched _ _ => exact .launched rfl
  | spawned hholder result =>
      cases result with
      | ok _ => exact .began hholder rfl rfl
      | error text => cases hwork
  | engine hholder h => exact working_engineStep hholder h
  | finished _ h => exact hnot rfl (finish_keeps h).1
  | unwound _ => cases hwork
  | left _ => cases hwork
  | formConnected _ _ _ => exact hnot (connected_not_atWork rfl _ _) rfl
  | formEnsured _ _ _ => exact hnot (ensured_not_atWork rfl _ _) rfl
  | formRead _ _ _ => exact hnot (formRead_not_atWork _) rfl
  | tornDown _ => cases hwork
  | released _ => exact hnot rfl (release_holder _)

end Daemon

/-! ## What a step of the engine saves -/

section Saves

variable {b : Batch} {e e' : Engine}

theorem savedIn_eq (e : Engine) :
    savedIn e.log = e.writes.filterMap fun w => if w.2 then some w.1 else none := by
  unfold savedIn Engine.writes
  rw [List.filterMap_filterMap]
  apply List.filterMap_congr
  intro ev _
  cases ev with
  | wrote cp landed => cases landed <;> rfl
  | _ => rfl

/-- The inputs that let a write land. -/
def Input.lands : Input → Bool
  | .write _ (.ok _) => true
  | _ => false

theorem writes_of_request {c : ControlRequest} (h : b.step e (.request c) = some e') :
    e'.writes = e.writes := by
  have hrequested : e.requested c = some e' := by simpa [Batch.step] using h
  unfold Engine.requested at hrequested
  split at hrequested
  · cases hrequested
  · rcases Option.map_eq_some_iff.1 hrequested with ⟨control, -, rfl⟩
    split
    · exact Engine.writes_of_unwritten rfl rfl
    · exact Engine.writes_of_unwritten rfl rfl

theorem savedIn_of_landed {site : WriteSite} (now : String) :
    savedIn (b.wrote e site now (.ok ())).log = savedIn e.log ++ [b.snapshot e site now] := by
  rw [savedIn_eq, savedIn_eq]
  unfold Batch.wrote
  simp only
  rw [b.writes_of_landed]
  simp

theorem savedIn_of_step {i : Input} (h : b.step e i = some e') (hnot : i.lands = false) :
    savedIn e'.log = savedIn e.log := by
  have hsame : e'.writes = e.writes ∨ ∃ cp, e'.writes = e.writes ++ [(cp, false)] := by
    cases (Batch.step_cases h).wrote with
    | nothing hwrites => exact Or.inl hwrites
    | failed _ hwrites _ => exact Or.inr ⟨_, hwrites⟩
    | @landed site now hpc hwrites _ =>
        -- At a write the engine takes a result, and this one was no success.
        cases i with
        | write now' result =>
            cases result with
            | ok done => cases hnot
            | error text =>
                have heq : e' = b.wrote e site now' (.error text) := by
                  simpa [Batch.step, hpc] using h.symm
                refine Or.inr ⟨b.snapshot e site now', ?_⟩
                rw [heq]
                exact b.writes_of_failed e site now' text
        | request c => exact Or.inl (writes_of_request h)
        | _ => simp [Batch.step, hpc] at h
  rw [savedIn_eq, savedIn_eq]
  rcases hsame with hwrites | ⟨cp, hwrites⟩
  · rw [hwrites]
  · rw [hwrites]
    simp

end Saves

/-! ## The status -/

/-- Apart from the flags of a control request, the status says what the checkpoint says. -/
def Progress.Shows (shown : Progress) (names : List TraineeInfo) (cp : BatchCheckpoint) : Prop :=
  { shown with pauseRequested := false, stopRequested := false } =
    progressOf (phaseOf cp) cp.total cp.results ((cp.inFlight.bind (findById names)).map (·.name))

theorem shows_publish (state : DaemonState) (names : List TraineeInfo) (cp : BatchCheckpoint) :
    (state.publish names cp).progress.Shows names cp := by
  unfold DaemonState.publish Progress.Shows
  dsimp only
  split
  · rfl
  · rfl

theorem Progress.Shows.command {shown : Progress} {names : List TraineeInfo} {cp : BatchCheckpoint}
    (h : shown.Shows names cp) (c : ControlRequest) : (shown.command c).Shows names cp := by
  cases c with
  | pause => exact h
  | resume => exact h
  | stop => exact h

/-- The status shows the phase and the counters of the checkpoint, and they add up. -/
structure Progress.TrueTo (shown : Progress) (cp : BatchCheckpoint) : Prop where
  shows : { shown with
    pauseRequested := false, stopRequested := false, currentTraineeName := none } =
      progressOf (phaseOf cp) cp.total cp.results none
  counted : shown.successful + shown.failed + shown.skipped + shown.indeterminate = shown.processed
  whole : shown.processed + shown.remaining = shown.total

theorem Progress.Shows.trueTo {shown : Progress} {names : List TraineeInfo} {cp : BatchCheckpoint}
    (h : shown.Shows names cp) (hwithin : cp.results.length ≤ cp.total) : shown.TrueTo cp := by
  have hprocessed : shown.processed = cp.results.length := congrArg Progress.processed h
  refine ⟨congrArg (fun shown : Progress => { shown with currentTraineeName := none }) h, ?_, ?_⟩
  · have hsuccessful : shown.successful = countOutcome .success cp.results :=
      congrArg Progress.successful h
    have hfailed : shown.failed = countOutcome .failed cp.results := congrArg Progress.failed h
    have hskipped : shown.skipped = countOutcome .skipped cp.results :=
      congrArg Progress.skipped h
    have hindeterminate : shown.indeterminate = countOutcome .indeterminate cp.results :=
      congrArg Progress.indeterminate h
    rw [hsuccessful, hfailed, hskipped, hindeterminate, hprocessed]
    exact build_counts_sum cp.results "" "" false
  · have htotal : shown.total = cp.total := congrArg Progress.total h
    have hremaining : shown.remaining = cp.total - cp.results.length :=
      congrArg Progress.remaining h
    omega

/-- A batch that was left alone, but for its controls. -/
structure DaemonRun.Kept (run run' : DaemonRun) : Prop where
  names : run'.names = run.names
  batch : run'.batch = run.batch
  engine : ∃ control log, run'.engine = { run.engine with control := control, log := log }
  saved : savedIn run'.engine.log = savedIn run.engine.log

theorem DaemonRun.Kept.refl (run : DaemonRun) : run.Kept run :=
  ⟨rfl, rfl, ⟨_, _, rfl⟩, rfl⟩

/-- A control request leaves the batch launched last as it was, or is about that batch. -/
theorem kept_of_controlled {runs : List DaemonRun} {id : Nat} {run last : DaemonRun}
    {c : ControlRequest} {control : BatchControl} (hrun : runs[id]? = some run)
    (hlast : (runs.set id { run with engine := { run.engine with
      control := some control, log := run.engine.log ++ [.controlled c true] } }).getLast? =
        some last) :
    ∃ before, runs.getLast? = some before ∧ before.Kept last := by
  rw [List.getLast?_eq_getElem?, List.length_set, List.getElem?_set] at hlast
  rw [List.getLast?_eq_getElem?]
  split at hlast
  · next hid =>
      have hlt : id < runs.length := (List.getElem?_eq_some_iff.1 hrun).1
      rw [if_pos hlt] at hlast
      cases hlast
      refine ⟨run, hid ▸ hrun, rfl, rfl, ⟨_, _, rfl⟩, ?_⟩
      change savedIn (run.engine.log ++ [EngineEvent.controlled c true]) = _
      unfold savedIn
      rw [filterMap_snoc]
      exact List.append_nil _
  · exact ⟨last, hlast, .refl last⟩

namespace Publishing

/-- How the engine, the store, the status and what is still to be published agree. -/
structure Sound (p : Publishing) : Prop where
  daemon : p.daemon.Sound
  saved : ∀ run, p.daemon.runs.getLast? = some run →
    p.saved = savedIn run.engine.log ++ p.unpublished.toList
  /-- What is still to be published is what the engine is just writing. -/
  pending : ∀ run cp, p.daemon.runs.getLast? = some run → p.unpublished = some cp →
    ∃ site now, run.engine.pc = .writing site ∧ cp = run.batch.snapshot run.engine site now
  fresh : ∀ a run, p.daemon.holder = .spawning a → p.daemon.runs.getLast? = some run →
    savedIn run.engine.log = []
  shown : p.daemon.holder = .running → ∀ run cp, p.daemon.runs.getLast? = some run →
    (savedIn run.engine.log).getLast? = some cp → p.daemon.state.progress.Shows run.names cp

variable {toUppercase : String → String} {p p' : Publishing} {d' : Daemon}

theorem sound_start (store : CheckpointStore) : Sound (start store) where
  daemon := Daemon.sound_start store
  saved := by simp [start, Daemon.start]
  pending := by simp [start, Daemon.start]
  fresh := by simp [start, Daemon.start]
  shown := by simp [start, Daemon.start]

theorem Sound.save {now : String} (h : Sound p) (hsave : p.save now = some p') : Sound p' := by
  unfold Publishing.save at hsave
  split at hsave
  · next hholder hnone =>
      rcases Option.bind_eq_some_iff.1 hsave with ⟨run, hrun, hrest⟩
      rcases Option.map_eq_some_iff.1 hrest with ⟨cp, hcp, rfl⟩
      have hwriting : ∃ site, run.engine.pc = .writing site ∧
          cp = run.batch.snapshot run.engine site now := by
        cases hpc : run.engine.pc with
        | writing site =>
            refine ⟨site, rfl, ?_⟩
            simpa [Daemon.saved, hpc] using hcp.symm
        | _ => simp [Daemon.saved, hpc] at hcp
      refine ⟨⟨⟨h.daemon.governed.busy, h.daemon.governed.control⟩, h.daemon.reachable⟩,
        ?_, ?_, h.fresh, h.shown⟩
      · intro run' hrun'
        have hsaved := h.saved run' hrun'
        rw [hnone] at hsaved
        simp [hsaved]
      · intro run' cp' hrun' hcp'
        have hsame : run = run' := Option.some.inj (hrun.symm.trans hrun')
        subst hsame
        cases hcp'
        rcases hwriting with ⟨site, hpc, hsnapshot⟩
        exact ⟨site, now, hpc, hsnapshot⟩
  · cases hsave

theorem getLast?_set_last {α : Type} {xs : List α} {x y : α} (h : xs.getLast? = some x) :
    (xs.set (xs.length - 1) y).getLast? = some y := by
  have hpos : 0 < xs.length := by
    cases xs with
    | nil => cases h
    | cons a xs => simp
  rw [List.getLast?_eq_getElem?, List.length_set, List.getElem?_set_self (by omega)]

theorem Sound.publish (h : Sound p) (hpublish : p.publish toUppercase = some p') : Sound p' := by
  unfold Publishing.publish at hpublish
  split at hpublish
  · next cp hholder hcp =>
      rcases Option.map_eq_some_iff.1 hpublish with ⟨d, hstep, rfl⟩
      have hdaemon := h.daemon.step (Daemon.step_cases hstep)
      rcases Daemon.write_of_step hstep with ⟨-, run, site, hrun, hpc, rfl⟩
      rcases h.pending run cp hrun hcp with ⟨site', now, hpc', hsnapshot⟩
      -- What is published is what was saved.
      have hsite : site' = site := by
        rw [hpc] at hpc'
        cases hpc'
        rfl
      have hsame : run.batch.snapshot run.engine site cp.updatedAt = cp := by
        rw [hsnapshot, hsite]
        rfl
      have hlast : ∀ last, (p.daemon.published run site cp.updatedAt).runs.getLast? = some last →
          last = { run with engine := run.batch.wrote run.engine site cp.updatedAt (.ok ()) } := by
        intro last hlast
        exact (Option.some.inj ((getLast?_set_last hrun).symm.trans hlast)).symm
      have hsaved : savedIn (run.batch.wrote run.engine site cp.updatedAt (.ok ())).log =
          savedIn run.engine.log ++ [cp] := by
        rw [savedIn_of_landed, hsame]
      refine ⟨hdaemon, ?_, ?_, ?_, ?_⟩
      · intro last hrun'
        rw [hlast last hrun', hsaved, h.saved run hrun, hcp]
        simp
      · intro last cp' _ hnone
        cases hnone
      · intro a last hspawning _
        have hheld : p.daemon.holder = .spawning a := hspawning
        rw [hholder] at hheld
        cases hheld
      · intro _ last cp' hrun' hcp'
        rw [hlast last hrun', hsaved, List.getLast?_concat] at hcp'
        cases hcp'
        rw [hlast last hrun']
        have hshows := shows_publish p.daemon.state run.names
          (run.batch.snapshot run.engine site cp.updatedAt)
        rw [hsame] at hshows
        simpa only [Daemon.published, hsame] using hshows
  · cases hpublish

theorem saved_of_not_lands {run : DaemonRun} {i : Input} (h : i.lands = false) :
    Daemon.saved run i = none := by
  cases i with
  | write now result =>
      cases result with
      | ok done => cases h
      | error text => rfl
  | _ => rfl

theorem after_of_length {d : Daemon} (h : d.runs.length = p.daemon.runs.length) :
    p.after d = { p with daemon := d } := by
  unfold after
  rw [if_pos h]

/-- The batch launched last was left alone, but for its controls. -/
theorem Sound.kept (h : Sound p) (hdaemon : d'.Sound)
    (hlength : d'.runs.length = p.daemon.runs.length)
    (hkept : ∀ run', d'.runs.getLast? = some run' →
      ∃ run, p.daemon.runs.getLast? = some run ∧ run.Kept run')
    (hfresh : ∀ a, d'.holder = .spawning a → p.daemon.holder = .spawning a)
    (hshown : d'.holder = .running → ∀ run cp, p.daemon.runs.getLast? = some run →
      (savedIn run.engine.log).getLast? = some cp → d'.state.progress.Shows run.names cp) :
    Sound (p.after d') := by
  rw [after_of_length hlength]
  refine ⟨hdaemon, ?_, ?_, ?_, ?_⟩
  · intro run' hrun'
    rcases hkept run' hrun' with ⟨run, hrun, hsame⟩
    rw [hsame.saved]
    exact h.saved run hrun
  · intro run' cp hrun' hcp
    rcases hkept run' hrun' with ⟨run, hrun, hsame⟩
    rcases h.pending run cp hrun hcp with ⟨site, now, hpc, hsnapshot⟩
    rcases hsame.engine with ⟨control, log, hengine⟩
    refine ⟨site, now, by rw [hengine]; exact hpc, ?_⟩
    rw [hsnapshot, hsame.batch, hengine]
    rfl
  · intro a run' hspawning hrun'
    rcases hkept run' hrun' with ⟨run, hrun, hsame⟩
    rw [hsame.saved]
    exact h.fresh a run (hfresh a hspawning) hrun
  · intro hrunning run' cp hrun' hcp
    rcases hkept run' hrun' with ⟨run, hrun, hsame⟩
    rw [hsame.saved] at hcp
    rw [hsame.names]
    exact hshown hrunning run cp hrun hcp

/-- Whoever else acts, while no batch thread is there. -/
theorem Sound.idle (h : Sound p) (hdaemon : d'.Sound) (hstep : p.daemon.Step d')
    (hidle : d'.holder.atWork = false) : Sound (p.after d') := by
  have hspawning : ∀ a, d'.holder = .spawning a → p.daemon.holder = .spawning a := by
    intro a hholder
    rw [hholder] at hidle
    cases hidle
  have hrunning : d'.holder ≠ .running := by
    intro hholder
    rw [hholder] at hidle
    cases hidle
  cases hstep with
  | handled hhandled =>
      refine h.kept hdaemon (by rw [hhandled.runs]) ?_ hspawning
        (fun hholder => absurd hholder hrunning)
      intro run hrun
      exact ⟨run, hhandled.runs ▸ hrun, .refl run⟩
  | capture _ =>
      exact h.kept hdaemon rfl (fun run hrun => ⟨run, hrun, .refl run⟩) hspawning
        (fun hholder => absurd hholder hrunning)
  | refused =>
      exact h.kept hdaemon rfl (fun run hrun => ⟨run, hrun, .refl run⟩) hspawning
        (fun hholder => absurd hholder hrunning)
  | accepted _ hrun _ _ _ =>
      exact h.kept hdaemon (by simp [Daemon.accept, Daemon.emit])
        (fun last hlast => kept_of_controlled hrun hlast) hspawning
        (fun hholder => absurd hholder hrunning)
  | engine hholder _ _ _ _ => exact absurd hholder hrunning
  | launched _ => cases hidle

/-- Whoever acts while a batch thread is there. -/
theorem Sound.working {input : DaemonInput} (h : Sound p) (hdaemon : d'.Sound)
    (hworking : p.daemon.Working input d') (hpasses : p.passes input = true) :
    Sound (p.after d') := by
  cases hworking with
  | @launched a resolved names now hlaunched =>
      subst hlaunched
      have hnew : p.after (p.daemon.launch a resolved names now) =
          { daemon := p.daemon.launch a resolved names now } := by
        unfold after
        rw [if_neg]
        simp [Daemon.launch]
      have hlog : ∀ (b : Batch) control store, savedIn (b.start control store).log = [] :=
        fun b control store => Engine.transition_log_filterMap _ _ (fun _ _ _ => rfl) _
      rw [hnew]
      refine ⟨hdaemon, ?_, ?_, ?_, ?_⟩
      · intro run hrun
        simp only [Daemon.launch, List.getLast?_concat] at hrun
        cases hrun
        rw [hlog]
        rfl
      · intro run cp _ hnone
        cases hnone
      · intro _ run _ hrun
        simp only [Daemon.launch, List.getLast?_concat] at hrun
        cases hrun
        exact hlog _ _ _
      · intro hrunning
        cases hrunning
  | began hholder hholder' hruns =>
      refine h.kept hdaemon (by rw [hruns]) ?_ ?_ ?_
      · intro run hrun
        exact ⟨run, hruns ▸ hrun, .refl run⟩
      · intro a hspawning
        rw [hholder'] at hspawning
        cases hspawning
      · -- Nothing was saved before the thread began.
        intro _ run cp hrun hcp
        rw [h.fresh _ run hholder hrun] at hcp
        cases hcp
  | quiet hholder hruns hprogress =>
      refine h.kept hdaemon (by rw [hruns]) ?_ ?_ ?_
      · intro run hrun
        exact ⟨run, hruns ▸ hrun, .refl run⟩
      · intro a hspawning
        exact hholder.symm.trans hspawning
      · intro hrunning run cp hrun hcp
        rw [hprogress]
        exact h.shown (hholder.symm.trans hrunning) run cp hrun hcp
  | controlled hholder hrun hruns hprogress =>
      refine h.kept hdaemon (by rw [hruns, List.length_set]) ?_ ?_ ?_
      · intro last hlast
        rw [hruns] at hlast
        exact kept_of_controlled hrun hlast
      · intro a hspawning
        exact hholder.symm.trans hspawning
      · intro hrunning run cp hrun' hcp
        rw [hprogress]
        exact (h.shown (hholder.symm.trans hrunning) run cp hrun' hcp).command _
  | @moved i run engine hrunning hholder hinput hrun hstep hruns hstate =>
      subst hinput
      have hparts : i.lands = false ∧ p.unpublished = none := by
        cases i with
        | write now result =>
            cases result with
            | ok done => cases hpasses
            | error text => exact ⟨rfl, Option.isNone_iff_eq_none.1 hpasses⟩
        | _ => exact ⟨rfl, Option.isNone_iff_eq_none.1 hpasses⟩
      have hsaved := savedIn_of_step hstep hparts.1
      have hsilent : d'.state = p.daemon.state := by
        rw [hstate, saved_of_not_lands hparts.1]
      have hlast : ∀ last, d'.runs.getLast? = some last → last = { run with engine := engine } := by
        intro last hlast
        rw [hruns, getLast?_set_last hrun] at hlast
        exact (Option.some.inj hlast).symm
      rw [after_of_length (by rw [hruns, List.length_set])]
      refine ⟨hdaemon, ?_, ?_, ?_, ?_⟩
      · intro last hrun'
        rw [hlast last hrun', hsaved]
        exact h.saved run hrun
      · intro last cp _ hcp
        rw [hparts.2] at hcp
        cases hcp
      · intro a last hspawning _
        rw [hholder] at hspawning
        cases hspawning
      · intro _ last cp hrun' hcp
        rw [hlast last hrun', hsaved] at hcp
        rw [hlast last hrun', hsilent]
        exact h.shown hrunning run cp hrun hcp

theorem Sound.step {input : PublishingInput} (h : Sound p)
    (hstep : p.step toUppercase input = some p') : Sound p' := by
  cases input with
  | save now => exact h.save hstep
  | publish => exact h.publish hstep
  | other input =>
      simp only [Publishing.step] at hstep
      split at hstep
      · next hpasses =>
          rcases Option.map_eq_some_iff.1 hstep with ⟨d', hinput, rfl⟩
          have hdaemon := h.daemon.step (Daemon.step_cases hinput)
          cases hwork : d'.holder.atWork with
          | true => exact h.working hdaemon (Daemon.working_of_step hinput hwork) hpasses
          | false => exact h.idle hdaemon (Daemon.step_cases hinput) hwork
      · cases hstep

theorem Reachable.sound {store : CheckpointStore} (h : Reachable toUppercase store p) : Sound p :=
  Machine.Reaches.invariant (fun _ _ _ hs hstep => hs.step hstep) (sound_start store) h

/-! ## The whole run -/

/-- What holds of a batch and of the status at any moment of the daemon. -/
structure DurableFirst (p : Publishing) (run : DaemonRun) : Prop where
  pauses : PausesSafely run.engine
  /-- Where the file says paused, it names nobody and nobody is being worked. -/
  rests : ∀ cp, p.saved.getLast? = some cp → cp.status = .paused →
    cp.inFlight = none ∧ run.engine.pc.working = none
  /-- From the first write that succeeded until the run is over, the status shows a checkpoint the
  batch has saved: the last one, or the one before while the last is still to be published. -/
  status : p.daemon.holder = .running → savedIn run.engine.log ≠ [] →
    ∃ earlier cp, p.saved = earlier ++ cp :: p.unpublished.toList ∧
      p.daemon.state.progress.TrueTo cp

theorem Sound.rests (h : Sound p) {run : DaemonRun} (hrun : p.daemon.runs.getLast? = some run)
    (hpauses : PausesSafely run.engine) {cp : BatchCheckpoint}
    (hlast : p.saved.getLast? = some cp) (hpaused : cp.status = .paused) :
    cp.inFlight = none ∧ run.engine.pc.working = none := by
  rw [h.saved run hrun] at hlast
  cases hunpublished : p.unpublished with
  | none =>
      rw [hunpublished] at hlast
      exact hpauses.rests cp (by simpa using hlast) hpaused
  | some saved =>
      rw [hunpublished] at hlast
      have hsame : saved = cp := by simpa using hlast
      rcases h.pending run saved hrun hunpublished with ⟨site, now, hpc, hsnapshot⟩
      rw [← hsame, hsnapshot, hpc]
      -- Only the in-flight write names anybody, and it does not say paused.
      cases site with
      | inFlight task =>
          rw [← hsame, hsnapshot] at hpaused
          cases hpaused
      | _ => exact ⟨rfl, rfl⟩

theorem Sound.status (h : Sound p) {run : DaemonRun} (hrun : p.daemon.runs.getLast? = some run)
    (hrunning : p.daemon.holder = .running) (hsome : savedIn run.engine.log ≠ []) :
    ∃ earlier cp, p.saved = earlier ++ cp :: p.unpublished.toList ∧
      p.daemon.state.progress.TrueTo cp := by
  rcases List.eq_nil_or_concat (savedIn run.engine.log) with hnil | ⟨earlier, cp, hconcat⟩
  · exact absurd hnil hsome
  · have hlast : (savedIn run.engine.log).getLast? = some cp := by
      rw [hconcat, List.concat_eq_append, List.getLast?_concat]
    have hwrite : (cp, true) ∈ run.engine.writes := by
      have hmem := List.mem_of_getLast? hlast
      rw [savedIn_eq] at hmem
      rcases List.mem_filterMap.1 hmem with ⟨⟨cp', landed⟩, hwrites, heq⟩
      cases landed with
      | true =>
          cases heq
          exact hwrites
      | false => cases heq
    have hindex : p.daemon.runs[p.daemon.runs.length - 1]? = some run := Daemon.getElem?_last hrun
    rcases h.daemon.reachable _ run hindex with ⟨store, hreachable⟩
    refine ⟨earlier, cp, ?_, (h.shown hrunning run cp hrun hlast).trueTo
      (hreachable.within_total hwrite)⟩
    rw [h.saved run hrun, hconcat, List.concat_eq_append, List.append_assoc]
    rfl

/-- However control requests, other requests, failed writes and panics interleave with the batch
thread, a pause lasts from one durable write to another, and the status never shows what the file
did not say first. -/
theorem pause_is_durable_and_status_follows_file {store : CheckpointStore}
    (h : Reachable toUppercase store p) :
    (∀ run ∈ p.daemon.runs, PausesSafely run.engine) ∧
      ∀ run, p.daemon.runs.getLast? = some run → DurableFirst p run := by
  have hpauses : ∀ run ∈ p.daemon.runs, PausesSafely run.engine := by
    intro run hrun
    rcases List.getElem?_of_mem hrun with ⟨id, hid⟩
    rcases h.sound.daemon.reachable id run hid with ⟨store', hreachable⟩
    exact hreachable.pausesSafely
  refine ⟨hpauses, ?_⟩
  intro run hrun
  have hsafe := hpauses run (List.mem_of_getLast? hrun)
  exact
    { pauses := hsafe
      rests := fun _ hlast hpaused => h.sound.rests hrun hsafe hlast hpaused
      status := fun hrunning hsome => h.sound.status hrun hrunning hsome }

/-! ### A pair that is paused and resumed -/

/-- The pair is paused before its first trainee, and the resume is saved but not yet published. -/
def pauseInputs : List PublishingInput :=
  (Daemon.admissionInputs false).map .other ++
    [.other (.engine (.newId "d")), .other (.engine (.reply (.ok { status := .ok }))),
      .other (.control .pause), .other (.serve 0), .other (.engine .tick), .save "1", .publish,
      .other (.control .resume), .other (.serve 0), .other (.engine .tick), .save "2"]

def pauseState : Publishing :=
  (Machine.run (step id) (start pairStore) pauseInputs).getD (start pairStore)

theorem pauseState_reachable : Reachable id pairStore pauseState :=
  ⟨pauseInputs, rfl⟩

theorem status_follows_file_for_the_pair :
    pauseState.saved.map (·.status) = [.paused, .running] ∧
      pauseState.daemon.state.progress.state = "paused" ∧
      ∃ run, pauseState.daemon.runs.getLast? = some run ∧ DurableFirst pauseState run :=
  ⟨rfl, rfl, _, rfl, (pause_is_durable_and_status_follows_file pauseState_reachable).2 _ rfl⟩

end Publishing

end DsspBot

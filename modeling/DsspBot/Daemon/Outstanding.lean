import DsspBot.Daemon.Control
import DsspBot.Owed

/-!
# Outstanding — how a batch that owes somebody is shown

Only the thread that started the batch knows what it owes. The checkpoint sink does not, and it
publishes the terminal file of a run that was not aborted as complete.
-/

namespace DsspBot

/-- Answered with something else than an acceptance, or not yet. -/
def Holder.rejecting : Holder → Bool
  | .releasing (some (_, reply)) => decide (reply.code ≠ 202)
  | _ => false

/-- Whoever is about to run, or runs, owes somebody. -/
def Holder.Owes (runs : List DaemonRun) : Holder → Prop
  | .connecting a => 0 < a.owed
  | .ensuring a => 0 < a.owed
  | .listing a => 0 < a.owed
  | .launching a _ _ => 0 < a.owed
  | .spawning _ => ∀ run, runs.getLast? = some run → 0 < run.owed
  | .running => ∀ run, runs.getLast? = some run → 0 < run.owed
  | _ => True

namespace Daemon

variable (toUppercase : String → String)

/-- This input lets a batch through the gate and its own checks. -/
def admits (d : Daemon) (input : DaemonInput) : Bool :=
  match d.holder, input with
  | .starting req, .guarded batchId saves => !(d.guarded req batchId saves).holder.rejecting
  | _, _ => false

/-- The daemon until it admits another batch. -/
def stepWithin (d : Daemon) (input : DaemonInput) : Option Daemon :=
  if d.admits input then none else d.step toUppercase input

/-- A resume that owes somebody has just been admitted. -/
def AdmittedOwing (store : CheckpointStore) (d : Daemon) : Prop :=
  ∃ before req batchId saves start store',
    Reachable toUppercase store before ∧ before.holder = .starting req ∧ req.resume = true ∧
      guard before.store req.resume saves = (.ok start, store') ∧
      0 < (start.plan.work req.trainees).2.2 ∧ before.admits (.guarded batchId saves) = true ∧
      before.step toUppercase (.guarded batchId saves) = some d

/-- Nothing that is shown says that the batch is done. -/
structure ShownOpen (d : Daemon) : Prop where
  state : d.state.progress.state ≠ "complete"
  report : ∀ report, d.state.report = some report → report.aborted = true

/-- The step does not save the terminal file of a run that was not aborted. -/
def KeepsOpen (d : Daemon) (input : DaemonInput) : Prop :=
  ∀ run stopped now, d.holder = .running → d.runs.getLast? = some run →
    run.engine.pc = .writing (.terminal stopped) → run.engine.aborted = false →
    input ≠ .engine (.write now (.ok ()))

/-- The invariant: shown open, and whoever runs owes somebody. -/
structure Outstanding (d : Daemon) : Prop extends ShownOpen d where
  held : d.holder.Owes d.runs

section Step

variable {toUppercase} {d d' : Daemon}

theorem Outstanding.of_shown (h : Outstanding d)
    (hstate : d'.state.progress.state = d.state.progress.state)
    (hreport : d'.state.report = d.state.report) (hheld : d'.holder.Owes d'.runs) :
    Outstanding d' where
  state := by
    rw [hstate]
    exact h.state
  report := by
    rw [hreport]
    exact h.report
  held := hheld

theorem clearControl_open (h : ShownOpen d) :
    d.state.clearControl.progress.state ≠ "complete" := by
  unfold DaemonState.clearControl
  dsimp only
  split
  · have hstopped : "stopped" ≠ "complete" := by decide
    exact hstopped
  · exact h.state

/-- A file that is not a finished one is published as something else than complete. -/
theorem phaseOf_ne_complete {cp : BatchCheckpoint} (h : cp.status ≠ .finished) :
    phaseOf cp ≠ "complete" := by
  unfold phaseOf
  split
  · next hstatus => exact absurd hstatus h
  · decide
  · decide
  · split <;> decide

theorem publish_state (state : DaemonState) (names : List TraineeInfo) (cp : BatchCheckpoint) :
    (state.publish names cp).progress.state = phaseOf cp ∧
      (state.publish names cp).report = state.report := by
  unfold DaemonState.publish
  dsimp only
  split <;> exact ⟨rfl, rfl⟩

/-- Only the terminal site of a run that was not aborted writes a finished file. -/
theorem finished_of_snapshot {b : Batch} {e : Engine} {site : WriteSite} {now : String}
    (h : (b.snapshot e site now).status = .finished) :
    ∃ stopped, site = .terminal stopped ∧ e.aborted = false := by
  cases site with
  | terminal stopped =>
      refine ⟨stopped, rfl, ?_⟩
      by_contra haborted
      simp [Batch.snapshot, Batch.statusAt, haborted] at h
  | _ => cases h

/-- Setting a run's engine leaves what it owes. -/
theorem owes_set {holder : Holder} {runs : List DaemonRun} {id : Nat} {run : DaemonRun}
    (engine : Engine) (hrun : runs[id]? = some run) (h : holder.Owes runs) :
    holder.Owes (runs.set id { run with engine := engine }) := by
  have hlast : (∀ r, runs.getLast? = some r → 0 < r.owed) →
      ∀ r, (runs.set id { run with engine := engine }).getLast? = some r → 0 < r.owed := by
    intro howes r hr
    rw [List.getLast?_eq_getElem?, List.length_set] at hr
    by_cases hid : id = runs.length - 1
    · subst hid
      have howed := howes run (by rw [List.getLast?_eq_getElem?]; exact hrun)
      have hsome := List.getElem?_eq_some_iff.1 hrun
      rw [List.getElem?_set_self hsome.1] at hr
      cases hr
      exact howed
    · rw [List.getElem?_set_ne hid] at hr
      exact howes r (by rw [List.getLast?_eq_getElem?]; exact hr)
  cases holder with
  | spawning _ => exact hlast h
  | running => exact hlast h
  | _ => exact h

theorem outstanding_serve (h : Outstanding d) {index : Nat} (hserve : d.serve index = some d') :
    Outstanding d' := by
  cases serve_cases hserve with
  | @accepted id run c control control' hcaptured hlock hrun hcurrent hcontrol hrequest =>
      refine h.of_shown ?_ rfl (owes_set _ hrun h.held)
      cases c <;> rfl
  | refused hcaptured hcurrent => exact h.of_shown rfl rfl h.held
  | stale hcaptured hstale => exact h.of_shown rfl rfl h.held

theorem outstanding_acquire (h : Outstanding d) (endpoint : Endpoint) {holder : Holder}
    (hheld : holder.Owes d.runs) : Outstanding (d.acquire endpoint holder) := by
  unfold acquire
  split
  · exact h.of_shown rfl rfl h.held
  · exact h.of_shown rfl rfl hheld

/-- A request that the gate or the checks behind it turn away changes nothing that is shown. -/
theorem outstanding_guarded (h : Outstanding d) {req : BatchRequest} {batchId : String}
    {saves : GuardSaves} (hrejects : (d.guarded req batchId saves).holder.rejecting = true) :
    Outstanding (d.guarded req batchId saves) := by
  generalize hgated : d.guarded req batchId saves = d' at hrejects ⊢
  cases guarded_cases hgated with
  | refused _ => exact h.of_shown rfl rfl trivial
  | invalid _ => exact h.of_shown rfl rfl trivial
  | done _ _ _ => cases hrejects
  | admitted _ => cases hrejects

theorem outstanding_connected (h : Outstanding d) (endpoint : Endpoint) {holder : Holder}
    (id : String) (result : Except String Unit) (hheld : holder.Owes d.runs) :
    Outstanding (d.connected endpoint holder id result) := by
  cases result with
  | ok _ => exact h.of_shown rfl rfl hheld
  | error text => exact h.of_shown rfl rfl trivial

theorem outstanding_ensured (h : Outstanding d) (endpoint : Endpoint) {holder : Holder}
    (next : Request) (reply : Reply) (hheld : holder.Owes d.runs) :
    Outstanding (d.ensured endpoint holder next reply) := by
  unfold ensured
  split
  · exact h.of_shown rfl rfl trivial
  · split
    · exact h.of_shown rfl rfl hheld
    · exact h.of_shown rfl rfl trivial

theorem outstanding_listed (h : Outstanding d) {a : Admission} (reply : Reply)
    (howed : 0 < a.owed) : Outstanding (d.listed toUppercase a reply) := by
  unfold listed
  split
  · exact h.of_shown rfl rfl trivial
  · split
    · dsimp only
      split
      · exact h.of_shown rfl rfl howed
      · exact h.of_shown rfl rfl trivial
    · exact h.of_shown rfl rfl trivial

theorem outstanding_formRead (h : Outstanding d) (reply : Reply) :
    Outstanding (d.formRead reply) := by
  unfold formRead
  split
  · exact h.of_shown rfl rfl trivial
  · split
    · exact h.of_shown rfl rfl trivial
    · exact h.of_shown rfl rfl trivial

/-- A step of the batch thread, unless it saves the finished file. -/
theorem outstanding_engineStep (h : Outstanding d) {input : Input} (hholder : d.holder = .running)
    (hopen : KeepsOpen d (.engine input)) (hstep : d.engineStep input = some d') :
    Outstanding d' := by
  rcases engineStep_cases hstep with ⟨run, engine, hrun, -, rfl⟩
  have hheld : d.holder.Owes (d.runs.set (d.runs.length - 1) { run with engine := engine }) :=
    owes_set engine (by rw [← List.getLast?_eq_getElem?]; exact hrun) h.held
  split
  · next cp hsaved =>
      have hstate := publish_state d.state run.names cp
      refine ⟨⟨?_, ?_⟩, hheld⟩
      · rw [hstate.1]
        apply phaseOf_ne_complete
        intro hfinished
        -- Only the write that is ruled out saves such a file.
        unfold saved at hsaved
        split at hsaved
        · next now =>
          split at hsaved
          · next site hpc =>
              cases hsaved
              rcases finished_of_snapshot hfinished with ⟨stopped, rfl, haborted⟩
              exact hopen run stopped now hholder hrun hpc haborted rfl
          · cases hsaved
        · cases hsaved
      · intro report hreport
        exact h.report report (hstate.2 ▸ hreport)
  · exact h.of_shown rfl rfl hheld

/-- What the thread itself publishes takes what is owed into account. -/
theorem outstanding_finish (h : Outstanding d) (hholder : d.holder = .running)
    (hfinish : d.finish = some d') : Outstanding d' := by
  rcases finish_cases hfinish with ⟨run, result, hrun, -, rfl⟩
  have howed : 0 < run.owed := by
    have hheld := h.held
    rw [hholder] at hheld
    exact hheld run hrun
  have hstopped : "stopped" ≠ "complete" := by decide
  unfold finished
  split
  · next report _ =>
      refine ⟨⟨?_, ?_⟩, trivial⟩
      · simp [howed, progressOf]
      · intro shown hshown
        cases hshown
        simp [howed]
  · exact ⟨⟨hstopped, h.report⟩, trivial⟩

/-- Every step but the one that saves the finished file, and but an admission. -/
theorem outstanding_step (h : Outstanding d) {input : DaemonInput} (hopen : KeepsOpen d input)
    (hstep : d.stepWithin toUppercase input = some d') : Outstanding d' := by
  unfold stepWithin at hstep
  split at hstep
  · cases hstep
  · next hadmits =>
      have hheld := h.held
      cases branch_of_step hstep with
      | control c =>
          unfold applyControl
          split
          · exact h.of_shown rfl rfl h.held
          · exact h.of_shown rfl rfl h.held
      | serve hserved => exact outstanding_serve h hserved
      | post _ => exact outstanding_acquire h .batch trivial
      | getFormOptions => exact outstanding_acquire h .formOptions trivial
      | guarded hholder _ _ =>
          apply outstanding_guarded h
          simpa [admits, hholder] using hadmits
      | connected hholder _ _ =>
          rw [hholder] at hheld
          exact outstanding_connected h .batch _ _ hheld
      | ensured hholder _ _ =>
          rw [hholder] at hheld
          exact outstanding_ensured h .batch _ _ hheld
      | listed hholder _ _ =>
          rw [hholder] at hheld
          exact outstanding_listed h _ hheld
      | launched hholder _ =>
          rw [hholder] at hheld
          refine h.of_shown rfl rfl ?_
          intro run hrun
          simp only [launch, List.getLast?_append, List.getLast?_singleton, Option.some_or] at hrun
          cases hrun
          exact hheld
      | spawned hholder result =>
          rw [hholder] at hheld
          cases result with
          | ok _ => exact h.of_shown rfl rfl hheld
          | error text => exact h.of_shown rfl rfl trivial
      | engine hholder hengine => exact outstanding_engineStep h hholder hopen hengine
      | finished hholder hfinish => exact outstanding_finish h hholder hfinish
      | unwound _ => exact h.of_shown rfl rfl trivial
      | left _ => exact ⟨⟨clearControl_open h.toShownOpen, h.report⟩, trivial⟩
      | formConnected _ _ _ => exact outstanding_connected h .formOptions _ _ trivial
      | formEnsured _ _ _ => exact outstanding_ensured h .formOptions _ _ trivial
      | formRead _ _ _ => exact outstanding_formRead h _
      | tornDown _ => exact h.of_shown rfl rfl trivial
      | @released answer _ =>
          have hshown : ShownOpen { d with state := d.state.clearControl } :=
            ⟨clearControl_open h.toShownOpen, h.report⟩
          cases answer with
          | none => exact ⟨⟨hshown.state, hshown.report⟩, trivial⟩
          | some answered => exact ⟨⟨hshown.state, hshown.report⟩, trivial⟩

/-- The save of the finished file is published as complete. -/
theorem complete_of_finished {input : DaemonInput} (hcloses : ¬KeepsOpen d input)
    (hstep : d.stepWithin toUppercase input = some d') : ¬ShownOpen d' := by
  unfold KeepsOpen at hcloses
  push Not at hcloses
  rcases hcloses with ⟨run, stopped, now, hholder, hrun, hpc, haborted, rfl⟩
  have hengine : d.engineStep (.write now (.ok ())) = some d' := by
    simpa [stepWithin, admits, hholder, step] using hstep
  rcases engineStep_cases hengine with ⟨run', engine, hrun', -, rfl⟩
  obtain rfl : run = run' := Option.some.inj (hrun.symm.trans hrun')
  intro hshown
  apply hshown.state
  simp only [saved, hpc]
  rw [(publish_state _ _ _).1]
  simp [phaseOf, Batch.snapshot, Batch.statusAt, haborted]

/-- Whoever the resume could not place is owed from the moment it is admitted. -/
theorem AdmittedOwing.outstanding {store : CheckpointStore}
    (h : AdmittedOwing toUppercase store d) : Outstanding d := by
  rcases h with ⟨before, req, batchId, saves, start, store', -, hholder, -, hgate, howed, hadmits,
    hstep⟩
  have hguarded : before.guarded req batchId saves = d := by
    simpa [step, hholder] using hstep
  have haccepted : (before.guarded req batchId saves).holder.rejecting = false := by
    simpa [admits, hholder] using hadmits
  rw [hguarded] at haccepted
  have hgated := guarded_cases hguarded
  rw [hgate] at hgated
  cases hgated with
  | refused hrefused => cases hrefused
  | invalid _ => cases haccepted
  | done hstart _ _ =>
      cases hstart
      refine ⟨⟨?_, ?_⟩, trivial⟩
      · simp [nothingToRun, howed, progressOf]
      · intro report hreport
        cases hreport
        simp [BatchReport.build, howed]
  | admitted hstart =>
      cases hstart
      refine ⟨⟨?_, ?_⟩, howed⟩
      · have hinitializing : "initializing" ≠ "complete" := by decide
        exact hinitializing
      · intro report hreport
        cases hreport

/-- From its admission to the next, a batch that owes somebody is shown open exactly until the
thread saves the terminal file of a run that was not aborted. -/
theorem owed_batch_shown_open_iff {store : CheckpointStore} {inputs : List DaemonInput}
    (hadmitted : AdmittedOwing toUppercase store d)
    (hrun : Machine.run (stepWithin toUppercase) d inputs = some d') :
    Machine.Throughout (stepWithin toUppercase) ShownOpen d inputs ↔
      Machine.EachStep (stepWithin toUppercase) KeepsOpen d inputs := by
  apply Machine.throughout_iff_eachStep (I := Outstanding) _ _ _ hadmitted.outstanding hrun
  · exact fun _ h => h.toShownOpen
  · exact fun _ _ _ h hopen hstep => outstanding_step h hopen hstep
  · exact fun _ _ _ _ hcloses hstep => complete_of_finished hcloses hstep

end Step

/-! ### A file that lost a trainee, resumed -/

def owingRequest : BatchRequest :=
  { trainees := []
    session := { trainingDate := "2026-01-05", instructor := "Ada", trainingType := "1" }
    resume := true }

def owingAdmission : Daemon :=
  (Machine.run (step id) (start shortStore) [.post owingRequest, .guarded "batch" {}]).getD
    (start shortStore)

theorem owingAdmission_admitted : AdmittedOwing id shortStore owingAdmission :=
  ⟨_, owingRequest, "batch", {}, _, _, ⟨[.post owingRequest], rfl⟩, rfl, rfl, rfl, by decide, rfl,
    rfl⟩

/-- The one trainee left to run is found, and the thread is started. -/
def owingLaunch (inputs : List DaemonInput) : List DaemonInput :=
  .factory (.ok ()) "a" :: .reply (.ok { status := .ok }) "b" ::
    .reply (.ok { status := .ok, trainees := some [{ id := "2", name := "Bea" }] }) "c" ::
    .clock "2" :: .spawned (.ok ()) :: inputs

/-- The trainee is submitted, and the finished file lands. -/
def owingFinish : List DaemonInput :=
  owingLaunch
    [.engine (.newId "d"), .engine (.reply (.ok { status := .ok })), .engine .tick, .engine .tick,
      .engine (.write "3" (.ok ())), .engine (.newId "job"), .engine .tick, .engine .tick,
      .engine (.reply (.ok { status := .ok, outcome := some "confirmed" })),
      .engine (.write "4" (.ok ())), .engine .tick, .engine .tick, .engine .tick,
      .engine (.write "5" (.ok ()))]

theorem owing_batch_is_shown_complete :
    ¬∀ (toUppercase : String → String) (store : CheckpointStore) (d d' : Daemon)
      (inputs : List DaemonInput), AdmittedOwing toUppercase store d →
        Machine.run (stepWithin toUppercase) d inputs = some d' → ShownOpen d' := by
  intro h
  have hends : (Machine.run (stepWithin id) owingAdmission owingFinish).map
      (·.state.progress.state) = some "complete" := by
    decide +kernel
  rcases Option.map_eq_some_iff.1 hends with ⟨d, hrun, hstate⟩
  exact (h id shortStore _ d owingFinish owingAdmission_admitted hrun).state hstate

/-- The operator stops the batch before the trainee is submitted. -/
def owingStop : List DaemonInput :=
  owingLaunch
    [.control .stop, .serve 0, .engine (.newId "d"), .engine (.reply (.ok { status := .ok })),
      .engine .tick, .engine (.write "3" (.ok ())), .engine .tick, .engine (.write "4" (.ok ())),
      .engine (.clock "5"), .tick, .tick, .tick, .tick]

theorem stopped_batch_is_shown_open :
    Machine.Throughout (stepWithin id) ShownOpen owingAdmission owingStop := by
  have hrun : Machine.run (stepWithin id) owingAdmission owingStop =
      some ((Machine.run (stepWithin id) owingAdmission owingStop).getD owingAdmission) := rfl
  refine (owed_batch_shown_open_iff owingAdmission_admitted hrun).2 ?_
  unfold owingStop owingLaunch
  repeat
    refine (Machine.eachStep_cons rfl _).2 ⟨?_, ?_⟩
    · intro run stopped now hholder hlast hpc haborted hinput
      first
        | (cases hinput; done)
        | (cases hholder; done)
        | (cases hlast; cases hpc; done)
        | (cases hlast; cases haborted)
  exact Machine.eachStep_nil _

end Daemon

end DsspBot

import DsspBot.Extension.Visits

/-!
# Rows — nobody is lost, and nobody is begun too late

Over a whole run the engine accounts for everybody it has been given: with a row, at the portal, or
still in the queue. Behind a row that gives the batch up, or a stop, nobody is begun any more. And
what has been saved last is enough to say which trainees have been settled and which have not.
-/

namespace DsspBot

namespace Extension

open AutomationEngine (Goes Turn Sound task_of_passes)

/-- The run is over, whether it has returned yet or not. -/
def Await.over : Await → Bool
  | .nothing => true
  | .finishing _ => true
  | _ => false

theorem over_of_task {await : Await} (h : await.task.isSome) : await.over = false := by
  cases await <;> first
    | rfl
    | cases h

theorem ne_nothing_of_task {await : Await} (h : await.task.isSome) : await ≠ .nothing := by
  rintro rfl
  cases h

theorem over_of_between {e : AutomationEngine} (h : AutomationEngine.Between e) :
    e.await.over = false := by
  cases hawait : e.await with
  | nothing => exact absurd hawait h.underway
  | finishing result => exact absurd hawait (h.unfinished result)
  | _ => rfl

namespace Journal

/-! ## Everybody is accounted for -/

/-- Everybody given has a row, in the order of the queue, or is at the portal, or has been lost with
the run, or is still queued. -/
structure Accounted (j : Journal) : Prop where
  settled : ∃ reason skips,
    j.engine.results =
        j.visits.map (·.result) ++ skips.map (AutomationEngine.skipped reason) ∧
      j.given = j.visits.map (·.task) ++ j.engine.await.task.toList ++ j.lost.map (·.1) ++ skips ++
        j.engine.queue.tasks.map (·.payload) ∧
      (j.engine.await.over = false ∨ j.lost ≠ [] → skips = [])
  lost : j.engine.await.over = false → j.lost = []
  few : j.lost.length ≤ 1
  report : ∀ report, j.engine.await = .finishing (.ok report) →
    report = buildBatchReport j.engine.results ∧ j.lost = []

theorem accounted_start : Accounted {} :=
  ⟨⟨"", [], rfl, rfl, fun _ => rfl⟩, fun _ => rfl, Nat.zero_le _, nofun⟩

section Accounts

variable {options : AutomationEngineOptions} {j j' : Journal} {input : EngineInput}

/-- Before the run is over, nobody has been skipped or lost. -/
theorem Accounted.underway (h : Accounted j) (hunder : j.engine.await.over = false) :
    j.engine.results = j.visits.map (·.result) ∧
      j.given = j.visits.map (·.task) ++ j.engine.await.task.toList ++
        j.engine.queue.tasks.map (·.payload) ∧ j.lost = [] := by
  rcases h.settled with ⟨reason, skips, hresults, hgiven, hskips⟩
  have hlost := h.lost hunder
  rw [hskips (.inl hunder)] at hresults hgiven
  exact ⟨by simpa using hresults, by simpa [hlost] using hgiven, hlost⟩

/-- Under way, nobody has been skipped or lost. -/
theorem accounted_of_underway (hunder : j.engine.await.over = false)
    (hresults : j.engine.results = j.visits.map (·.result))
    (hgiven : j.given = j.visits.map (·.task) ++ j.engine.await.task.toList ++
      j.engine.queue.tasks.map (·.payload)) (hlost : j.lost = []) : Accounted j where
  settled := ⟨"", [], by simpa using hresults, by simpa [hlost] using hgiven, fun _ => rfl⟩
  lost := fun _ => hlost
  few := by simp [hlost]
  report := fun report hawait => by simp [hawait, Await.over] at hunder

/-- Where the engine goes on without touching rows or the queue, the accounts stay. -/
theorem Accounted.onward {e : AutomationEngine} {exchanges : List Exchange} (h : Accounted j)
    (hresults : e.results = j.engine.results) (hqueue : e.queue = j.engine.queue)
    (htask : e.await.task = j.engine.await.task)
    (hover : e.await.over = false → j.engine.await.over = false)
    (hreport : ∀ report, e.await = .finishing (.ok report) → e.await = j.engine.await) :
    Accounted { j with engine := e, exchanges := exchanges } where
  settled := by
    rcases h.settled with ⟨reason, skips, hbefore, hgiven, hskips⟩
    exact ⟨reason, skips, hresults.trans hbefore, by rw [htask, hqueue]; exact hgiven,
      fun hunder => hskips (hunder.imp_left hover)⟩
  lost := fun hunder => h.lost (hover hunder)
  few := h.few
  report := by
    intro report hawait
    have hsame := hreport report hawait
    rw [show ({ j with engine := e, exchanges := exchanges } : Journal).engine = e from rfl,
      hresults]
    exact h.report report (hsame.symm.trans hawait)

/-- The same, at the same place. -/
theorem Accounted.stays {e : AutomationEngine} (h : Accounted j)
    (hledger : e.ledger = j.engine.ledger) (hawait : e.await = j.engine.await) :
    Accounted { j with engine := e } := by
  rcases AutomationEngine.ledger_eq_iff.1 hledger with ⟨hresults, hqueue, -, -⟩
  exact h.onward hresults hqueue (congrArg Await.task hawait) (fun hunder => hawait ▸ hunder)
    (fun _ _ => hawait)

theorem Accounted.step (h : Accounted j) (hkept : Kept options j)
    (hstep : j.step options input = some j') : Accounted j' := by
  rcases Option.map_eq_some_iff.1 hstep with ⟨e, hengine, rfl⟩
  cases AutomationEngine.turn_of_step hkept.sound hengine with
  | added task =>
      rcases h.settled with ⟨reason, skips, hresults, hgiven, hskips⟩
      refine ⟨⟨reason, skips, hresults, ?_, hskips⟩, h.lost, h.few, h.report⟩
      simp [enter, hgiven, AutomationEngine.addTask, TaskQueue.enqueue]
  | cleared =>
      rcases h.settled with ⟨reason, skips, hresults, hgiven, hskips⟩
      refine ⟨⟨reason, skips, hresults, ?_, hskips⟩, h.lost, h.few, h.report⟩
      -- What is taken back from what was given is the queue.
      simp only [enter, hgiven]
      rw [List.take_left' (by simp only [List.length_append, List.length_map, Nat.add_sub_cancel])]
      simp [AutomationEngine.clearQueue]
  | refused hbusy hledger hawait =>
      simp only [enter, hbusy, if_true]
      exact h.stays hledger hawait
  | started hidle hresults hqueue _ _ hawait =>
      simp only [enter, hidle]
      refine accounted_of_underway (by simp [hawait, Await.over]) hresults ?_ rfl
      simp [hqueue, hawait, Await.task]
  | called call hledger hawait =>
      rcases AutomationEngine.ledger_eq_iff.1 hledger with ⟨hresults, hqueue, -, -⟩
      rcases hawait with hsame | ⟨hasleep, hwoken⟩
      · exact h.stays hledger hsame
      · exact h.onward hresults hqueue (by rw [hasleep, hwoken]; rfl)
          (fun _ => by rw [hasleep]; rfl) (by simp [hwoken])
  | goes hgoes hledger =>
      rcases AutomationEngine.ledger_eq_iff.1 hledger with ⟨hresults, hqueue, -, -⟩
      rw [enter_goes hgoes]
      refine h.onward hresults hqueue hgoes.task.2 (fun _ => over_of_task hgoes.task.1) ?_
      intro report hawait
      have hsome := hgoes.task.2 ▸ hgoes.task.1
      simp [hawait, Await.task] at hsome
  | closes hcloses hrecords =>
      have hsome := task_of_closes hcloses
      rcases Option.isSome_iff_exists.1 hsome with ⟨task, htask⟩
      rcases h.underway (over_of_task hsome) with ⟨hresults, hgiven, hlost⟩
      rw [enter_closes htask hrecords.await]
      refine accounted_of_underway (by simp [hrecords.await, Await.over]) ?_ ?_ hlost
      · simp [hrecords.results, hresults]
      · simp [hgiven, htask, hrecords.task, hrecords.queue]
  | @lost task _ _ _ hawait hfinishes =>
      have htask : j.engine.await.task = some task := by rw [hawait]; rfl
      rcases h.underway (by rw [hawait]; rfl) with ⟨hresults, hgiven, hlost⟩
      rw [enter_lost htask hfinishes.await]
      refine ⟨⟨"", [], ?_, ?_, fun _ => rfl⟩, ?_, ?_, ?_⟩
      · simp [hfinishes.results, hresults]
      · simp [hgiven, htask, hfinishes.task, hfinishes.queue, hlost]
      · intro hunder
        simp [hfinishes.await, Await.over] at hunder
      · simp [hlost]
      · simp [hfinishes.await]
  | begins hawait _ _ hqueue hresults _ _ hnext =>
      have htask : j.engine.await.task = none := by rw [hawait]; rfl
      rcases h.underway (by rw [hawait]; rfl) with ⟨hbefore, hgiven, hlost⟩
      rw [enter_aside rfl htask (by simp [hnext])]
      have hat : e.await.task = some _ := (congrArg Await.task hnext).trans rfl
      refine accounted_of_underway (by simp [hnext, Await.over]) (hresults.trans hbefore) ?_ hlost
      simp [hgiven, htask, hqueue, hat]
  | unbegun hawait _ hqueue hrecords =>
      have htask : j.engine.await.task = none := by rw [hawait]; rfl
      rcases h.underway (by rw [hawait]; rfl) with ⟨hbefore, hgiven, hlost⟩
      rw [enter_unbegun hqueue hrecords.await]
      refine accounted_of_underway (by simp [hrecords.await, Await.over]) ?_ ?_ hlost
      · simp [hrecords.results, hbefore]
      · simp [hgiven, htask, hqueue, hrecords.task, hrecords.queue]
  | passes hinput hbetween hresults hqueue _ _ hnext =>
      have htask : e.await.task = none := task_of_passes hnext
      rw [enter_aside hinput hbetween.task (by rintro - row hrow; simp [hrow] at hnext)]
      refine h.onward hresults hqueue (htask.trans hbetween.task.symm)
        (fun _ => over_of_between hbetween) ?_
      intro report hawait
      simp [hawait] at hnext
  | leaves hinput reason hbetween hfinishes =>
      rcases h.underway (over_of_between hbetween) with ⟨hbefore, hgiven, hlost⟩
      rw [enter_aside hinput hbetween.task (by simp [hfinishes.await])]
      refine ⟨⟨reason, j.engine.queue.tasks.map (·.payload), ?_, ?_, ?_⟩, fun _ => hlost, ?_, ?_⟩
      · simp [hfinishes.results, hbefore, Function.comp_def]
      · simp [hgiven, hbetween.task, hfinishes.task, hfinishes.queue, hlost]
      · rintro (hunder | hnone)
        · simp [hfinishes.await, Await.over] at hunder
        · exact absurd hlost hnone
      · simp [hlost]
      · intro report hawait
        rw [hfinishes.await, Await.finishing.injEq, Except.ok.injEq] at hawait
        exact ⟨hawait.symm, hlost⟩
  | unopened hawait hfinishes =>
      have htask : j.engine.await.task = none := by rw [hawait]; rfl
      rw [enter_aside rfl htask (by simp)]
      exact h.onward hfinishes.results hfinishes.queue (hfinishes.task.trans htask.symm)
        (fun _ => by rw [hawait]; rfl) (by simp [hfinishes.await])
  | returned hawait hledger hnext =>
      rcases AutomationEngine.ledger_eq_iff.1 hledger with ⟨hresults, hqueue, -, -⟩
      have htask : j.engine.await.task = none := by rw [hawait]; rfl
      rw [enter_aside rfl htask (by simp)]
      exact h.onward hresults hqueue (by rw [hawait, hnext]; rfl) (by simp [hnext, Await.over])
        (by simp [hnext])

theorem Accounted.of_run {inputs : List EngineInput}
    (hrun : Machine.run (Journal.step options) {} inputs = some j) : Accounted j :=
  (Machine.Reaches.invariant (P := fun j => Kept options j ∧ Accounted j)
    (fun _ _ _ h hstep => ⟨h.1.step hstep, h.2.step h.1 hstep⟩)
    ⟨kept_start options, accounted_start⟩ ⟨inputs, hrun⟩).2

end Accounts

/-- Whom a row is about. -/
def rowName (row : TrainingResult) : String × String :=
  (row.traineeId, row.traineeName)

def taskName (task : BatchTask) : String × String :=
  (task.trainee.id, task.trainee.name)

section Totals

variable {options : AutomationEngineOptions} {j : Journal}

theorem task_eq_none_of_over {await : Await} (h : await.over = true) : await.task = none := by
  cases await <;> first
    | rfl
    | cases h

/-- The names of everybody, one after the other. -/
theorem Accounted.names (h : Accounted j) (hkept : Kept options j) :
    j.engine.results.map rowName ++
        (j.engine.await.task.toList ++ j.lost.map (·.1) ++
          j.engine.queue.tasks.map (·.payload)).map taskName =
      j.given.map taskName := by
  have hvisits : (j.visits.map (·.result)).map rowName = (j.visits.map (·.task)).map taskName := by
    simp only [List.map_map]
    apply List.map_congr_left
    intro visit hvisit
    have hnames := (hkept.visits visit hvisit).names
    simp [rowName, taskName, hnames.1, hnames.2]
  rcases h.settled with ⟨reason, skips, hresults, hgiven, hskips⟩
  rw [hresults, hgiven, List.map_append, hvisits]
  -- Whoever is skipped is skipped at the very end, when nobody is at the portal.
  by_cases hnone : skips = []
  · simp [hnone]
  · have hover : j.engine.await.over = true := by
      by_contra hunder
      exact hnone (hskips (.inl (by simpa using hunder)))
    have hlost : j.lost = [] := by
      by_contra hlost
      exact hnone (hskips (.inr hlost))
    have hsame : rowName ∘ AutomationEngine.skipped reason = taskName := rfl
    simp [task_eq_none_of_over hover, hlost, hsame]

theorem total_buildBatchReport (results : List TrainingResult) :
    (buildBatchReport results).successful + (buildBatchReport results).failed +
        (buildBatchReport results).skipped + (buildBatchReport results).indeterminate =
      (buildBatchReport results).total := by
  simp only [buildBatchReport]
  induction results with
  | nil => rfl
  | cons row results ih =>
      simp only [List.countP_cons, List.length_cons, ← ih]
      cases row.outcome <;> simp <;> omega

/-- Everybody a run has been given has, in the order of the queue, a row, or is at the portal, or is
the one whose submission took the run with it, or is still queued; and the report of a run has a row
for everybody but those who came too late for it. -/
theorem everybody_is_accounted_for {inputs : List EngineInput}
    (hrun : Machine.run (step options) {} inputs = some j) :
    j.engine.results.map rowName ++
          (j.engine.await.task.toList ++ j.lost.map (·.1) ++
            j.engine.queue.tasks.map (·.payload)).map taskName =
        j.given.map taskName ∧
      j.lost.length ≤ 1 ∧
      ∀ report, j.engine.await = .finishing (.ok report) →
        report.results.map rowName ++ j.engine.queue.tasks.map (taskName ·.payload) =
            j.given.map taskName ∧
          report.successful + report.failed + report.skipped + report.indeterminate =
            report.total ∧
          report.total = report.results.length := by
  have haccounted := Accounted.of_run hrun
  have hnames := haccounted.names (Kept.of_run hrun)
  refine ⟨hnames, haccounted.few, ?_⟩
  intro report hawait
  rcases haccounted.report report hawait with ⟨rfl, hlost⟩
  refine ⟨?_, total_buildBatchReport _, rfl⟩
  have hover : j.engine.await.task = none := by rw [hawait]; rfl
  rw [← hnames, hover, hlost]
  simp [buildBatchReport]

def bobTask : BatchTask where
  trainee := { id := "8", traineeId := "8", name := "Bob Eze" }
  session := { trainingDate := "2024-05-06", instructorId := "3", trainingTypeId := "4" }

/-- Two trainees, and a stop while the first one is being submitted. -/
def stoppedEarly : List EngineInput :=
  [.addTask AutomationEngine.adaTask, .addTask bobTask, .run, .answered .done, .continued,
    .answered (.told true), .answered (.told true), .answered .done, .answered .done,
    .answered .done, .call .stop]

/-- The first one is confirmed, and the second one skipped. -/
def skippedBehind : List EngineInput :=
  [.answered .done, .answered (.outcome (.confirmed none)), .written]

def stoppedEarlyJournal : Journal :=
  (Machine.run (step {}) {} stoppedEarly).getD {}

def skippedBehindJournal : Journal :=
  (Machine.run (step {}) {} (stoppedEarly ++ skippedBehind)).getD {}

theorem stopped_early_is_accounted_for :
    skippedBehindJournal.engine.results.map rowName ++
          (skippedBehindJournal.engine.await.task.toList ++ skippedBehindJournal.lost.map (·.1) ++
            skippedBehindJournal.engine.queue.tasks.map (·.payload)).map taskName =
        skippedBehindJournal.given.map taskName := by
  have hrun : Machine.run (step {}) {} (stoppedEarly ++ skippedBehind) =
      some skippedBehindJournal := rfl
  exact (everybody_is_accounted_for hrun).1

/-- The rows of a run are those of the trainees it has been at, and say what the portal has answered
for them, however often the preparation and the confirmation have been tried again; behind them come
those of the trainees that nobody has been asked about. -/
theorem rows_are_justified {inputs : List EngineInput}
    (hrun : Machine.run (step options) {} inputs = some j) :
    (∀ visit ∈ j.visits, visit.Justified options) ∧
      ∃ (reason : String) (skips : List BatchTask), j.engine.results =
        j.visits.map (·.result) ++ skips.map (AutomationEngine.skipped reason) := by
  rcases (Accounted.of_run hrun).settled with ⟨reason, skips, hresults, -, -⟩
  exact ⟨(Kept.of_run hrun).visits, reason, skips, hresults⟩

theorem stopped_early_is_justified :
    (∀ visit ∈ skippedBehindJournal.visits, visit.Justified {}) ∧
      ∃ (reason : String) (skips : List BatchTask), skippedBehindJournal.engine.results =
        skippedBehindJournal.visits.map (·.result) ++
          skips.map (AutomationEngine.skipped reason) := by
  have hrun : Machine.run (step {}) {} (stoppedEarly ++ skippedBehind) =
      some skippedBehindJournal := rfl
  exact rows_are_justified hrun

end Totals

/-! ## Nobody is begun too late -/

/-- Everybody the portal has been asked about in this run, or will not be. -/
def begun (j : Journal) : List BatchTask :=
  j.visits.map (·.task) ++ j.engine.await.task.toList ++ j.lost.map (·.1)

/-- Some row gives the batch up. -/
def GivenUp (e : AutomationEngine) : Prop :=
  ∃ row ∈ e.results, AutomationEngine.shouldAbortBatch row = true

/-- A stop has been asked for, or a row gives the batch up. -/
def Halted (e : AutomationEngine) : Prop :=
  e.stopRequested = true ∨ GivenUp e

/-- Once a row has given the batch up, it is only saved, and the run ends. -/
def Held (e : AutomationEngine) : Prop :=
  GivenUp e → e.await.over = true ∨
    ∃ row, e.await = .recording row ∧ AutomationEngine.shouldAbortBatch row = true

section Halting

variable {options : AutomationEngineOptions} {e e' : AutomationEngine} {input : EngineInput}

theorem not_givenUp_of_ne (h : Held e) (hover : e.await.over = false)
    (hrow : ∀ row, e.await = .recording row → AutomationEngine.shouldAbortBatch row = false) :
    ¬GivenUp e := by
  intro hgiven
  rcases h hgiven with hend | ⟨row, hawait, habort⟩
  · simp [hover] at hend
  · simp [hrow row hawait] at habort

theorem held_of_not (h : ¬GivenUp e) (hresults : e'.results = e.results) : Held e' := by
  intro hgiven
  rw [GivenUp, hresults] at hgiven
  exact absurd hgiven h

/-- The row that is being saved is the only one that can give the batch up. -/
theorem held_of_records {row : TrainingResult} (h : ¬GivenUp e)
    (hrecords : AutomationEngine.Records options e row e') : Held e' := by
  rintro ⟨given, hmem, habort⟩
  rw [hrecords.results, List.mem_append, List.mem_singleton] at hmem
  rcases hmem with hmem | rfl
  · exact absurd ⟨given, hmem, habort⟩ h
  · exact .inr ⟨given, hrecords.await, habort⟩

theorem held_of_over (hover : e.await.over = true) : Held e :=
  fun _ => .inl hover

theorem not_givenUp_of_task (h : Held e) (htask : e.await.task.isSome) : ¬GivenUp e := by
  apply not_givenUp_of_ne h (over_of_task htask)
  intro row hawait
  simp [hawait, Await.task] at htask

theorem Held.step (h : Held e) (hturn : Turn options e input e') : Held e' := by
  cases hturn with
  | added task => exact h
  | cleared => exact h
  | refused _ hledger hawait =>
      rw [Held, GivenUp, (AutomationEngine.ledger_eq_iff.1 hledger).1, hawait]
      exact h
  | started _ hresults =>
      rintro ⟨row, hmem, -⟩
      simp [hresults] at hmem
  | called call hledger hawait =>
      have hresults := (AutomationEngine.ledger_eq_iff.1 hledger).1
      rcases hawait with hsame | ⟨hasleep, -⟩
      · rw [Held, GivenUp, hresults, hsame]
        exact h
      · exact held_of_not (not_givenUp_of_ne h (by rw [hasleep]; rfl) (by simp [hasleep])) hresults
  | goes hgoes hledger =>
      exact held_of_not (not_givenUp_of_task h hgoes.task.1)
        (AutomationEngine.ledger_eq_iff.1 hledger).1
  | closes hcloses hrecords =>
      exact held_of_records (not_givenUp_of_task h (task_of_closes hcloses)) hrecords
  | lost _ hfinishes => exact held_of_over (by rw [hfinishes.await]; rfl)
  | begins hawait _ _ _ hresults =>
      exact held_of_not (not_givenUp_of_ne h (by rw [hawait]; rfl) (by simp [hawait])) hresults
  | unbegun hawait _ _ hrecords =>
      have hnone : ¬GivenUp e := not_givenUp_of_ne h (by rw [hawait]; rfl) (by simp [hawait])
      exact held_of_records (by exact hnone) hrecords
  | passes _ hbetween hresults _ _ _ _ habort =>
      exact held_of_not (not_givenUp_of_ne h (over_of_between hbetween) habort)
        hresults
  | leaves _ _ _ hfinishes => exact held_of_over (by rw [hfinishes.await]; rfl)
  | unopened _ hfinishes => exact held_of_over (by rw [hfinishes.await]; rfl)
  | returned _ _ hnext => exact held_of_over (by rw [hnext]; rfl)

/-- Only another run takes a stop back. -/
theorem stopRequested_kept (h : e.step options input = some e') (hinput : input ≠ .run)
    (hstop : e.stopRequested = true) : e'.stopRequested = true := by
  cases AutomationEngine.step_cases h with
  | aside hflags => exact (congrArg Prod.fst hflags).trans hstop
  | started => exact absurd rfl hinput
  | called call =>
      cases call <;> simp only [AutomationEngine.called, AutomationEngine.pause,
        AutomationEngine.resume, AutomationEngine.stop, AutomationEngine.releasePause] <;>
        split <;> try split
      all_goals first
        | exact hstop
        | rfl
  | moved _ _ _ hmoves => exact (congrArg Prod.fst hmoves.flags).trans hstop
  | suspended => exact hstop
  | finished =>
      simp only [AutomationEngine.finished, AutomationEngine.waitFor]
      rcases AutomationEngine.releasePause_cases
        (e := { e with running := false, pauseRequested := false }) with hsame | hsame <;>
        rw [hsame] <;> exact hstop

/-- Rows only come, until the next run. -/
theorem results_kept (hturn : Turn options e input e') (hinput : input ≠ .run) :
    e.results <+: e'.results := by
  cases hturn with
  | added => exact List.prefix_rfl
  | cleared => exact List.prefix_rfl
  | refused => exact absurd rfl hinput
  | started => exact absurd rfl hinput
  | called _ hledger => rw [(AutomationEngine.ledger_eq_iff.1 hledger).1]
  | goes _ hledger => rw [(AutomationEngine.ledger_eq_iff.1 hledger).1]
  | closes _ hrecords => exact hrecords.results ▸ List.prefix_append _ _
  | lost _ hfinishes => rw [hfinishes.results]
  | begins _ _ _ _ hresults => rw [hresults]
  | unbegun _ _ _ hrecords => exact hrecords.results ▸ List.prefix_append _ _
  | passes _ _ hresults => rw [hresults]
  | leaves _ _ _ hfinishes => exact hfinishes.results ▸ List.prefix_append _ _
  | unopened _ hfinishes => rw [hfinishes.results]
  | returned _ hledger => rw [(AutomationEngine.ledger_eq_iff.1 hledger).1]

theorem Halted.step (h : Halted e) (hturn : Turn options e input e')
    (hstep : e.step options input = some e') (hinput : input ≠ .run) : Halted e' := by
  rcases h with hstop | ⟨row, hmem, habort⟩
  · exact .inl (stopRequested_kept hstep hinput hstop)
  · exact .inr ⟨row, (results_kept hturn hinput).subset hmem, habort⟩

/-- A halted engine does not take another trainee out of the queue. -/
theorem not_resuming (h : Held e) (hhalted : Halted e) (hawait : e.await = .resuming) :
    e.stopRequested = true := by
  rcases hhalted with hstop | hgiven
  · exact hstop
  · exact absurd hgiven (not_givenUp_of_ne h (by rw [hawait]; rfl) (by simp [hawait]))

end Halting

section Begun

variable {options : AutomationEngineOptions} {j j' : Journal} {input : EngineInput}

/-- What holds at any time in a run. -/
structure Invariant (options : AutomationEngineOptions) (j : Journal) : Prop where
  kept : Kept options j
  accounted : Accounted j
  held : Held j.engine

theorem Invariant.step (h : Invariant options j) (hstep : j.step options input = some j') :
    Invariant options j' := by
  refine ⟨h.kept.step hstep, h.accounted.step h.kept hstep, ?_⟩
  rcases Option.map_eq_some_iff.1 hstep with ⟨e, hengine, rfl⟩
  rw [engine_enter]
  exact h.held.step (AutomationEngine.turn_of_step h.kept.sound hengine)

theorem Invariant.of_run {inputs : List EngineInput}
    (hrun : Machine.run (Journal.step options) {} inputs = some j) : Invariant options j :=
  Machine.Reaches.invariant (P := Invariant options) (fun _ _ _ h hstep => h.step hstep)
    ⟨kept_start options, accounted_start, fun h => by simp [GivenUp] at h⟩ ⟨inputs, hrun⟩

theorem begun_step (h : Invariant options j) (hhalted : Halted j.engine)
    (hstep : j.step options input = some j') (hinput : input ≠ .run) : j'.begun = j.begun := by
  rcases Option.map_eq_some_iff.1 hstep with ⟨e, hengine, rfl⟩
  cases AutomationEngine.turn_of_step h.kept.sound hengine with
  | added task => rfl
  | cleared => rfl
  | refused => exact absurd rfl hinput
  | started => exact absurd rfl hinput
  | called call _ hawait =>
      have htask : e.await.task = j.engine.await.task := by
        rcases hawait with hsame | ⟨hasleep, hwoken⟩
        · rw [hsame]
        · rw [hasleep, hwoken]
          rfl
      simp [begun, enter, heard, htask]
  | goes hgoes =>
      rw [enter_goes hgoes]
      simp [begun, hgoes.task.2]
  | closes hcloses hrecords =>
      have hsome := task_of_closes hcloses
      rcases Option.isSome_iff_exists.1 hsome with ⟨task, htask⟩
      rw [enter_closes htask hrecords.await]
      simp [begun, htask, hrecords.task]
  | @lost task _ _ _ hawait hfinishes =>
      have htask : j.engine.await.task = some task := by rw [hawait]; rfl
      have hlost := h.accounted.lost (over_of_task (by rw [htask]; rfl))
      rw [enter_lost htask hfinishes.await]
      simp [begun, htask, hfinishes.task, hlost]
  | begins hawait hgoes =>
      simp [not_resuming h.held hhalted hawait] at hgoes
  | unbegun hawait hgoes =>
      simp [not_resuming h.held hhalted hawait] at hgoes
  | passes hinput hbetween _ _ _ _ hnext =>
      rw [enter_aside hinput hbetween.task (by rintro - row hrow; simp [hrow] at hnext)]
      simp [begun, hbetween.task, task_of_passes hnext]
  | leaves hinput reason hbetween hfinishes =>
      rw [enter_aside hinput hbetween.task (by simp [hfinishes.await])]
      simp [begun, hbetween.task, hfinishes.task]
  | unopened hawait hfinishes =>
      have htask : j.engine.await.task = none := by rw [hawait]; rfl
      rw [enter_aside rfl htask (by simp)]
      simp [begun, htask, hfinishes.task]
  | returned hawait _ hnext =>
      have htask : j.engine.await.task = none := by rw [hawait]; rfl
      have htask' : e.await.task = none := by rw [hnext]; rfl
      rw [enter_aside rfl htask (by simp)]
      simp [begun, htask, htask']

/-- Until the next run, a halted engine stays halted, keeps its rows and begins nobody. -/
theorem begun_run {more : List EngineInput} (h : Invariant options j) (hhalted : Halted j.engine)
    (hmore : Machine.run (step options) j more = some j') (hagain : .run ∉ more) :
    Invariant options j' ∧ j'.begun = j.begun ∧ j.engine.results <+: j'.engine.results := by
  induction more generalizing j with
  | nil =>
      have heq : j = j' := by simpa using hmore
      exact heq ▸ ⟨h, rfl, List.prefix_rfl⟩
  | cons input more ih =>
      rcases Option.bind_eq_some_iff.1 hmore with ⟨middle, hstep, hrest⟩
      rw [List.mem_cons, not_or] at hagain
      have hinput : input ≠ .run := fun heq => hagain.1 heq.symm
      rcases Option.map_eq_some_iff.1 hstep with ⟨e, hengine, heq⟩
      have hturn := AutomationEngine.turn_of_step h.kept.sound hengine
      have he : middle.engine = e := heq ▸ engine_enter
      have hhalted' : Halted middle.engine := he ▸ hhalted.step hturn hengine hinput
      rcases ih (h.step hstep) hhalted' hrest hagain.2 with ⟨hend, hbegun, hresults⟩
      refine ⟨hend, hbegun.trans (begun_step h hhalted hstep hinput), ?_⟩
      exact (he ▸ results_kept hturn hinput).trans hresults

/-- Behind a stop, or a row that gives the batch up, nobody is begun any more until the next run;
and in the second case the portal is not asked anything either. -/
theorem nobody_is_begun_once_halted {inputs more : List EngineInput}
    (hrun : Machine.run (step options) {} inputs = some j) (hhalted : Halted j.engine)
    (hmore : Machine.run (step options) j more = some j') (hagain : .run ∉ more) :
    j'.begun = j.begun ∧ (GivenUp j.engine → j'.engine.await.call = none) := by
  rcases begun_run (.of_run hrun) hhalted hmore hagain with ⟨hinvariant, hbegun, hresults⟩
  refine ⟨hbegun, ?_⟩
  rintro ⟨row, hmem, habort⟩
  rcases hinvariant.held ⟨row, hresults.subset hmem, habort⟩ with hover | ⟨row, hawait, -⟩
  · cases hawait : j'.engine.await <;> simp [hawait, Await.over] at hover <;> rfl
  · rw [hawait]
    rfl

theorem bob_is_not_begun : skippedBehindJournal.begun = stoppedEarlyJournal.begun := by
  have hrun : Machine.run (step {}) {} stoppedEarly = some stoppedEarlyJournal := rfl
  have hmore : Machine.run (step {}) stoppedEarlyJournal skippedBehind =
      some skippedBehindJournal := rfl
  exact (nobody_is_begun_once_halted hrun (.inl rfl) hmore (by decide)).1

end Begun

/-! ## What is saved -/

/-- Every task is queued under its trainee's id. -/
def QueuedById (e : AutomationEngine) : Prop :=
  ∀ task ∈ e.queue.tasks, task.id = task.payload.trainee.id

/-- Who has not been settled, by id. -/
def unsettled (e : AutomationEngine) : List String :=
  e.await.task.toList.map (·.trainee.id) ++ e.queue.ids

/-- The last checkpoint shows all rows, and who was still to be settled when it was written. -/
structure Shows (e : AutomationEngine) (checkpoint : BatchCheckpoint) : Prop where
  last : e.checkpoints.getLast? = some checkpoint
  results : checkpoint.results = e.results
  pending : e.await.over = false → checkpoint.pending <+: unsettled e

/-- Once there is a row, it is saved. -/
def Saved (e : AutomationEngine) : Prop :=
  e.results ≠ [] → ∃ checkpoint, Shows e checkpoint

/-- The queue is not cleared under a run. -/
def ClearsIdle (j : Journal) (input : EngineInput) : Prop :=
  input = .clearQueue → j.engine.running = false

section Saving

variable {options : AutomationEngineOptions} {e e' : AutomationEngine} {input : EngineInput}

theorem QueuedById.of_sublist (h : QueuedById e) (hqueue : e'.queue.tasks ⊆ e.queue.tasks) :
    QueuedById e' :=
  fun task hmem => h task (hqueue hmem)

theorem QueuedById.step (h : QueuedById e) (hturn : Turn options e input e') : QueuedById e' := by
  cases hturn with
  | added task =>
      intro queued hmem
      simp only [AutomationEngine.addTask, TaskQueue.enqueue, List.mem_append,
        List.mem_singleton] at hmem
      rcases hmem with hmem | rfl
      · exact h queued hmem
      · rfl
  | cleared => exact h.of_sublist (List.nil_subset _)
  | refused _ hledger =>
      exact h.of_sublist (by rw [(AutomationEngine.ledger_eq_iff.1 hledger).2.1]; exact fun _ => id)
  | started _ _ hqueue => exact h.of_sublist (by rw [hqueue]; exact fun _ => id)
  | called _ hledger =>
      exact h.of_sublist (by rw [(AutomationEngine.ledger_eq_iff.1 hledger).2.1]; exact fun _ => id)
  | goes _ hledger =>
      exact h.of_sublist (by rw [(AutomationEngine.ledger_eq_iff.1 hledger).2.1]; exact fun _ => id)
  | closes _ hrecords => exact h.of_sublist (by rw [hrecords.queue]; exact fun _ => id)
  | lost _ hfinishes => exact h.of_sublist (by rw [hfinishes.queue]; exact fun _ => id)
  | begins _ _ _ hqueue => exact h.of_sublist (by rw [hqueue]; exact List.subset_cons_self _ _)
  | unbegun _ _ hqueue hrecords =>
      refine h.of_sublist ?_
      rw [hrecords.queue, hqueue]
      exact List.subset_cons_self _ _
  | passes _ _ _ hqueue => exact h.of_sublist (by rw [hqueue]; exact fun _ => id)
  | leaves _ _ _ hfinishes =>
      exact h.of_sublist (by rw [hfinishes.queue]; exact List.nil_subset _)
  | unopened _ hfinishes => exact h.of_sublist (by rw [hfinishes.queue]; exact fun _ => id)
  | returned _ hledger =>
      exact h.of_sublist (by rw [(AutomationEngine.ledger_eq_iff.1 hledger).2.1]; exact fun _ => id)

/-- Where neither rows nor checkpoints change, what was saved still counts as long as nobody who was
unsettled has gone. -/
theorem Saved.onward (h : Saved e) (hresults : e'.results = e.results)
    (hcheckpoints : e'.checkpoints = e.checkpoints)
    (hunsettled : e'.await.over = false →
      e.await.over = false ∧ unsettled e <+: unsettled e') : Saved e' := by
  intro hsome
  rcases h (hresults ▸ hsome) with ⟨checkpoint, hshows⟩
  refine ⟨checkpoint, hcheckpoints ▸ hshows.last, hshows.results.trans hresults.symm, ?_⟩
  intro hunder
  exact (hshows.pending (hunsettled hunder).1).trans (hunsettled hunder).2

/-- What has just been written shows everything. -/
theorem saved_of_written {before : List BatchCheckpoint} {status : BatchCheckpointStatus}
    {f : AutomationEngine} (hsaves : options.checkpoint = true)
    (hcheckpoints : e'.checkpoints = before ++ AutomationEngine.saved options f status)
    (hresults : f.results = e'.results) (hqueue : f.queue = e'.queue)
    (htask : e'.await.task = none) : Saved e' := by
  intro _
  refine
    ⟨{ status := status, total := f.totalQueued, results := f.results, pending := f.queue.ids },
      ?_, hresults, ?_⟩
  · rw [hcheckpoints]
    simp [AutomationEngine.saved, hsaves]
  · intro _
    simp [unsettled, htask, hqueue]

theorem Saved.step (h : Saved e) (hids : QueuedById e) (hsaves : options.checkpoint = true)
    (hturn : Turn options e input e') (hclear : input = .clearQueue → e.await = .nothing) :
    Saved e' := by
  cases hturn with
  | added task =>
      refine h.onward rfl rfl (fun hunder => ⟨hunder, ?_⟩)
      simp [unsettled, AutomationEngine.addTask, TaskQueue.enqueue, TaskQueue.ids]
  | cleared =>
      refine h.onward rfl rfl (fun hunder => ?_)
      simp [AutomationEngine.clearQueue, hclear rfl, Await.over] at hunder
  | refused _ hledger hawait =>
      rcases AutomationEngine.ledger_eq_iff.1 hledger with ⟨hresults, hqueue, -, hcheckpoints⟩
      refine h.onward hresults hcheckpoints (fun hunder => ⟨hawait ▸ hunder, ?_⟩)
      rw [unsettled, unsettled, hawait, hqueue]
  | started _ hresults =>
      intro hsome
      exact absurd hresults hsome
  | called _ hledger hawait =>
      rcases AutomationEngine.ledger_eq_iff.1 hledger with ⟨hresults, hqueue, -, hcheckpoints⟩
      rcases hawait with hsame | ⟨hasleep, hwoken⟩
      · refine h.onward hresults hcheckpoints (fun hunder => ⟨hsame ▸ hunder, ?_⟩)
        rw [unsettled, unsettled, hsame, hqueue]
      · refine h.onward hresults hcheckpoints (fun _ => ⟨by rw [hasleep]; rfl, ?_⟩)
        rw [unsettled, unsettled, hasleep, hwoken, hqueue]
        exact List.prefix_rfl
  | goes hgoes hledger =>
      rcases AutomationEngine.ledger_eq_iff.1 hledger with ⟨hresults, hqueue, -, hcheckpoints⟩
      refine h.onward hresults hcheckpoints (fun _ => ⟨over_of_task hgoes.task.1, ?_⟩)
      rw [unsettled, unsettled, hgoes.task.2, hqueue]
  | closes _ hrecords => exact saved_of_written hsaves hrecords.checkpoints rfl rfl hrecords.task
  | lost _ hfinishes => exact saved_of_written hsaves hfinishes.checkpoints rfl rfl hfinishes.task
  | @begins task _ hawait _ _ hqueue hresults hcheckpoints _ hnext =>
      refine h.onward hresults hcheckpoints (fun _ => ⟨by rw [hawait]; rfl, ?_⟩)
      have hid : task.id = task.payload.trainee.id := hids task (by simp [hqueue])
      simp [unsettled, hawait, hnext, Await.task, TaskQueue.ids, hqueue, hid]
  | unbegun _ _ _ hrecords =>
      exact saved_of_written hsaves hrecords.checkpoints rfl rfl hrecords.task
  | passes _ hbetween hresults hqueue _ hcheckpoints hnext =>
      have htask := task_of_passes hnext
      rcases hcheckpoints with hcheckpoints | hcheckpoints
      · refine h.onward hresults hcheckpoints (fun _ => ⟨over_of_between hbetween, ?_⟩)
        rw [unsettled, unsettled, htask, hbetween.task, hqueue]
      · exact saved_of_written hsaves hcheckpoints hresults.symm hqueue.symm htask
  | leaves _ _ _ hfinishes =>
      exact saved_of_written hsaves hfinishes.checkpoints rfl rfl hfinishes.task
  | unopened _ hfinishes =>
      exact saved_of_written hsaves hfinishes.checkpoints rfl rfl hfinishes.task
  | returned _ hledger hnext =>
      rcases AutomationEngine.ledger_eq_iff.1 hledger with ⟨hresults, -, -, hcheckpoints⟩
      refine h.onward hresults hcheckpoints (fun hunder => ?_)
      simp [hnext, Await.over] at hunder

end Saving

section Checkpoints

variable {options : AutomationEngineOptions} {j j' : Journal} {input : EngineInput}

/-- What holds at any time in a run under which the queue is not cleared. -/
structure Covered (options : AutomationEngineOptions) (j : Journal) : Prop where
  invariant : Invariant options j
  ids : QueuedById j.engine
  saved : options.checkpoint = true → Saved j.engine
  total : j.engine.await ≠ .nothing → j.engine.totalQueued = j.given.length

theorem covered_start : Covered options {} where
  invariant := ⟨kept_start options, accounted_start, fun h => by simp [GivenUp] at h⟩
  ids := by simp [QueuedById, TaskQueue.new]
  saved := fun _ hsome => absurd rfl hsome
  total := fun hunderway => absurd rfl hunderway

/-- Wherever a run of the engine takes it, as many are given as are counted. -/
theorem total_step (h : Invariant options j)
    (htotal : j.engine.await ≠ .nothing → j.engine.totalQueued = j.given.length)
    (hclear : input = .clearQueue → j.engine.await = .nothing)
    (hstep : j.step options input = some j') (hunderway : j'.engine.await ≠ .nothing) :
    j'.engine.totalQueued = j'.given.length := by
  rcases Option.map_eq_some_iff.1 hstep with ⟨e, hengine, rfl⟩
  rw [engine_enter] at hunderway ⊢
  cases AutomationEngine.turn_of_step h.kept.sound hengine with
  | added task =>
      have hcount := htotal hunderway
      simp [enter, AutomationEngine.addTask, hcount]
  | cleared => exact absurd (hclear rfl) hunderway
  | refused hbusy hledger hawait =>
      have hcount := htotal (hawait ▸ hunderway)
      simpa [enter, hbusy, (AutomationEngine.ledger_eq_iff.1 hledger).2.2.1] using hcount
  | started hidle _ _ _ hcount => simp [enter, hidle, hcount]
  | called call hledger hawait =>
      have hbefore : j.engine.await ≠ .nothing := by
        rcases hawait with hsame | ⟨hasleep, -⟩
        · exact hsame ▸ hunderway
        · simp [hasleep]
      simpa [enter, (AutomationEngine.ledger_eq_iff.1 hledger).2.2.1] using htotal hbefore
  | goes hgoes hledger =>
      have hbefore : j.engine.await ≠ .nothing := ne_nothing_of_task hgoes.task.1
      rw [enter_goes hgoes, (AutomationEngine.ledger_eq_iff.1 hledger).2.2.1]
      exact htotal hbefore
  | closes hcloses hrecords =>
      have hsome := task_of_closes hcloses
      rcases Option.isSome_iff_exists.1 hsome with ⟨task, htask⟩
      rw [enter_closes htask hrecords.await, hrecords.total]
      exact htotal (ne_nothing_of_task hsome)
  | @lost task _ _ _ hawait hfinishes =>
      have htask : j.engine.await.task = some task := by rw [hawait]; rfl
      rw [enter_lost htask hfinishes.await, hfinishes.total]
      exact htotal (by simp [hawait])
  | begins hawait _ _ _ _ _ hcount hnext =>
      rw [enter_aside rfl (by rw [hawait]; rfl) (by simp [hnext]), hcount]
      exact htotal (by simp [hawait])
  | unbegun hawait _ hqueue hrecords =>
      rw [enter_unbegun hqueue hrecords.await, hrecords.total]
      exact htotal (by simp [hawait])
  | passes hinput hbetween _ _ hcount _ hnext =>
      rw [enter_aside hinput hbetween.task (by rintro - row hrow; simp [hrow] at hnext), hcount]
      exact htotal hbetween.underway
  | leaves hinput _ hbetween hfinishes =>
      rw [enter_aside hinput hbetween.task (by simp [hfinishes.await]), hfinishes.total]
      exact htotal hbetween.underway
  | unopened hawait hfinishes =>
      rw [enter_aside rfl (by rw [hawait]; rfl) (by simp), hfinishes.total]
      exact htotal (by simp [hawait])
  | returned _ _ hnext => exact absurd hnext hunderway

theorem Covered.step (h : Covered options j) (hclear : ClearsIdle j input)
    (hstep : j.step options input = some j') : Covered options j' := by
  have hnothing : input = .clearQueue → j.engine.await = .nothing := by
    intro hinput
    have hidle := hclear hinput
    simpa [hidle] using h.invariant.kept.sound.running
  have hnext := h.invariant.step hstep
  refine ⟨hnext, ?_, ?_, ?_⟩
  · rcases Option.map_eq_some_iff.1 hstep with ⟨e, hengine, rfl⟩
    rw [engine_enter]
    exact h.ids.step (AutomationEngine.turn_of_step h.invariant.kept.sound hengine)
  · intro hsaves
    rcases Option.map_eq_some_iff.1 hstep with ⟨e, hengine, rfl⟩
    rw [engine_enter]
    exact (h.saved hsaves).step h.ids hsaves
      (AutomationEngine.turn_of_step h.invariant.kept.sound hengine) hnothing
  · exact total_step h.invariant h.total hnothing hstep

theorem Covered.of_run {inputs : List EngineInput}
    (hrun : Machine.run (Journal.step options) {} inputs = some j)
    (hclear : Machine.EachStep (Journal.step options) ClearsIdle {} inputs) : Covered options j :=
  hclear.invariant (fun _ _ _ h hclear hstep => h.step hclear hstep) covered_start hrun

/-- As long as the queue is not cleared under a run, the last checkpoint shows, once there is a row,
every row there is; and until the run is over, the trainees it shows, settled and pending, are those
the run had been given when it was written, in their order. -/
theorem settled_is_saved {inputs : List EngineInput} (hsaves : options.checkpoint = true)
    (hrun : Machine.run (Journal.step options) {} inputs = some j)
    (hclear : Machine.EachStep (Journal.step options) ClearsIdle {} inputs)
    (hsome : j.engine.results ≠ []) :
    ∃ checkpoint, j.engine.checkpoints.getLast? = some checkpoint ∧
      checkpoint.results = j.engine.results ∧
        (j.engine.await.over = false →
          checkpoint.results.map (·.traineeId) ++ checkpoint.pending <+:
            j.given.map (·.trainee.id)) := by
  have hcovered := Covered.of_run hrun hclear
  rcases hcovered.saved hsaves hsome with ⟨checkpoint, hshows⟩
  refine ⟨checkpoint, hshows.last, hshows.results, ?_⟩
  intro hunder
  have hlost := hcovered.invariant.accounted.lost hunder
  have hnames := hcovered.invariant.accounted.names hcovered.invariant.kept
  have hids : j.engine.results.map (·.traineeId) ++ unsettled j.engine =
      j.given.map (·.trainee.id) := by
    have hfirst := congrArg (List.map Prod.fst) hnames
    have hqueue : j.engine.queue.ids = j.engine.queue.tasks.map (·.payload.trainee.id) :=
      List.map_congr_left hcovered.ids
    simpa [hlost, unsettled, hqueue, Function.comp_def, rowName, taskName] using hfirst
  rw [hshows.results, ← hids]
  exact List.prefix_append_right_inj _ |>.2 (hshows.pending hunder)

theorem clearsIdle_of_notMem {inputs : List EngineInput} (h : .clearQueue ∉ inputs) :
    Machine.EachStep (Journal.step options) ClearsIdle {} inputs := by
  intro before input j hbefore _ hinput
  have hmem : input ∈ inputs := hbefore.subset (by simp)
  exact absurd (hinput ▸ hmem) h

theorem ada_and_bob_are_saved : ∃ checkpoint,
    skippedBehindJournal.engine.checkpoints.getLast? = some checkpoint ∧
      checkpoint.results = skippedBehindJournal.engine.results := by
  have hrun : Machine.run (step {}) {} (stoppedEarly ++ skippedBehind) =
      some skippedBehindJournal := rfl
  rcases settled_is_saved rfl hrun (clearsIdle_of_notMem (by decide))
    (List.ne_nil_of_length_pos (by decide)) with ⟨checkpoint, hlast, hresults, -⟩
  exact ⟨checkpoint, hlast, hresults⟩

end Checkpoints

end Journal

end Extension

end DsspBot

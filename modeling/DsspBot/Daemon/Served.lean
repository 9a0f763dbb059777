import DsspBot.Daemon.Outstanding
import DsspBot.Daemon.Route
import DsspBot.Lib.Binary64

/-!
# Served — the documents the daemon answers with

The progress is kept as a document already. A report and a checkpoint are written in the form of the
files, and their fields are renamed on the way out, for readers that do not separate words by
underscores.
-/

namespace DsspBot

/-! ## Casing -/

/-- Letters outside of ASCII have their upper case from a table. -/
def charToUppercase (table : Char → List Char) (c : Char) : List Char :=
  if c.toNat < 128 then [c.toUpper] else table c

def capitalized (table : Char → List Char) : List Char → List Char
  | [] => []
  | c :: chars => charToUppercase table c ++ chars

/-- Words between underscores are joined, all but the first one with a capital. -/
def camelKey (table : Char → List Char) (key : String) : String :=
  match key.toList.splitOn '_' with
  | [] => ""
  | word :: words => String.ofList (word ++ words.flatMap (capitalized table))

def camel (table : Char → List Char) : Json → Json :=
  Json.mapKeys (camelKey table)

/-! ## Documents -/

namespace File

open Json (Codec)

/-- The rate is the `f64` next to the exact quotient, as it is printed. -/
def reportEntries (print : ℚ → String) (report : BatchReport) : List (String × Option Json) :=
  [("total", some (total.encode report.total)),
    ("successful", some (total.encode report.successful)),
    ("failed", some (total.encode report.failed)),
    ("skipped", some (total.encode report.skipped)),
    ("indeterminate", some (total.encode report.indeterminate)),
    ("success_rate", some (.number (print (Binary64.round report.successRate)))),
    ("aborted", some (.bool report.aborted)),
    ("started_at", some (.string report.startedAt)),
    ("finished_at", some (.string report.finishedAt)),
    ("results", some ((Codec.list result).encode report.results))]

end File

open File in
def progressEntries (p : Progress) : List (String × Option Json) :=
  [("state", some (.string p.state)),
    ("total", some (total.encode p.total)),
    ("processed", some (total.encode p.processed)),
    ("successful", some (total.encode p.successful)),
    ("failed", some (total.encode p.failed)),
    ("skipped", some (total.encode p.skipped)),
    ("indeterminate", some (total.encode p.indeterminate)),
    ("remaining", some (total.encode p.remaining)),
    ("pauseRequested", some (.bool p.pauseRequested)),
    ("stopRequested", some (.bool p.stopRequested)),
    ("currentTraineeName", p.currentTraineeName.map .string)]

def optionEntries (option : FormOption) : List (String × Option Json) :=
  [("value", some (.string option.value)), ("label", some (.string option.label))]

def Body.json : Body → Json
  | .error message => .record [("error", some (.string message))]
  | .progress shown => .record (progressEntries shown)
  | .batchId id => .record [("batchId", some (.string id))]
  | .options instructors trainingTypes =>
      let options (values : List FormOption) :=
        Json.array (values.map fun option => .record (optionEntries option))
      .record [("instructors", some (options instructors)),
        ("trainingTypes", some (options trainingTypes))]

namespace Shown

def code : Shown → Nat
  | .reply answer => answer.code
  | .report _ => 200
  | .checkpoint _ => 200

/-- What is on record is written as a file is, and renamed. Nothing is `null`. -/
def json (table : Char → List Char) (print : ℚ → String) : Shown → Json
  | .reply answer => answer.body.json
  | .report none => camel table .null
  | .report (some built) => camel table (.record (File.reportEntries print built))
  | .checkpoint none => camel table .null
  | .checkpoint (some cp) => camel table (File.checkpoint.encode cp)

end Shown

/-! ## The rate -/

theorem round_count {n : Nat} (h : n < 2 ^ 53) : Binary64.round (n : ℚ) = n := by
  have hsmall : |((n : ℤ) : ℚ)| < 2 ^ 53 := by
    rw [Int.cast_natCast, abs_of_nonneg (Nat.cast_nonneg n)]
    exact_mod_cast h
  simpa using Binary64.round_intCast hsmall

/-- The source divides two counts as `f64`s. Below `2 ^ 53` that is the quotient, rounded once. -/
theorem successRate_rounded (results : List TrainingResult) (startedAt finishedAt : String)
    (aborted : Bool) (h : results.length < 2 ^ 53) :
    let report := BatchReport.build results startedAt finishedAt aborted
    (if report.total = 0 then 0
      else Binary64.round (Binary64.round report.successful / Binary64.round report.total)) =
        Binary64.round report.successRate := by
  have hsuccessful : countOutcome .success results < 2 ^ 53 :=
    List.countP_le_length.trans_lt h
  dsimp only [BatchReport.build]
  split
  · exact (round_count (by decide)).symm
  · rw [round_count hsuccessful, round_count h]

/-! ## What the progress shows -/

/-- Every phase a batch is ever shown in. -/
def PHASES : List String :=
  ["idle", "stopped", "complete"] ++ LIVE_STATES

namespace Daemon

variable {toUppercase : String → String} {d d' : Daemon}

/-- A step keeps the phase that is shown, or shows one of the phases. -/
def ShowsOn (d d' : Daemon) : Prop :=
  d'.state.progress.state = d.state.progress.state ∨ d'.state.progress.state ∈ PHASES

theorem showsOn_clearControl (state : DaemonState) :
    state.clearControl.progress.state = state.progress.state ∨
      state.clearControl.progress.state ∈ PHASES := by
  unfold DaemonState.clearControl
  dsimp only
  have hstopped : "stopped" ∈ PHASES := by decide
  split
  · exact Or.inr hstopped
  · exact Or.inl rfl

theorem phaseOf_mem (cp : BatchCheckpoint) : phaseOf cp ∈ PHASES := by
  unfold phaseOf
  split
  · decide
  · decide
  · decide
  · split <;> decide

theorem showsOn_guarded (req : BatchRequest) (batchId : String) (saves : GuardSaves) :
    ShowsOn d (d.guarded req batchId saves) := by
  generalize hgated : d.guarded req batchId saves = d'
  cases guarded_cases hgated with
  | refused _ => exact Or.inl rfl
  | invalid _ => exact Or.inl rfl
  | done _ _ _ =>
      refine Or.inr ?_
      unfold nothingToRun
      dsimp only [progressOf]
      split <;> decide
  | admitted _ =>
      have hinitializing : "initializing" ∈ PHASES := by decide
      exact Or.inr hinitializing

theorem showsOn_ensured (endpoint : Endpoint) (holder : Holder) (next : Request) (reply : Reply) :
    ShowsOn d (d.ensured endpoint holder next reply) := by
  unfold ensured
  split
  · exact Or.inl rfl
  · split <;> exact Or.inl rfl

theorem showsOn_listed (a : Admission) (reply : Reply) :
    ShowsOn d (d.listed toUppercase a reply) := by
  unfold listed
  split
  · exact Or.inl rfl
  · split
    · dsimp only
      split <;> exact Or.inl rfl
    · exact Or.inl rfl

theorem showsOn_engineStep {input : Input} (h : d.engineStep input = some d') : ShowsOn d d' := by
  rcases engineStep_cases h with ⟨run, engine, -, -, rfl⟩
  unfold ShowsOn
  dsimp only
  split
  · next cp _ =>
      refine Or.inr ?_
      rw [(publish_state d.state run.names cp).1]
      exact phaseOf_mem cp
  · exact Or.inl rfl

theorem showsOn_finish (h : d.finish = some d') : ShowsOn d d' := by
  have hstopped : "stopped" ∈ PHASES := by decide
  have hcomplete : "complete" ∈ PHASES := by decide
  rcases finish_cases h with ⟨run, result, -, -, rfl⟩
  refine Or.inr ?_
  unfold finished
  split
  · dsimp only [progressOf]
    split
    · exact hstopped
    · exact hcomplete
  · exact hstopped

theorem step_showsOn {input : DaemonInput} (h : d.step toUppercase input = some d') :
    ShowsOn d d' := by
  cases branch_of_step h with
  | control c =>
      unfold applyControl
      split <;> exact Or.inl rfl
  | serve h =>
      cases serve_cases h with
      | @accepted id run c control control' hcaptured hlock hrun hcurrent hcontrol hrequest =>
          refine Or.inl ?_
          cases c <;> rfl
      | refused _ _ => exact Or.inl rfl
      | stale _ _ => exact Or.inl rfl
  | post _ =>
      unfold acquire
      split <;> exact Or.inl rfl
  | getFormOptions =>
      unfold acquire
      split <;> exact Or.inl rfl
  | guarded _ _ _ => exact showsOn_guarded _ _ _
  | connected _ result _ => cases result <;> exact Or.inl rfl
  | ensured _ _ _ => exact showsOn_ensured _ _ _ _
  | listed _ _ _ => exact showsOn_listed _ _
  | launched _ _ => exact Or.inl rfl
  | spawned _ result => cases result <;> exact Or.inl rfl
  | engine _ h => exact showsOn_engineStep h
  | finished _ h => exact showsOn_finish h
  | unwound _ => exact Or.inl rfl
  | left _ => exact showsOn_clearControl d.state
  | formConnected _ result _ => cases result <;> exact Or.inl rfl
  | formEnsured _ _ _ => exact showsOn_ensured _ _ _ _
  | formRead _ _ _ =>
      unfold formRead
      split
      · exact Or.inl rfl
      · split <;> exact Or.inl rfl
  | tornDown _ => exact Or.inl rfl
  | @released answer _ => cases answer <;> exact showsOn_clearControl d.state

/-- Whatever a daemon has been through, it shows one of the phases. -/
theorem Reachable.phase {store : CheckpointStore} (h : Reachable toUppercase store d) :
    d.state.progress.state ∈ PHASES := by
  have hidle : "idle" ∈ PHASES := by decide
  refine Machine.Reaches.invariant (P := fun d => d.state.progress.state ∈ PHASES) ?_ hidle h
  intro d input d' hshown hstep
  rcases step_showsOn hstep with hsame | hphase
  · rw [hsame]
    exact hshown
  · exact hphase

end Daemon

end DsspBot

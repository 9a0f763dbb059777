import DsspBot.Cli.Single
import DsspBot.Owed

/-!
# Batch — many trainees from the command line

`run_batch` asks the gate, connects, establishes the session, resolves the roster against the
portal's list and hands it to the engine. Its exit code is all that a caller of the command sees.
-/

namespace DsspBot

/-! ## Resolving a roster against the portal -/

/-- Unicode's `White_Space` property, which `char::is_whitespace` tests. -/
def isWhitespace (c : Char) : Bool :=
  let n := c.toNat
  decide (9 ≤ n ∧ n ≤ 13) || decide (n = 0x20) || decide (n = 0x85) || decide (n = 0xA0) ||
    decide (n = 0x1680) || decide (0x2000 ≤ n ∧ n ≤ 0x200A) || decide (n = 0x2028) ||
    decide (n = 0x2029) || decide (n = 0x202F) || decide (n = 0x205F) || decide (n = 0x3000)

def splitWhitespace (value : String) : List String :=
  ((value.toList.splitOnP isWhitespace).filter fun word => !word.isEmpty).map String.ofList

section Resolving

variable (toUppercase : String → String)

/-- Collapse whitespace and upper-case; the case mapping is Unicode's own. -/
def normalizeName (value : String) : String :=
  toUppercase (" ".intercalate (splitWhitespace value))

/-- A later entry of the list replaces an earlier one with its id. -/
def findById (available : List TraineeInfo) (id : String) : Option TraineeInfo :=
  available.reverse.find? fun trainee => decide (trainee.id = id)

def findByName (available : List TraineeInfo) (name : String) : List TraineeInfo :=
  available.filter fun trainee =>
    decide (normalizeName toUppercase trainee.name = normalizeName toUppercase name)

/-- An explicit id must exist, a name must match exactly one trainee. -/
def resolveEntry (available : List TraineeInfo) (index : Nat) (entry : TraineeRef) :
    Except String TraineeInfo :=
  -- The position shown is the entry's own, repeats included.
  let label := (keyOf entry).getD ("#" ++ Nat.repr index)
  match entry.id with
  | some id =>
      match findById available id with
      -- An id on the entry wins, whatever name stands beside it.
      | some found => .ok found
      | none => .error s!"{label}: no trainee with that id on the portal"
  | none =>
      match findByName toUppercase available (entry.name.getD "") with
      | [found] => .ok found
      | [] => .error s!"{label}: no trainee with that name on the portal"
      | found :: other :: more =>
          let count := (found :: other :: more).length
          .error s!"{label}: {count} trainees share that name — give the trainee id"

structure Resolved where
  resolved : List TraineeRef := []
  seen : List String := []
  problems : List String := []

/-- Repeats are dropped on the canonical id, and every problem is kept. -/
def Resolved.add (acc : Resolved) : Except String TraineeInfo → Resolved
  | .ok found =>
      -- The same person by id and by name is queued once.
      if found.id ∈ acc.seen then acc
      else
        { acc with
          resolved := acc.resolved ++ [{ id := some found.id, name := none }]
          seen := found.id :: acc.seen }
  | .error problem => { acc with problems := acc.problems ++ [problem] }

theorem Resolved.add_ok_problems (acc : Resolved) (found : TraineeInfo) :
    (acc.add (.ok found)).problems = acc.problems := by
  simp only [Resolved.add]
  split <;> rfl

def resolveFrom (available : List TraineeInfo) : Nat → Resolved → List TraineeRef → Resolved
  | _, acc, [] => acc
  | index, acc, entry :: rest =>
      resolveFrom available (index + 1) (acc.add (resolveEntry toUppercase available index entry))
        rest

def resolveAgainst (available : List TraineeInfo) (trainees : List TraineeRef) :
    Except (List String) (List TraineeRef) :=
  let acc := resolveFrom toUppercase available 0 {} trainees
  if acc.problems.isEmpty then .ok acc.resolved else .error acc.problems

/-- Why a batch could not be canonicalized. -/
inductive ResolveFailure
  | halt (message : String)
  | badBatch (message : String)
  deriving DecidableEq, Repr

def ResolveFailure.exitCode : ResolveFailure → Nat
  | .halt _ => 3
  | .badBatch _ => 2

/-- What the answer to `list_trainees` makes of the roster. -/
def resolveTrainees (trainees : List TraineeRef) : Reply → Except ResolveFailure (List TraineeRef)
  | .error e => .error (.halt s!"could not list trainees: {e}")
  | .ok resp =>
      if resp.status = .ok then
        match resolveAgainst toUppercase (resp.trainees.getD []) trainees with
        | .ok resolved => .ok resolved
        | .error problems =>
            let failed := problems.length
            let asked := trainees.length
            let lines := "\n  - ".intercalate problems
            .error (.badBatch s!"cannot resolve {failed} of {asked} trainee(s):\n  - {lines}")
      else
        let summary := resp.summary
        .error (.halt s!"could not list trainees: {summary}")

end Resolving

/-! ## Exit codes -/

/-- The resume header: the exit code when there is nothing to submit. -/
def announceResume (roster : List TraineeRef) (owed : Nat) : Option Nat :=
  if roster.isEmpty then some (if owed = 0 then 0 else 3) else none

def batchExitCode (report : BatchReport) : Nat :=
  if report.aborted || decide (0 < report.indeterminate) || decide (0 < report.skipped) then 3
  else if 0 < report.failed then 4
  else 0

/-! ## The run -/

structure BatchJob where
  trainees : List TraineeRef
  session : SessionInput
  /-- Whether the environment acknowledges the previous batch. -/
  resume : Bool

inductive BatchPc
  | guarding
  | connecting
  | ensureSession
  | ensuring
  | listTrainees
  | listing
  | starting (resolved : List TraineeRef)
  | running (b : Batch) (e : Engine)
  | exited (code : Nat)

structure BatchRun where
  pc : BatchPc
  store : CheckpointStore
  wanted : List TraineeRef := []
  carried : List TrainingResult := []
  /-- The requests made outside the engine. -/
  log : List Request := []

inductive BatchInput
  | guarded (saves : GuardSaves)
  | connected (result : Except String Unit)
  | newId (id : String)
  | reply (reply : Reply)
  | clock (now : String)
  | engine (input : Input)
  | tick

namespace BatchRun

def exit (s : BatchRun) (code : Nat) : BatchRun :=
  { s with pc := .exited code }

/-- What the plan of the gate makes of the job. -/
def planned (s : BatchRun) (job : BatchJob) : Plan → BatchRun
  | .fresh => { s with pc := .connecting, wanted := job.trainees, carried := [] }
  | .resume roster carried owed =>
      -- An empty resume is answered by its header and never connects.
      match announceResume roster owed with
      | some code => s.exit code
      | none => { s with pc := .connecting, wanted := roster, carried := carried }

def guarded (s : BatchRun) (job : BatchJob) (saves : GuardSaves) : BatchRun :=
  match guard s.store job.resume saves with
  | (.error _, store) => { s with store := store }.exit 3
  | (.ok start, store) => { s with store := store }.planned job start.plan

def sessionChecked (s : BatchRun) : Reply → BatchRun
  | .ok resp => if resp.status = .ok then { s with pc := .listTrainees } else s.exit 3
  | .error _ => s.exit 3

def listed (toUppercase : String → String) (s : BatchRun) (reply : Reply) : BatchRun :=
  match resolveTrainees toUppercase s.wanted reply with
  | .ok resolved => { s with pc := .starting resolved }
  | .error failure => s.exit failure.exitCode

/-- The engine of this run: the default policy, no controller, the carried records seeded. -/
def batchOf (s : BatchRun) (job : BatchJob) (resolved : List TraineeRef) (now : String) : Batch :=
  { session := job.session, startedAt := now, trainees := resolved, carried := s.carried }

/-- How the run ends once the engine has returned. -/
def finished (s : BatchRun) (e : Engine) : Option BatchRun :=
  match e.pc with
  | .returned (.ok report) => some ({ s with store := e.store }.exit (batchExitCode report))
  -- An engine error ends as a halt. The slot is whatever the run left.
  | .returned (.error _) => some ({ s with store := e.store }.exit 3)
  | _ => none

def step (toUppercase : String → String) (job : BatchJob) (s : BatchRun) (input : BatchInput) :
    Option BatchRun :=
  match s.pc, input with
  | .guarding, .guarded saves => some (s.guarded job saves)
  | .connecting, .connected (.ok ()) => some { s with pc := .ensureSession }
  | .connecting, .connected (.error _) => some (s.exit 1)
  | .ensureSession, .newId id =>
      some { s with pc := .ensuring, log := s.log ++ [.ensureSession id] }
  | .ensuring, .reply reply => some (s.sessionChecked reply)
  | .listTrainees, .newId id =>
      some { s with pc := .listing, log := s.log ++ [.listTrainees id] }
  | .listing, .reply reply => some (s.listed toUppercase reply)
  | .starting resolved, .clock now =>
      -- The engine starts in the slot as the gate left it, without a controller.
      let b := s.batchOf job resolved now
      some { s with pc := .running b (b.start none s.store) }
  | .running b e, .engine input =>
      (b.step e input).map fun e' => { s with pc := .running b e' }
  | .running _ e, .tick => s.finished e
  | _, _ => none

def start (store : CheckpointStore) : BatchRun :=
  { pc := .guarding, store := store }

def Reachable (toUppercase : String → String) (job : BatchJob) (store : CheckpointStore)
    (s : BatchRun) : Prop :=
  Machine.Reaches (step toUppercase job) (start store) s

end BatchRun

/-! ## What exit code 0 says -/

theorem batchExitCode_eq_zero_iff (report : BatchReport) :
    batchExitCode report = 0 ↔ report.aborted = false ∧ report.indeterminate = 0 ∧
      report.skipped = 0 ∧ report.failed = 0 := by
  unfold batchExitCode
  split
  · next hhuman =>
      constructor
      · intro h
        cases h
      · rintro ⟨haborted, hindeterminate, hskipped, -⟩
        simp [haborted, hindeterminate, hskipped] at hhuman
  · next hhuman =>
      have hparts : (report.aborted = false ∧ report.indeterminate = 0) ∧ report.skipped = 0 := by
        simpa using hhuman
      simp only [hparts.1.1, hparts.1.2, hparts.2, true_and]
      split <;> omega

/-- A run exits clean on a report of successes that was not cut short, and on no other. -/
theorem batchExitCode_build (results : List TrainingResult) (startedAt finishedAt : String)
    (aborted : Bool) :
    batchExitCode (.build results startedAt finishedAt aborted) = 0 ↔
      aborted = false ∧ ∀ row ∈ results, row.outcome = .success := by
  -- The three counts are zero exactly when every row is a success.
  have hall : (∀ row ∈ results, row.outcome = .success) ↔
      countOutcome .indeterminate results = 0 ∧ countOutcome .skipped results = 0 ∧
        countOutcome .failed results = 0 := by
    simp only [countOutcome_eq_zero_iff]
    constructor
    · intro h
      refine ⟨?_, ?_, ?_⟩ <;> intro row hrow hout <;> simp [h row hrow] at hout
    · rintro ⟨hindeterminate, hskipped, hfailed⟩ row hrow
      cases hout : row.outcome with
      | success => rfl
      | failed => exact absurd hout (hfailed row hrow)
      | skipped => exact absurd hout (hskipped row hrow)
      | indeterminate => exact absurd hout (hindeterminate row hrow)
  rw [hall]
  exact batchExitCode_eq_zero_iff _

/-- The engine cannot lose what it carries. -/
theorem Batch.Reachable.carried_subset {b : Batch} {store : CheckpointStore} {e : Engine}
    (h : b.Reachable store e) : ∀ row ∈ b.carried, row ∈ e.results := by
  rcases h.sim with ⟨l, hsim⟩
  rcases hsim.recorded with ⟨rows, hresults, -⟩
  intro row hrow
  rw [hresults]
  exact List.mem_append_left _ hrow

namespace BatchRun

variable {toUppercase : String → String} {job : BatchJob} {loaded : StoredCheckpoint}
  {s s' : BatchRun}

/-- What a clean exit through the engine says of the file it resumed. -/
structure CleanExit (loaded : StoredCheckpoint) : Prop where
  roster : (Reading.of loaded).roster ≠ []
  carried : ∀ row ∈ (Reading.of loaded).carriedForward, row.outcome = .success

/-- An acknowledged run over a file, by the point of the program. -/
def OnCourse (loaded : StoredCheckpoint) (s : BatchRun) : Prop :=
  match s.pc with
  | .guarding => s.store.slot = .file loaded
  | .running b e => (Reading.of loaded).roster ≠ [] ∧
      b.carried = (Reading.of loaded).carriedForward ∧ ∃ store, b.Reachable store e
  | .exited code => code = 0 → (Reading.of loaded).owed = 0 ∨ CleanExit loaded
  | _ => (Reading.of loaded).roster ≠ [] ∧ s.carried = (Reading.of loaded).carriedForward

theorem OnCourse.at_pc {pc : BatchPc} (h : OnCourse loaded s) (hpc : s.pc = pc) :
    OnCourse loaded { s with pc := pc } := by
  subst hpc
  exact h

/-- Over a file, an acknowledged gate answers with the file's plan. -/
theorem guarded_eq (h : s.store.slot = .file loaded) (hresume : job.resume = true)
    (saves : GuardSaves) :
    ∃ store, s.guarded job saves = ({ s with store := store } : BatchRun).planned job
      (.resume (Reading.of loaded).roster (Reading.of loaded).carriedForward
        (Reading.of loaded).owed) := by
  rcases guard_resumes h saves with ⟨start, hstart, hplan⟩
  refine ⟨(guard s.store true saves).2, ?_⟩
  have hguard : guard s.store true saves = (.ok start, (guard s.store true saves).2) :=
    Prod.ext hstart rfl
  unfold BatchRun.guarded
  rw [hresume, hguard, ← hplan]

/-- The gate's answer: out with nothing owed, or on with the file's work. -/
theorem OnCourse.guarded (h : s.store.slot = .file loaded) (hresume : job.resume = true)
    (saves : GuardSaves) : OnCourse loaded (s.guarded job saves) := by
  rcases guarded_eq h hresume saves with ⟨store, hguarded⟩
  rw [hguarded]
  simp only [planned, announceResume]
  -- An empty roster exits at once, by whether somebody is owed.
  by_cases hroster : (Reading.of loaded).roster = []
  · by_cases howed : (Reading.of loaded).owed = 0
    · simp [hroster, howed, exit, OnCourse]
    · simp [hroster, howed, exit, OnCourse]
  · simp [hroster, OnCourse]

/-- The engine's end: exit code 0 is only for a report of successes. -/
theorem OnCourse.finished {b : Batch} {e : Engine} {store : CheckpointStore}
    (hroster : (Reading.of loaded).roster ≠ [])
    (hcarried : b.carried = (Reading.of loaded).carriedForward) (hreach : b.Reachable store e)
    (h : s.finished e = some s') : OnCourse loaded s' := by
  unfold BatchRun.finished at h
  split at h
  · next report hpc =>
      cases h
      intro hcode
      rcases hreach.report_eq report hpc with ⟨now, rfl⟩
      have hclean := (batchExitCode_build _ _ _ _).1 hcode
      refine Or.inr ⟨hroster, ?_⟩
      intro row hrow
      exact hclean.2 row (hreach.carried_subset row (hcarried ▸ hrow))
  · cases h
    intro hcode
    cases hcode
  · cases h

theorem OnCourse.step {input : BatchInput} (h : OnCourse loaded s) (hresume : job.resume = true)
    (hstep : BatchRun.step toUppercase job s input = some s') : OnCourse loaded s' := by
  -- In the order of the branches of `BatchRun.step`. Every exit before the engine has a code.
  unfold BatchRun.step at hstep
  split at hstep
  · next hpc =>
      cases hstep
      have h := h.at_pc hpc
      exact OnCourse.guarded h hresume _
  · next hpc =>
      cases hstep
      have h := h.at_pc hpc
      exact h
  · cases hstep
    intro hcode
    cases hcode
  · next hpc =>
      cases hstep
      have h := h.at_pc hpc
      exact h
  · next reply hpc =>
      cases hstep
      have h := h.at_pc hpc
      unfold sessionChecked
      split
      · split
        · exact h
        · intro hcode
          cases hcode
      · intro hcode
        cases hcode
  · next hpc =>
      cases hstep
      have h := h.at_pc hpc
      exact h
  · next reply hpc =>
      cases hstep
      have h := h.at_pc hpc
      unfold listed
      split
      · exact h
      · next failure _ =>
          intro hcode
          cases failure <;> cases hcode
  · next resolved now hpc =>
      cases hstep
      have h := h.at_pc hpc
      exact ⟨h.1, h.2, s.store, none, Or.inl rfl, .refl _⟩
  · next b e input hpc =>
      rcases Option.map_eq_some_iff.1 hstep with ⟨e', hengine, rfl⟩
      have h := h.at_pc hpc
      rcases h with ⟨hroster, hcarried, store, control, hcontrol, hreach⟩
      exact ⟨hroster, hcarried, store, control, hcontrol, hreach.tail hengine⟩
  · next b e hpc =>
      have h := h.at_pc hpc
      rcases h with ⟨hroster, hcarried, store, hreach⟩
      exact OnCourse.finished hroster hcarried hreach hstep
  · cases hstep

theorem Reachable.onCourse {store : CheckpointStore} (hslot : store.slot = .file loaded)
    (hresume : job.resume = true) (h : Reachable toUppercase job store s) : OnCourse loaded s := by
  have hstart : OnCourse loaded (start store) := hslot
  exact Machine.Reaches.invariant (fun _ _ _ hs hstep => hs.step hresume hstep) hstart h

/-! ## A run that does exit clean -/

/-- A portal that lists exactly these ids. -/
def portalOf (ids : List String) : List TraineeInfo :=
  ids.map fun id => { id := id, name := "" }

theorem findById_portalOf {ids : List String} {id : String} (h : id ∈ ids) :
    ∃ found, findById (portalOf ids) id = some found := by
  have hsome : (findById (portalOf ids) id).isSome = true := by
    unfold findById portalOf
    rw [List.find?_isSome]
    exact ⟨{ id := id, name := "" }, by simpa using h, by simp⟩
  exact Option.isSome_iff_exists.1 hsome

variable (toUppercase) in
/-- Entries whose ids the portal lists raise no problem. -/
theorem resolveFrom_problems {available : List TraineeInfo} {ids : List String}
    (h : ∀ id ∈ ids, ∃ found, findById available id = some found) (index : Nat) (acc : Resolved) :
    (resolveFrom toUppercase available index acc (ids.map byId)).problems = acc.problems := by
  -- The accumulator and the position vary along the list, the problems do not.
  induction ids generalizing index acc with
  | nil => rfl
  | cons id ids ih =>
      rcases h id List.mem_cons_self with ⟨found, hfound⟩
      have hentry : resolveEntry toUppercase available index (byId id) = .ok found := by
        simp [resolveEntry, byId, hfound]
      rw [List.map_cons, resolveFrom, hentry, ← acc.add_ok_problems found]
      exact ih (fun id' hid' => h id' (List.mem_cons_of_mem _ hid')) _ _

variable (toUppercase) in
theorem resolveTrainees_portalOf (ids : List String) :
    ∃ resolved, resolveTrainees toUppercase (ids.map byId)
      (.ok { status := .ok, trainees := some (portalOf ids) }) = .ok resolved := by
  have hproblems := resolveFrom_problems toUppercase
    (fun id (hid : id ∈ ids) => findById_portalOf hid) 0 {}
  refine ⟨(resolveFrom toUppercase (portalOf ids) 0 {} (ids.map byId)).resolved, ?_⟩
  simp [resolveTrainees, resolveAgainst, hproblems]

variable (toUppercase) in
/-- Over a file with work to offer, some run hands its roster to the engine. -/
theorem reaches_engine {store : CheckpointStore} (hslot : store.slot = .file loaded)
    (hresume : job.resume = true) (hroster : (Reading.of loaded).roster ≠ []) :
    ∃ (b : Batch) (s : BatchRun), b.carried = (Reading.of loaded).carriedForward ∧
      Reachable toUppercase job store { s with pc := .running b (b.start none s.store) } := by
  obtain ⟨ids, hids⟩ : ∃ ids : List String, (Reading.of loaded).roster = ids.map byId := ⟨_, rfl⟩
  have hslot' : (BatchRun.start store).store.slot = .file loaded := hslot
  rcases guarded_eq hslot' hresume {} with ⟨store', hplanned⟩
  let s₁ : BatchRun :=
    { pc := .connecting, store := store', wanted := ids.map byId
      carried := (Reading.of loaded).carriedForward }
  have hguarded : BatchRun.step toUppercase job (BatchRun.start store) (.guarded {}) = some s₁ := by
    have hempty : (ids.map byId).isEmpty = false := by
      rw [← hids]
      simpa using hroster
    change some ((BatchRun.start store).guarded job {}) = _
    rw [hplanned]
    simp only [BatchRun.start, planned, announceResume, hids, hempty, Bool.false_eq_true, if_false,
      s₁]
  rcases resolveTrainees_portalOf toUppercase ids with ⟨resolved, hresolved⟩
  -- One step for each request and answer up to the engine's start.
  let s₂ : BatchRun := { s₁ with pc := .ensureSession }
  let s₃ : BatchRun := { s₂ with pc := .ensuring, log := s₂.log ++ [.ensureSession ""] }
  let s₄ : BatchRun := { s₃ with pc := .listTrainees }
  let s₅ : BatchRun := { s₄ with pc := .listing, log := s₄.log ++ [.listTrainees ""] }
  let s₆ : BatchRun := { s₅ with pc := .starting resolved }
  have hlisted : BatchRun.step toUppercase job s₅
      (.reply (.ok { status := .ok, trainees := some (portalOf ids) })) = some s₆ := by
    change some (s₅.listed toUppercase _) = _
    have hwanted : s₅.wanted = ids.map byId := rfl
    simp only [listed, hwanted, hresolved]
    rfl
  let b := s₆.batchOf job resolved ""
  refine ⟨b, s₆, rfl, ?_⟩
  have hconnected : BatchRun.step toUppercase job s₁ (.connected (.ok ())) = some s₂ := rfl
  have hensure : BatchRun.step toUppercase job s₂ (.newId "") = some s₃ := rfl
  have hensured : BatchRun.step toUppercase job s₃ (.reply (.ok { status := .ok })) = some s₄ := rfl
  have hlist : BatchRun.step toUppercase job s₄ (.newId "") = some s₅ := rfl
  have hbegin : BatchRun.step toUppercase job s₆ (.clock "") =
      some { s₆ with pc := .running b (b.start none s₆.store) } := rfl
  exact ((((((Machine.Reaches.single hguarded).tail hconnected).tail hensure).tail hensured).tail
    hlist).tail hlisted).tail hbegin

/-- The engine's runs are runs of the command. -/
theorem Reachable.engine {store : CheckpointStore} {b : Batch} {e e' : Engine}
    (h : Reachable toUppercase job store { s with pc := .running b e })
    (hengine : Machine.Reaches b.step e e') :
    Reachable toUppercase job store { s with pc := .running b e' } := by
  have hlift : ∀ x i x', b.step x i = some x' →
      BatchRun.step toUppercase job { s with pc := .running b x } (.engine i) =
        some { s with pc := .running b x' } := by
    intro x i x' hstep
    simp [BatchRun.step, hstep]
  exact Machine.Reaches.trans h
    (hengine.lift (fun x => { s with pc := .running b x }) BatchInput.engine hlift)

variable (toUppercase) in
/-- A file whose rows all succeeded can be resumed to a clean exit. -/
theorem exists_clean_exit {store : CheckpointStore} (hslot : store.slot = .file loaded)
    (hresume : job.resume = true) (hclean : CleanExit loaded) :
    ∃ s, Reachable toUppercase job store s ∧ s.pc = .exited 0 := by
  rcases reaches_engine toUppercase hslot hresume hclean.roster with
    ⟨b, s, hcarried, hreach⟩
  -- The engine's sweep, taken inside the command.
  rcases sweep b s.store with ⟨e, hengine, hswept⟩
  have hfinal := hreach.engine hengine
  rcases hswept.left with ⟨cp, report, rows, -, hpc, hresults, haborted, -, -, hrecorded, -, hrows,
    -, -⟩
  have hsuccess : ∀ row ∈ report.results, row.outcome = .success := by
    intro row hrow
    rw [hresults, hrecorded] at hrow
    rcases List.mem_append.1 hrow with hrow | hrow
    · exact hclean.carried row (hcarried ▸ hrow)
    · exact hrows row hrow
  have hreachable : b.Reachable s.store e := ⟨none, Or.inl rfl, hengine⟩
  rcases hreachable.report_eq report hpc with ⟨now, rfl⟩
  have hcode := (batchExitCode_build e.results b.startedAt now e.aborted).2 ⟨haborted, hsuccess⟩
  have hexit : BatchRun.step toUppercase job { s with pc := .running b e } .tick =
      some ({ s with store := e.store }.exit 0) := by
    simp only [BatchRun.step, finished, hpc, hcode]
    rfl
  exact ⟨_, hfinal.tail hexit, rfl⟩

end BatchRun

/-! ## Exit code 0 and what is owed -/

/-- An acknowledged run over this file exits 0 only when nothing is owed. -/
def CleanMeansSettled (toUppercase : String → String) (store : CheckpointStore)
    (loaded : StoredCheckpoint) : Prop :=
  ∀ job s, job.resume = true → BatchRun.Reachable toUppercase job store s → s.pc = .exited 0 →
    (Reading.of loaded).owed = 0

/-- The counts of the file place everybody, or something else keeps a resume from exiting 0:
nothing left to run, somebody unconfirmed, or a row that failed. -/
def ShortfallShows (loaded : StoredCheckpoint) : Prop :=
  loaded.checkpoint.unaccounted = 0 ∨ loaded.checkpoint.neverAttempted = [] ∨
    NamesUnconfirmed loaded ∨ ∃ row ∈ loaded.checkpoint.results, row.outcome = .failed

section Settled

variable {toUppercase : String → String} {store : CheckpointStore} {loaded : StoredCheckpoint}

/-- A clean exit through the engine rules out every reason of `ShortfallShows` but the counts. -/
theorem owed_of_cleanExit (hclean : BatchRun.CleanExit loaded) (hshows : ShortfallShows loaded) :
    (Reading.of loaded).owed = 0 := by
  have hnames : ¬NamesUnconfirmed loaded := by
    intro hnames
    rcases carriedForward_indeterminate hnames with ⟨row, hrow, hout⟩
    simp [hclean.carried row hrow] at hout
  have hcarried := hclean.carried
  rw [carriedForward_of_confirmed hnames] at hcarried
  rw [owed_of_confirmed hnames]
  -- A clean exit had work to run, nobody unconfirmed and no failed row, which leaves the counts.
  rcases hshows with hwhole | hnone | hnames' | ⟨row, hrow, hfailed⟩
  · exact hwhole
  · have hroster := hclean.roster
    rw [roster_of_confirmed hnames, hnone] at hroster
    exact absurd rfl hroster
  · exact absurd hnames' hnames
  · have hsuccess := hcarried row (List.mem_filter.2 ⟨hrow, by simp [hfailed]⟩)
    simp [hfailed] at hsuccess

/-- A short file without any of those reasons is resumed to a clean exit. -/
theorem not_cleanMeansSettled (hslot : store.slot = .file loaded)
    (hshows : ¬ShortfallShows loaded) : ¬CleanMeansSettled toUppercase store loaded := by
  have hnames : ¬NamesUnconfirmed loaded := fun h => hshows (Or.inr (Or.inr (Or.inl h)))
  have hroster := roster_of_confirmed hnames
  have hclean : BatchRun.CleanExit loaded := by
    refine ⟨?_, ?_⟩
    · rw [hroster]
      intro hnil
      exact hshows (Or.inr (Or.inl (List.map_eq_nil_iff.1 hnil)))
    · intro row hrow
      rw [carriedForward_of_confirmed hnames] at hrow
      have hparts := List.mem_filter.1 hrow
      -- Carried rows are the file's own without the skips, none failed and none unconfirmed.
      cases hout : row.outcome with
      | success => rfl
      | failed => exact absurd (Or.inr (Or.inr (Or.inr ⟨row, hparts.1, hout⟩))) hshows
      | skipped => simp [hout] at hparts
      | indeterminate => exact absurd hout (results_confirmed hnames row hparts.1)
  -- Any job that can be planned will do, since a resume goes by the file.
  let job : BatchJob :=
    { trainees := [byId "1"]
      session := { trainingDate := "2024-05-06", instructor := "3", trainingType := "4" }
      resume := true }
  have hresume : job.resume = true := rfl
  rcases BatchRun.exists_clean_exit toUppercase hslot hresume hclean with ⟨s, hreach, hpc⟩
  intro hsettled
  have howed := hsettled job s rfl hreach hpc
  rw [owed_of_confirmed hnames] at howed
  exact hshows (Or.inl howed)

/-- The command's exit code 0 can be trusted exactly on the files whose shortfall shows. -/
theorem clean_exit_means_settled_iff (hslot : store.slot = .file loaded) :
    CleanMeansSettled toUppercase store loaded ↔ ShortfallShows loaded := by
  constructor
  · intro hsettled
    by_contra hshows
    exact not_cleanMeansSettled hslot hshows hsettled
  · intro hshows job s hresume hreach hpc
    have hcourse := (hreach.onCourse hslot hresume).at_pc hpc
    rcases hcourse rfl with howed | hclean
    · exact howed
    · exact owed_of_cleanExit hclean hshows

end Settled

/-- The file that lost a trainee is resumed to exit code 0 with that trainee still owed. -/
theorem clean_exit_over_shortFile :
    (Reading.of shortFile).owed = 1 ∧ ¬CleanMeansSettled String.toUpper shortStore shortFile := by
  have hshows : ¬ShortfallShows shortFile := by
    unfold ShortfallShows NamesUnconfirmed
    decide
  exact ⟨by decide, not_cleanMeansSettled rfl hshows⟩

/-- With trainee 3 accounted for, exit code 0 is the whole truth. -/
theorem clean_exit_over_a_whole_file :
    let loaded : StoredCheckpoint :=
      .written { shortFile.checkpoint with pending := ["2", "3"] }
    CleanMeansSettled String.toUpper { shortStore with slot := .file loaded } loaded :=
  (clean_exit_means_settled_iff rfl).2 (Or.inl (by decide))

end DsspBot

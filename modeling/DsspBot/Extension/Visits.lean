import DsspBot.Extension.Turns

/-!
# Visits — what the engine hears from the portal about each trainee

An observer of the portal keeps a journal of what is asked for each trainee and what is answered.
From it can be read off what a row proves: that a trainee's form is submitted at most once, that it
is submitted only once it has been validated, and what the engine has heard for each outcome.
-/

namespace DsspBot

namespace Extension

open AutomationEngine (Goes Closes Leads Turn Sound)

/-! ## What a trainee's exchanges say -/

structure Exchange where
  call : PortalCall
  answer : Answer
  deriving DecidableEq, Repr

/-- Nothing has been submitted. -/
def Unsent (exchanges : List Exchange) : Prop :=
  ∀ exchange ∈ exchanges, ∃ operation, exchange.call = .preparing operation

/-- One preparation from its beginning, up to where this operation is asked for. -/
inductive Prepared : List Exchange → Preparation → Prop
  | start : Prepared [] .isPortalPage
  | asked {exchanges : List Exchange} {operation next : Preparation} {answer : Answer}
      (h : Prepared exchanges operation) (hleads : Leads operation answer next) :
      Prepared (exchanges ++ [⟨.preparing operation, answer⟩]) next

/-- The last preparation has come as far as this operation. -/
def Preparing (exchanges : List Exchange) (operation : Preparation) : Prop :=
  ∃ earlier last, exchanges = earlier ++ last ∧ Unsent earlier ∧ Prepared last operation

/-- The last preparation has gone through. -/
def Validated (exchanges : List Exchange) : Prop :=
  ∃ preparing, Preparing preparing .validateTrainingForm ∧
    exchanges = preparing ++ [⟨.preparing .validateTrainingForm, .done⟩]

/-- Submitted, and asked about without an answer. -/
inductive Sent : List Exchange → Prop
  | submitted {exchanges : List Exchange} (h : Validated exchanges) :
      Sent (exchanges ++ [⟨.submitTrainingForm, .done⟩])
  | asked {exchanges : List Exchange} {answer : Answer} (h : Sent exchanges)
      (hopen : answer.inconclusive = true) :
      Sent (exchanges ++ [⟨.waitForSubmissionResult, answer⟩])

/-- How far a visit has come. -/
def Stage : Await → List Exchange → Prop
  | .preparing _ _ operation, exchanges => Preparing exchanges operation
  | .retryingPrepare _ _, exchanges => Unsent exchanges
  | .submitting _ _, exchanges => Validated exchanges
  | .verifying _ _ _, exchanges => Sent exchanges
  | .retryingVerify _ _ _, exchanges => Sent exchanges
  | _, exchanges => exchanges = []

/-- The attempts to prepare, and to confirm. -/
def Await.attempts : Await → Nat × Nat
  | .preparing _ attempt _ => (attempt, 0)
  | .retryingPrepare _ attempt => (attempt, 0)
  | .submitting _ attempts => (attempts, 0)
  | .verifying _ attempts attempt => (attempts, attempt)
  | .retryingVerify _ attempts attempt => (attempts, attempt)
  | _ => (0, 0)

/-- The attempts that a policy of so many allows. -/
def Await.within (maxAttempts : Nat) : Await → Prop
  | .preparing _ attempt _ => attempt ≤ maxAttempts
  | .retryingPrepare _ attempt => attempt < maxAttempts
  | .submitting _ attempts => attempts ≤ maxAttempts
  | .verifying _ attempts attempt => attempts ≤ maxAttempts ∧ attempt ≤ maxAttempts
  | .retryingVerify _ attempts attempt => attempts ≤ maxAttempts ∧ attempt < maxAttempts
  | _ => True

/-- The exchanges after an input: an answer belongs to the call that is waited for. -/
def heard (await : Await) (exchanges : List Exchange) : EngineInput → List Exchange
  | .answered answer => exchanges ++ (await.call.map fun call => ⟨call, answer⟩).toList
  | _ => exchanges

/-- What has been asked of the portal, with the call that is waited for. -/
def asked (await : Await) (exchanges : List Exchange) : List PortalCall :=
  exchanges.map (·.call) ++ await.call.toList

structure Course (options : AutomationEngineOptions) (await : Await) (exchanges : List Exchange) :
    Prop where
  stage : Stage await exchanges
  prepares : (asked await exchanges).count (.preparing .isPortalPage) = await.attempts.1
  confirms : (asked await exchanges).count .waitForSubmissionResult = await.attempts.2
  within : await.within options.maxAttempts
  some : await.task.isSome → 0 < options.maxAttempts

section Courses

variable {options : AutomationEngineOptions} {await await' : Await} {input : EngineInput}
  {exchanges : List Exchange} {operation : Preparation} {answer : Answer}

theorem Unsent.append {more : List Exchange} (h : Unsent exchanges) (h' : Unsent more) :
    Unsent (exchanges ++ more) := by
  intro exchange hmem
  rcases List.mem_append.1 hmem with hmem | hmem
  · exact h exchange hmem
  · exact h' exchange hmem

theorem unsent_singleton (operation : Preparation) (answer : Answer) :
    Unsent [⟨.preparing operation, answer⟩] := by
  simp [Unsent]

theorem Prepared.unsent (h : Prepared exchanges operation) : Unsent exchanges := by
  induction h with
  | start => simp [Unsent]
  | asked _ _ ih => exact ih.append (unsent_singleton _ _)

theorem Preparing.unsent (h : Preparing exchanges operation) : Unsent exchanges := by
  rcases h with ⟨earlier, last, rfl, hearlier, hlast⟩
  exact hearlier.append hlast.unsent

theorem Validated.unsent (h : Validated exchanges) : Unsent exchanges := by
  rcases h with ⟨preparing, hpreparing, rfl⟩
  exact hpreparing.unsent.append (unsent_singleton _ _)

theorem Preparing.asked {next : Preparation} (h : Preparing exchanges operation)
    (hleads : Leads operation answer next) :
    Preparing (exchanges ++ [⟨.preparing operation, answer⟩]) next := by
  rcases h with ⟨earlier, last, rfl, hearlier, hlast⟩
  exact ⟨earlier, _, List.append_assoc _ _ _, hearlier, hlast.asked hleads⟩

theorem Unsent.preparing (h : Unsent exchanges) : Preparing exchanges .isPortalPage :=
  ⟨exchanges, [], (List.append_nil _).symm, h, .start⟩

theorem asked_heard (hgoes : Goes options await input await') :
    asked await' (heard await exchanges input) = asked await exchanges ++ await'.call.toList := by
  cases hgoes <;> simp [asked, heard, Await.call]

theorem stage_heard (h : Stage await exchanges) (hgoes : Goes options await input await') :
    Stage await' (heard await exchanges input) := by
  cases hgoes with
  | asks hleads => exact Preparing.asked h hleads
  | submits => exact ⟨_, h, rfl⟩
  | prepareFails => exact (Preparing.unsent h).append (unsent_singleton _ _)
  | preparesAgain => exact Unsent.preparing h
  | confirms => exact .submitted h
  | confirmFails hopen => exact .asked h hopen
  | confirmsAgain => exact h

theorem Course.goes (h : Course options await exchanges) (hgoes : Goes options await input await') :
    Course options await' (heard await exchanges input) where
  stage := stage_heard h.stage hgoes
  prepares := by
    rw [asked_heard hgoes, List.count_append, h.prepares]
    cases hgoes with
    | asks hleads => cases hleads <;> rfl
    | _ => rfl
  confirms := by
    rw [asked_heard hgoes, List.count_append, h.confirms]
    cases hgoes <;> rfl
  within := by
    have hwithin := h.within
    have hsome := h.some
    cases hgoes with
    | asks => exact hwithin
    | submits => exact hwithin
    | prepareFails hmore => exact Nat.lt_of_le_of_ne hwithin hmore
    | preparesAgain => exact hwithin
    | confirms => exact ⟨hwithin, hsome rfl⟩
    | confirmFails _ hmore => exact ⟨hwithin.1, Nat.lt_of_le_of_ne hwithin.2 hmore⟩
    | confirmsAgain => exact hwithin
  some := by
    have hsome := h.some
    cases hgoes <;> exact hsome

theorem course_of_task_eq_none (hawait : await.task = none) : Course options await [] := by
  cases await <;> first
    | exact ⟨rfl, rfl, rfl, trivial, by simp [Await.task]⟩
    | cases hawait

theorem Course.nil_of_task_eq_none (h : Course options await exchanges)
    (hawait : await.task = none) : exchanges = [] := by
  have hstage := h.stage
  cases await <;> first
    | exact hstage
    | cases hawait

theorem Course.begins (task : BatchTask) (hsome : 0 < options.maxAttempts) :
    Course options (.preparing task 1 .isPortalPage) [] :=
  ⟨Unsent.preparing (by simp [Unsent]), rfl, rfl, hsome, fun _ => hsome⟩

end Courses

/-! ## What a row proves -/

/-- A trainee that the engine is done with. -/
structure Visit where
  task : BatchTask
  exchanges : List Exchange
  result : TrainingResult
  deriving DecidableEq, Repr

/-- What has been heard for an outcome. -/
def Proves (exchanges : List Exchange) : Outcome → Prop
  | .success => ∃ sent reference, Sent sent ∧
      exchanges = sent ++ [⟨.waitForSubmissionResult, .outcome (.confirmed reference)⟩]
  | .failed =>
      Unsent exchanges ∨
        (∃ validated error, Validated validated ∧
          AutomationEngine.provesNothingSubmitted error.code = true ∧
          exchanges = validated ++ [⟨.submitTrainingForm, .failure error⟩]) ∨
          ∃ sent outcome, Sent sent ∧ (∀ reference, outcome ≠ .confirmed reference) ∧
            exchanges = sent ++ [⟨.waitForSubmissionResult, .outcome outcome⟩]
  | .indeterminate =>
      (∃ validated error, Validated validated ∧
        AutomationEngine.provesNothingSubmitted error.code = false ∧
        exchanges = validated ++ [⟨.submitTrainingForm, .failure error⟩]) ∨
        ∃ sent answer, Sent sent ∧ answer.inconclusive = true ∧
          exchanges = sent ++ [⟨.waitForSubmissionResult, answer⟩]
  | .skipped => False

/-- The row is about the trainee, counts its attempts, and says what has been heard. -/
structure Visit.Justified (options : AutomationEngineOptions) (visit : Visit) : Prop where
  names : visit.result.traineeId = visit.task.trainee.id ∧
    visit.result.traineeName = visit.task.trainee.name
  attempts : (visit.exchanges.map (·.call)).count (.preparing .isPortalPage) =
    visit.result.attempts
  confirms : (visit.exchanges.map (·.call)).count .waitForSubmissionResult ≤ options.maxAttempts
  within : visit.result.attempts ≤ options.maxAttempts
  proves : Proves visit.exchanges visit.result.outcome

theorem justified_of_closes {options : AutomationEngineOptions} {await : Await}
    {exchanges : List Exchange} {answer : Answer} {row : TrainingResult} {task : BatchTask}
    (h : Course options await exchanges) (hcloses : Closes await answer row)
    (htask : await.task = some task) :
    Visit.Justified options ⟨task, heard await exchanges (.answered answer), row⟩ := by
  have hasked : (heard await exchanges (.answered answer)).map (·.call) =
      asked await exchanges := by
    cases hcloses <;> simp [heard, asked, Await.call]
  have hstage := h.stage
  have hprepares := h.prepares
  have hconfirms := h.confirms
  have hwithin := h.within
  refine ⟨?_, ?_, ?_, ?_, ?_⟩
  · cases hcloses <;> cases htask <;> exact ⟨rfl, rfl⟩
  · rw [hasked, hprepares]
    cases hcloses <;> rfl
  · rw [hasked, hconfirms]
    cases hcloses with
    | confirmed => exact hwithin.2
    | duplicate => exact hwithin.2
    | rejected => exact hwithin.2
    | unconfirmed => exact hwithin.2
    | _ => exact Nat.zero_le _
  · cases hcloses with
    | unprepared => exact hwithin
    | unsent => exact hwithin
    | unsure => exact hwithin
    | _ => exact hwithin.1
  · cases hcloses with
    | unprepared => exact .inl ((Preparing.unsent hstage).append (unsent_singleton _ _))
    | unsent hproof => exact .inr (.inl ⟨_, _, hstage, hproof, rfl⟩)
    | unsure hproof => exact .inl ⟨_, _, hstage, hproof, rfl⟩
    | confirmed reference => exact ⟨_, reference, hstage, rfl⟩
    | duplicate => exact .inr (.inr ⟨_, _, hstage, by simp, rfl⟩)
    | rejected => exact .inr (.inr ⟨_, _, hstage, by simp, rfl⟩)
    | unconfirmed _ hopen => exact .inr ⟨_, _, hstage, hopen, rfl⟩

theorem task_of_closes {await : Await} {answer : Answer} {row : TrainingResult}
    (h : Closes await answer row) : await.task.isSome := by
  cases h <;> rfl

/-! ## The journal of a run -/

/-- The engine, and what an observer of the portal has written down about its latest run. -/
structure Journal where
  engine : AutomationEngine := {}
  /-- With the trainee that the engine is at. -/
  exchanges : List Exchange := []
  visits : List Visit := []
  /-- The trainee whose submission took the run with it. -/
  lost : List (BatchTask × List Exchange) := []
  /-- Everybody the run has been given. -/
  given : List BatchTask := []

namespace Journal

variable (options : AutomationEngineOptions) (j : Journal)

/-- What is written down for an input that leads to this engine. -/
def enter (engine : AutomationEngine) (input : EngineInput) : Journal :=
  let exchanges := heard j.engine.await j.exchanges input
  match input, j.engine.await.task, engine.await with
  | .run, _, _ =>
      if j.engine.running then { j with engine := engine }
      else { engine := engine, given := j.engine.queue.tasks.map (·.payload) }
  | .addTask task, _, _ => { j with engine := engine, given := j.given ++ [task] }
  | .clearQueue, _, _ =>
      { j with
        engine := engine
        given := j.given.take (j.given.length - j.engine.queue.tasks.length) }
  | .answered _, some task, .recording row =>
      { j with
        engine := engine
        exchanges := []
        visits := j.visits ++ [{ task := task, exchanges := exchanges, result := row }] }
  | .answered _, some task, .finishing _ =>
      { j with engine := engine, exchanges := [], lost := j.lost ++ [(task, exchanges)] }
  | .continued, _, .recording row =>
      { j with
        engine := engine
        visits := j.visits ++ j.engine.queue.tasks.head?.toList.map fun task =>
          { task := task.payload, exchanges := [], result := row } }
  | _, _, _ => { j with engine := engine, exchanges := exchanges }

def step (input : EngineInput) : Option Journal :=
  (j.engine.step options input).map fun engine => j.enter engine input

/-! ## One lemma for each kind of entry -/

section Entries

variable {options : AutomationEngineOptions} {j : Journal} {e : AutomationEngine}
  {input : EngineInput} {row : TrainingResult}

@[simp] theorem engine_enter : (j.enter e input).engine = e := by
  unfold enter
  split <;> try split
  all_goals rfl

theorem enter_goes (h : Goes options j.engine.await input e.await) :
    j.enter e input =
      { j with engine := e, exchanges := heard j.engine.await j.exchanges input } := by
  unfold enter
  generalize j.engine.await = await at h ⊢
  generalize e.await = await' at h ⊢
  cases h <;> rfl

theorem enter_closes {answer : Answer} {task : BatchTask} (htask : j.engine.await.task = some task)
    (hrow : e.await = .recording row) :
    j.enter e (.answered answer) =
      { j with
        engine := e
        exchanges := []
        visits := j.visits ++
          [⟨task, heard j.engine.await j.exchanges (.answered answer), row⟩] } := by
  simp [enter, htask, hrow]

theorem enter_lost {answer : Answer} {task : BatchTask} {result : Except String BatchReport}
    (htask : j.engine.await.task = some task) (hresult : e.await = .finishing result) :
    j.enter e (.answered answer) =
      { j with
        engine := e
        exchanges := []
        lost := j.lost ++ [(task, heard j.engine.await j.exchanges (.answered answer))] } := by
  simp [enter, htask, hresult]

theorem enter_unbegun {task : QueueTask BatchTask} {rest : List (QueueTask BatchTask)}
    (hqueue : j.engine.queue.tasks = task :: rest) (hrow : e.await = .recording row) :
    j.enter e .continued =
      { j with engine := e, visits := j.visits ++ [⟨task.payload, [], row⟩] } := by
  simp [enter, hrow, hqueue]

theorem heard_of_task_eq_none {await : Await} {exchanges : List Exchange}
    (htask : await.task = none) : heard await exchanges input = exchanges := by
  have hcall : await.call = none := by cases await <;> first | rfl | cases htask
  cases input <;> simp [heard, hcall]

theorem enter_aside (hinput : input.proceeds = true) (htask : j.engine.await.task = none)
    (hrow : input = .continued → ∀ row, e.await ≠ .recording row) :
    j.enter e input = { j with engine := e } := by
  have hheard : heard j.engine.await j.exchanges input = j.exchanges := heard_of_task_eq_none htask
  cases input with
  | answered answer => simp [enter, htask, hheard]
  | written => simp [enter, hheard]
  | elapsed => simp [enter, hheard]
  | continued =>
      cases hawait : e.await with
      | recording row => exact absurd hawait (hrow rfl row)
      | _ => simp [enter, hawait, hheard]
  | _ => cases hinput

end Entries

/-! ## What the journal shows at any time -/

/-- The exchanges are those of a visit that has come as far as the engine, and every row is
justified by what has been heard. -/
structure Kept (options : AutomationEngineOptions) (j : Journal) : Prop where
  sound : Sound j.engine
  course : Course options j.engine.await j.exchanges
  visits : ∀ visit ∈ j.visits, visit.Justified options
  lost : ∀ entry ∈ j.lost, ∃ validated error, Validated validated ∧
    entry.2 = validated ++ [⟨.submitTrainingForm, .thrown error⟩]

theorem kept_start : Kept options {} where
  sound := AutomationEngine.sound_start
  course := course_of_task_eq_none rfl
  visits := by simp
  lost := by simp

variable {options} {j}

/-- Between two trainees nothing is written down. -/
theorem Kept.aside {e : AutomationEngine} (h : Kept options j) (hsound : Sound e)
    (htask : j.engine.await.task = none) (htask' : e.await.task = none) :
    Kept options { j with engine := e } where
  sound := hsound
  course := by
    show Course options e.await j.exchanges
    rw [h.course.nil_of_task_eq_none htask]
    exact course_of_task_eq_none htask'
  visits := h.visits
  lost := h.lost

theorem Kept.step {j' : Journal} {input : EngineInput} (h : Kept options j)
    (hstep : j.step options input = some j') : Kept options j' := by
  rcases Option.map_eq_some_iff.1 hstep with ⟨e, hengine, rfl⟩
  have hsound : Sound e := h.sound.step hengine
  cases AutomationEngine.turn_of_step h.sound hengine with
  | added task => exact ⟨hsound, h.course, h.visits, h.lost⟩
  | cleared => exact ⟨hsound, h.course, h.visits, h.lost⟩
  | refused hbusy _ hawait =>
      simp only [enter, hbusy, if_true]
      exact ⟨hsound, hawait ▸ h.course, h.visits, h.lost⟩
  | started hidle _ _ _ _ hawait =>
      simp only [enter, hidle]
      exact ⟨hsound, hawait ▸ course_of_task_eq_none rfl, by simp, by simp⟩
  | called call _ hawait =>
      rcases hawait with hsame | ⟨hasleep, hwoken⟩
      · exact ⟨hsound, hsame.symm ▸ h.course, h.visits, h.lost⟩
      · exact h.aside hsound (by rw [hasleep]; rfl) (by rw [hwoken]; rfl)
  | goes hgoes =>
      rw [enter_goes hgoes]
      exact ⟨hsound, h.course.goes hgoes, h.visits, h.lost⟩
  | closes hcloses hrecords =>
      rcases Option.isSome_iff_exists.1 (task_of_closes hcloses) with ⟨task, htask⟩
      rw [enter_closes htask hrecords.await]
      refine ⟨hsound, ?_, ?_, h.lost⟩
      · exact hrecords.await ▸ course_of_task_eq_none rfl
      · intro visit hvisit
        rcases List.mem_append.1 hvisit with hvisit | hvisit
        · exact h.visits visit hvisit
        · rw [List.mem_singleton.1 hvisit]
          exact justified_of_closes h.course hcloses htask
  | @lost task _ _ _ hawait hfinishes =>
      have htask : j.engine.await.task = some task := by rw [hawait]; rfl
      have hstage := h.course.stage
      rw [enter_lost htask hfinishes.await]
      refine ⟨hsound, hfinishes.await ▸ course_of_task_eq_none rfl, h.visits, ?_⟩
      intro entry hentry
      rcases List.mem_append.1 hentry with hentry | hentry
      · exact h.lost entry hentry
      · rw [List.mem_singleton.1 hentry]
        rw [hawait] at hstage ⊢
        exact ⟨_, _, hstage, rfl⟩
  | begins hawait _ hsome _ _ _ _ hnext =>
      have htask : j.engine.await.task = none := by rw [hawait]; rfl
      rw [enter_aside rfl htask (by simp [hnext])]
      refine ⟨hsound, ?_, h.visits, h.lost⟩
      rw [h.course.nil_of_task_eq_none htask, hnext]
      exact .begins _ hsome
  | unbegun hawait _ hqueue hrecords =>
      have htask : j.engine.await.task = none := by rw [hawait]; rfl
      rw [enter_unbegun hqueue hrecords.await]
      refine ⟨hsound, (h.aside hsound htask hrecords.task).course, ?_, h.lost⟩
      intro visit hvisit
      rcases List.mem_append.1 hvisit with hvisit | hvisit
      · exact h.visits visit hvisit
      · rw [List.mem_singleton.1 hvisit]
        exact ⟨⟨rfl, rfl⟩, rfl, Nat.zero_le _, Nat.zero_le _, .inl (by simp [Unsent])⟩
  | passes hinput hbetween _ _ _ _ hnext =>
      have htask : e.await.task = none := AutomationEngine.task_of_passes hnext
      rw [enter_aside hinput hbetween.task (by rintro - row hrow; simp [hrow] at hnext)]
      exact h.aside hsound hbetween.task htask
  | leaves hinput reason hbetween hfinishes =>
      rw [enter_aside hinput hbetween.task (by simp [hfinishes.await])]
      exact h.aside hsound hbetween.task hfinishes.task
  | unopened hawait hfinishes =>
      have htask : j.engine.await.task = none := by rw [hawait]; rfl
      rw [enter_aside rfl htask (by simp)]
      exact h.aside hsound htask hfinishes.task
  | returned hawait _ hnext =>
      have htask : j.engine.await.task = none := by rw [hawait]; rfl
      rw [enter_aside rfl htask (by simp)]
      exact h.aside hsound htask (by rw [hnext]; rfl)

theorem Kept.of_run {inputs : List EngineInput}
    (hrun : Machine.run (Journal.step options) {} inputs = some j) : Kept options j :=
  Machine.Reaches.invariant (P := Kept options) (fun _ _ _ h => h.step) (kept_start options)
    ⟨inputs, hrun⟩

/-- With whom the portal has been asked, and how far it has come. -/
def sheets (j : Journal) : List (Await × List Exchange) :=
  j.visits.map (fun visit => (.nothing, visit.exchanges)) ++
    j.lost.map (fun entry => (.nothing, entry.2)) ++ [(j.engine.await, j.exchanges)]

end Journal

/-! ## A form is submitted once, and when it is sure -/

/-- A preparation that has gone through, with what it took to have a session. -/
def fullPreparation (session : List Exchange) : List Exchange :=
  ⟨.preparing .isPortalPage, .told true⟩ :: session ++
    [⟨.preparing .prepareTrainee, .done⟩, ⟨.preparing .fillTrainingForm, .done⟩,
      ⟨.preparing .validateTrainingForm, .done⟩]

/-- The session was ready, or has been opened. -/
def sessions : List (List Exchange) :=
  [[⟨.preparing .isTrainingSessionReady, .told true⟩],
    [⟨.preparing .isTrainingSessionReady, .told false⟩,
      ⟨.preparing .initializeTrainingSession, .done⟩]]

/-- The form is submitted after this much has been heard, whether there is an answer yet or not. -/
def SubmittedAfter (await : Await) (exchanges before : List Exchange) : Prop :=
  (await.call = some .submitTrainingForm ∧ exchanges = before) ∨
    ∃ answer after, exchanges = before ++ ⟨.submitTrainingForm, answer⟩ :: after

structure SubmitsOnce (await : Await) (exchanges : List Exchange) : Prop where
  once : (asked await exchanges).count .submitTrainingForm ≤ 1
  sure : ∀ before, SubmittedAfter await exchanges before →
    ∃ earlier, ∃ session ∈ sessions, before = earlier ++ fullPreparation session

/-- Submitted, and from then on only asked about. -/
def Submission (exchanges : List Exchange) : Prop :=
  ∃ validated answer after, Validated validated ∧
    exchanges = validated ++ ⟨.submitTrainingForm, answer⟩ :: after ∧
      ∀ exchange ∈ after, exchange.call = .waitForSubmissionResult

section Submissions

variable {await : Await} {exchanges : List Exchange}

theorem Validated.submission (h : Validated exchanges) (answer : Answer) :
    Submission (exchanges ++ [⟨.submitTrainingForm, answer⟩]) :=
  ⟨exchanges, answer, [], h, rfl, by simp⟩

theorem Submission.asked (h : Submission exchanges) (answer : Answer) :
    Submission (exchanges ++ [⟨.waitForSubmissionResult, answer⟩]) := by
  rcases h with ⟨validated, first, after, hvalidated, rfl, hafter⟩
  refine ⟨validated, first, after ++ [⟨.waitForSubmissionResult, answer⟩], hvalidated, by simp, ?_⟩
  intro exchange hmem
  rcases List.mem_append.1 hmem with hmem | hmem
  · exact hafter exchange hmem
  · rw [List.mem_singleton.1 hmem]

theorem Sent.submission (h : Sent exchanges) : Submission exchanges := by
  induction h with
  | submitted h => exact h.submission .done
  | asked _ _ ih => exact ih.asked _

/-- Whoever has a row has not been submitted, or once. -/
theorem unsent_or_submission {outcome : Outcome} (h : Proves exchanges outcome) :
    Unsent exchanges ∨ Submission exchanges := by
  cases outcome with
  | success =>
      rcases h with ⟨sent, reference, hsent, rfl⟩
      exact .inr (hsent.submission.asked _)
  | failed =>
      rcases h with hunsent | ⟨validated, error, hvalidated, -, rfl⟩ | ⟨sent, _, hsent, -, rfl⟩
      · exact .inl hunsent
      · exact .inr (hvalidated.submission _)
      · exact .inr (hsent.submission.asked _)
  | indeterminate =>
      rcases h with ⟨validated, error, hvalidated, -, rfl⟩ | ⟨sent, _, hsent, -, rfl⟩
      · exact .inr (hvalidated.submission _)
      · exact .inr (hsent.submission.asked _)
  | skipped => cases h

theorem Unsent.count_submitTrainingForm (h : Unsent exchanges) :
    (exchanges.map (·.call)).count .submitTrainingForm = 0 := by
  rw [List.count_eq_zero]
  intro hmem
  rcases List.mem_map.1 hmem with ⟨exchange, hexchange, hcall⟩
  rcases h exchange hexchange with ⟨operation, hoperation⟩
  simp [hoperation] at hcall

/-- The last preparation before a validation is a full one. -/
theorem Prepared.full (h : Prepared exchanges .validateTrainingForm) :
    ∃ session ∈ sessions,
      exchanges ++ [⟨.preparing .validateTrainingForm, .done⟩] = fullPreparation session := by
  -- Backwards from the validation, each operation can only have been reached in one way, but for
  -- the trainee's, which follows a session that was ready or has been opened.
  rcases h with _ | ⟨h, ⟨⟩⟩
  rcases h with _ | ⟨h, ⟨⟩⟩
  rcases h with _ | ⟨h, ⟨⟩ | ⟨⟩⟩
  · rcases h with _ | ⟨h, ⟨⟩⟩
    rcases h with _ | ⟨h, ⟨⟩⟩
    exact ⟨_, List.mem_cons_self, rfl⟩
  · rcases h with _ | ⟨h, ⟨⟩⟩
    rcases h with _ | ⟨h, ⟨⟩⟩
    rcases h with _ | ⟨h, ⟨⟩⟩
    exact ⟨_, List.mem_cons_of_mem _ List.mem_cons_self, rfl⟩

theorem Validated.full (h : Validated exchanges) :
    ∃ earlier, ∃ session ∈ sessions, exchanges = earlier ++ fullPreparation session := by
  rcases h with ⟨preparing, ⟨earlier, last, rfl, -, hlast⟩, rfl⟩
  rcases hlast.full with ⟨session, hsession, hfull⟩
  exact ⟨earlier, session, hsession, by rw [List.append_assoc, hfull]⟩

/-- There is only one place where the form has been submitted. -/
theorem eq_of_submitted {before before' after after' : List Exchange} {answer answer' : Answer}
    (hbefore : Unsent before)
    (hafter : ∀ exchange ∈ after, exchange.call = .waitForSubmissionResult)
    (heq : before ++ ⟨.submitTrainingForm, answer⟩ :: after =
      before' ++ ⟨.submitTrainingForm, answer'⟩ :: after') : before' = before := by
  rcases List.append_eq_append_iff.1 heq with ⟨between, rfl, hrest⟩ | ⟨between, rfl, hrest⟩
  · cases between with
    | nil => exact List.append_nil _
    | cons exchange between =>
        have hmem : ⟨.submitTrainingForm, answer'⟩ ∈ after := by
          simp [(List.cons.inj hrest).2]
        cases hafter _ hmem
  · cases between with
    | nil => exact (List.append_nil _).symm
    | cons exchange between =>
        have hmem : ⟨.submitTrainingForm, answer'⟩ ∈ before' ++ exchange :: between := by
          simp [(List.cons.inj hrest).1]
        rcases hbefore _ hmem with ⟨operation, hoperation⟩
        cases hoperation

theorem submitsOnce_of_unsent (h : Unsent exchanges)
    (hcall : await.call ≠ some .submitTrainingForm) : SubmitsOnce await exchanges where
  once := by
    rw [asked, List.count_append, h.count_submitTrainingForm, List.count_eq_zero.2]
    · exact Nat.zero_le 1
    · simpa [Option.mem_toList] using hcall
  sure := by
    rintro before (⟨hsubmitting, -⟩ | ⟨answer, after, rfl⟩)
    · exact absurd hsubmitting hcall
    · rcases h ⟨.submitTrainingForm, answer⟩ (by simp) with ⟨operation, hoperation⟩
      cases hoperation

theorem submitsOnce_of_validated (h : Validated exchanges) : SubmitsOnce await exchanges where
  once := by
    rw [asked, List.count_append, h.unsent.count_submitTrainingForm, Nat.zero_add]
    exact List.count_le_length.trans Option.length_toList_le
  sure := by
    rintro before (⟨-, rfl⟩ | ⟨answer, after, rfl⟩)
    · exact h.full
    · rcases h.unsent ⟨.submitTrainingForm, answer⟩ (by simp) with ⟨operation, hoperation⟩
      cases hoperation

theorem submitsOnce_of_submission (h : Submission exchanges)
    (hcall : await.call ≠ some .submitTrainingForm) : SubmitsOnce await exchanges := by
  rcases h with ⟨validated, answer, after, hvalidated, rfl, hafter⟩
  refine ⟨?_, ?_⟩
  · have hrest : (after.map (·.call)).count .submitTrainingForm = 0 := by
      rw [List.count_eq_zero]
      intro hmem
      rcases List.mem_map.1 hmem with ⟨exchange, hexchange, hsubmit⟩
      rw [hafter exchange hexchange] at hsubmit
      cases hsubmit
    have hpending : await.call.toList.count .submitTrainingForm = 0 := by
      rw [List.count_eq_zero]
      simpa [Option.mem_toList] using hcall
    simp [asked, List.count_append, hvalidated.unsent.count_submitTrainingForm, hrest, hpending]
  · rintro before (⟨hsubmitting, -⟩ | ⟨answer', after', heq⟩)
    · exact absurd hsubmitting hcall
    · rw [eq_of_submitted hvalidated.unsent hafter heq]
      exact hvalidated.full

theorem Course.submitsOnce {options : AutomationEngineOptions}
    (h : Course options await exchanges) : SubmitsOnce await exchanges := by
  have hstage := h.stage
  cases await with
  | preparing task attempt operation =>
      exact submitsOnce_of_unsent (Preparing.unsent hstage) (by simp [Await.call])
  | retryingPrepare task attempt => exact submitsOnce_of_unsent hstage (by simp [Await.call])
  | submitting task attempts => exact submitsOnce_of_validated hstage
  | verifying task attempts attempt =>
      exact submitsOnce_of_submission hstage.submission (by simp [Await.call])
  | retryingVerify task attempts attempt =>
      exact submitsOnce_of_submission hstage.submission (by simp [Await.call])
  | _ =>
      have hnil : exchanges = [] := hstage
      exact submitsOnce_of_unsent (by simp [Unsent, hnil]) (by simp [Await.call])

end Submissions

namespace Journal

/-- With every trainee, in whatever order tasks, calls and answers come, the form is submitted at
most once, and only right after the page was found to be the portal's, the session was ready or has
been opened, and the trainee's form has been filled and validated. -/
theorem submits_once {options : AutomationEngineOptions} {inputs : List EngineInput} {j : Journal}
    (hrun : Machine.run (step options) {} inputs = some j) :
    ∀ sheet ∈ j.sheets, SubmitsOnce sheet.1 sheet.2 := by
  have hkept := Kept.of_run hrun
  intro sheet hsheet
  simp only [sheets, List.mem_append, List.mem_map, List.mem_singleton] at hsheet
  rcases hsheet with (⟨visit, hvisit, rfl⟩ | ⟨entry, hentry, rfl⟩) | rfl
  · rcases unsent_or_submission (hkept.visits visit hvisit).proves with hunsent | hsubmission
    · exact submitsOnce_of_unsent hunsent (by simp [Await.call])
    · exact submitsOnce_of_submission hsubmission (by simp [Await.call])
  · rcases hkept.lost entry hentry with ⟨validated, error, hvalidated, heq⟩
    rw [heq]
    exact submitsOnce_of_submission (hvalidated.submission _) (by simp [Await.call])
  · exact hkept.course.submitsOnce

/-- One trainee, whose confirmation is asked for twice. -/
def confirmedLate : List EngineInput :=
  [.addTask AutomationEngine.adaTask, .run, .answered .done, .continued, .answered (.told true),
    .answered (.told true), .answered .done, .answered .done, .answered .done, .answered .done,
    .answered (.failure { message := "No answer yet.", code := .timeout, recoverable := true }),
    .elapsed, .answered (.outcome (.confirmed none))]

def confirmedLateJournal : Journal :=
  (Machine.run (step {}) {} confirmedLate).getD {}

theorem late_confirmation_submits_once :
    SubmitsOnce .nothing (confirmedLateJournal.visits.flatMap (·.exchanges)) := by
  have hrun : Machine.run (step {}) {} confirmedLate = some confirmedLateJournal := rfl
  exact submits_once hrun (.nothing, confirmedLateJournal.visits.flatMap (·.exchanges))
    List.mem_cons_self

end Journal

end Extension

end DsspBot

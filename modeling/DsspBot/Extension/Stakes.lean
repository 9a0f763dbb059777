import DsspBot.Extension.Tab

/-!
# Stakes — which form is posted, and whose answer confirms it

The engine fills a form in, has it validated and posts it with three commands, and asks for the
result with a fourth. In between the adapter keeps the form and the answer, and it keeps them for
commands that nobody waits for any more as well. As long as such a command does not come at the
wrong time, the form that is posted is the trainee's own, and so is the answer that confirms it.
-/

namespace DsspBot

namespace Extension

open AutomationEngine (Goes Closes Turn Sound)

/-! ## What is at stake -/

/-- The form was loaded for the trainee, and holds what the session says. -/
structure Right (task : BatchTask) (prepared : PreparedTrainingForm) : Prop where
  owner : prepared.traineeId = task.trainee.id
  holds : prepared.fields.Holds task.session

def Ready (adapter : DSSPPortalAdapter) (task : BatchTask) : Prop :=
  ∃ prepared, adapter.preparedForm = some prepared ∧ Right task prepared

/-- What the portal has answered last was the trainee's submission. -/
def Confirms (adapter : DSSPPortalAdapter) (task : BatchTask) : Prop :=
  ∀ index snapshot, adapter.submission = some (index, snapshot) →
    (index, snapshot) ∈ adapter.replies ∧
      ∃ post, adapter.posts[index]? = some post ∧ post.task = task

/-- Something was posted for the trainee of this row, and what the portal answered to it is read as
a confirmation. -/
def Backed (reading : PageReading) (adapter : DSSPPortalAdapter) (row : TrainingResult) : Prop :=
  ∃ index post snapshot reference, adapter.posts[index]? = some post ∧
    post.task.trainee.id = row.traineeId ∧ post.task.trainee.name = row.traineeName ∧
      (index, snapshot) ∈ adapter.replies ∧
        reading.submissionOutcome snapshot = .ok (.confirmed reference)

section Claims

variable {reading : PageReading} {adapter adapter' : DSSPPortalAdapter}

theorem Backed.mono {row : TrainingResult} (h : Backed reading adapter row)
    (hgrows : DSSPPortalAdapter.Grows adapter adapter') : Backed reading adapter' row := by
  rcases h with ⟨index, post, snapshot, reference, hpost, hid, hname, hreply, hread⟩
  exact ⟨index, post, snapshot, reference, hgrows.post_at hpost, hid, hname,
    hgrows.replies hreply, hread⟩

theorem Ready.start {command : PortalCommand} {task : BatchTask} (h : Ready adapter task)
    (hfill : ∀ session, command ≠ .fillForm session) :
    Ready (adapter.start reading command).1 task := by
  rcases h with ⟨prepared, hprepared, hright⟩
  exact ⟨prepared, DSSPPortalAdapter.preparedForm_start hfill hprepared hright.holds, hright⟩

theorem Confirms.start {task : BatchTask} (h : Confirms adapter task) (command : PortalCommand) :
    Confirms (adapter.start reading command).1 task := by
  have hgrows : DSSPPortalAdapter.Grows adapter (adapter.start reading command).1 :=
    DSSPPortalAdapter.grows_start command
  intro index snapshot hsubmission
  rcases h index snapshot (DSSPPortalAdapter.submission_start hsubmission) with
    ⟨hreply, post, hpost, htask⟩
  exact ⟨hgrows.replies hreply, post, hgrows.post_at hpost, htask⟩

end Claims

/-- The trainee whose submission is being confirmed. -/
def Await.confirming : Await → Option BatchTask
  | .verifying task _ _ => some task
  | .retryingVerify task _ _ => some task
  | _ => none

/-- The process that an input is about. -/
def TabInput.process : TabInput → Option Nat
  | .starts id _ => some id
  | .lands id _ => some id
  | .arrives id => some id
  | _ => none

namespace Tab

section Stakes

variable (t : Tab)

/-- How far the command is that is waited for. -/
def awaited : Option Process :=
  t.waiting.bind fun id => t.processes[id]?

/-- The trainee whose form has been filled in and is not posted yet. -/
def staked : Option BatchTask :=
  match t.engine.await with
  | .preparing task _ .fillTrainingForm =>
      if t.awaited = some (.answering .done) then some task else none
  | .preparing task _ .validateTrainingForm => some task
  | .submitting task _ =>
      if t.awaited = some (.received (.submitForm task)) then some task else none
  | _ => none

/-- The trainee whose post has been answered, as long as the answer may be asked for. -/
def confirming : Option BatchTask :=
  match t.engine.await with
  | .submitting task _ => if t.awaited = some (.answering .done) then some task else none
  | await => await.confirming

/-- What a command that nobody waits for any more had better not do. -/
def disturbs : Process → Bool
  | .received (.submitForm _) => true
  | .received (.fillForm _) => t.staked.isSome
  | .loading _ => t.staked.isSome
  | .posting _ => t.confirming.isSome
  | _ => false

/-- A command that nobody waits for any more is not a submission, leaves the form alone from when
one has been filled in until it is posted, and records no answer to a post from when another has
been recorded until that is confirmed. -/
def InTime (input : TabInput) : Prop :=
  ∀ id ∈ input.process, ∀ process ∈ t.processes[id]?, t.waiting ≠ some id →
    t.disturbs process = false

instance (input : TabInput) : Decidable (t.InTime input) :=
  inferInstanceAs (Decidable (∀ id ∈ input.process, ∀ process ∈ t.processes[id]?,
    t.waiting ≠ some id → t.disturbs process = false))

variable {t}

theorem staked_eq_some_iff {task : BatchTask} : t.staked = some task ↔
    (∃ attempt, t.engine.await = .preparing task attempt .fillTrainingForm ∧
      t.awaited = some (.answering .done)) ∨
    (∃ attempt, t.engine.await = .preparing task attempt .validateTrainingForm) ∨
    ∃ attempts, t.engine.await = .submitting task attempts ∧
      t.awaited = some (.received (.submitForm task)) := by
  unfold staked
  split
  · next other attempt hawait =>
      by_cases hdone : t.awaited = some (.answering .done) <;> simp [hawait, hdone]
  · next other attempt hawait => simp [hawait]
  · next other attempts hawait =>
      by_cases hreceived : t.awaited = some (.received (.submitForm other))
      · simp only [hawait, hreceived, if_true]
        grind
      · simp only [hawait, hreceived, if_false]
        grind
  · next hfill hvalidate hsubmit => grind

theorem confirming_eq_some_iff {task : BatchTask} : t.confirming = some task ↔
    (∃ attempts, t.engine.await = .submitting task attempts ∧
      t.awaited = some (.answering .done)) ∨ t.engine.await.confirming = some task := by
  unfold confirming
  split
  · next other attempts hawait =>
      by_cases hdone : t.awaited = some (.answering .done) <;>
        simp [hawait, hdone, Await.confirming]
  · next hsubmit => grind

end Stakes

/-- The process has been begun for what the engine waits for, and an answer that confirms is
backed. -/
def Serves (reading : PageReading) (adapter : DSSPPortalAdapter) (await : Await) : Process → Prop
  | .received command => await.command = some command
  | .checking => await.command = some .isPage
  | .listing => await.command = some .initializeSession
  | .loading _ => await.command = some .initializeSession ∨
      ∃ trainee, await.command = some (.prepareTrainee trainee)
  | .posting index => ∃ task attempts post, await = .submitting task attempts ∧
      adapter.posts[index]? = some post ∧ post.task = task
  | .answering answer => ∀ task attempts attempt reference,
      await = .verifying task attempts attempt → answer = .outcome (.confirmed reference) →
        Backed reading adapter (AutomationEngine.settle task attempts .success none)
  | .over => False

structure Orderly (reading : PageReading) (t : Tab) : Prop where
  sound : Sound t.engine
  owned : t.adapter.Owned
  waiting : ∀ id, t.waiting = some id →
    ∃ process, t.processes[id]? = some process ∧ Serves reading t.adapter t.engine.await process
  stake : ∀ task, t.staked = some task → Ready t.adapter task
  confirming : ∀ task, t.confirming = some task → Confirms t.adapter task
  posts : ∀ post ∈ t.adapter.posts, Right post.task post.form
  rows : ∀ row ∈ t.engine.results, row.outcome = .success → Backed reading t.adapter row

theorem orderly_start (reading : PageReading) : Orderly reading {} where
  sound := AutomationEngine.sound_start
  owned := rfl
  waiting := by simp
  stake := by simp [staked]
  confirming := by simp [confirming, Await.confirming]
  posts := by simp
  rows := by simp

section Steps

variable {options : AutomationEngineOptions} {reading : PageReading} {e e' : AutomationEngine}
  {input : EngineInput} {answer : Answer} {t t' : Tab} {adapter adapter' : DSSPPortalAdapter}

/-- What an answer can lead to, as far as a form is concerned. -/
structure Follows (e : AutomationEngine) (answer : Answer) (e' : AutomationEngine) : Prop where
  validating : ∀ task attempt, e'.await = .preparing task attempt .validateTrainingForm →
    e.await = .preparing task attempt .fillTrainingForm ∧ answer = .done
  submitting : ∀ task attempts, e'.await = .submitting task attempts →
    e.await = .preparing task attempts .validateTrainingForm ∧ answer = .done
  confirming : ∀ task, e'.await.confirming = some task →
    (∃ attempts, e.await = .submitting task attempts ∧ answer = .done) ∨
      e.await.confirming = some task
  rows : ∀ row ∈ e'.results, row.outcome = .success → row ∈ e.results ∨
    ∃ task attempts attempt reference, e.await = .verifying task attempts attempt ∧
      answer = .outcome (.confirmed reference) ∧
        row = AutomationEngine.settle task attempts .success none

/-- Where no trainee is asked about any more, nothing is at stake. -/
theorem follows_of_task_eq_none (htask : e'.await.task = none)
    (hrows : ∀ row ∈ e'.results, row.outcome = .success → row ∈ e.results ∨
      ∃ task attempts attempt reference, e.await = .verifying task attempts attempt ∧
        answer = .outcome (.confirmed reference) ∧
          row = AutomationEngine.settle task attempts .success none) :
    Follows e answer e' where
  validating := by
    intro task attempt hawait
    simp [hawait, Await.task] at htask
  submitting := by
    intro task attempts hawait
    simp [hawait, Await.task] at htask
  confirming := by
    intro task hconfirming
    cases hawait : e'.await <;> simp [hawait, Await.task, Await.confirming] at htask hconfirming
  rows := hrows

theorem success_of_closes {await : Await} {row : TrainingResult} (h : Closes await answer row)
    (hsuccess : row.outcome = .success) :
    ∃ task attempts attempt reference, await = .verifying task attempts attempt ∧
      answer = .outcome (.confirmed reference) ∧
        row = AutomationEngine.settle task attempts .success none := by
  cases h with
  | confirmed reference => exact ⟨_, _, _, reference, rfl, rfl, rfl⟩
  | _ => cases hsuccess

theorem follows_of_answered (h : e.answered options answer = some e') : Follows e answer e' := by
  cases AutomationEngine.turn_answered h with
  | goes hgoes hledger =>
      have hresults := (AutomationEngine.ledger_eq_iff.1 hledger).1
      refine ⟨?_, ?_, ?_, fun row hmem _ => .inl (hresults ▸ hmem)⟩
      · intro task attempt hawait
        rw [hawait] at hgoes
        generalize e.await = await at hgoes ⊢
        cases hgoes with
        | asks hleads =>
            cases hleads
            exact ⟨rfl, rfl⟩
      · intro task attempts hawait
        rw [hawait] at hgoes
        generalize e.await = await at hgoes ⊢
        cases hgoes
        exact ⟨rfl, rfl⟩
      · intro task hconfirming
        generalize e.await = await at hgoes ⊢
        generalize e'.await = await' at hgoes hconfirming
        cases hgoes with
        | confirms =>
            cases hconfirming
            exact .inl ⟨_, rfl, rfl⟩
        | confirmFails => exact .inr hconfirming
        | _ => cases hconfirming
  | closes hcloses hrecords =>
      refine follows_of_task_eq_none hrecords.task (fun row hmem hsuccess => ?_)
      rw [hrecords.results, List.mem_append, List.mem_singleton] at hmem
      rcases hmem with hmem | rfl
      · exact .inl hmem
      · exact .inr (success_of_closes hcloses hsuccess)
  | lost _ hfinishes =>
      exact follows_of_task_eq_none hfinishes.task
        (fun row hmem _ => .inl (hfinishes.results ▸ hmem))
  | passes _ _ hresults _ _ _ hnext =>
      exact follows_of_task_eq_none (AutomationEngine.task_of_passes hnext)
        (fun row hmem _ => .inl (hresults ▸ hmem))
  | leaves _ reason _ hfinishes =>
      refine follows_of_task_eq_none hfinishes.task (fun row hmem hsuccess => ?_)
      rw [hfinishes.results, List.mem_append, List.mem_map] at hmem
      rcases hmem with hmem | ⟨task, -, rfl⟩
      · exact .inl hmem
      · cases hsuccess
  | unopened _ hfinishes =>
      exact follows_of_task_eq_none hfinishes.task
        (fun row hmem _ => .inl (hfinishes.results ▸ hmem))

/-- What anything but an answer can lead to. -/
structure Idles (e e' : AutomationEngine) : Prop where
  validating : ∀ task attempt, e'.await ≠ .preparing task attempt .validateTrainingForm
  submitting : ∀ task attempts, e'.await ≠ .submitting task attempts
  confirming : ∀ task, e'.await.confirming = some task → e.await.confirming = some task
  rows : ∀ row ∈ e'.results, row.outcome = .success → row ∈ e.results

theorem idles_of_task_eq_none (htask : e'.await.task = none)
    (hrows : ∀ row ∈ e'.results, row.outcome = .success → row ∈ e.results) : Idles e e' := by
  refine ⟨?_, ?_, ?_, hrows⟩
  · intro task attempt hawait
    simp [hawait, Await.task] at htask
  · intro task attempts hawait
    simp [hawait, Await.task] at htask
  · intro task hconfirming
    cases hawait : e'.await <;> simp [hawait, Await.task, Await.confirming] at htask hconfirming

theorem idles_of_proceeds (hturn : Turn options e input e') (hinput : input.proceeds = true)
    (hanswer : ∀ answer, input ≠ .answered answer) : Idles e e' := by
  cases hturn with
  | goes hgoes hledger =>
      have hresults := (AutomationEngine.ledger_eq_iff.1 hledger).1
      refine ⟨?_, ?_, ?_, fun row hmem _ => hresults ▸ hmem⟩
      all_goals
        generalize e.await = await at hgoes ⊢
        generalize e'.await = await' at hgoes ⊢
        cases hgoes with
        | preparesAgain => simp [Await.confirming]
        | confirmsAgain => simp [Await.confirming]
        | _ => exact absurd rfl (hanswer _)
  | begins _ _ _ _ hresults _ _ hnext =>
      refine ⟨?_, ?_, ?_, fun row hmem _ => hresults ▸ hmem⟩ <;> simp [hnext, Await.confirming]
  | unbegun _ _ _ hrecords =>
      refine idles_of_task_eq_none hrecords.task (fun row hmem hsuccess => ?_)
      rw [hrecords.results, List.mem_append, List.mem_singleton] at hmem
      rcases hmem with hmem | rfl
      · exact hmem
      · cases hsuccess
  | passes _ _ hresults _ _ _ hnext =>
      exact idles_of_task_eq_none (AutomationEngine.task_of_passes hnext)
        (fun row hmem _ => hresults ▸ hmem)
  | leaves _ reason _ hfinishes =>
      refine idles_of_task_eq_none hfinishes.task (fun row hmem hsuccess => ?_)
      rw [hfinishes.results, List.mem_append, List.mem_map] at hmem
      rcases hmem with hmem | ⟨task, -, rfl⟩
      · exact hmem
      · cases hsuccess
  | returned _ hledger hnext =>
      exact idles_of_task_eq_none (by rw [hnext]; rfl)
        (fun row hmem _ => (AutomationEngine.ledger_eq_iff.1 hledger).1 ▸ hmem)
  | closes => exact absurd rfl (hanswer _)
  | lost => exact absurd rfl (hanswer _)
  | unopened => exact absurd rfl (hanswer _)
  | _ => cases hinput

/-! ## Sending -/

/-- What is waited for after sending has just been sent. -/
theorem send_waiting {id : Nat} (h : (t.send e).waiting = some id) :
    ∃ command, (t.send e).processes[id]? = some (.received command) ∧
      e.await.command = some command := by
  unfold send at h ⊢
  split at h
  · next hcommand _ =>
      cases h
      exact ⟨_, by simp, hcommand⟩
  · cases h

theorem awaited_of_waiting {id : Nat} (h : t.waiting = some id) :
    t.awaited = t.processes[id]? := by
  simp [awaited, h]

theorem send_awaited (answer : Answer) : (t.send e).awaited ≠ some (.answering answer) := by
  intro h
  rcases Option.bind_eq_some_iff.1 h with ⟨id, hid, hprocess⟩
  rcases send_waiting hid with ⟨command, hreceived, -⟩
  rw [hreceived] at hprocess
  cases hprocess

/-- Where the engine comes to, and what the adapter keeps, decide whether all is in order. -/
theorem orderly_send (hsound : Sound e) (howned : t.adapter.Owned)
    (hvalidating : ∀ task attempt, e.await = .preparing task attempt .validateTrainingForm →
      Ready t.adapter task)
    (hsubmitting : ∀ task attempts, e.await = .submitting task attempts → Ready t.adapter task)
    (hconfirming : ∀ task, e.await.confirming = some task → Confirms t.adapter task)
    (hposts : ∀ post ∈ t.adapter.posts, Right post.task post.form)
    (hrows : ∀ row ∈ e.results, row.outcome = .success → Backed reading t.adapter row) :
    Orderly reading (t.send e) where
  sound := by rwa [send_engine]
  owned := by rwa [send_adapter]
  waiting := by
    intro id hid
    rcases send_waiting hid with ⟨command, hprocess, hcommand⟩
    rw [send_engine]
    exact ⟨_, hprocess, hcommand⟩
  stake := by
    rw [send_adapter]
    intro task hstake
    rcases staked_eq_some_iff.1 hstake with ⟨-, -, hdone⟩ | ⟨attempt, hawait⟩ |
      ⟨attempts, hawait, -⟩
    · exact absurd hdone (send_awaited _)
    · exact hvalidating task attempt (by rwa [send_engine] at hawait)
    · exact hsubmitting task attempts (by rwa [send_engine] at hawait)
  confirming := by
    rw [send_adapter]
    intro task htask
    rcases confirming_eq_some_iff.1 htask with ⟨-, -, hdone⟩ | hawait
    · exact absurd hdone (send_awaited _)
    · exact hconfirming task (by rwa [send_engine] at hawait)
  posts := by rwa [send_adapter]
  rows := by rwa [send_engine, send_adapter]

/-- An answer keeps everything in order if it is in order where it counts. -/
theorem orderly_hears (hsound : Sound t.engine) (howned : t.adapter.Owned)
    (hposts : ∀ post ∈ t.adapter.posts, Right post.task post.form)
    (hrows : ∀ row ∈ t.engine.results, row.outcome = .success → Backed reading t.adapter row)
    (hfilled : ∀ task attempt, t.engine.await = .preparing task attempt .fillTrainingForm →
      answer = .done → Ready t.adapter task)
    (hvalidated : ∀ task attempt, t.engine.await = .preparing task attempt .validateTrainingForm →
      answer = .done → Ready t.adapter task)
    (hsubmitted : ∀ task attempts, t.engine.await = .submitting task attempts → answer = .done →
      Confirms t.adapter task)
    (hconfirming : ∀ task, t.engine.await.confirming = some task → Confirms t.adapter task)
    (hconfirmed : ∀ task attempts attempt reference,
      t.engine.await = .verifying task attempts attempt →
        answer = .outcome (.confirmed reference) →
          Backed reading t.adapter (AutomationEngine.settle task attempts .success none))
    (hheard : t.hears options answer = some t') : Orderly reading t' := by
  rcases Option.map_eq_some_iff.1 hheard with ⟨e, hanswered, rfl⟩
  have hfollows := follows_of_answered hanswered
  have hstep : t.engine.step options (.answered answer) = some e := hanswered
  apply orderly_send (hsound.step hstep) howned _ _ _ hposts
  · intro row hmem hsuccess
    rcases hfollows.rows row hmem hsuccess with hmem |
      ⟨task, attempts, attempt, reference, hawait, hanswer, rfl⟩
    · exact hrows row hmem hsuccess
    · exact hconfirmed task attempts attempt reference hawait hanswer
  · intro task attempt hawait
    rcases hfollows.validating task attempt hawait with ⟨hbefore, hanswer⟩
    exact hfilled task attempt hbefore hanswer
  · intro task attempts hawait
    rcases hfollows.submitting task attempts hawait with ⟨hbefore, hanswer⟩
    exact hvalidated task attempts hbefore hanswer
  · intro task hawait
    rcases hfollows.confirming task hawait with ⟨attempts, hbefore, hanswer⟩ | hbefore
    · exact hsubmitted task attempts hbefore hanswer
    · exact hconfirming task hbefore

/-! ## One step -/

theorem Serves.mono {await : Await} {process : Process}
    (h : Serves reading adapter await process)
    (hgrows : DSSPPortalAdapter.Grows adapter adapter') :
    Serves reading adapter' await process := by
  cases process with
  | posting index =>
      rcases h with ⟨task, attempts, post, hawait, hpost, htask⟩
      exact ⟨task, attempts, post, hawait, hgrows.post_at hpost, htask⟩
  | answering answer =>
      intro task attempts attempt reference hawait hanswer
      exact (h task attempts attempt reference hawait hanswer).mono hgrows
  | _ => exact h

theorem awaited_carriesOn {id : Nat} {result : DSSPPortalAdapter × Process} {process : Process}
    (h : (t.carriesOn id result).awaited = some process) :
    t.waiting = some id ∧ process = result.2 ∨ t.waiting ≠ some id ∧ t.awaited = some process := by
  rcases Option.bind_eq_some_iff.1 h with ⟨other, hother, hprocess⟩
  have hwaiting : t.waiting = some other := hother
  by_cases heq : other = id
  · subst heq
    refine .inl ⟨hwaiting, ?_⟩
    rcases List.getElem?_eq_some_iff.1 hprocess with ⟨hlt, hget⟩
    simpa [carriesOn] using hget.symm
  · refine .inr ⟨by simp [hwaiting, heq], ?_⟩
    rw [awaited_of_waiting hwaiting, ← List.getElem?_set_ne (Ne.symm heq)]
    exact hprocess

/-- What a process leads to, whether anybody waits for it or not. -/
structure Advances (reading : PageReading) (t : Tab) (id : Nat)
    (result : DSSPPortalAdapter × Process) : Prop where
  grows : DSSPPortalAdapter.Grows t.adapter result.1
  posts : ∀ post ∈ result.1.posts, Right post.task post.form
  stake : ∀ task, t.staked = some task → Ready result.1 task
  confirming : ∀ task, t.confirming = some task → Confirms result.1 task
  begun : ∀ command, result.2 ≠ .received command
  serves : t.waiting = some id → Serves reading result.1 t.engine.await result.2
  filled : ∀ task attempt, t.waiting = some id →
    t.engine.await = .preparing task attempt .fillTrainingForm → result.2 = .answering .done →
      Ready result.1 task
  submitted : ∀ task attempts, t.waiting = some id → t.engine.await = .submitting task attempts →
    result.2 = .answering .done → Confirms result.1 task

theorem orderly_carriesOn {id : Nat} {result : DSSPPortalAdapter × Process}
    (h : Orderly reading t) (hadvances : Advances reading t id result) :
    Orderly reading (t.carriesOn id result) where
  sound := h.sound
  owned := hadvances.grows.owned h.owned
  waiting := by
    intro other hother
    rcases h.waiting other hother with ⟨before, hbefore, hserved⟩
    by_cases heq : other = id
    · subst heq
      have hlt := (List.getElem?_eq_some_iff.1 hbefore).1
      exact ⟨result.2, by simp [carriesOn, hlt], hadvances.serves hother⟩
    · refine ⟨before, ?_, hserved.mono hadvances.grows⟩
      exact (List.getElem?_set_ne (Ne.symm heq)).trans hbefore
  stake := by
    intro task hstake
    rcases staked_eq_some_iff.1 hstake with ⟨attempt, hawait, hdone⟩ | hvalidating |
      ⟨attempts, hawait, hreceived⟩
    · rcases awaited_carriesOn hdone with ⟨hwaiting, hanswering⟩ | ⟨-, hbefore⟩
      · exact hadvances.filled task attempt hwaiting hawait hanswering.symm
      · exact hadvances.stake task (staked_eq_some_iff.2 (.inl ⟨attempt, hawait, hbefore⟩))
    · exact hadvances.stake task (staked_eq_some_iff.2 (.inr (.inl hvalidating)))
    · rcases awaited_carriesOn hreceived with ⟨-, hsame⟩ | ⟨-, hbefore⟩
      · exact absurd hsame.symm (hadvances.begun _)
      · exact hadvances.stake task
          (staked_eq_some_iff.2 (.inr (.inr ⟨attempts, hawait, hbefore⟩)))
  confirming := by
    intro task hconfirming
    rcases confirming_eq_some_iff.1 hconfirming with ⟨attempts, hawait, hdone⟩ | hverifying
    · rcases awaited_carriesOn hdone with ⟨hwaiting, hanswering⟩ | ⟨-, hbefore⟩
      · exact hadvances.submitted task attempts hwaiting hawait hanswering.symm
      · exact hadvances.confirming task
          (confirming_eq_some_iff.2 (.inl ⟨attempts, hawait, hbefore⟩))
    · exact hadvances.confirming task (confirming_eq_some_iff.2 (.inr hverifying))
  posts := hadvances.posts
  rows := fun row hmem hsuccess => (h.rows row hmem hsuccess).mono hadvances.grows

/-- Whatever is called meanwhile, the engine waits for the same answer. -/
theorem orderly_engine (h : Orderly reading t) (hsound : Sound e)
    (hresults : e.results = t.engine.results)
    (hawait : e.await = t.engine.await ∨ t.engine.await = .suspended ∧ e.await = .resuming) :
    Orderly reading { t with engine := e } := by
  rcases hawait with hawait | ⟨hbefore, hafter⟩
  · have hstaked : Tab.staked { t with engine := e } = t.staked := by
      unfold staked
      rw [hawait]
      rfl
    have hconfirming : Tab.confirming { t with engine := e } = t.confirming := by
      unfold confirming
      rw [hawait]
      rfl
    refine ⟨hsound, h.owned, ?_, ?_, ?_, h.posts, ?_⟩
    · intro id hid
      rw [hawait]
      exact h.waiting id hid
    · rw [hstaked]
      exact h.stake
    · rw [hconfirming]
      exact h.confirming
    · rw [hresults]
      exact h.rows
  · refine ⟨hsound, h.owned, ?_, ?_, ?_, h.posts, ?_⟩
    · intro id hid
      rcases h.waiting id hid with ⟨process, hprocess, hserves⟩
      rw [hbefore] at hserves
      cases process with
      | answering answer =>
          refine ⟨_, hprocess, ?_⟩
          intro task attempts attempt reference hverifying
          simp [hafter] at hverifying
      | _ => simp [Serves, Await.command] at hserves
    · intro task hstake
      simp [staked, hafter] at hstake
    · intro task hconfirming
      simp [confirming, hafter, Await.confirming] at hconfirming
    · rw [hresults]
      exact h.rows

/-- The engine goes on by itself. -/
theorem orderly_of_idles (h : Orderly reading t) (hsound : Sound e) (hidles : Idles t.engine e) :
    Orderly reading (t.send e) := by
  apply orderly_send hsound h.owned _ _ _ h.posts
  · intro row hmem hsuccess
    exact h.rows row (hidles.rows row hmem hsuccess) hsuccess
  · exact fun task attempt hawait => absurd hawait (hidles.validating task attempt)
  · exact fun task attempts hawait => absurd hawait (hidles.submitting task attempts)
  · intro task hawait
    exact h.confirming task (confirming_eq_some_iff.2 (.inr (hidles.confirming task hawait)))

/-- What the calls from outside do, and adding to the queue. -/
theorem orderly_of_interrupted (h : Orderly reading t) (hinput : input.proceeds = false)
    (hstep : t.engine.step options input = some e) (hbusy : input = .run → t.engine.running) :
    Orderly reading { t with engine := e } := by
  have hsound := h.sound.step hstep
  cases AutomationEngine.turn_of_step h.sound hstep with
  | added task => exact orderly_engine h hsound rfl (.inl rfl)
  | cleared => exact orderly_engine h hsound rfl (.inl rfl)
  | refused _ hledger hawait =>
      exact orderly_engine h hsound (AutomationEngine.ledger_eq_iff.1 hledger).1 (.inl hawait)
  | started hidle => simp [hidle] at hbusy
  | called call hledger hawait =>
      exact orderly_engine h hsound (AutomationEngine.ledger_eq_iff.1 hledger).1 hawait
  | goes hgoes =>
      generalize t.engine.await = await at hgoes
      generalize e.await = await' at hgoes
      cases hgoes <;> cases hinput
  | passes hproceeds => simp [hinput] at hproceeds
  | leaves hproceeds => simp [hinput] at hproceeds
  | _ => cases hinput

/-- A run that starts asks for the session first. -/
theorem idles_run (hidle : e.running = false) : Idles e e.run := by
  have hturn : Turn {} e .run e.run := AutomationEngine.turn_run
  generalize e.run = e' at hturn
  cases hturn with
  | refused hbusy => simp [hidle] at hbusy
  | started _ hresults _ _ _ hawait =>
      exact idles_of_task_eq_none (by rw [hawait]; rfl) (by simp [hresults])
  | goes hgoes =>
      generalize e.await = await at hgoes
      generalize e'.await = await' at hgoes
      cases hgoes
  | passes hinput => cases hinput
  | leaves hinput => cases hinput

theorem orderly_step_engine (h : Orderly reading t)
    (hstep : t.step options reading (.engine input) = some t') : Orderly reading t' := by
  by_cases hrun : input = .run
  · subst hrun
    have hengine : t.engine.step options .run = some t.engine.run := rfl
    simp only [step] at hstep
    split at hstep
    · next hbusy =>
        cases hstep
        exact orderly_of_interrupted h rfl hengine fun _ => hbusy
    · next hidle =>
        cases hstep
        exact orderly_of_idles h (h.sound.step hengine) (idles_run (by simpa using hidle))
  by_cases hanswer : ∃ answer, input = .answered answer
  · rcases hanswer with ⟨answer, rfl⟩
    cases hstep
  rw [step_engine hrun fun answer heq => hanswer ⟨answer, heq⟩] at hstep
  rcases Option.map_eq_some_iff.1 hstep with ⟨e, hengine, rfl⟩
  cases hproceeds : input.proceeds with
  | true =>
      refine orderly_of_idles h (h.sound.step hengine) ?_
      exact idles_of_proceeds (AutomationEngine.turn_of_step h.sound hengine) hproceeds
        fun answer heq => hanswer ⟨answer, heq⟩
  | false => exact orderly_of_interrupted h hproceeds hengine fun heq => absurd heq hrun

/-! ## Taking up a command -/

theorem submitting_of_command {await : Await} {task : BatchTask}
    (h : await.command = some (.submitForm task)) :
    ∃ attempts, await = .submitting task attempts := by
  cases await with
  | submitting other attempts =>
      simp only [Await.command, Option.some.injEq, PortalCommand.submitForm.injEq] at h
      exact ⟨attempts, by rw [h]⟩
  | preparing other attempt operation => cases operation <;> cases h
  | _ => cases h

/-- What is waited for goes on being waited for, and a confirmation is read off the answer to the
trainee's post. -/
theorem serves_start {await : Await} {command : PortalCommand}
    (hcommand : await.command = some command)
    (hconfirming : ∀ task, await.confirming = some task → Confirms adapter task) :
    Serves reading (adapter.start reading command).1 await (adapter.start reading command).2 := by
  cases command with
  | isPage => exact hcommand
  | initializeSession => exact hcommand
  | prepareTrainee trainee =>
      simp only [DSSPPortalAdapter.start, DSSPPortalAdapter.prepareTrainee]
      split
      · rintro task attempts attempt reference rfl
        cases hcommand
      · exact .inr ⟨trainee, hcommand⟩
  | submitForm task =>
      rcases submitting_of_command hcommand with ⟨attempts, rfl⟩
      rcases adapter.submitTrainingForm_cases task with
        ⟨error, hfailed⟩ | ⟨prepared, -, hposted⟩
      · rw [DSSPPortalAdapter.start, hfailed]
        intro _ _ _ _ hawait
        cases hawait
      · rw [DSSPPortalAdapter.start, hposted]
        exact ⟨task, attempts, { task := task, form := prepared }, rfl, by simp, rfl⟩
  | waitResult =>
      rintro task attempts attempt reference rfl hanswer
      rcases DSSPPortalAdapter.submission_of_confirmed hanswer with
        ⟨index, snapshot, hsubmission, hread⟩
      rcases hconfirming task rfl index snapshot hsubmission with ⟨hreply, post, hpost, rfl⟩
      exact ⟨index, post, snapshot, reference, hpost, rfl, rfl, hreply, hread⟩
  | _ =>
      rintro task attempts attempt reference rfl
      cases hcommand

/-- Taking up the command that is waited for. -/
theorem advances_start {id : Nat} {command : PortalCommand} (h : Orderly reading t)
    (hwaiting : t.waiting = some id) (hprocess : t.processes[id]? = some (.received command)) :
    Advances reading t id (t.adapter.start reading command) := by
  have hawaited : t.awaited = some (.received command) :=
    (awaited_of_waiting hwaiting).trans hprocess
  have hcommand : t.engine.await.command = some command := by
    rcases h.waiting id hwaiting with ⟨process, hsame, hserves⟩
    obtain rfl : process = .received command := Option.some.inj (hsame.symm.trans hprocess)
    exact hserves
  have hstake : ∀ task, t.staked = some task → ∀ session, command ≠ .fillForm session := by
    rintro task hstake session rfl
    rcases staked_eq_some_iff.1 hstake with ⟨attempt, -, hdone⟩ | ⟨attempt, hawait⟩ |
      ⟨attempts, hawait, -⟩
    · rw [hawaited] at hdone
      cases hdone
    · simp [hawait, Await.command] at hcommand
    · simp [hawait, Await.command] at hcommand
  have hconfirming : ∀ task, t.engine.await.confirming = some task → Confirms t.adapter task :=
    fun task hverifying => h.confirming task (confirming_eq_some_iff.2 (.inr hverifying))
  refine
    { grows := DSSPPortalAdapter.grows_start command
      posts := ?_
      stake := fun task hat => (h.stake task hat).start (hstake task hat)
      confirming := fun task hat => (h.confirming task hat).start command
      begun := fun _ => DSSPPortalAdapter.start_begun
      serves := fun _ => serves_start hcommand hconfirming
      filled := ?_
      submitted := ?_ }
  · intro post hpost
    rcases DSSPPortalAdapter.mem_posts_start hpost with hpost | ⟨rfl, hprepared⟩
    · exact h.posts post hpost
    · -- What is submitted is what was at stake.
      rcases submitting_of_command hcommand with ⟨attempts, hawait⟩
      rcases h.stake post.task (staked_eq_some_iff.2 (.inr (.inr ⟨attempts, hawait, hawaited⟩)))
        with ⟨prepared, hsame, hright⟩
      obtain rfl : prepared = post.form := Option.some.inj (hsame.symm.trans hprepared)
      exact hright
  · intro task attempt _ hawait hresult
    obtain rfl : command = .fillForm { traineeId := task.trainee.id, session := task.session } := by
      simpa [hawait, Await.command, eq_comm] using hcommand
    have hdone := Process.answering.inj hresult
    rcases DSSPPortalAdapter.fillTrainingForm_done h.owned hdone with
      ⟨prepared, hprepared, howner, hholds⟩
    exact ⟨prepared, hprepared, howner, hholds⟩
  · intro task attempts _ hawait hresult
    obtain rfl : command = .submitForm task := by
      simpa [hawait, Await.command, eq_comm] using hcommand
    rcases t.adapter.submitTrainingForm_cases task with
      ⟨error, hfailed⟩ | ⟨prepared, -, hposted⟩
    · exact absurd ((congrArg Prod.snd hfailed).symm.trans hresult) (by simp)
    · exact absurd ((congrArg Prod.snd hposted).symm.trans hresult) (by simp)

/-- Taking up a command that nobody waits for any more. -/
theorem advances_start_late {id : Nat} {command : PortalCommand} (h : Orderly reading t)
    (hlate : t.waiting ≠ some id) (hcalm : t.disturbs (.received command) = false) :
    Advances reading t id (t.adapter.start reading command) where
  grows := DSSPPortalAdapter.grows_start command
  posts := by
    rw [DSSPPortalAdapter.posts_start]
    · exact h.posts
    · rintro task rfl
      cases hcalm
  stake := by
    intro task hstake
    refine (h.stake task hstake).start ?_
    rintro session rfl
    simp [disturbs, hstake] at hcalm
  confirming task hconfirming := (h.confirming task hconfirming).start command
  begun _ := DSSPPortalAdapter.start_begun
  serves hwaiting := absurd hwaiting hlate
  filled _ _ hwaiting := absurd hwaiting hlate
  submitted _ _ hwaiting := absurd hwaiting hlate

/-- The adapter stays as it is. -/
theorem advances_quiet {id : Nat} {process : Process} (h : Orderly reading t)
    (hbegun : ∀ command, process ≠ .received command) (hdone : process ≠ .answering .done)
    (hserves : t.waiting = some id → Serves reading t.adapter t.engine.await process) :
    Advances reading t id (t.adapter, process) where
  grows := .refl t.adapter
  posts := h.posts
  stake := h.stake
  confirming := h.confirming
  begun := hbegun
  serves := hserves
  filled _ _ _ _ hresult := absurd hresult hdone
  submitted _ _ _ _ hresult := absurd hresult hdone

theorem orderly_starts {id : Nat} {armed : Bool} (h : Orderly reading t)
    (htime : t.InTime (.starts id armed)) (hstep : t.starts reading id armed = some t') :
    Orderly reading t' := by
  unfold starts at hstep
  split at hstep
  · next command hprocess =>
      split at hstep
      · cases hstep
        refine orderly_carriesOn h (advances_quiet h (by simp) (by simp) ?_)
        intro _ task attempts attempt reference _ hanswer
        cases hanswer
      · cases hstep
        refine orderly_carriesOn h ?_
        by_cases hwaiting : t.waiting = some id
        · exact advances_start h hwaiting hprocess
        · exact advances_start_late h hwaiting (htime id rfl _ hprocess hwaiting)
  · cases hstep

/-! ## What lands -/

/-- What lands lets a process go on for the same command, or ends it without a verdict. -/
theorem serves_of_lands {await : Await} {process : Process} {result : DSSPPortalAdapter × Process}
    (hlands : DSSPPortalAdapter.Lands adapter process result)
    (hserves : Serves reading adapter await process) :
    Serves reading result.1 await result.2 := by
  cases hlands with
  | answers _ _ houtcome =>
      intro task attempts attempt reference _ hanswer
      exact absurd hanswer (houtcome _)
  | lists => exact .inl hserves
  | _ =>
      intro task attempts attempt reference _ hanswer
      cases hanswer

/-- Where something is waited for, no form is at stake while one is loaded for it, and no answer to
a post is asked for while its own is awaited. -/
theorem calm_of_waited {id : Nat} {process : Process} (h : Orderly reading t)
    (hwaiting : t.waiting = some id) (hprocess : t.processes[id]? = some process)
    (hbegun : ∀ command, process ≠ .received command) : t.disturbs process = false := by
  have hawaited : t.awaited = some process := (awaited_of_waiting hwaiting).trans hprocess
  rcases h.waiting id hwaiting with ⟨other, hsame, hserves⟩
  obtain rfl : other = process := Option.some.inj (hsame.symm.trans hprocess)
  cases other with
  | received command => exact absurd rfl (hbegun command)
  | loading trainee =>
      have hcommand : ∀ task, t.staked ≠ some task := by
        intro task hstake
        rcases staked_eq_some_iff.1 hstake with ⟨_, hawait, -⟩ | ⟨_, hawait⟩ | ⟨_, hawait, -⟩ <;>
          simp [Serves, hawait, Await.command] at hserves
      simpa [disturbs, Option.eq_none_iff_forall_ne_some] using hcommand
  | posting index =>
      rcases hserves with ⟨task, attempts, _, hawait, -⟩
      simp [disturbs, confirming, hawait, hawaited]
  | _ => rfl

theorem advances_land {id : Nat} {process : Process} {result : DSSPPortalAdapter × Process}
    (h : Orderly reading t) (hprocess : t.processes[id]? = some process)
    (hcalm : t.disturbs process = false)
    (hlands : DSSPPortalAdapter.Lands t.adapter process result) : Advances reading t id result := by
  have hserves : t.waiting = some id → Serves reading t.adapter t.engine.await process := by
    intro hwaiting
    rcases h.waiting id hwaiting with ⟨other, hsame, hserves⟩
    obtain rfl : other = process := Option.some.inj (hsame.symm.trans hprocess)
    exact hserves
  refine
    { grows := hlands.grows
      posts := hlands.posts ▸ h.posts
      stake := ?_
      confirming := ?_
      begun := hlands.begun.2
      serves := fun hwaiting => serves_of_lands hlands (hserves hwaiting)
      filled := ?_
      submitted := ?_ }
  · intro task hstake
    rcases h.stake task hstake with ⟨prepared, hprepared, hright⟩
    refine ⟨prepared, (hlands.preparedForm ?_).trans hprepared, hright⟩
    rintro trainee rfl
    simp [disturbs, hstake] at hcalm
  · intro task hconfirming index snapshot hsubmission
    rw [hlands.submission] at hsubmission
    · rcases h.confirming task hconfirming index snapshot hsubmission with
        ⟨hreply, post, hpost, htask⟩
      exact ⟨hlands.grows.replies hreply, post, hlands.grows.post_at hpost, htask⟩
    · rintro index rfl
      simp [disturbs, hconfirming] at hcalm
  · intro task attempt hwaiting hawait hdone
    have hserves := hserves hwaiting
    cases hlands with
    | answers _ hopen => exact absurd (Process.answering.inj hdone) hopen
    | lists => cases hdone
    | _ => simp [Serves, hawait, Await.command] at hserves
  · intro task attempts hwaiting hawait hdone
    have hserves := hserves hwaiting
    cases hlands with
    | answers _ hopen => exact absurd (Process.answering.inj hdone) hopen
    | lists => cases hdone
    | loads => simp [Serves, hawait, Await.command] at hserves
    | records =>
        -- The answer is recorded with the post that it is an answer to.
        rcases hserves with ⟨_, _, post, hsubmitting, hpost, rfl⟩
        obtain ⟨rfl, -⟩ := Await.submitting.inj (hawait.symm.trans hsubmitting)
        intro index snapshot hlast
        cases hlast
        exact ⟨by simp, post, hpost, rfl⟩

theorem orderly_lands {id : Nat} {landing : Landing} (h : Orderly reading t)
    (htime : t.InTime (.lands id landing)) (hstep : t.lands reading id landing = some t') :
    Orderly reading t' := by
  rcases Option.bind_eq_some_iff.1 hstep with ⟨process, hprocess, hrest⟩
  rcases Option.map_eq_some_iff.1 hrest with ⟨result, hland, rfl⟩
  have hlands := DSSPPortalAdapter.lands_of_land hland
  refine orderly_carriesOn h (advances_land h hprocess ?_ hlands)
  by_cases hwaiting : t.waiting = some id
  · exact calm_of_waited h hwaiting hprocess hlands.begun.1
  · exact htime id rfl process hprocess hwaiting

/-! ## What the engine hears -/

theorem eq_done_of_parse (h : RemotePortalAdapter.parse answer = .done) : answer = .done := by
  cases answer <;> first | exact h | cases h

theorem eq_outcome_of_parse {outcome : SubmissionOutcome}
    (h : RemotePortalAdapter.parse answer = .outcome outcome) : answer = .outcome outcome := by
  cases answer <;> first | exact h | cases h

theorem orderly_arrives {id : Nat} (h : Orderly reading t)
    (hstep : t.arrives options id = some t') : Orderly reading t' := by
  unfold arrives at hstep
  split at hstep
  · next answer hprocess =>
      dsimp only at hstep
      split at hstep
      · next hwaiting =>
          have hawaited : t.awaited = some (.answering answer) :=
            (awaited_of_waiting hwaiting).trans hprocess
          refine orderly_hears (t := t.carriesOn id (t.adapter, .over)) h.sound h.owned h.posts
            h.rows ?_ ?_ ?_ ?_ ?_ hstep
          · intro task attempt hawait hdone
            refine h.stake task (staked_eq_some_iff.2 (.inl ⟨attempt, hawait, ?_⟩))
            rw [hawaited, eq_done_of_parse hdone]
          · intro task attempt hawait _
            exact h.stake task (staked_eq_some_iff.2 (.inr (.inl ⟨attempt, hawait⟩)))
          · intro task attempts hawait hdone
            refine h.confirming task (confirming_eq_some_iff.2 (.inl ⟨attempts, hawait, ?_⟩))
            rw [hawaited, eq_done_of_parse hdone]
          · intro task hverifying
            exact h.confirming task (confirming_eq_some_iff.2 (.inr hverifying))
          · intro task attempts attempt reference hawait hconfirmed
            rcases h.waiting id hwaiting with ⟨process, hsame, hserves⟩
            obtain rfl : process = .answering answer :=
              Option.some.inj (hsame.symm.trans hprocess)
            exact hserves task attempts attempt reference hawait (eq_outcome_of_parse hconfirmed)
      · next hlate =>
          cases hstep
          exact orderly_carriesOn h (advances_quiet h (by simp) (by simp)
            fun hwaiting => absurd hwaiting hlate)
  · cases hstep

/-- An answer that settles nothing keeps everything in order. -/
theorem orderly_hears_open (h : Orderly reading t) (hdone : answer ≠ .done)
    (houtcome : ∀ outcome, answer ≠ .outcome outcome)
    (hheard : t.hears options answer = some t') : Orderly reading t' := by
  refine orderly_hears h.sound h.owned h.posts h.rows ?_ ?_ ?_ ?_ ?_ hheard
  · exact fun _ _ _ heq => absurd heq hdone
  · exact fun _ _ _ heq => absurd heq hdone
  · exact fun _ _ _ heq => absurd heq hdone
  · exact fun task hverifying => h.confirming task (confirming_eq_some_iff.2 (.inr hverifying))
  · exact fun _ _ _ _ _ heq => absurd heq (houtcome _)

theorem unanswered_open (await : Await) (message : String) :
    RemotePortalAdapter.unanswered await message ≠ .done ∧
      ∀ outcome, RemotePortalAdapter.unanswered await message ≠ .outcome outcome := by
  unfold RemotePortalAdapter.unanswered
  split <;> simp

theorem orderly_step (h : Orderly reading t) {input : TabInput} (htime : t.InTime input)
    (hstep : t.step options reading input = some t') : Orderly reading t' := by
  cases input with
  | engine input => exact orderly_step_engine h hstep
  | attach =>
      cases hstep
      exact ⟨h.sound, h.owned, h.waiting, h.stake, h.confirming, h.posts, h.rows⟩
  | detach =>
      cases hstep
      exact ⟨h.sound, h.owned, h.waiting, h.stake, h.confirming, h.posts, h.rows⟩
  | starts id armed => exact orderly_starts h htime hstep
  | lands id landing => exact orderly_lands h htime hstep
  | arrives id => exact orderly_arrives h hstep
  | timesOut message =>
      simp only [step] at hstep
      split at hstep
      · exact orderly_hears_open h (unanswered_open _ _).1 (unanswered_open _ _).2 hstep
      · cases hstep
  | refused =>
      simp only [step] at hstep
      split at hstep
      · exact orderly_hears_open h (unanswered_open _ _).1 (unanswered_open _ _).2 hstep
      · cases hstep

/-! ## Runs -/

theorem orderly_of_run {inputs : List TabInput}
    (htime : Machine.EachStep (step options reading) InTime {} inputs)
    (hrun : Machine.run (step options reading) {} inputs = some t) : Orderly reading t :=
  htime.invariant (P := Orderly reading) (fun _ _ _ h htime hstep => orderly_step h htime hstep)
    (orderly_start reading) hrun

/-- Whatever is posted for a trainee is the form that was loaded for this trainee, with the date,
the instructor and the type of the session, as long as late commands come in time. -/
theorem posts_are_right {inputs : List TabInput}
    (htime : Machine.EachStep (step options reading) InTime {} inputs)
    (hrun : Machine.run (step options reading) {} inputs = some t) :
    ∀ post ∈ t.adapter.posts, Right post.task post.form :=
  (orderly_of_run htime hrun).posts

/-- Behind every success there is a post for the trainee of the row, and the portal has confirmed
that very post, to which it has given no other answer. -/
theorem success_is_backed {inputs : List TabInput}
    (htime : Machine.EachStep (step options reading) InTime {} inputs)
    (hrun : Machine.run (step options reading) {} inputs = some t) :
    (t.adapter.replies.map (·.1)).Nodup ∧
      ∀ row ∈ t.engine.results, row.outcome = .success → Backed reading t.adapter row :=
  ⟨posts_are_answered_once hrun, (orderly_of_run htime hrun).rows⟩

def loadedForm : TrainingForm where
  trainingDate := { name := "date", value := "" }
  instructor :=
    { id := "instructor", name := "instructor", options := [{ value := "3", label := "Eve" }] }
  trainingType := { id := "type", name := "type", options := [{ value := "4", label := "Road" }] }
  action := some "https://portal"

/-- An answer is a confirmation if its status says so. -/
def statusReading : PageReading where
  checkValidity _ := true
  isLoginPage _ := false
  submissionOutcome snapshot :=
    if snapshot.status = 200 then .ok (.confirmed (some snapshot.url))
    else .ok (.rejected s!"DSSP returned HTTP {snapshot.status}.")

def replyOf (status : Nat) : SubmissionSnapshot where
  status := status
  url := "https://portal/Trainee"
  body := ""
  redirected := false

/-- A command that waits for nothing. -/
def answeredAtOnce (id : Nat) : List TabInput :=
  [.starts id true, .arrives id]

/-- The page is the portal's. -/
def onPortal (id : Nat) : List TabInput :=
  [.starts id true, .lands id (.checked true), .arrives id]

/-- A session starts with the list, and with the form of its first trainee. -/
def sessionOf (id : Nat) (trainee : Trainee) : List TabInput :=
  [.starts id true, .lands id (.listed (.ok [trainee])), .lands id (.loaded (.ok loadedForm)),
    .arrives id]

/-- A session up to its only submission. -/
def uptoSubmission (id : Nat) (task : BatchTask) : List TabInput :=
  [.engine (.addTask task), .engine .run] ++ sessionOf id task.trainee ++ [.engine .continued] ++
    onPortal (id + 1) ++ answeredAtOnce (id + 2) ++ answeredAtOnce (id + 3) ++
    answeredAtOnce (id + 4) ++ answeredAtOnce (id + 5) ++ [.starts (id + 6) true]

/-- One trainee, whose form is loaded with the list. -/
def submittedByTab : List TabInput :=
  uptoSubmission 0 AutomationEngine.adaTask ++ [.lands 6 (.answered (replyOf 200)), .arrives 6] ++
    answeredAtOnce 7

def submittedTab : Tab :=
  (Machine.run (step {} statusReading) {} submittedByTab).getD {}

theorem ada_is_confirmed : Backed statusReading submittedTab.adapter
    (AutomationEngine.settle AutomationEngine.adaTask 1 .success none) := by
  have hrun : Machine.run (step {} statusReading) {} submittedByTab = some submittedTab := rfl
  exact (success_is_backed (by decide +kernel) hrun).2 _ (by decide +kernel) rfl

/-! ## Commands that come late -/

def cyTask : BatchTask where
  trainee := { id := "9", traineeId := "9", name := "Cy Oke" }
  session := { trainingDate := "2024-05-06", instructorId := "3", trainingTypeId := "4" }

/-- Loading Ada's form takes too long, and Cy is next. -/
def adaGivenUp : List TabInput :=
  [.engine (.addTask AutomationEngine.adaTask), .engine (.addTask cyTask), .engine .run] ++
    sessionOf 0 cyTask.trainee ++ [.engine .continued] ++ onPortal 1 ++ answeredAtOnce 2 ++
    [.starts 3 true, .timesOut "No answer.", .engine .written, .engine .elapsed,
      .engine .continued] ++ onPortal 4

def adaLoadedLate : List TabInput :=
  [.lands 3 (.loaded (.ok loadedForm)), .arrives 3]

/-- Her form comes before Cy's is loaded. -/
def loadedInTime : List TabInput :=
  adaGivenUp ++ adaLoadedLate ++ answeredAtOnce 5 ++
    [.starts 6 true, .lands 6 (.loaded (.ok loadedForm)), .arrives 6] ++ answeredAtOnce 7 ++
    answeredAtOnce 8 ++ [.starts 9 true]

def cyPost : Post where
  task := cyTask
  form :=
    { traineeId := "9"
      fields :=
        { loadedForm with
          trainingDate := { name := "date", value := "2024-05-06" }
          instructor :=
            { loadedForm.instructor with selected := some { value := "3", label := "Eve" } }
          trainingType :=
            { loadedForm.trainingType with selected := some { value := "4", label := "Road" } } } }

theorem cy_is_posted_his_form : Right cyTask cyPost.form := by
  have hrun : Machine.run (step { maxAttempts := 1 } statusReading) {} loadedInTime =
      some ((Machine.run (step { maxAttempts := 1 } statusReading) {} loadedInTime).getD {}) := rfl
  exact posts_are_right (by decide +kernel) hrun cyPost (by decide +kernel)

/-- Her form comes just before Cy's is submitted. -/
def loadedLate : List TabInput :=
  adaGivenUp ++ answeredAtOnce 5 ++ answeredAtOnce 6 ++ answeredAtOnce 7 ++ answeredAtOnce 8 ++
    adaLoadedLate ++ [.starts 9 true]

/-- Without the condition a trainee can be posted the empty form of another. -/
theorem late_form_is_posted :
    ((Machine.run (step { maxAttempts := 1 } statusReading) {} loadedLate).getD {}).adapter.posts =
      [{ task := cyTask
         form := { traineeId := AutomationEngine.adaTask.trainee.id, fields := loadedForm } }] := by
  decide +kernel

/-- The portal takes too long to confirm Ada's post. In the next session it refuses Cy's, and
confirms hers before the dialogs have been handed back after his. -/
def confirmedLate : List TabInput :=
  uptoSubmission 0 AutomationEngine.adaTask ++
    [.timesOut "No answer.", .engine .written, .engine .written] ++ uptoSubmission 7 cyTask ++
    [.lands 13 (.answered (replyOf 400)), .lands 6 (.answered (replyOf 200)), .arrives 13] ++
    answeredAtOnce 14

/-- Without the condition a success can rest on the answer to another's post. -/
theorem late_reply_is_confirmed :
    ((Machine.run (step {} statusReading) {} confirmedLate).map fun t =>
        (t.engine.results, t.adapter.posts.map (·.task), t.adapter.replies)) =
      some ([AutomationEngine.settle cyTask 1 .success none], [AutomationEngine.adaTask, cyTask],
        [(1, replyOf 400), (0, replyOf 200)]) := by
  decide +kernel

end Steps

end Tab

end Extension

end DsspBot

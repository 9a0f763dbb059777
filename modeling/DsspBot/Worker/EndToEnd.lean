import DsspBot.Cli.Single
import DsspBot.Lib.Link
import DsspBot.Worker.Handle

/-!
# EndToEnd — a retry loop over the pipe to the worker

Both retry loops are callers of one worker. A request is written, the worker handles it at some
later time, and its answer is read, or lost to a timeout, a crash or a check of the reply. The POST
of a trainee then happens at most once over all attempts.
-/

namespace DsspBot

/-- The reply says that nothing was submitted. -/
def Proves (resp : Response) : Prop :=
  resp.provesNothingSubmitted = some true

theorem proves_of_allowsRetry {reply : Reply} (h : AllowsRetry reply) :
    ∃ answer, reply.toOption = some answer ∧ Proves answer := by
  rcases h with ⟨resp, rfl, hproves⟩
  exact ⟨resp, rfl, hproves.proves⟩

/-! ## The batch loop as a caller -/

def Pc.awaitingTask : Pc → Option Task
  | .awaiting task _ => some task
  | _ => none

def EngineEvent.heardReply : EngineEvent → Option (Task × Option Response)
  | .replied task reply => some (task, reply.toOption)
  | _ => none

/-- What a run was told about each task: an answer, or nothing for a transport error. -/
def Engine.heard (e : Engine) : List (Task × Option Response) :=
  e.log.filterMap EngineEvent.heardReply

def Input.isReply : Input → Bool
  | .reply _ => true
  | _ => false

/-- The request a step of the batch loop hands to the worker. -/
def Batch.writes (b : Batch) (e : Engine) : Input → Option (Task × Request)
  | .tick =>
      match e.pc with
      -- Only a submission counts as a request here, the session check cannot submit.
      | .submitting task a => some (task, .submitTraining a.jobId task.payload b.session)
      | _ => none
  | _ => none

def Batch.caller (b : Batch) : Link.Caller Engine Input Task Request Response String where
  step := b.step
  writes := b.writes
  reply := .reply
  isReply := Input.isReply
  waiting e := e.pc.awaitingTask
  heard := Engine.heard

section Batch

variable {b : Batch} {store : CheckpointStore} {e e' : Engine}

theorem Engine.heard_of_log {ev : EngineEvent} (h : e'.log = e.log ++ [ev]) :
    e'.heard = e.heard ++ ev.heardReply.toList := by
  unfold Engine.heard
  rw [h, filterMap_snoc]

theorem awaitingTask_afterWrite {pc : Pc} (h : Batch.afterWrite pc = true) :
    pc.awaitingTask = none := by
  cases pc with
  | awaiting task a => cases h
  | _ => rfl

/-- A control request is heard by nobody. -/
theorem requested_quiet {c : ControlRequest} (h : e.requested c = some e') :
    e'.pc.awaitingTask = e.pc.awaitingTask ∧ e'.heard = e.heard := by
  unfold Engine.requested at h
  split at h
  · cases h
  · rcases Option.map_eq_some_iff.1 h with ⟨control, -, rfl⟩
    split
    · exact ⟨rfl, (Engine.heard_of_log rfl).trans (List.append_nil _)⟩
    · exact ⟨rfl, (Engine.heard_of_log rfl).trans (List.append_nil _)⟩

/-- Away from a submission and its wait, a step neither waits nor hears. -/
theorem Batch.Step.quiet (h : b.Step e e') (hwait : ∀ task a, e.pc ≠ .awaiting task a)
    (hsend : ∀ task a, e.pc ≠ .submitting task a) :
    e'.pc.awaitingTask = e.pc.awaitingTask ∧ e'.heard = e.heard := by
  have hidle : e.pc.awaitingTask = none := by
    cases hpc : e.pc with
    | awaiting task a => exact absurd hpc (hwait task a)
    | _ => rfl
  -- Machine moves are heard by nobody either.
  have hmoves : ∀ s t legal, (EngineEvent.moved s t legal).heardReply = none := fun _ _ _ => rfl
  rw [hidle]
  cases h with
  | accepted _ _ _ => exact ⟨hidle, (Engine.heard_of_log rfl).trans (List.append_nil _)⟩
  | refused _ _ _ => exact ⟨hidle, (Engine.heard_of_log rfl).trans (List.append_nil _)⟩
  | ensure _ => exact ⟨rfl, (Engine.heard_of_log rfl).trans (List.append_nil _)⟩
  | landed _ =>
      refine ⟨awaitingTask_afterWrite (Batch.writeLanded_afterWrite _ _), ?_⟩
      refine (Batch.writeLanded_log_filterMap _ hmoves _ _).trans ?_
      rw [filterMap_snoc]
      exact List.append_nil _
  | failed _ =>
      refine ⟨awaitingTask_afterWrite (Batch.writeFailed_afterWrite _ _ _), ?_⟩
      refine (Batch.writeFailed_log_filterMap _ hmoves _ _ _).trans ?_
      rw [filterMap_snoc]
      exact List.append_nil _
  | entered _ => exact ⟨rfl, e.transition_log_filterMap _ hmoves _⟩
  | admitted _ _ => exact ⟨rfl, (Engine.heard_of_log rfl).trans (List.append_nil _)⟩
  | submitted hpc => exact absurd hpc (hsend _ _)
  | lost hpc => exact absurd hpc (hwait _ _)
  | settled hpc _ => exact absurd hpc (hwait _ _)
  | retrying hpc _ _ => exact absurd hpc (hwait _ _)
  | slept _ => exact ⟨rfl, (Engine.heard_of_log rfl).trans (List.append_nil _)⟩
  | aborted _ _ _ _ => exact ⟨rfl, e.abandon_log_filterMap _ hmoves _⟩
  | closing _ _ => exact ⟨rfl, e.close_log_filterMap _ hmoves _⟩
  | _ => exact ⟨rfl, rfl⟩

/-- A step that is no answer to a wait and writes no request changes nothing of either. -/
theorem Batch.acts {input : Input}
    (hreply : ((b.caller.waiting e).isSome && b.caller.isReply input) = false)
    (hstep : b.step e input = some e') (hwrites : b.writes e input = none) :
    e'.pc.awaitingTask = e.pc.awaitingTask ∧ e'.heard = e.heard := by
  cases input with
  | request c => exact requested_quiet (by simpa [Batch.step] using hstep)
  | tick =>
      -- A tick leaves a submission only by writing its request.
      refine (Batch.step_cases hstep).quiet ?_ ?_
      · intro task a hpc
        simp [Batch.step, hpc] at hstep
      · intro task a hpc
        simp [Batch.writes, hpc] at hwrites
  | reply reply =>
      refine (Batch.step_cases hstep).quiet ?_ ?_
      · intro task a hpc
        simp [Batch.caller, Input.isReply, hpc, Pc.awaitingTask] at hreply
      · intro task a hpc
        simp [Batch.step, hpc] at hstep
  | _ =>
      refine (Batch.step_cases hstep).quiet ?_ ?_
      · intro task a hpc
        simp [Batch.step, hpc] at hstep
      · intro task a hpc
        simp [Batch.step, hpc] at hstep

theorem answered_hears (policy : RetryPolicy) (task : Task) (a : Attempt) (reply : Reply) :
    (e.answered policy task a reply).pc.awaitingTask = none ∧
      (e.answered policy task a reply).heard = e.heard ++ [(task, reply.toOption)] := by
  have hmoves : ∀ s t legal, (EngineEvent.moved s t legal).heardReply = none := fun _ _ _ => rfl
  have hlog : (e.emit (.replied task reply)).log = e.log ++ [.replied task reply] := rfl
  have hemit : (e.emit (.replied task reply)).heard = e.heard ++ [(task, reply.toOption)] :=
    Engine.heard_of_log hlog
  have hmoved : ∀ target, ((e.emit (.replied task reply)).transition target).heard =
      e.heard ++ [(task, reply.toOption)] := by
    intro target
    exact ((e.emit (.replied task reply)).transition_log_filterMap _ hmoves target).trans hemit
  cases reply with
  | error text => exact ⟨rfl, hemit⟩
  | ok resp =>
      simp only [Engine.answered]
      -- However the reply is settled, it was noted first.
      cases settleSubmit resp with
      | success => exact ⟨rfl, hmoved .verifying⟩
      | failed code message => exact ⟨rfl, hmoved .verifying⟩
      | indeterminate message => exact ⟨rfl, hmoved .verifying⟩
      | retry code message =>
          simp only
          split
          · exact ⟨rfl, hmoved .verifying⟩
          · exact ⟨rfl, hmoved .retrying⟩

/-- The answer to a wait is heard, and ends it. -/
theorem Batch.hears {task : Task} {reply : Reply} (hwaiting : e.pc.awaitingTask = some task)
    (hstep : b.step e (.reply reply) = some e') :
    e'.pc.awaitingTask = none ∧ e'.heard = e.heard ++ [(task, reply.toOption)] := by
  cases hpc : e.pc with
  | awaiting task' a =>
      have htask : task' = task := by simpa [hpc, Pc.awaitingTask] using hwaiting
      have hanswered : e.answered b.policy task' a reply = e' := by
        simpa [Batch.step, hpc] using hstep
      rw [← hanswered, ← htask]
      exact answered_hears _ _ _ _
  | _ => simp [hpc, Pc.awaitingTask] at hwaiting

/-- What a run has heard before it asks for a task again proves that nothing was submitted. -/
theorem Batch.Reachable.proven (h : b.Reachable store e) {task : Task} {a : Attempt}
    (hpc : e.pc = .submitting task a) : Link.Proven Proves e.heard task := by
  -- The submission that follows is a reachable step, so the resend rule speaks of its past.
  have hstep : b.step e .tick = some (b.submit e task a) := by simp [Batch.step, hpc]
  have hnext : b.Reachable store (b.submit e task a) := by
    rcases h with ⟨control, hcontrol, hreaches⟩
    exact ⟨control, hcontrol, hreaches.tail hstep⟩
  have hmoved : ∃ s t legal, (e.transition .submitting).log = e.log ++ [.moved s t legal] := by
    rcases e.transition_eq .submitting with ⟨machine, legal, heq⟩
    exact ⟨_, _, legal, by rw [heq]⟩
  rcases hmoved with ⟨s, t, legal, hmoved⟩
  have hlog : (b.submit e task a).log = (e.log ++ [.moved s t legal]) ++
      .submitted task (.submitTraining a.jobId task.payload b.session) :: [] := by
    rw [← hmoved]
    rfl
  intro heard hheard htask
  rcases List.mem_filterMap.1 hheard with ⟨ev, hev, hreplied⟩
  cases ev with
  | replied task' reply =>
      have heq : (task', reply.toOption) = heard := Option.some.inj hreplied
      subst heq
      have htask' : task' = task := htask
      subst htask'
      exact proves_of_allowsRetry (hnext.resendRule.proof _ _ _ _ hlog reply (by simp [hev]))
  | _ => cases hreplied

theorem Batch.submit_heard (b : Batch) (e : Engine) (task : Task) (a : Attempt) :
    (b.submit e task a).heard = e.heard := by
  have hlog : (b.submit e task a).log = (e.transition .submitting).log ++
      [.submitted task (.submitTraining a.jobId task.payload b.session)] := rfl
  calc (b.submit e task a).heard
      = (e.transition .submitting).heard ++ [] := Engine.heard_of_log hlog
    _ = (e.transition .submitting).heard := List.append_nil _
    _ = e.heard := e.transition_log_filterMap _ (fun _ _ _ => rfl) .submitting

theorem Batch.caller_lawful (b : Batch) (store : CheckpointStore) :
    b.caller.Lawful Proves (b.Reachable store) where
  good := by
    rintro e input e' ⟨control, hcontrol, hreaches⟩ hstep
    exact ⟨control, hcontrol, hreaches.tail hstep⟩
  acts := fun e input e' _ hreply hstep hwrites => Batch.acts hreply hstep hwrites
  writes := by
    intro e input e' task request hgood hstep hwrites
    -- The one input that writes is the tick at a submission.
    have hsend : ∃ a, input = .tick ∧ e.pc = .submitting task a := by
      change b.writes e input = _ at hwrites
      unfold Batch.writes at hwrites
      split at hwrites
      · split at hwrites
        · next task' a hpc =>
            cases hwrites
            exact ⟨a, rfl, hpc⟩
        · cases hwrites
      · cases hwrites
    rcases hsend with ⟨a, rfl, hpc⟩
    have heq : b.submit e task a = e' := by simpa [Batch.caller, Batch.step, hpc] using hstep
    have hidle : e.pc.awaitingTask = none := by simp [hpc, Pc.awaitingTask]
    refine ⟨hidle, ?_, ?_, hgood.proven hpc⟩
    · rw [← heq]
      rfl
    · rw [← heq]
      exact b.submit_heard e task a
  hears := fun e reply e' task _ hwaiting hstep => Batch.hears hwaiting hstep

end Batch

/-! ## The single run as a caller -/

def SinglePc.awaitsReply : SinglePc → Option Unit
  | .awaiting _ _ => some ()
  | _ => none

/-- What a single run was told about its trainee. -/
def Single.heard (s : Single) : List (Unit × Option Response) :=
  s.replies.map fun reply => ((), reply.toOption)

def SingleInput.isReply : SingleInput → Bool
  | .reply _ => true
  | _ => false

def Single.writes (job : SingleJob) (s : Single) : SingleInput → Option (Unit × Request)
  | .tick =>
      match s.pc with
      | .submitting jobId _ => some ((), .submitTraining jobId job.trainee job.session)
      | _ => none
  | _ => none

def Single.caller (job : SingleJob) :
    Link.Caller Single SingleInput Unit Request Response String where
  step := Single.step job
  writes := Single.writes job
  reply := .reply
  isReply := SingleInput.isReply
  waiting s := s.pc.awaitsReply
  heard := Single.heard

section Single

variable {job : SingleJob} {s s' : Single} {input : SingleInput}

theorem decided_awaitsReply (jobId : String) (attempt : Nat) (reply : Reply) :
    (Single.decided jobId attempt reply).awaitsReply = none := by
  rcases Single.decided_cases jobId attempt reply with ⟨line, code, heq, -⟩ | ⟨heq, -, -⟩
  · rw [heq]
    rfl
  · rw [heq]
    rfl

theorem awaitsReply_of_early {pc : SinglePc} (hpc : Single.early pc = true) :
    pc.awaitsReply = none := by
  unfold SinglePc.awaitsReply
  split
  · cases hpc
  · rfl

/-- A reply is heard only where the submission waits for it. -/
theorem Single.acts
    (hreply : (s.pc.awaitsReply.isSome && input.isReply) = false)
    (hstep : Single.step job s input = some s') (hwrites : Single.writes job s input = none) :
    s'.pc.awaitsReply = s.pc.awaitsReply ∧ s'.heard = s.heard := by
  cases Single.step_cases hstep with
  | early asked hpc hpc' hlog =>
      -- The session and the form options are not part of the wait.
      have hwait : s'.pc.awaitsReply = none := by
        rcases hpc' with hearly | hexited
        · exact awaitsReply_of_early hearly
        · rw [hexited]
          rfl
      refine ⟨hwait.trans (awaitsReply_of_early hpc).symm, ?_⟩
      unfold Single.heard
      rw [Single.replies_of_asked hlog]
  | began hpc => exact ⟨by simp [hpc, SinglePc.awaitsReply], rfl⟩
  | submitted hpc => simp [Single.writes, hpc] at hwrites
  | heard hpc => simp [hpc, SinglePc.awaitsReply, SingleInput.isReply] at hreply
  | slept hpc =>
      exact ⟨by simp [hpc, SinglePc.awaitsReply], by simp [Single.heard, Single.replies]⟩

theorem Single.caller_lawful (job : SingleJob) :
    (Single.caller job).Lawful Proves (Single.Reachable job) where
  good := fun _ _ _ hgood hstep => Machine.Reaches.tail hgood hstep
  acts := fun _ _ _ _ hreply hstep hwrites => Single.acts hreply hstep hwrites
  writes := by
    intro s input s' key request hgood hstep hwrites
    have hsend : ∃ jobId attempt, input = .tick ∧ s.pc = .submitting jobId attempt := by
      change Single.writes job s input = _ at hwrites
      unfold Single.writes at hwrites
      split at hwrites
      · split at hwrites
        · next jobId attempt hpc => exact ⟨jobId, attempt, rfl, hpc⟩
        · cases hwrites
      · cases hwrites
    rcases hsend with ⟨jobId, attempt, rfl, hpc⟩
    have heq : ({ pc := .awaiting jobId attempt
                  log := s.log ++ [.submitted (.submitTraining jobId job.trainee job.session)] } :
        Single) = s' := by
      simpa [Single.caller, Single.step, hpc] using hstep
    have hcount := (Single.Reachable.inv hgood).count.at_pc hpc
    rw [← heq]
    refine ⟨?_, rfl, ?_, ?_⟩
    · change s.pc.awaitsReply = none
      rw [hpc]
      rfl
    · simp [Single.caller, Single.heard, Single.replies]
    · intro heard hheard _
      -- The loop only comes back to a submission on replies that allow it.
      rcases List.mem_map.1 hheard with ⟨reply, hmem, rfl⟩
      exact proves_of_allowsRetry (hcount.2.2 reply hmem)
  hears := by
    intro s reply s' key hgood hwaiting hstep
    have hpc : ∃ jobId attempt, s.pc = .awaiting jobId attempt := by
      change s.pc.awaitsReply = _ at hwaiting
      unfold SinglePc.awaitsReply at hwaiting
      split at hwaiting
      · next jobId attempt hpc => exact ⟨jobId, attempt, hpc⟩
      · cases hwaiting
    rcases hpc with ⟨jobId, attempt, hpc⟩
    have heq : ({ pc := decided jobId attempt reply, log := s.log ++ [.replied reply] } :
        Single) = s' := by
      simpa [Single.caller, Single.step, hpc] using hstep
    rw [← heq]
    refine ⟨decided_awaitsReply _ _ _, ?_⟩
    simp [Single.caller, Single.heard, Single.replies]

end Single

/-! ## Both ends -/

/-- What the worker answers to a request, and how many POSTs that took. -/
def serve {Soup Tag : Type} (lib : Libraries Soup Tag) (pages : PageReader Soup) (portal : Portal)
    (req : Request) : Response × Nat :=
  let out := (Worker.handle lib pages portal req).run []
  (out.1, posts out.2)

theorem serve_honest {Soup Tag : Type} (lib : Libraries Soup Tag) (pages : PageReader Soup)
    (portal : Portal) (req : Request) :
    (serve lib pages portal req).2 ≤ 1 ∧
      (Proves (serve lib pages portal req).1 → (serve lib pages portal req).2 = 0) :=
  handle_honest lib pages portal req

/-- A batch and a worker, with a portal that may behave differently at every request. -/
def Batch.RunsWith {Soup Tag : Type} (lib : Libraries Soup Tag) (pages : PageReader Soup)
    (b : Batch) (store : CheckpointStore) (s : Link.Coupled Engine Task Request Response) : Prop :=
  ∃ control : Option BatchControl, (control = none ∨ control = some {}) ∧
    Machine.Reaches (b.caller.coupledStep (serve lib pages))
      { caller := b.start control store, link := {} } s

def Single.RunsWith {Soup Tag : Type} (lib : Libraries Soup Tag) (pages : PageReader Soup)
    (job : SingleJob) (s : Link.Coupled Single Unit Request Response) : Prop :=
  Machine.Reaches ((Single.caller job).coupledStep (serve lib pages))
    { caller := Single.start, link := {} } s

/-- However the portal behaves and whatever answers are lost, the training of a trainee is posted
at most once, and a reply that proves nothing was submitted is the reply to no POST. -/
theorem posted_at_most_once {Soup Tag : Type} (lib : Libraries Soup Tag) (pages : PageReader Soup) :
    (∀ b store s, Batch.RunsWith lib pages b store s → ∀ task, s.link.done.count task ≤ 1) ∧
      (∀ job s, Single.RunsWith lib pages job s → s.link.done.length ≤ 1) ∧
        ∀ portal req, Proves ((Worker.handle lib pages portal req).run []).1 →
          posts ((Worker.handle lib pages portal req).run []).2 = 0 := by
  have hworker := serve_honest lib pages
  refine ⟨?_, ?_, ?_⟩
  · rintro b store s ⟨control, hcontrol, hreaches⟩ task
    have hstart : b.Reachable store (b.start control store) :=
      ⟨control, hcontrol, Machine.Reaches.refl _⟩
    exact (b.caller_lawful store).at_most_once hworker hstart rfl rfl hreaches task
  · intro job s hreaches
    have honce := (Single.caller_lawful job).at_most_once hworker (Machine.Reaches.refl _) rfl rfl
      hreaches ()
    -- A single run has one trainee, so every POST is under the one key.
    have hunits : s.link.done.count () = s.link.done.length :=
      List.count_eq_length.2 fun _ _ => rfl
    simpa [hunits] using honce
  · intro portal req
    exact (hworker portal req).2

/-! ### A form that is missing at the first look -/

def plainUrls : List (String × Url) :=
  [("https://portal/Trainee?pgsize=10000&page=1&keywords=",
      ⟨"https", "portal", "/Trainee", "pgsize=10000&page=1&keywords="⟩),
    ("https://portal/Trainee/TrainingLog?TraineeId=7",
      ⟨"https", "portal", "/Trainee/TrainingLog", "TraineeId=7"⟩),
    ("https://portal/Trainee/LogTraining", ⟨"https", "portal", "/Trainee/LogTraining", ""⟩)]

/-- The libraries on the pages of one portal: a page is its text, and no page shows a login form or
a validation message. -/
def plainLibraries : Libraries String String where
  parseHtml := .ok
  select _ _ := .ok []
  selectOne _ _ := .ok none
  getText := .ok
  loads body :=
    if body = "done" then .ok (.object [("IsSuccessful", .bool true)])
    else .error (.value "Expecting value: line 1 column 1 (char 0)")
  dumps _ := .ok ""
  urlparse href :=
    match plainUrls.find? fun entry => decide (entry.1 = href) with
    | some entry => .ok entry.2
    | none => .error (.value "Invalid URL")
  parseQs query := .ok (if query = "TraineeId=7" then [("TraineeId", ["7"])] else [])
  urljoin _ _ := .ok "https://portal/Trainee/LogTraining"
  urlencode _ := .ok "TraineeId=7"
  quote value := value
  repr value := "'" ++ value ++ "'"
  upper value := value

def plainPages : PageReader String where
  getTrainees _ := .ok [{ id := "7", name := "Grace" }]
  getFormOptions _ := .ok ([], [])
  buildFormPayload page _ _ :=
    if page = "form" then .ok [("TraineeId", "7")]
    else .error (.portal
      { errorCode := ERR_ELEMENT_NOT_FOUND, message := "Log New Training form" })
  hasAuthenticatedMarker _ := .ok true

def plainResponse (url text : String) : HttpResponse :=
  { text := .ok text
    url := fun _ => .ok url
    status := fun _ => .ok 200
    ok := .ok true
    headers := fun _ => .ok [] }

/-- The trainee list, then a form page with this text, then a confirmation. -/
def plainPortal (form : String) : Portal where
  origin := "https://portal"
  start _ := .ok ()
  get
    | [] => .ok (plainResponse "https://portal/Trainee?pgsize=10000&page=1&keywords=" "list")
    | _ => .ok (plainResponse "https://portal/Trainee/TrainingLog?TraineeId=7" form)
  post _ := .ok (plainResponse "https://portal/Trainee/LogTraining" "done")
  goto := .ok ()
  looks := []
  dumpDir := none
  write _ _ := .ok ()

/-- The first answer proves that nothing was submitted, so the batch asks once more. -/
def postedInputs : List (Link.CoupledInput Input Portal String) :=
  [.act (.newId "ensure"), .act (.reply (.ok { status := .ok })), .act .tick, .act .tick,
    .act (.write "1" (.ok ())), .act (.newId "job"), .act .tick, .act .tick,
    .serve (plainPortal "maintenance"), .deliver, .act .tick, .act .tick, .act .tick,
    .serve (plainPortal "form"), .deliver]

def postedStart : Link.Coupled Engine Task Request Response :=
  { caller := pairBatch.start none pairStore, link := {} }

def postedRun : Option (Link.Coupled Engine Task Request Response) :=
  Machine.run (pairBatch.caller.coupledStep (serve plainLibraries plainPages)) postedStart
    postedInputs

def postedEnd : Link.Coupled Engine Task Request Response :=
  postedRun.getD postedStart

theorem postedEnd_runs :
    Batch.RunsWith plainLibraries plainPages pairBatch pairStore postedEnd := by
  have hsome : postedRun.isSome = true := by decide +kernel
  refine ⟨none, Or.inl rfl, postedInputs, ?_⟩
  rcases Option.isSome_iff_exists.1 hsome with ⟨s, hs⟩
  have hend : postedEnd = s := by simp [postedEnd, hs]
  rw [hend]
  exact hs

theorem posted_at_most_once_to_the_pair :
    postedEnd.link.done = [⟨"7", { id := some "7" }⟩] ∧
      postedEnd.caller.results.map (·.attempts) = [2] ∧
        (∀ task, postedEnd.link.done.count task ≤ 1) ∧
          Proves (serve plainLibraries plainPages (plainPortal "maintenance")
            (.submitTraining "job" { id := some "7" } pairBatch.session)).1 ∧
            (serve plainLibraries plainPages (plainPortal "maintenance")
              (.submitTraining "job" { id := some "7" } pairBatch.session)).2 = 0 := by
  have hall := posted_at_most_once plainLibraries plainPages
  have hproves : Proves (serve plainLibraries plainPages (plainPortal "maintenance")
      (.submitTraining "job" { id := some "7" } pairBatch.session)).1 := by
    unfold Proves
    decide +kernel
  exact ⟨by decide +kernel, by decide +kernel, hall.1 _ _ _ postedEnd_runs, hproves,
    hall.2.2 _ _ hproves⟩

end DsspBot

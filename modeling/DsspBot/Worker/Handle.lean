import DsspBot.Worker.Portal

/-!
# Handle — one request to the worker

`handle` dispatches a request and turns every exception into an error reply. The reply's proof flag
is what the coordinator retries on, so it is compared here with what was asked of the portal.
-/

namespace DsspBot

/-! ## Dispatch -/

section Worker

variable {Soup Tag : Type} (lib : Libraries Soup Tag) (pages : PageReader Soup) (portal : Portal)

namespace Worker

def ping (req : Request) : Py Response :=
  pure { okResponse req.jobId Op.ping with pong := some true }

def ensureSession (req : Request) : Py Response := do
  PortalClient.ensureSession lib pages portal
  return { okResponse req.jobId Op.ensureSession with authenticated := some true }

def listTrainees (req : Request) : Py Response := do
  let trainees ← PortalClient.listTrainees lib pages portal
  return { okResponse req.jobId Op.listTrainees with
    count := some trainees.length, trainees := some trainees }

def getFormOptions (req : Request) : Py Response := do
  let options ← PortalClient.getFormOptions lib pages portal req.traineeId
  return { okResponse req.jobId Op.getFormOptions with
    instructors := some options.1, trainingTypes := some options.2 }

/-- The first required field of a session that is blank. -/
def blankField (session : SessionInput) : Option String :=
  ([("training_date", session.trainingDate), ("instructor", session.instructor),
      ("training_type", session.trainingType)].find? fun field => decide (strip field.2 = "")).map
    (·.1)

def submitTraining (req : Request) : Py Response :=
  match req.trainee, req.session with
  | some trainee, some session =>
      match blankField session with
      -- Refused before the portal is touched.
      | some field =>
          pure (errorResponse req.jobId Op.submitTraining ERR_BAD_REQUEST
            s!"session.{field} is required")
      | none => do
          let result ← PortalClient.submitTraining lib pages portal trainee session
          return { okResponse req.jobId Op.submitTraining with
            trainee := some { id := result.1.id, name := result.1.name }
            attempts := some 1
            outcome := some result.2.outcome
            reference := result.2.reference
            message := result.2.message }
  | _, _ =>
      pure (errorResponse req.jobId Op.submitTraining ERR_BAD_REQUEST
        "'trainee' and 'session' objects are required")

def handlers (op : String) : Option (Request → Py Response) :=
  if op = Op.ping then some ping
  else if op = Op.ensureSession then some (ensureSession lib pages portal)
  else if op = Op.listTrainees then some (listTrainees lib pages portal)
  else if op = Op.getFormOptions then some (getFormOptions lib pages portal)
  else if op = Op.submitTraining then some (submitTraining lib pages portal)
  else none

/-- The reply that reports an exception. -/
def report (req : Request) : PyException → Response
  | .portal exc =>
      errorResponse req.jobId req.op exc.errorCode exc.message exc.submissionAttempted
  | .library exc => errorResponse req.jobId req.op ERR_SUBMISSION_FAILED exc.text

def handle (req : Request) : StateM (List Issued) Response :=
  if req.op = "" then pure (errorResponse req.jobId "" ERR_BAD_REQUEST "missing 'op'")
  else
    match handlers lib pages portal req.op with
    | none =>
        let op := req.op
        pure (errorResponse req.jobId req.op ERR_UNKNOWN_OP s!"unknown op: {op}")
    | some handler => do
        let result ← (handler req).run
        -- What was issued stays issued, whichever way the handler came out.
        match result with
        | .ok resp => pure resp
        | .error e => pure (report req e)

section Reply

variable {lib pages portal} {req : Request} {handler : Request → Py Response}
  (hop : req.op ≠ "") (hhandler : handlers lib pages portal req.op = some handler)
include hop hhandler

theorem handle_of_ok {before after : List Issued} {resp : Response}
    (hrun : (handler req).run.run before = (.ok resp, after)) :
    (handle lib pages portal req).run before = (resp, after) := by
  unfold handle
  simp only [if_neg hop, hhandler]
  rw [StateT.run_bind, hrun]
  rfl

/-- An exception comes back as the reply that reports it. -/
theorem handle_of_error {before after : List Issued} {e : PyException}
    (hrun : (handler req).run.run before = (.error e, after)) :
    (handle lib pages portal req).run before = (report req e, after) := by
  unfold handle
  simp only [if_neg hop, hhandler]
  rw [StateT.run_bind, hrun]
  rfl

end Reply

end Worker

/-! ## What was asked of the portal -/

/-- How many POSTs were issued. -/
def posts (issued : List Issued) : Nat :=
  issued.countP fun
    | .post _ _ => true
    | .get _ => false

@[simp] theorem posts_append (issued more : List Issued) :
    posts (issued ++ more) = posts issued + posts more :=
  List.countP_append

@[simp] theorem posts_get (url : String) : posts [.get url] = 0 := rfl

@[simp] theorem posts_post (action data : String) : posts [.post action data] = 1 := rfl

/-- The exception proves that nothing was submitted, as its error reply will say. -/
def ProvesNothing : PyException → Prop
  | .portal e => e.provesNothing = true
  | .library _ => False

@[simp] theorem provesNothing_portal (e : PortalError) :
    ProvesNothing (.portal e) ↔ e.provesNothing = true := Iff.rfl

@[simp] theorem not_provesNothing_library (e : LibraryError) : ¬ProvesNothing (.library e) := id

/-- Only an exception that proves nothing was submitted is reported as such. -/
theorem report_proves_iff (req : Request) (e : PyException) :
    (Worker.report req e).provesNothingSubmitted = some true ↔ ProvesNothing e := by
  cases e with
  | portal exc => simp [Worker.report, errorResponse, PortalError.provesNothing]
  | library exc => simp [Worker.report, errorResponse]

/-! ## Reading the result -/

theorem bind_error {ε α β : Type} {x : Except ε α} {f : α → Except ε β} {e : ε}
    (h : (x >>= f) = .error e) : x = .error e ∨ ∃ a, f a = .error e := by
  cases x with
  | error e' =>
      have heq : e' = e := Except.error.inj h
      exact Or.inl (heq ▸ rfl)
  | ok a => exact Or.inr ⟨a, h⟩

/-- A library's exception proves nothing. -/
theorem mapError_library {α : Type} {x : Except LibraryError α} {e : PyException}
    (h : x.mapError .library = .error e) : ¬ProvesNothing e := by
  cases x with
  | error exc =>
      have heq : PyException.library exc = e := Except.error.inj h
      rw [← heq]
      exact id
  | ok a => cases h

/-- Once a result page is read, no exception proves that nothing was submitted: an expired session
is reported with the attempt. -/
theorem submissionOutcome_error {body finalUrl : String} {status : Nat} {e : PyException}
    (h : submissionOutcome lib body finalUrl status = .error e) : ¬ProvesNothing e := by
  unfold submissionOutcome at h
  rcases bind_error h with hparse | ⟨soup, h⟩
  · exact mapError_library hparse
  rcases bind_error h with hlogin | ⟨login, h⟩
  · exact mapError_library hlogin
  -- Once the login check has passed nothing is raised by the worker itself.
  split at h
  · have heq : PyException.portal (.sessionExpired true) = e := Except.error.inj h
    simp [← heq]
  · split at h
    · cases h
    · rcases bind_error h with hjson | ⟨json, h⟩
      · exact mapError_library hjson
      rcases bind_error h with hvalidation | ⟨validation, h⟩
      · exact mapError_library hvalidation
      simp only at h
      split at h
      · cases h
      · split at h <;> cases h

/-! ## The steps of a request -/

section Steps

open Raising

/-- Exactly `n` POSTs have been issued. -/
def Posted (n : Nat) (issued : List Issued) : Prop :=
  posts issued = n

/-- An exception that proves nothing about the submission. -/
def Unproven (e : PyException) : Prop :=
  ¬ProvesNothing e

variable {P : List Issued → Prop} {R : PyException → Prop} {n : Nat}

theorem ofExcept_keeps {α : Type} {x : Except PyException α} (hx : ∀ e, x = .error e → R e) :
    Keeps P R (Py.ofExcept x) := by
  cases x with
  | ok a => exact .pure a
  | error e => exact .raise (hx e rfl)

theorem call_keeps {α : Type} (x : Except LibraryError α) : Keeps P Unproven (call x) :=
  ofExcept_keeps fun _ h => mapError_library h

/-- However the portal answers, the request is on record. -/
theorem request_ensures (issued : Issued)
    (answer : List Issued → Except LibraryError HttpResponse) :
    Ensures (Posted n) (request issued answer) (fun _ => Posted (n + posts [issued]))
      fun e s => Posted (n + posts [issued]) s ∧ Unproven e := by
  refine Ensures.bind Ensures.get fun before => ?_
  refine Ensures.bind (R := fun _ => Posted (n + posts [issued])) ?_ fun _ => call_keeps _
  refine Ensures.mono (Ensures.set (P := Posted (n + posts [issued]))) ?_ (fun _ _ h => h)
    fun _ _ h => h
  -- The count grows by the request just recorded, before anything can raise.
  rintro s ⟨hs, rfl⟩
  simp [Posted] at hs ⊢
  omega

theorem get_keeps (url : String) (answer : List Issued → Except LibraryError HttpResponse) :
    Keeps (Posted n) Unproven (request (.get url) answer) :=
  request_ensures (.get url) answer

/-- An exception rewritten for a Playwright failure to a network error stays unproven. -/
theorem onPlaywright_unproven (message : String → String) (e : PyException) (h : Unproven e) :
    Unproven (onPlaywright (fun exc => .network (message exc)) e) := by
  unfold onPlaywright
  split
  · simp [Unproven]
  · exact h

theorem start_keeps : Keeps P Unproven (PortalClient.start portal) :=
  Ensures.bind Ensures.get fun _ =>
    Ensures.mono (call_keeps (P := P) _) (fun _ hs => hs.1) (fun _ _ h => h) fun _ _ h => h

theorem dump_keeps (name body : String) :
    Keeps P Unproven (PortalClient.dump portal name body) := by
  unfold PortalClient.dump
  split
  · exact .pure ()
  · split
    · exact .pure ()
    · exact .pure ()
    · exact .pure ()
    · exact .raise id

/-! ### Before the POST -/

theorem onlyIf_keeps {condition : Bool} {block : Py Unit} (h : Keeps P R block) :
    Keeps P R (onlyIf condition block) := by
  cases condition with
  | true => exact h
  | false => exact .pure ()

theorem rescue_keeps {α : Type} {block : Py α} {handler : PyException → PyException}
    {R' : PyException → Prop} (h : Keeps P R block) (hhandler : ∀ e, R e → R' (handler e)) :
    Keeps P R' (Py.rescue block handler) :=
  Keeps.rescue h hhandler

/-- A page is fetched without a POST. -/
theorem fetch_keeps (url evidence : String) :
    Keeps (Posted n) (fun _ => True) (PortalClient.fetch lib portal url evidence) := by
  -- One rule for each line of the function, and no line issues a POST.
  refine .bind (start_keeps portal).any fun _ => ?_
  refine .bind (rescue_keeps (R := fun _ => True) ?_ fun _ _ => trivial) fun answered => ?_
  · exact .bind (get_keeps url _).any fun _ => .bind (call_keeps _).any fun _ => .pure _
  refine .bind (call_keeps _).any fun finalUrl => ?_
  refine .bind (onlyIf_keeps (dump_keeps portal evidence _).any) fun _ => ?_
  refine .bind (call_keeps _).any fun soup => ?_
  refine .bind (call_keeps _).any fun login => ?_
  refine .bind (onlyIf_keeps (.raise trivial)) fun _ => ?_
  refine .bind (call_keeps _).any fun ok => ?_
  refine .bind (onlyIf_keeps (.bind (call_keeps _).any fun _ => .raise trivial)) fun _ => ?_
  exact .bind (call_keeps _).any fun _ => .pure _

theorem listTrainees_keeps :
    Keeps (Posted n) (fun _ => True) (PortalClient.listTrainees lib pages portal) :=
  .bind (fetch_keeps lib portal _ _) fun _ => ofExcept_keeps fun _ _ => trivial

theorem getFormOptions_keeps (traineeId : Option String) :
    Keeps (Posted n) (fun _ => True) (PortalClient.getFormOptions lib pages portal traineeId) := by
  refine .bind ?_ fun _ => .bind (fetch_keeps lib portal _ _) fun _ =>
    ofExcept_keeps fun _ _ => trivial
  unfold PortalClient.formTrainee
  split
  · exact .pure _
  · refine .bind (listTrainees_keeps lib pages portal) fun trainees => ?_
    cases trainees with
    | nil => exact .raise trivial
    | cons first more => exact .pure _

theorem resolveTrainee_keeps (trainee : TraineeRef) :
    Keeps (Posted n) (fun _ => True) (PortalClient.resolveTrainee lib pages portal trainee) := by
  unfold PortalClient.resolveTrainee
  simp only
  split
  · refine .bind (listTrainees_keeps lib pages portal) fun trainees => ?_
    split
    · exact .pure _
    · exact .raise trivial
  · split
    · exact .raise trivial
    · refine .bind (listTrainees_keeps lib pages portal) fun trainees => ?_
      split
      · exact .pure _
      · exact .raise trivial
      · exact .raise trivial

/-- Preparing a submission submits nothing. -/
theorem prepare_keeps (trainee : TraineeRef) (session : SessionInput) :
    Keeps (Posted n) (fun _ => True)
      (PortalClient.prepare lib pages portal trainee session) := by
  refine .bind (resolveTrainee_keeps lib pages portal trainee) fun resolved => ?_
  refine .bind (fetch_keeps lib portal _ _) fun page => ?_
  refine .bind (call_keeps _).any fun expected => ?_
  refine .bind (call_keeps _).any fun actual => ?_
  refine .bind (call_keeps _).any fun wrong => ?_
  refine .bind (onlyIf_keeps (.raise trivial)) fun _ => ?_
  refine .bind (ofExcept_keeps fun _ _ => trivial) fun payload => ?_
  refine .bind (call_keeps _).any fun action => ?_
  refine .bind (call_keeps _).any fun data => ?_
  exact .bind (start_keeps portal).any fun _ => .pure _

theorem awaitLogin_keeps (looks : List (Except LibraryError (String × String))) :
    Keeps (Posted n) (fun _ => True) (PortalClient.awaitLogin lib pages looks) := by
  induction looks with
  | nil => exact .raise trivial
  | cons look looks ih =>
      refine .bind (call_keeps _).any fun seen => ?_
      refine .bind (call_keeps _).any fun soup => ?_
      refine .bind (call_keeps _).any fun login => ?_
      split
      · exact ih
      · refine .bind (ofExcept_keeps fun _ _ => trivial) fun marked => ?_
        split
        · exact .pure ()
        · exact ih

theorem ensureSession_keeps :
    Keeps (Posted n) (fun _ => True) (PortalClient.ensureSession lib pages portal) :=
  .bind (start_keeps portal).any fun _ =>
    .bind (rescue_keeps (call_keeps _) fun _ _ => trivial) fun _ =>
      awaitLogin_keeps lib pages portal.looks

/-! ### The POST and what follows it -/

/-- The commit is one POST, and however it fails, it proves nothing. -/
theorem commit_ensures (prepared : PortalClient.Prepared) :
    Ensures (Posted n) (PortalClient.commit portal prepared) (fun _ => Posted (n + 1))
      fun e s => Posted (n + 1) s ∧ Unproven e :=
  Ensures.rescue (request_ensures (.post prepared.action prepared.data) portal.post) fun e =>
    Ensures.raise fun _ h => ⟨h.1, onPlaywright_unproven _ e h.2⟩

theorem dumpMetadata_keeps (traineeId : String) (resp : HttpResponse) :
    Keeps P Unproven (PortalClient.dumpMetadata lib portal traineeId resp) := by
  refine .bind (call_keeps _) fun status => ?_
  refine .bind (call_keeps _) fun contentType => ?_
  refine .bind (call_keeps _) fun location => ?_
  refine .bind (call_keeps _) fun text => ?_
  exact .bind (call_keeps _) fun _ => dump_keeps portal _ _

theorem resultUrl_keeps (resp : HttpResponse) (redirected : Bool) :
    Keeps P Unproven (PortalClient.resultUrl lib resp redirected) := by
  refine .bind (call_keeps _) fun url => ?_
  split
  · refine .bind (call_keeps _) fun headers => ?_
    split
    · refine .bind (call_keeps _) fun base => ?_
      refine .bind (call_keeps _) fun headers' => ?_
      split
      · exact call_keeps _
      · exact .raise id
    · exact .pure _
  · exact .pure _

/-- Classifying submits nothing more, and none of its exceptions proves anything. -/
theorem classify_keeps (traineeId : String) (resp : HttpResponse) :
    Keeps P Unproven (PortalClient.classify lib portal traineeId resp) := by
  refine .bind (onlyIf_keeps (dumpMetadata_keeps lib portal traineeId resp)) fun _ => ?_
  -- Whatever the body's reader raised, what is raised for it admits the submission.
  refine .bind (rescue_keeps (call_keeps _) fun _ _ => ?_) fun body => ?_
  · simp [Unproven]
  refine .bind (call_keeps _) fun _ => ?_
  refine .bind (dump_keeps portal _ _) fun _ => ?_
  refine .bind (call_keeps _) fun seen => ?_
  refine .bind (resultUrl_keeps lib resp _) fun finalUrl => ?_
  refine .bind (call_keeps _) fun status => ?_
  exact ofExcept_keeps fun _ h => submissionOutcome_error lib h

/-- What one request may have done: at most one POST, and none if the exception proves so. -/
def Honest (e : PyException) (issued : List Issued) : Prop :=
  posts issued ≤ 1 ∧ (ProvesNothing e → posts issued = 0)

theorem Honest.of_unposted {e : PyException} {issued : List Issued} (h : Posted 0 issued) :
    Honest e issued := by
  have hposts : posts issued = 0 := h
  exact ⟨by omega, fun _ => hposts⟩

theorem submitTraining_ensures (trainee : TraineeRef) (session : SessionInput) :
    Ensures (Posted 0) (PortalClient.submitTraining lib pages portal trainee session)
      (fun _ => Posted 1) Honest := by
  -- After the POST no exception proves anything, so one POST is honest.
  have hafter : ∀ (e : PyException) (s : List Issued), Posted 1 s ∧ Unproven e → Honest e s := by
    intro e s h
    have hposts : posts s = 1 := h.1
    exact ⟨by omega, fun hproves => absurd hproves h.2⟩
  -- Prepare, commit, classify: no POST, one POST, and none after it.
  refine Ensures.bind (R := fun _ => Posted 0) ?_ fun prepared => ?_
  · exact Ensures.mono (prepare_keeps lib pages portal trainee session) (fun _ h => h)
      (fun _ _ h => h) fun _ _ h => .of_unposted h.1
  refine Ensures.bind (R := fun _ => Posted 1) ?_ fun resp => ?_
  · exact Ensures.mono (commit_ensures portal prepared) (fun _ h => h) (fun _ _ h => h) hafter
  refine Ensures.bind (R := fun _ => Posted 1) ?_ fun outcome => Ensures.pure fun _ h => h
  exact Ensures.mono (classify_keeps lib portal _ resp) (fun _ h => h) (fun _ _ h => h) hafter

/-! ### The reply -/

/-- A reply that proves nothing was submitted is the truth, and there is at most one POST. -/
def HonestReply (resp : Response) (issued : List Issued) : Prop :=
  posts issued ≤ 1 ∧ (resp.provesNothingSubmitted = some true → posts issued = 0)

theorem HonestReply.of_unposted {resp : Response} {issued : List Issued} (h : Posted 0 issued) :
    HonestReply resp issued := by
  have hposts : posts issued = 0 := h
  exact ⟨by omega, fun _ => hposts⟩

/-- An operation that issues no POST answers honestly, whatever it answers. -/
theorem honest_of_keeps {α : Type} {x : Py α} {answer : α → Response}
    (h : Keeps (Posted 0) (fun _ => True) x) :
    Ensures (Posted 0) (do let a ← x; return answer a) HonestReply Honest :=
  Ensures.bind (R := fun _ => Posted 0)
    (Ensures.mono h (fun _ hs => hs) (fun _ _ hs => hs) fun _ _ hs => .of_unposted hs.1)
    fun _ => Ensures.pure fun _ hs => .of_unposted hs

theorem submitTraining_honest (req : Request) :
    Ensures (Posted 0) (Worker.submitTraining lib pages portal req) HonestReply Honest := by
  unfold Worker.submitTraining
  split
  · split
    · exact Ensures.pure fun _ hs => .of_unposted hs
    · refine Ensures.bind (submitTraining_ensures lib pages portal _ _) fun result => ?_
      refine Ensures.pure fun s hs => ⟨?_, ?_⟩
      · have hposts : posts s = 1 := hs
        omega
      · intro hproves
        cases hproves
  · exact Ensures.pure fun _ hs => .of_unposted hs

/-- Every registered handler is honest. -/
theorem handlers_honest {op : String} {handler : Request → Py Response}
    (h : Worker.handlers lib pages portal op = some handler) (req : Request) :
    Ensures (Posted 0) (handler req) HonestReply Honest := by
  -- In the order of the table. Only the last handler issues a POST.
  unfold Worker.handlers at h
  split at h
  · cases h
    exact Ensures.pure fun _ hs => .of_unposted hs
  split at h
  · cases h
    exact honest_of_keeps (ensureSession_keeps lib pages portal)
  split at h
  · cases h
    exact honest_of_keeps (listTrainees_keeps lib pages portal)
  split at h
  · cases h
    exact honest_of_keeps (getFormOptions_keeps lib pages portal req.traineeId)
  split at h
  · cases h
    exact submitTraining_honest lib pages portal req
  · cases h

/-- One request to the worker: at most one POST, and none behind a proof flag. -/
theorem handle_honest (req : Request) :
    HonestReply ((Worker.handle lib pages portal req).run []).1
      ((Worker.handle lib pages portal req).run []).2 := by
  have hnone : Posted 0 [] := rfl
  by_cases hop : req.op = ""
  · unfold Worker.handle
    rw [if_pos hop]
    exact .of_unposted hnone
  · cases hhandler : Worker.handlers lib pages portal req.op with
    | none =>
        unfold Worker.handle
        simp only [if_neg hop, hhandler]
        exact .of_unposted hnone
    | some handler =>
        rcases (handlers_honest lib pages portal hhandler req).run hnone with
          ⟨resp, issued, hrun, hhonest⟩ | ⟨e, issued, hrun, hhonest⟩
        · rw [Worker.handle_of_ok hop hhandler hrun]
          exact hhonest
        · rw [Worker.handle_of_error hop hhandler hrun]
          -- An exception is reported with the flag that its class and code deserve.
          refine ⟨hhonest.1, ?_⟩
          intro hproves
          exact hhonest.2 ((report_proves_iff req e).1 hproves)

end Steps

end Worker

end DsspBot

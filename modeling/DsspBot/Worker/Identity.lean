import DsspBot.Worker.Client
import DsspBot.Worker.Selector

/-!
# Identity — whose submission a reply reports

The worker replies with the trainee it resolved and submitted, and the client compares that with
the id it asked for, after the POST. The two ids are the same text only where the worker had no
blanks to strip and no name to fall back to.
-/

namespace DsspBot

open Raising

section Worker

variable {Soup Tag : Type} {lib : Libraries Soup Tag} {pages : PageReader Soup} {portal : Portal}

/-- The rows the worker takes for a name. -/
def workerNamed (lib : Libraries Soup Tag) (list : List TraineeInfo) (name : String) :
    List TraineeInfo :=
  list.filter fun row => decide (PortalClient.normalizeName lib row.name =
    PortalClient.normalizeName lib (strip name))

/-- How the worker came by a row. -/
def ResolvedTo (lib : Libraries Soup Tag) (list : List TraineeInfo) (entry : TraineeRef)
    (row : TraineeInfo) : Prop :=
  let wanted := strip (entry.id.getD "")
  if wanted ≠ "" then row.id = wanted
  else workerNamed lib list (entry.name.getD "") = [row]

theorem listTrainees_ensures {list : List TraineeInfo} {before after : List Issued}
    (hlisted : (PortalClient.listTrainees lib pages portal).run.run before = (.ok list, after)) :
    Ensures (fun issued => issued = before) (PortalClient.listTrainees lib pages portal)
      (fun rows _ => rows = list) fun _ _ => True :=
  .of_run_ok hlisted rfl

theorem resolveTrainee_ensures {list : List TraineeInfo} {before after : List Issued}
    (hlisted : (PortalClient.listTrainees lib pages portal).run.run before = (.ok list, after))
    (entry : TraineeRef) :
    Ensures (fun issued => issued = before) (PortalClient.resolveTrainee lib pages portal entry)
      (fun row _ => ResolvedTo lib list entry row) fun _ _ => True := by
  unfold ResolvedTo PortalClient.resolveTrainee
  by_cases hwanted : strip (entry.id.getD "") ≠ ""
  · simp only [hwanted, if_true, ne_eq, not_false_eq_true]
    refine Ensures.bind (listTrainees_ensures hlisted) fun rows => ?_
    cases hfound : rows.find? fun row => decide (row.id = strip (entry.id.getD "")) with
    | some found =>
        have hid : found.id = strip (entry.id.getD "") := by simpa using List.find?_some hfound
        exact Ensures.pure fun _ _ => hid
    | none => exact Ensures.raise fun _ _ => trivial
  · simp only [hwanted, if_false]
    by_cases hblank : strip (entry.name.getD "") = ""
    · simp only [hblank, if_true]
      exact Ensures.raise fun _ _ => trivial
    · simp only [hblank, if_false]
      refine Ensures.bind (listTrainees_ensures hlisted) fun rows => ?_
      split
      · next found hfound => exact Ensures.pure fun _ hrows => hrows ▸ hfound
      · exact Ensures.raise fun _ _ => trivial
      · exact Ensures.raise fun _ _ => trivial

/-- Everything after the resolver keeps the row it found. -/
theorem prepare_ensures {list : List TraineeInfo} {before after : List Issued}
    (hlisted : (PortalClient.listTrainees lib pages portal).run.run before = (.ok list, after))
    (entry : TraineeRef) (session : SessionInput) :
    Ensures (fun issued => issued = before) (PortalClient.prepare lib pages portal entry session)
      (fun prepared _ => ResolvedTo lib list entry prepared.resolved) fun _ _ => True := by
  refine Ensures.bind (resolveTrainee_ensures hlisted entry) fun row => ?_
  refine Ensures.bind (Ensures.const _) fun page => ?_
  refine Ensures.bind (Ensures.const _) fun expected => ?_
  refine Ensures.bind (Ensures.const _) fun actual => ?_
  refine Ensures.bind (Ensures.const _) fun wrong => ?_
  refine Ensures.bind (Ensures.const _) fun _ => ?_
  refine Ensures.bind (Ensures.const _) fun payload => ?_
  refine Ensures.bind (Ensures.const _) fun action => ?_
  refine Ensures.bind (Ensures.const _) fun data => ?_
  exact Ensures.bind (Ensures.const _) fun _ => Ensures.pure fun _ hrow => hrow

theorem submitTraining_resolved {list : List TraineeInfo} {before after : List Issued}
    (hlisted : (PortalClient.listTrainees lib pages portal).run.run before = (.ok list, after))
    (entry : TraineeRef) (session : SessionInput) :
    Ensures (fun issued => issued = before)
      (PortalClient.submitTraining lib pages portal entry session)
      (fun result _ => ResolvedTo lib list entry result.1) fun _ _ => True := by
  refine Ensures.bind (prepare_ensures hlisted entry session) fun prepared => ?_
  refine Ensures.bind (Ensures.const _) fun resp => ?_
  exact Ensures.bind (Ensures.const _) fun outcome => Ensures.pure fun _ hrow => hrow

/-- An ok reply to a submission echoes the request and names the trainee the worker resolved. -/
structure Reports (lib : Libraries Soup Tag) (list : List TraineeInfo) (req : Request)
    (trainee : TraineeRef) (resp : Response) : Prop where
  jobId : resp.jobId = req.jobId
  op : resp.op = req.op
  resolved : ∃ row, resp.trainee = some { id := row.id, name := row.name } ∧
    ResolvedTo lib list trainee row

theorem worker_submitTraining_reports {list : List TraineeInfo} {before after : List Issued}
    (hlisted : (PortalClient.listTrainees lib pages portal).run.run before = (.ok list, after))
    (jobId : String) (trainee : TraineeRef) (session : SessionInput) :
    let req := Request.submitTraining jobId trainee session
    Ensures (fun issued => issued = before) (Worker.submitTraining lib pages portal req)
      (fun resp _ => resp.status = .ok → Reports lib list req trainee resp) fun _ _ => True := by
  intro req
  unfold Worker.submitTraining
  split
  · next asked given hasked hgiven =>
      have heq : asked = trainee := (Option.some.inj hasked).symm
      subst heq
      split
      · refine Ensures.pure fun _ _ hok => ?_
        cases hok
      · refine Ensures.bind (submitTraining_resolved hlisted asked given) fun result => ?_
        exact Ensures.pure fun _ hrow _ => ⟨rfl, rfl, result.1, rfl, hrow⟩
  · refine Ensures.pure fun _ _ hok => ?_
    cases hok

theorem handle_reports {list : List TraineeInfo} {after : List Issued}
    (hlisted : (PortalClient.listTrainees lib pages portal).run.run [] = (.ok list, after))
    {jobId : String} {trainee : TraineeRef} {session : SessionInput} {resp : Response}
    (hresp : ((Worker.handle lib pages portal
      (.submitTraining jobId trainee session)).run []).1 = resp)
    (hok : resp.status = .ok) :
    Reports lib list (.submitTraining jobId trainee session) trainee resp := by
  have hop : (Request.submitTraining jobId trainee session).op ≠ "" := by
    change Op.submitTraining ≠ ""
    decide
  have hhandler : Worker.handlers lib pages portal
      (Request.submitTraining jobId trainee session).op =
        some (Worker.submitTraining lib pages portal) := rfl
  rcases (worker_submitTraining_reports hlisted jobId trainee session).run rfl with
    ⟨found, issued, hrun, hreports⟩ | ⟨e, issued, hrun, -⟩
  · rw [Worker.handle_of_ok hop hhandler hrun] at hresp
    subst hresp
    exact hreports hok
  · -- An exception is never reported as ok.
    rw [Worker.handle_of_error hop hhandler hrun] at hresp
    subst hresp
    cases e with
    | portal exc => cases hok
    | library exc => cases hok

/-- Where the id that was sent is the id the worker resolves: it was sent without blanks, or it is
blank and the one row the name stands for has just this id, or no id was sent. -/
def SentAsListed (lib : Libraries Soup Tag) (list : List TraineeInfo) (trainee : TraineeRef) :
    Prop :=
  match trainee.id with
  | none => True
  | some id =>
      if strip id ≠ "" then strip id = id
      else ∃ row, workerNamed lib list (trainee.name.getD "") = [row] ∧ row.id = id

/-- The check accepts a reply exactly if it names the id that was asked for. -/
theorem echoed_iff {req : Request} {resp : Response} {actual : TraineeResolved}
    (hjob : resp.jobId = req.jobId) (hop : resp.op = req.op)
    (htrainee : resp.trainee = some actual) :
    WorkerClient.echoed req resp = .ok resp ↔ ∀ id, req.asksFor = some id → actual.id = id := by
  unfold WorkerClient.echoed
  simp only [hjob, hop, htrainee, ne_eq, not_true_eq_false, if_false]
  cases hasked : req.asksFor with
  | none => simp
  | some expected =>
      by_cases hsame : expected = actual.id
      · simp [hsame]
      · simp [hsame, eq_comm]

/-- Whatever selector is sent and whatever the portal lists: once the worker has submitted and
replied, the client accepts the reply exactly if the id was sent the way the portal lists it. -/
theorem identity_check_accepts_iff {list : List TraineeInfo} {after : List Issued}
    (hlisted : (PortalClient.listTrainees lib pages portal).run.run [] = (.ok list, after))
    {jobId : String} {trainee : TraineeRef} {session : SessionInput} {resp : Response}
    (hresp : ((Worker.handle lib pages portal
      (.submitTraining jobId trainee session)).run []).1 = resp)
    (hok : resp.status = .ok) :
    WorkerClient.echoed (.submitTraining jobId trainee session) resp = .ok resp ↔
      SentAsListed lib list trainee := by
  rcases handle_reports hlisted hresp hok with ⟨hjob, hop, row, hnamed, hrow⟩
  rw [echoed_iff hjob hop hnamed, Request.asksFor_submitTraining]
  unfold SentAsListed
  unfold ResolvedTo at hrow
  cases hid : trainee.id with
  | none => simp
  | some id =>
      simp only [hid, Option.getD_some, Option.some.injEq, forall_eq'] at hrow ⊢
      by_cases hstripped : strip id = ""
      · simp only [hstripped, ne_eq, not_true_eq_false, if_false] at hrow ⊢
        constructor
        · exact fun hsame => ⟨row, hrow, hsame⟩
        · rintro ⟨other, hother, hsame⟩
          rw [hrow, List.singleton_inj] at hother
          rw [hother, hsame]
      · simp only [hstripped, ne_eq, not_false_eq_true, if_true] at hrow ⊢
        rw [hrow]

end Worker

/-! ### A padded id -/

def paddedSession : SessionInput :=
  { trainingDate := "2026-10-01", instructor := "Ada", trainingType := "Practical" }

def paddedJob : Job :=
  { trainee := some { id := some " 7 " }, session := paddedSession }

def graceReply (id : String) : Response × List Issued :=
  (Worker.handle upperLibraries plainPages (plainPortal "form")
    (.submitTraining "job" { id := some id } paddedSession)).run []

/-- The job is planned, the submission is confirmed, and the run halts over it. -/
theorem padded_id_is_misreported :
    plan paddedJob = .ok (.single { id := some " 7 " }) ∧
      (graceReply " 7 ").1.outcome = some "confirmed" ∧ posts (graceReply " 7 ").2 = 1 ∧
        WorkerClient.echoed (.submitTraining "job" { id := some " 7 " } paddedSession)
          (graceReply " 7 ").1 ≠ .ok (graceReply " 7 ").1 ∧
          Single.decided "job" 1 (WorkerClient.echoed
            (.submitTraining "job" { id := some " 7 " } paddedSession) (graceReply " 7 ").1) =
            .exited (some ("HALT: transport error, submission state unknown: " ++
              "trainee_id mismatch: sent  7 , received 7 — protocol violation")) 3 := by
  decide +kernel

theorem plain_id_is_accepted :
    WorkerClient.echoed (.submitTraining "job" { id := some "7" } paddedSession)
      (graceReply "7").1 = .ok (graceReply "7").1 := by
  have hplain : strip "7" = "7" := by decide
  refine (identity_check_accepts_iff graceList_listed rfl (by decide +kernel)).2 ?_
  simp [SentAsListed, hplain]

end DsspBot

import DsspBot.Engine.Record
import DsspBot.Engine.Step

/-!
# InFlight — the one write that names a trainee as being submitted

The keys named by in-flight writes are, in order, the keys of the queue: each is named once, when
its task has just been dequeued, and every send is preceded by a write that landed and names its
trainee.
-/

namespace DsspBot

/-- The trainee a write names as being in flight. -/
def EngineEvent.names : EngineEvent → Option String
  | .wrote cp _ => cp.inFlight
  | _ => none

/-- A write that landed names this trainee. -/
def NamedIn (log : List EngineEvent) (id : String) : Prop :=
  ∃ cp, EngineEvent.wrote cp true ∈ log ∧ cp.inFlight = some id

/-- An event that is neither a send nor a write naming anybody. -/
def Quiet (ev : EngineEvent) : Prop :=
  ev.names = none ∧ ∀ task req, ev ≠ .submitted task req

/-- Every send of the log comes after a write that named its trainee, and asks for that trainee. -/
def SendsNamed (b : Batch) (log : List EngineEvent) : Prop :=
  ∀ before task req after, log = before ++ .submitted task req :: after →
    NamedIn before task.id ∧ ∃ jobId, req = .submitTraining jobId task.payload b.session

theorem NamedIn.append {log : List EngineEvent} {id : String} (h : NamedIn log id)
    (more : List EngineEvent) : NamedIn (log ++ more) id := by
  rcases h with ⟨cp, hcp, hid⟩
  exact ⟨cp, List.mem_append_left _ hcp, hid⟩

theorem SendsNamed.snoc {b : Batch} {log : List EngineEvent} {ev : EngineEvent}
    (h : SendsNamed b log)
    (hev : ∀ task req, ev = .submitted task req →
      NamedIn log task.id ∧ ∃ jobId, req = .submitTraining jobId task.payload b.session) :
    SendsNamed b (log ++ [ev]) := by
  intro before task req after hsplit
  -- A send is either the new event or lies before it.
  rcases List.eq_nil_or_concat after with rfl | ⟨front, last, rfl⟩
  · have hparts := List.append_inj' hsplit rfl
    have hlast : ev = .submitted task req := by simpa using hparts.2
    exact hparts.1 ▸ hev task req hlast
  · have hsplit' : log ++ [ev] = (before ++ .submitted task req :: front) ++ [last] := by
      simpa using hsplit
    exact h before task req front (List.append_inj' hsplit' rfl).1

theorem SendsNamed.quiet {b : Batch} {log more : List EngineEvent} (h : SendsNamed b log)
    (hmore : ∀ ev ∈ more, Quiet ev) : SendsNamed b (log ++ more) := by
  -- One event at a time, none of them a send.
  induction more generalizing log with
  | nil => simpa using h
  | cons ev more ih =>
      have hev := hmore ev (by simp)
      have hsnoc : SendsNamed b (log ++ [ev]) :=
        h.snoc fun task req heq => absurd heq (hev.2 task req)
      have hrest := ih hsnoc fun ev' hev' => hmore ev' (by simp [hev'])
      simpa using hrest

/-- The task a program point works on, once its in-flight write has landed. -/
def Pc.working : Pc → Option Task
  | .entering task => some task
  | .admission task _ => some task
  | .submitting task _ => some task
  | .awaiting task _ => some task
  | .backoff task _ => some task
  | _ => none

namespace Engine

variable (b : Batch) (e : Engine)

/-- The keys in-flight writes have named, in order. -/
def named : List String :=
  e.log.filterMap EngineEvent.names

/-- The keys still to be named while the loop runs, none once it was left. -/
def unnamed : Option (List String) :=
  match e.pc with
  | .ensureSession => some (b.tasks.map (·.id))
  | .ensuring _ => some (b.tasks.map (·.id))
  -- Off the queue already, and about to be named.
  | .writing (.inFlight task) => some (task.id :: e.queue.ids)
  | .completion => none
  | .writing .lateStop => none
  | .writing (.terminal _) => none
  | .reporting => none
  | .returned _ => none
  | _ => some e.queue.ids

end Engine

structure InFlightOrder (b : Batch) (e : Engine) : Prop where
  /-- What was named and what is still to be named is the queue as it was filled. -/
  order : ∀ rest, e.unnamed b = some rest → e.named ++ rest = b.tasks.map (·.id)
  within : e.named <+: b.tasks.map (·.id)
  working : ∀ task, e.pc.working = some task → NamedIn e.log task.id
  sends : SendsNamed b e.log

section Preservation

variable {b : Batch} {e e' : Engine}

theorem quiet_moved (s t : AutomationState) (legal : Bool) : Quiet (.moved s t legal) :=
  ⟨rfl, by simp⟩

/-- A step that names nobody and sends nothing. -/
theorem InFlightOrder.quiet (h : InFlightOrder b e) (hadds : Engine.Adds Quiet e e')
    (hunnamed : ∀ rest, e'.unnamed b = some rest → e.unnamed b = some rest)
    (hworking : ∀ task, e'.pc.working = some task → e.pc.working = some task) :
    InFlightOrder b e' := by
  rcases hadds with ⟨more, hlog, hmore⟩
  -- Quiet events add nothing to the names.
  have hnone : more.filterMap EngineEvent.names = [] :=
    List.filterMap_eq_nil_iff.2 fun ev hev => (hmore ev hev).1
  have hnamed : e'.named = e.named := by
    simp [Engine.named, hlog, hnone]
  refine ⟨?_, hnamed ▸ h.within, ?_, ?_⟩
  · intro rest hrest
    rw [hnamed]
    exact h.order rest (hunnamed rest hrest)
  · intro task htask
    rw [hlog]
    exact (h.working task (hworking task htask)).append more
  · rw [hlog]
    exact h.sends.quiet hmore

/-- A step that only goes to another point of the program. -/
theorem InFlightOrder.goto {pc : Pc} (h : InFlightOrder b e)
    (hunnamed : ∀ rest, Engine.unnamed b { e with pc := pc } = some rest →
      e.unnamed b = some rest)
    (hworking : pc.working = none) : InFlightOrder b { e with pc := pc } := by
  refine h.quiet (.nothing rfl) hunnamed ?_
  intro task htask
  simp [hworking] at htask

/-- A transition on the way to the next point of the program. -/
theorem InFlightOrder.transition {e₁ : Engine} (h : InFlightOrder b e)
    (hadds : Engine.Adds Quiet e e₁) {target : AutomationState} {next : Pc}
    {results : List TrainingResult}
    (hunnamed : ∀ rest,
      Engine.unnamed b { e₁.transition target with pc := next, results := results } = some rest →
        e.unnamed b = some rest)
    (hworking : ∀ task, next.working = some task → e.pc.working = some task) :
    InFlightOrder b { e₁.transition target with pc := next, results := results } :=
  h.quiet (hadds.trans (.transition quiet_moved e₁ target)) hunnamed hworking

theorem InFlightOrder.transitionOrReturn {e₁ : Engine} (h : InFlightOrder b e)
    (hadds : Engine.Adds Quiet e e₁) {target : AutomationState} {next : Pc}
    (hunnamed : ∀ rest,
      Engine.unnamed b { e₁.transition target with pc := next } = some rest →
        e.unnamed b = some rest)
    (hworking : ∀ task, next.working = some task → e.pc.working = some task) :
    InFlightOrder b (e₁.transitionOrReturn target next) := by
  unfold Engine.transitionOrReturn
  split
  · exact h.transition hadds hunnamed hworking
  · apply h.transition hadds
    · simp [Engine.unnamed]
    · simp [Pc.working]

/-- Leaving the loop only moves the machine. -/
theorem InFlightOrder.abandon {e₁ : Engine} (h : InFlightOrder b e)
    (hadds : Engine.Adds Quiet e e₁) (reason : String) : InFlightOrder b (e₁.abandon reason) := by
  apply h.quiet (hadds.trans (.abandon quiet_moved e₁ reason))
  · intro rest hrest
    simp [Engine.unnamed] at hrest
  · intro task htask
    simp [Pc.working] at htask

theorem InFlightOrder.close {e₁ : Engine} (h : InFlightOrder b e)
    (hadds : Engine.Adds Quiet e e₁) (stopped : Bool) : InFlightOrder b (e₁.close stopped) := by
  apply h.quiet (hadds.trans (.close quiet_moved e₁ stopped))
  · intro rest hrest
    simp [Engine.unnamed] at hrest
  · intro task htask
    simp [Pc.working] at htask

theorem quiet_wrote {cp : BatchCheckpoint} {landed : Bool} (h : cp.inFlight = none) :
    Quiet (.wrote cp landed) :=
  ⟨h, by simp⟩

/-- The in-flight write names the task that was just dequeued, for the first time. -/
theorem InFlightOrder.name {task : Task} (h : InFlightOrder b e)
    (hpc : e.pc = .writing (.inFlight task)) (now : String) (landed : Bool) :
    let log := e.log ++ [EngineEvent.wrote (b.snapshot e (.inFlight task) now) landed]
    log.filterMap EngineEvent.names ++ e.queue.ids = b.tasks.map (·.id) ∧ SendsNamed b log := by
  have hrest : e.unnamed b = some (task.id :: e.queue.ids) := by
    simp [Engine.unnamed, hpc]
  have hnames : (EngineEvent.wrote (b.snapshot e (.inFlight task) now) landed).names =
      some task.id := rfl
  refine ⟨?_, h.sends.snoc (by simp)⟩
  calc
    (e.log ++ [EngineEvent.wrote (b.snapshot e (.inFlight task) now) landed]).filterMap
          EngineEvent.names ++ e.queue.ids
      = e.named ++ task.id :: e.queue.ids := by
          rw [filterMap_snoc, hnames]
          simp [Engine.named]
    _ = b.tasks.map (·.id) := h.order _ hrest

theorem InFlightOrder.landed {site : WriteSite} {now : String} (h : InFlightOrder b e)
    (hpc : e.pc = .writing site) :
    InFlightOrder b (Batch.writeLanded
      { e with
        store := e.store.save (b.snapshot e site now) (.ok ())
        log := e.log ++ [.wrote (b.snapshot e site now) true] } site) := by
  cases site with
  | inFlight task =>
      -- The name written is the head of what was still to be named.
      have hname := h.name hpc now true
      refine ⟨?_, ?_, ?_, hname.2⟩
      · intro rest hrest
        have heq : e.queue.ids = rest := by simpa [Batch.writeLanded, Engine.unnamed] using hrest
        exact heq ▸ hname.1
      · exact ⟨_, hname.1⟩
      · intro task' htask'
        have heq : task = task' := by simpa [Batch.writeLanded, Pc.working] using htask'
        exact heq ▸ ⟨_, List.mem_append_right _ (List.mem_singleton.2 rfl), rfl⟩
  | boundaryStop =>
      exact h.abandon (.event rfl (quiet_wrote rfl)) _
  | abortStop =>
      exact h.abandon (.event rfl (quiet_wrote rfl)) _
  | lateStop =>
      -- The late stop drains and closes in the same step as its write.
      have hwrote : Engine.Adds Quiet e
          { e with
            store := e.store.save (b.snapshot e .lateStop now) (.ok ())
            log := e.log ++ [.wrote (b.snapshot e .lateStop now) true] } :=
        .event rfl (quiet_wrote rfl)
      have hleft := h.abandon hwrote OPERATOR_STOP
      exact hleft.close (.nothing rfl) true
  | pause =>
      apply h.transitionOrReturn (.event rfl (quiet_wrote rfl))
      · simp [Engine.unnamed, hpc]
      · simp [Pc.working]
  | resume =>
      apply h.transitionOrReturn (.event rfl (quiet_wrote rfl))
      · simp [Engine.unnamed, hpc]
      · simp [Pc.working]
  | settle =>
      apply h.quiet (.event rfl (quiet_wrote rfl))
      · simp [Batch.writeLanded, Engine.unnamed, hpc]
      · simp [Batch.writeLanded, Pc.working]
  | terminal stopped =>
      apply h.quiet (.event rfl (quiet_wrote rfl))
      · simp [Batch.writeLanded, Engine.unnamed]
      · simp [Batch.writeLanded, Pc.working]

theorem InFlightOrder.failed {site : WriteSite} {now text : String} (h : InFlightOrder b e)
    (hpc : e.pc = .writing site) :
    InFlightOrder b (Batch.writeFailed
      { e with log := e.log ++ [.wrote (b.snapshot e site now) false] } text site) := by
  -- Every fatal failure returns, and a returned run names nobody.
  have hleft : ∀ result : Except String BatchReport, Batch.inFlightAt site = none →
      InFlightOrder b
        { e with
          log := e.log ++ [.wrote (b.snapshot e site now) false], pc := .returned result } := by
    intro result hsite
    apply h.quiet (.event rfl (quiet_wrote hsite))
    · simp [Engine.unnamed]
    · simp [Pc.working]
  cases site with
  | inFlight task =>
      have hname := h.name hpc now false
      -- The name stands although the write failed: the loop is left, so nobody is named after it.
      rcases Engine.abandon_log
        { e with
          queue := e.queue.putBack task
          log := e.log ++ [.wrote (b.snapshot e (.inFlight task) now) false] } NOT_SUBMITTED with
        ⟨s, t, legal, hlog⟩
      refine ⟨?_, ?_, ?_, ?_⟩
      · simp [Batch.writeFailed, Engine.unnamed]
      · refine ⟨e.queue.ids, ?_⟩
        unfold Engine.named Batch.writeFailed
        rw [hlog, filterMap_snoc]
        simpa only [EngineEvent.names, Option.toList_none, List.append_nil] using hname.1
      · simp [Batch.writeFailed, Pc.working]
      · unfold Batch.writeFailed
        rw [hlog]
        exact hname.2.quiet (by simpa using quiet_moved s t legal)
  | pause => exact hleft _ rfl
  | resume => exact hleft _ rfl
  | boundaryStop => exact hleft _ rfl
  | abortStop => exact hleft _ rfl
  | lateStop => exact hleft _ rfl
  | settle =>
      apply h.quiet (.event rfl (quiet_wrote rfl))
      · simp [Batch.writeFailed, Engine.unnamed, hpc]
      · simp [Batch.writeFailed, Pc.working]
  | terminal stopped =>
      cases stopped with
      | true => exact hleft _ rfl
      | false =>
          apply h.quiet (.event rfl (quiet_wrote rfl))
          · simp [Batch.writeFailed, Engine.unnamed]
          · simp [Batch.writeFailed, Pc.working]

theorem inFlightOrder_start (b : Batch) (control : Option BatchControl)
    (store : CheckpointStore) : InFlightOrder b (b.start control store) where
  order := by
    intro rest hrest
    have heq : b.tasks.map (·.id) = rest := by simpa [Batch.start, Engine.unnamed] using hrest
    exact heq ▸ List.nil_append _
  within := List.nil_prefix
  working := by simp [Batch.start, Pc.working]
  sends := by
    intro before task req after hsplit
    have hlog : (b.start control store).log = [.moved .idle .initializing true] := rfl
    cases before with
    | nil => cases hlog.symm.trans hsplit
    | cons ev rest =>
        have hlength := congrArg List.length (hlog.symm.trans hsplit)
        simp at hlength

theorem InFlightOrder.step (h : InFlightOrder b e) (hstep : b.Step e e') :
    InFlightOrder b e' := by
  cases hstep with
  | accepted _ _ _ =>
      exact h.quiet (.event rfl (by simp [Quiet, EngineEvent.names])) (fun _ h => h) fun _ h => h
  | refused _ _ _ =>
      exact h.quiet (.event rfl (by simp [Quiet, EngineEvent.names])) (fun _ h => h) fun _ h => h
  | ensure hpc =>
      apply h.quiet (.event rfl (by simp [Quiet, EngineEvent.names]))
      · simp [Engine.unnamed, hpc]
      · simp [Pc.working]
  | unensured _ => exact h.goto (by simp [Engine.unnamed]) rfl
  | ensured hpc =>
      refine h.quiet (.nothing rfl) ?_ ?_
      · simp [Engine.unnamed, hpc, TaskQueue.ids]
      · simp [Pc.working]
  | emptied _ _ => exact h.goto (by simp [Engine.unnamed]) rfl
  | boundaryStopped hpc _ =>
      rcases hpc with hpc | hpc <;> exact h.goto (by simp [Engine.unnamed, hpc]) rfl
  | pausing hpc _ _ _ => exact h.goto (by simp [Engine.unnamed, hpc]) rfl
  | proceeding hpc _ _ _ => exact h.goto (by simp [Engine.unnamed, hpc]) rfl
  | resuming hpc _ _ => exact h.goto (by simp [Engine.unnamed, hpc]) rfl
  | rechecked hpc _ => exact h.goto (by simp [Engine.unnamed, hpc]) rfl
  | dequeued hpc _ hqueue =>
      refine h.quiet (.nothing rfl) ?_ ?_
      · simp [Engine.unnamed, hpc, TaskQueue.ids, hqueue]
      · simp [Pc.working]
  | landed hpc => exact h.landed hpc
  | failed hpc => exact h.failed hpc
  | entered hpc =>
      apply h.transition (.nothing rfl)
      · simp [Engine.unnamed, hpc]
      · simp [Pc.working, hpc]
  | withdrawn hpc _ =>
      refine h.quiet (.nothing rfl) ?_ ?_
      · simp [Engine.unnamed, Engine.settleRow, hpc]
      · simp [Pc.working, Engine.settleRow]
  | admitted hpc _ =>
      apply h.quiet (.event rfl (by simp [Quiet, EngineEvent.names]))
      · simp [Engine.unnamed, hpc]
      · simp [Pc.working, hpc]
  | @submitted task a hpc =>
      -- The send is logged behind a machine move, and its trainee was named before both.
      rcases e.transition_log .submitting with ⟨legal, hlog⟩
      have hlog' : (b.submit e task a).log = e.log ++ [.moved e.machine .submitting legal] ++
          [.submitted task (.submitTraining a.jobId task.payload b.session)] := by
        rw [← hlog]
        rfl
      have hnamed : (b.submit e task a).named = e.named := by
        unfold Engine.named
        rw [hlog', filterMap_snoc, filterMap_snoc]
        simp [EngineEvent.names]
      have hworking := (h.working task (by simp [Pc.working, hpc])).append
        [.moved e.machine .submitting legal]
      refine ⟨?_, hnamed ▸ h.within, ?_, ?_⟩
      · intro rest hrest
        rw [hnamed]
        exact h.order rest (by simpa [Engine.unnamed, hpc, Batch.submit] using hrest)
      · intro task' htask'
        have heq : task = task' := by simpa [Batch.submit, Pc.working] using htask'
        rw [hlog', ← heq]
        exact hworking.append _
      · rw [hlog']
        refine (h.sends.quiet (by simpa using quiet_moved _ _ _)).snoc ?_
        intro task' req heq
        cases heq
        exact ⟨hworking, _, rfl⟩
  | lost hpc =>
      apply h.quiet (.event rfl (by simp [Quiet, EngineEvent.names]))
      · simp [Engine.unnamed, Engine.settleRow, hpc]
      · simp [Pc.working, Engine.settleRow]
  | settled hpc _ =>
      apply h.transition (.event rfl (by simp [Quiet, EngineEvent.names]))
      · simp [Engine.unnamed, hpc]
      · simp [Pc.working]
  | retrying hpc _ _ =>
      apply h.transition (.event rfl (by simp [Quiet, EngineEvent.names]))
      · simp [Engine.unnamed, hpc]
      · simp [Pc.working, hpc]
  | slept hpc =>
      apply h.quiet (.event rfl (by simp [Quiet, EngineEvent.names]))
      · simp [Engine.unnamed, Engine.slept, hpc]
      · simp [Pc.working, Engine.slept, hpc]
  | abortStopped hpc _ _ _ => exact h.goto (by simp [Engine.unnamed, hpc]) rfl
  | aborted _ _ _ _ => exact h.abandon (.nothing rfl) _
  | continued hpc _ _ => exact h.goto (by simp [Engine.unnamed, hpc]) rfl
  | lateStopped _ _ _ => exact h.goto (by simp [Engine.unnamed]) rfl
  | closing _ _ => exact h.close (.nothing rfl) _
  | reported _ => exact h.goto (by simp [Engine.unnamed]) rfl

theorem Batch.Reachable.inFlightOrder {store : CheckpointStore} (h : b.Reachable store e) :
    InFlightOrder b e :=
  h.invariant (fun control _ => inFlightOrder_start b control store)
    fun _ _ hx hstep => hx.step hstep

/-- Where the keys of a queue are distinct, a trainee is named by one write only. -/
theorem InFlightOrder.named_once (h : InFlightOrder b e) (hnodup : (b.tasks.map (·.id)).Nodup)
    {before after : List EngineEvent} {cp cp' : BatchCheckpoint} {landed landed' : Bool}
    {id : String} (hsplit : e.log = before ++ .wrote cp landed :: after)
    (hid : cp.inFlight = some id) (hmem : EngineEvent.wrote cp' landed' ∈ before ++ after) :
    cp'.inFlight ≠ some id := by
  intro hid'
  have hname : (EngineEvent.wrote cp landed).names = some id := hid
  -- The names are part of the queue's keys, so none stands twice.
  have hnamed : (before.filterMap EngineEvent.names ++
      id :: after.filterMap EngineEvent.names).Nodup := by
    have heq : e.named =
        before.filterMap EngineEvent.names ++ id :: after.filterMap EngineEvent.names := by
      calc
        e.named = (before ++ .wrote cp landed :: after).filterMap EngineEvent.names :=
          congrArg _ hsplit
        _ = _ := by rw [List.filterMap_append, List.filterMap_cons_some hname]
    exact heq ▸ h.within.sublist.nodup hnodup
  have hmem' : id ∈ before.filterMap EngineEvent.names ++ after.filterMap EngineEvent.names := by
    rw [← List.filterMap_append]
    exact List.mem_filterMap.2 ⟨_, hmem, hid'⟩
  exact (List.nodup_middle.1 hnamed).notMem hmem'

/-- Where the keys of a queue are distinct, nobody is asked for before the write that names them. -/
theorem InFlightOrder.not_sent_before (h : InFlightOrder b e)
    (hnodup : (b.tasks.map (·.id)).Nodup) {before after : List EngineEvent}
    {cp : BatchCheckpoint} {landed : Bool} {id : String}
    (hsplit : e.log = before ++ .wrote cp landed :: after) (hid : cp.inFlight = some id)
    {task : Task} {req : Request} (hsent : EngineEvent.submitted task req ∈ before) :
    task.id ≠ id := by
  rintro rfl
  rcases List.append_of_mem hsent with ⟨front, back, hbefore⟩
  have hlog : e.log = front ++ .submitted task req :: (back ++ .wrote cp landed :: after) := by
    rw [hsplit, hbefore]
    simp
  -- A send before the write has a naming write of its own, so one name would stand twice.
  rcases (h.sends front task req _ hlog).1 with ⟨cp', hcp', hid'⟩
  have hmem : EngineEvent.wrote cp' true ∈ before ++ after := by
    simp [hbefore, hcp']
  exact h.named_once hnodup hsplit hid hmem hid'

end Preservation

end DsspBot

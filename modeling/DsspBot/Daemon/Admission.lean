import DsspBot.Daemon.Control
import DsspBot.Refusal

/-!
# Admission — what a rejected request leaves behind

The gate is asked before the request is looked at, and an acknowledged request may close the file
out there. Whatever answers the request afterwards, the file stays as the gate left it.
-/

namespace DsspBot

/-! ## One call of the gate and the refusal -/

/-- A file in which nobody is missing or unconfirmed, once it is marked finished, is free. -/
theorem finished_not_blocking {cp : BatchCheckpoint} (hconfirmed : cp.hasUnconfirmed = false)
    (hplaced : cp.unaccounted = 0) :
    ({ cp with status := .finished } : BatchCheckpoint).blocksStart = false := by
  have hconfirmed' : ({ cp with status := .finished } : BatchCheckpoint).hasUnconfirmed = false :=
    hconfirmed
  have hplaced' : ({ cp with status := .finished } : BatchCheckpoint).unaccounted = 0 := hplaced
  simp [BatchCheckpoint.blocksStart, BatchCheckpoint.recordsLandedWork, hconfirmed', hplaced']

/-- Nobody is owed an answer over a file that the gate closes out. -/
theorem closedOut_not_blocking {loaded : StoredCheckpoint}
    (h : (Reading.of loaded).closesOut = true) :
    ({ (Reading.of loaded).previous with status := .finished } : BatchCheckpoint).blocksStart =
      false := by
  have howed : (Reading.of loaded).owed = 0 := by
    simpa [Reading.closesOut] using (Bool.and_eq_true_iff.1 h).2
  have hunreconciled : (Reading.of loaded).unreconciled = (promoted loaded).unreconciled := rfl
  unfold Reading.owed at howed
  rw [hunreconciled] at howed
  rcases Reading.previous_eq loaded with ⟨status, hprevious⟩
  refine finished_not_blocking ?_ (by omega)
  have hnone : ¬(promoted loaded).hasUnconfirmed = true := by
    rw [← BatchCheckpoint.unreconciled_length_pos]
    omega
  rw [hprevious]
  exact Bool.eq_false_iff.2 hnone

/-- Without a file the gate changes nothing. -/
theorem guard_store_of_no_file {store : CheckpointStore} (h : ∀ loaded, store.slot ≠ .file loaded)
    (resume : Bool) (saves : GuardSaves) : (guard store resume saves).2 = store := by
  unfold guard CheckpointStore.loadWithProvenance
  cases hslot : store.slot with
  | absent => rfl
  | unreadable reason => rfl
  | file loaded => exact absurd hslot (h loaded)

/-- The gate closes out a file that it refused, and the save succeeds. -/
def LiftsRefusal (store : CheckpointStore) (resume : Bool) (saves : GuardSaves) : Prop :=
  resume = true ∧ saves.closeOut = .ok () ∧ ∃ loaded, store.slot = .file loaded ∧
    (promoted loaded).blocksStart = true ∧ (Reading.of loaded).closesOut = true

/-- Any other call leaves the answer to a plain start as it was. -/
theorem refused_after_guard_iff {store : CheckpointStore} {resume : Bool} {saves : GuardSaves}
    (h : ¬LiftsRefusal store resume saves) :
    Refused (guard store resume saves).2 ↔ Refused store := by
  by_cases hfile : ∃ loaded, store.slot = .file loaded
  · rcases hfile with ⟨loaded, hslot⟩
    have hcases := GuardCall.leaves_cases hslot ⟨resume, saves⟩
    rcases hcases with hkept | hsaved | ⟨hclosed, hresume, hcloses, hresult⟩
    · exact (refused_iff hkept).trans (refused_iff hslot).symm
    · refine (refused_iff hsaved).trans ?_
      rw [promoted_of_written, previous_blocks]
      exact (refused_iff hslot).symm
    · -- The call closed the file out, so there was no refusal to lift.
      have hfree : ¬(promoted loaded).blocksStart = true :=
        fun hblocks => h ⟨hresume, hresult, loaded, hslot, hblocks, hcloses⟩
      refine (refused_iff hclosed).trans ?_
      rw [promoted_of_written, closedOut_not_blocking hcloses]
      exact ⟨fun hfalse => Bool.noConfusion hfalse,
        fun hrefused => absurd ((refused_iff hslot).1 hrefused) hfree⟩
  · rw [guard_store_of_no_file (fun loaded hslot => hfile ⟨loaded, hslot⟩)]

/-- Such a call answers with a plan that has nobody to run, and leaves the slot free. -/
theorem LiftsRefusal.lifted {store : CheckpointStore} {resume : Bool} {saves : GuardSaves}
    (h : LiftsRefusal store resume saves) :
    Refused store ∧ ¬Refused (guard store resume saves).2 ∧
      ∃ start previous carried, (guard store resume saves).1 = .ok start ∧
        start.plan = .resume [] carried 0 ∧ start.previous = some previous := by
  rcases h with ⟨hresume, hresult, loaded, hslot, hblocks, hcloses⟩
  subst hresume
  have hparts : (Reading.of loaded).roster = [] ∧ (Reading.of loaded).owed = 0 := by
    simpa [Reading.closesOut] using hcloses
  have hguard : guard store true saves =
      (.ok { plan := .resume (Reading.of loaded).roster (Reading.of loaded).carriedForward
               (Reading.of loaded).owed
             previous := some { (Reading.of loaded).previous with status := .finished }
             recovered := (Reading.of loaded).recovered },
        (if (Reading.of loaded).recovered || (Reading.of loaded).suspect.isSome then
            store.save (Reading.of loaded).previous saves.interruption else store).save
          { (Reading.of loaded).previous with status := .finished } saves.closeOut) := by
    unfold guard
    rw [CheckpointStore.loadWithProvenance_of_file hslot]
    simp only [hcloses, if_true]
  refine ⟨(refused_iff hslot).2 hblocks, ?_, ?_⟩
  · have hclosed : (guard store true saves).2.slot =
        .file (.written { (Reading.of loaded).previous with status := .finished }) := by
      rw [hguard, hresult]
      rfl
    rw [refused_iff hclosed, promoted_of_written, closedOut_not_blocking hcloses]
    exact Bool.false_ne_true
  · rw [hguard, hparts.1, hparts.2]
    exact ⟨_, _, _, rfl, rfl, rfl⟩

/-! ## One request, from its arrival to its answer -/

/-- What threads other than the one that holds the worker slot feed the daemon. -/
def DaemonInput.foreign : DaemonInput → Bool
  | .control _ => true
  | .serve _ => true
  | .post _ => true
  | .getFormOptions => true
  | _ => false

/-- A request that waits for its answer, before or after the gate let it through. -/
def Holder.admitting : Holder → Bool
  | .connecting _ => true
  | .ensuring _ => true
  | .listing _ => true
  | .launching _ _ _ => true
  | .spawning _ => true
  | .leaving (some _) => true
  | .tearingDown (some _) => true
  | .releasing (some _) => true
  | _ => false

/-- The batch thread has the slot, and the request was answered already. -/
def Holder.handedOver : Holder → Bool
  | .running => true
  | .leaving none => true
  | .tearingDown none => true
  | .releasing none => true
  | _ => false

namespace Daemon

variable {toUppercase : String → String} {d d' : Daemon}

/-- Others act while the slot is held. -/
def othersStep (toUppercase : String → String) (d : Daemon) (input : DaemonInput) : Option Daemon :=
  if input.foreign then step toUppercase d input else none

/-- Anybody acts as long as the slot is held. -/
def heldStep (toUppercase : String → String) (d : Daemon) (input : DaemonInput) : Option Daemon :=
  match d.holder with
  | .nobody => none
  | _ => step toUppercase d input

/-- A posted batch, the saves of the gate it is put to, its answer, and the daemon afterwards. Other
threads may act at any point in between. -/
inductive Answered (toUppercase : String → String) (d : Daemon) (req : BatchRequest)
    (saves : GuardSaves) : HttpReply → Daemon → Prop
  /-- Somebody else holds the slot. -/
  | busy {reply : HttpReply} {d' : Daemon} (hbusy : d.state.busy = true)
      (hpost : step toUppercase d (.post req) = some d')
      (hlog : d'.log = d.log ++ [.answered .batch reply]) :
      Answered toUppercase d req saves reply d'
  /-- The slot is released, and the request answered with what it came to. -/
  | released {reply : HttpReply} {d₀ d₁ d₂ d₃ d' : Daemon} {batchId : String}
      (hfree : d.state.busy = false) (hpost : step toUppercase d (.post req) = some d₀)
      (hbefore : Machine.Reaches (othersStep toUppercase) d₀ d₁)
      (hguarded : step toUppercase d₁ (.guarded batchId saves) = some d₂)
      (hafter : Machine.Reaches (heldStep toUppercase) d₂ d₃)
      (hholder : d₃.holder = .releasing (some (.batch, reply)))
      (hanswer : step toUppercase d₃ .tick = some d') : Answered toUppercase d req saves reply d'
  /-- The batch thread is started, and the request answered with its id. -/
  | started {a : Admission} {d₀ d₁ d₂ d₃ d' : Daemon} {batchId : String}
      (hfree : d.state.busy = false) (hpost : step toUppercase d (.post req) = some d₀)
      (hbefore : Machine.Reaches (othersStep toUppercase) d₀ d₁)
      (hguarded : step toUppercase d₁ (.guarded batchId saves) = some d₂)
      (hafter : Machine.Reaches (heldStep toUppercase) d₂ d₃) (hholder : d₃.holder = .spawning a)
      (hanswer : step toUppercase d₃ (.spawned (.ok ())) = some d') :
      Answered toUppercase d req saves { code := 202, body := .batchId a.batchId } d'

/-! ## What others can do meanwhile -/

theorem applyControl_keeps (c : ControlRequest) :
    (d.applyControl c).holder = d.holder ∧ (d.applyControl c).store = d.store ∧
      (d.applyControl c).state.busy = d.state.busy := by
  unfold applyControl
  split
  · exact ⟨rfl, rfl, rfl⟩
  · exact ⟨rfl, rfl, rfl⟩

theorem serve_keeps {index : Nat} (h : d.serve index = some d') :
    d'.holder = d.holder ∧ d'.store = d.store ∧ d'.state.busy = d.state.busy := by
  cases serve_cases h with
  | accepted => exact ⟨rfl, rfl, rfl⟩
  | refused => exact ⟨rfl, rfl, rfl⟩
  | stale => exact ⟨rfl, rfl, rfl⟩

/-- Whoever asks for a slot that is held is turned away. -/
theorem acquire_of_busy (hbusy : d.state.busy = true) (endpoint : Endpoint) (holder : Holder) :
    d.acquire endpoint holder =
      d.answer endpoint (httpError 503 "a batch or form-options worker is already running") := by
  unfold acquire
  rw [if_pos hbusy]

/-- Nothing that others do while the slot is held touches the file or the slot. -/
theorem foreign_keeps {input : DaemonInput} (hforeign : input.foreign = true)
    (hbusy : d.state.busy = true) (h : step toUppercase d input = some d') :
    d'.holder = d.holder ∧ d'.store = d.store ∧ d'.state.busy = true := by
  cases input with
  | control c =>
      have heq : d' = d.applyControl c := by simpa [step] using h.symm
      rw [heq, ← hbusy]
      exact applyControl_keeps c
  | serve index =>
      rw [← hbusy]
      exact serve_keeps (by simpa [step] using h)
  | post req =>
      have heq : d' = d.acquire .batch (.starting req) := by simpa [step] using h.symm
      rw [heq, acquire_of_busy hbusy]
      exact ⟨rfl, rfl, hbusy⟩
  | getFormOptions =>
      have heq : d' = d.acquire .formOptions .formConnecting := by simpa [step] using h.symm
      rw [heq, acquire_of_busy hbusy]
      exact ⟨rfl, rfl, hbusy⟩
  | _ => cases hforeign

/-- Until the request's own thread goes on, it stands before the gate. -/
theorem others_keep {s s' : Daemon} (hbusy : s.state.busy = true)
    (h : Machine.Reaches (othersStep toUppercase) s s') :
    s'.holder = s.holder ∧ s'.store = s.store ∧ s'.state.busy = true := by
  refine h.invariant (P := fun x =>
    x.holder = s.holder ∧ x.store = s.store ∧ x.state.busy = true) ?_ ⟨rfl, rfl, hbusy⟩
  rintro x input x' ⟨hholder, hstore, hbusy'⟩ hstep
  unfold othersStep at hstep
  split at hstep
  · next hforeign =>
      rcases foreign_keeps hforeign hbusy' hstep with ⟨hholder', hstore', hheld⟩
      exact ⟨hholder'.trans hholder, hstore'.trans hstore, hheld⟩
  · cases hstep

/-! ## What the request's own thread does behind the gate -/

/-- Behind the gate: nothing is saved until the request has been answered and the batch runs. -/
def Admitted (store : CheckpointStore) (d : Daemon) : Prop :=
  d.state.busy = true ∧ d.holder.admitting = true ∧ d.store = store

/-- Admitted, handed over to a batch thread, or over. -/
def Behind (store : CheckpointStore) (d : Daemon) : Prop :=
  Admitted store d ∨ (d.state.busy = true ∧ d.holder.handedOver = true) ∨ d.holder = .nobody

section Behind

variable {store : CheckpointStore}

theorem admitted_connected (hbusy : d.state.busy = true) (hstore : d.store = store) (a : Admission)
    (id : String) (result : Except String Unit) :
    Admitted store (d.connected .batch (.ensuring a) id result) := by
  cases result with
  | error text => exact ⟨hbusy, rfl, hstore⟩
  | ok _ => exact ⟨hbusy, rfl, hstore⟩

theorem admitted_ensured (hbusy : d.state.busy = true) (hstore : d.store = store) (a : Admission)
    (next : Request) (reply : Reply) :
    Admitted store (d.ensured .batch (.listing a) next reply) := by
  unfold ensured
  split
  · exact ⟨hbusy, rfl, hstore⟩
  · split
    · exact ⟨hbusy, rfl, hstore⟩
    · exact ⟨hbusy, rfl, hstore⟩

theorem admitted_listed (hbusy : d.state.busy = true) (hstore : d.store = store) (a : Admission)
    (reply : Reply) : Admitted store (d.listed toUppercase a reply) := by
  unfold listed
  split
  · exact ⟨hbusy, rfl, hstore⟩
  · split
    · dsimp only
      split
      · exact ⟨hbusy, rfl, hstore⟩
      · exact ⟨hbusy, rfl, hstore⟩
    · exact ⟨hbusy, rfl, hstore⟩

theorem engineStep_keeps {input : Input} (h : d.engineStep input = some d') :
    d'.holder = d.holder ∧ d'.state.busy = d.state.busy := by
  rcases engineStep_cases h with ⟨run, engine, -, -, rfl⟩
  refine ⟨rfl, ?_⟩
  dsimp only
  split
  · exact publish_busy _ _ _
  · rfl

theorem finish_keeps (h : d.finish = some d') :
    d'.holder = .leaving none ∧ d'.state.busy = d.state.busy := by
  rcases finish_cases h with ⟨run, result, -, -, rfl⟩
  cases result with
  | ok report => exact ⟨rfl, rfl⟩
  | error text => exact ⟨rfl, rfl⟩

@[simp] theorem release_holder (answer : Answer) : (d.release answer).holder = .nobody := by
  cases answer with
  | none => rfl
  | some answered => rfl

@[simp] theorem release_store (answer : Answer) : (d.release answer).store = d.store := by
  cases answer with
  | none => rfl
  | some answered => rfl

theorem Admitted.step {input : DaemonInput} (h : Admitted store d)
    (hinput : step toUppercase d input = some d') : Behind store d' := by
  rcases h with ⟨hbusy, hadmitting, hstore⟩
  cases hforeign : input.foreign with
  | true =>
      rcases foreign_keeps hforeign hbusy hinput with ⟨hholder, hstore', hbusy'⟩
      exact Or.inl ⟨hbusy', by rw [hholder, hadmitting], hstore'.trans hstore⟩
  | false =>
      cases branch_of_step hinput with
      | control _ => cases hforeign
      | serve _ => cases hforeign
      | post _ => cases hforeign
      | getFormOptions => cases hforeign
      | connected _ _ _ => exact Or.inl (admitted_connected hbusy hstore _ _ _)
      | ensured _ _ _ => exact Or.inl (admitted_ensured hbusy hstore _ _ _)
      | listed _ _ _ => exact Or.inl (admitted_listed hbusy hstore _ _)
      | launched _ _ => exact Or.inl ⟨hbusy, rfl, hstore⟩
      | spawned _ result =>
          cases result with
          | ok _ => exact Or.inr (Or.inl ⟨hbusy, rfl⟩)
          | error text => exact Or.inl ⟨hbusy, rfl, hstore⟩
      | @left answer hholder =>
          cases answer with
          | none => simp [hholder, Holder.admitting] at hadmitting
          | some answered => exact Or.inl ⟨hbusy, rfl, hstore⟩
      | @tornDown answer hholder =>
          cases answer with
          | none => simp [hholder, Holder.admitting] at hadmitting
          | some answered => exact Or.inl ⟨hbusy, rfl, hstore⟩
      | released _ => exact Or.inr (Or.inr (release_holder _))
      -- The others are not admitting anybody.
      | guarded hholder _ _ => simp [hholder, Holder.admitting] at hadmitting
      | engine hholder _ => simp [hholder, Holder.admitting] at hadmitting
      | finished hholder _ => simp [hholder, Holder.admitting] at hadmitting
      | unwound hholder => simp [hholder, Holder.admitting] at hadmitting
      | formConnected hholder _ _ => simp [hholder, Holder.admitting] at hadmitting
      | formEnsured hholder _ _ => simp [hholder, Holder.admitting] at hadmitting
      | formRead hholder _ _ => simp [hholder, Holder.admitting] at hadmitting

/-- A batch thread that has the slot gives it to nobody but its own teardown. -/
theorem handedOver_step {input : DaemonInput} (hbusy : d.state.busy = true)
    (hhanded : d.holder.handedOver = true) (hinput : step toUppercase d input = some d') :
    (d'.state.busy = true ∧ d'.holder.handedOver = true) ∨ d'.holder = .nobody := by
  cases hforeign : input.foreign with
  | true =>
      rcases foreign_keeps hforeign hbusy hinput with ⟨hholder, -, hbusy'⟩
      exact Or.inl ⟨hbusy', by rw [hholder, hhanded]⟩
  | false =>
      cases branch_of_step hinput with
      | control _ => cases hforeign
      | serve _ => cases hforeign
      | post _ => cases hforeign
      | getFormOptions => cases hforeign
      | engine _ h =>
          rcases engineStep_keeps h with ⟨hholder, hbusy'⟩
          exact Or.inl ⟨hbusy'.trans hbusy, by rw [hholder, hhanded]⟩
      | finished _ h =>
          rcases finish_keeps h with ⟨hholder, hbusy'⟩
          exact Or.inl ⟨hbusy'.trans hbusy, by rw [hholder]; rfl⟩
      | unwound _ => exact Or.inl ⟨hbusy, rfl⟩
      | @left answer hholder =>
          cases answer with
          | none => exact Or.inl ⟨hbusy, rfl⟩
          | some answered => simp [hholder, Holder.handedOver] at hhanded
      | @tornDown answer hholder =>
          cases answer with
          | none => exact Or.inl ⟨hbusy, rfl⟩
          | some answered => simp [hholder, Holder.handedOver] at hhanded
      | released _ => exact Or.inr (release_holder _)
      -- The others have not handed the slot over.
      | guarded hholder _ _ => simp [hholder, Holder.handedOver] at hhanded
      | connected hholder _ _ => simp [hholder, Holder.handedOver] at hhanded
      | ensured hholder _ _ => simp [hholder, Holder.handedOver] at hhanded
      | listed hholder _ _ => simp [hholder, Holder.handedOver] at hhanded
      | launched hholder _ => simp [hholder, Holder.handedOver] at hhanded
      | spawned hholder _ => simp [hholder, Holder.handedOver] at hhanded
      | formConnected hholder _ _ => simp [hholder, Holder.handedOver] at hhanded
      | formEnsured hholder _ _ => simp [hholder, Holder.handedOver] at hhanded
      | formRead hholder _ _ => simp [hholder, Holder.handedOver] at hhanded

/-- What holds behind the gate holds as long as the slot is held. -/
theorem Behind.reaches {s s' : Daemon} (h : Behind store s)
    (hreaches : Machine.Reaches (heldStep toUppercase) s s') : Behind store s' := by
  refine hreaches.invariant ?_ h
  intro x input x' hx hstep
  have hheld : x.holder ≠ .nobody ∧ Daemon.step toUppercase x input = some x' := by
    unfold heldStep at hstep
    split at hstep
    · cases hstep
    · next hnot => exact ⟨hnot, hstep⟩
  rcases hx with hadmitted | ⟨hbusy, hhanded⟩ | hnobody
  · exact hadmitted.step hheld.2
  · exact Or.inr (handedOver_step hbusy hhanded hheld.2)
  · exact absurd hnobody hheld.1

end Behind

/-- Alone, a thread that only has the slot left to release releases it. -/
theorem releasing_step {input : DaemonInput} {answer : Answer}
    (hholder : d.holder = .releasing answer) (hforeign : input.foreign = false)
    (h : step toUppercase d input = some d') : d' = d.release answer := by
  cases input with
  | tick => simpa [step, hholder] using h.symm
  | control _ => cases hforeign
  | serve _ => cases hforeign
  | post _ => cases hforeign
  | getFormOptions => cases hforeign
  | _ => simp [step, hholder] at h

/-- A request that only waits for its answer gets that answer. -/
theorem answer_kept {reply : HttpReply} {s s' : Daemon} (hbusy : s.state.busy = true)
    (hholder : s.holder = .releasing (some (.batch, reply)))
    (h : Machine.Reaches (heldStep toUppercase) s s') :
    s'.holder = .releasing (some (.batch, reply)) ∨ s'.holder = .nobody := by
  have hkept : (s'.state.busy = true ∧ s'.holder = .releasing (some (.batch, reply))) ∨
      s'.holder = .nobody := by
    refine h.invariant (P := fun x =>
      (x.state.busy = true ∧ x.holder = .releasing (some (.batch, reply))) ∨ x.holder = .nobody) ?_
        (Or.inl ⟨hbusy, hholder⟩)
    rintro x input x' hx hstep
    unfold heldStep at hstep
    split at hstep
    · cases hstep
    · next hnot =>
        rcases hx with ⟨hbusy', hholder'⟩ | hnobody
        · cases hforeign : input.foreign with
          | true =>
              rcases foreign_keeps hforeign hbusy' hstep with ⟨hsame, -, hbusy''⟩
              exact Or.inl ⟨hbusy'', hsame.trans hholder'⟩
          | false =>
              rw [releasing_step hholder' hforeign hstep]
              exact Or.inr (release_holder _)
        · exact absurd hnobody hnot
  exact hkept.imp And.right id

/-! ## The gate and what is looked at after it -/

/-- After the gate the request is rejected, done or admitted, over the file the gate left. -/
theorem admitted_guarded (hbusy : d.state.busy = true) (req : BatchRequest) (batchId : String)
    (saves : GuardSaves) :
    Admitted (guard d.store req.resume saves).2 (d.guarded req batchId saves) := by
  generalize hgated : d.guarded req batchId saves = d'
  cases guarded_cases hgated with
  | _ => exact ⟨hbusy, rfl, rfl⟩

/-- With nobody to run, the session fields decide between a rejection and a plain answer. -/
theorem guarded_of_nobody {req : BatchRequest} {saves : GuardSaves} {start : Start}
    {previous : BatchCheckpoint} {carried : List TrainingResult} (batchId : String)
    (hguard : (guard d.store req.resume saves).1 = .ok start)
    (hplan : start.plan = .resume [] carried 0) (hprevious : start.previous = some previous) :
    (d.guarded req batchId saves).holder =
      .releasing (some (.batch, if badBatch [] req.session then
        httpError 422 "trainees need an id/name and session fields must not be empty"
        else { code := 202, body := .batchId batchId })) := by
  have hpair : guard d.store req.resume saves =
      (.ok start, (guard d.store req.resume saves).2) := by
    rw [← hguard]
  unfold guarded
  rw [hpair]
  simp only [planned, hplan, hprevious, Plan.work, Plan.resumed, List.isEmpty_nil, Bool.not_true,
    Bool.and_false, Bool.false_eq_true, if_false]
  split
  · rfl
  · rfl

/-! ## Every rejected request -/

/-- An acknowledged request that has a blank session field and nothing left to run, over a file that
the gate refused until now and closes out. -/
def LiftedByRejection (store : CheckpointStore) (req : BatchRequest) (saves : GuardSaves) : Prop :=
  LiftsRefusal store req.resume saves ∧ badBatch [] req.session = true

/-- Whoever is not answered 202 leaves the refusal as it was. -/
def RejectionKeepsRefusal (toUppercase : String → String) (store : CheckpointStore)
    (req : BatchRequest) (saves : GuardSaves) : Prop :=
  ∀ (d : Daemon) (reply : HttpReply) (d' : Daemon), d.store = store →
    Answered toUppercase d req saves reply d' → reply.code ≠ 202 →
      (Refused d'.store ↔ Refused store)

section Keeps

variable {req : BatchRequest} {saves : GuardSaves} {reply : HttpReply}

/-- The slot was free, so the request stands before the gate with the file as it was. -/
theorem before_guard {d₀ d₁ : Daemon} (hfree : d.state.busy = false)
    (hpost : step toUppercase d (.post req) = some d₀)
    (hbefore : Machine.Reaches (othersStep toUppercase) d₀ d₁) :
    d₁.holder = .starting req ∧ d₁.store = d.store ∧ d₁.state.busy = true := by
  have hposted : d₀ =
      { d with holder := .starting req, state := { d.state with busy := true } } := by
    simpa [step, acquire, hfree] using hpost.symm
  rw [hposted] at hbefore
  exact others_keep rfl hbefore

/-- What the request left of the file is what the gate left of it. -/
theorem released_store {d₀ d₁ d₂ d₃ : Daemon} {batchId : String} (hfree : d.state.busy = false)
    (hpost : step toUppercase d (.post req) = some d₀)
    (hbefore : Machine.Reaches (othersStep toUppercase) d₀ d₁)
    (hguarded : step toUppercase d₁ (.guarded batchId saves) = some d₂)
    (hafter : Machine.Reaches (heldStep toUppercase) d₂ d₃)
    (hholder : d₃.holder = .releasing (some (.batch, reply))) :
    d₃.store = (guard d.store req.resume saves).2 ∧
      ∀ start previous carried, (guard d.store req.resume saves).1 = .ok start →
        start.plan = .resume [] carried 0 → start.previous = some previous →
          reply.code ≠ 202 → badBatch [] req.session = true := by
  rcases before_guard hfree hpost hbefore with ⟨hstarting, hstore, hbusy⟩
  have hgate : d₂ = d₁.guarded req batchId saves := by
    simpa [step, hstarting] using hguarded.symm
  have hadmitted := admitted_guarded hbusy req batchId saves
  rw [hstore, ← hgate] at hadmitted
  refine ⟨?_, ?_⟩
  · rcases Behind.reaches (Or.inl hadmitted) hafter with ⟨-, -, hkept⟩ | ⟨-, hhanded⟩ | hnobody
    · exact hkept
    · simp [hholder, Holder.handedOver] at hhanded
    · simp [hholder] at hnobody
  · intro start previous carried hok hplan hprevious hcode
    have hwaits := guarded_of_nobody (d := d₁) batchId (by rw [hstore]; exact hok) hplan hprevious
    rw [← hgate] at hwaits
    -- The answer was settled at the gate, so it is the one that was sent.
    rcases answer_kept hadmitted.1 hwaits hafter with hkept | hnobody
    · by_contra hgood
      rw [hholder] at hkept
      have hreply : reply = { code := 202, body := .batchId batchId } := by
        simpa [hgood] using hkept
      exact hcode (by rw [hreply])
    · simp [hholder] at hnobody

theorem rejectionKeepsRefusal_of_not {store : CheckpointStore}
    (h : ¬LiftedByRejection store req saves) :
    RejectionKeepsRefusal toUppercase store req saves := by
  rintro d reply d' rfl hanswered hcode
  cases hanswered with
  | busy hbusy hpost _ =>
      -- A request that finds the slot held changes nothing.
      have hturned : d' = d.acquire .batch (.starting req) := by simpa [step] using hpost.symm
      rw [hturned, acquire_of_busy hbusy]
      exact Iff.rfl
  | released hfree hpost hbefore hguarded hafter hholder hanswer =>
      rcases released_store hfree hpost hbefore hguarded hafter hholder with ⟨hstore, hbad⟩
      have hreleased : d'.store = (guard d.store req.resume saves).2 := by
        rw [releasing_step hholder rfl hanswer, release_store, hstore]
      rw [hreleased]
      by_cases hlifts : LiftsRefusal d.store req.resume saves
      · rcases hlifts.lifted.2.2 with ⟨start, previous, carried, hok, hplan, hprevious⟩
        exact absurd ⟨hlifts, hbad start previous carried hok hplan hprevious hcode⟩ h
      · exact refused_after_guard_iff hlifts
  | started _ _ _ _ _ _ _ => exact absurd rfl hcode

/-- The request is rejected for its session, after the gate has closed the file out. -/
theorem not_rejectionKeepsRefusal {store : CheckpointStore}
    (h : LiftedByRejection store req saves) :
    ¬RejectionKeepsRefusal toUppercase store req saves := by
  rcases h with ⟨hlifts, hbad⟩
  rcases hlifts.lifted with ⟨hrefused, hfree, plan, previous, carried, hok, hplan, hprevious⟩
  let waiting : Daemon :=
    { start store with
      holder := .starting req, state := { (start store).state with busy := true } }
  have hwaits := guarded_of_nobody (d := waiting) "batch" hok hplan hprevious
  rw [if_pos hbad] at hwaits
  have hpost : step toUppercase (start store) (.post req) = some waiting := rfl
  have hguarded : step toUppercase waiting (.guarded "batch" saves) =
      some (waiting.guarded req "batch" saves) := rfl
  intro hkeeps
  have hanswered : Answered toUppercase (start store) req saves
      (httpError 422 "trainees need an id/name and session fields must not be empty")
      ((waiting.guarded req "batch" saves).release (some (.batch,
        httpError 422 "trainees need an id/name and session fields must not be empty"))) :=
    .released rfl hpost (.refl _) hguarded (.refl _) hwaits (by simp [step, hwaits])
  have hstore : (waiting.guarded req "batch" saves).store =
      (guard store req.resume saves).2 := (admitted_guarded rfl req "batch" saves).2.2
  have hsame := hkeeps (start store) _ _ rfl hanswered (by simp [httpError])
  rw [release_store, hstore] at hsame
  exact hfree (hsame.2 hrefused)

/-- A rejected request keeps the refusal exactly where the gate has not just closed the file out for
a request with a blank session field. -/
theorem rejection_keeps_refusal_iff (toUppercase : String → String) (store : CheckpointStore)
    (req : BatchRequest) (saves : GuardSaves) :
    RejectionKeepsRefusal toUppercase store req saves ↔ ¬LiftedByRejection store req saves :=
  ⟨fun hkeeps hlifted => not_rejectionKeepsRefusal hlifted hkeeps, rejectionKeepsRefusal_of_not⟩

end Keeps

/-! ### A request without an instructor -/

def blankRequest : BatchRequest :=
  { trainees := [], session := { trainingDate := "1", instructor := "", trainingType := "T" }
    resume := true }

/-- Over a batch that died after its last settlement, an acknowledged request without an instructor
is rejected, and the next plain start is let through. -/
theorem rejection_lifts_refusal_of_landedStore :
    ¬RejectionKeepsRefusal String.toUpper landedStore blankRequest {} := by
  refine not_rejectionKeepsRefusal ⟨⟨rfl, rfl, landedFile, rfl, ?_, ?_⟩, ?_⟩
  · decide
  · decide
  · decide

end Daemon

end DsspBot

import DsspBot.Daemon.Admission
import DsspBot.Lib.Ownership

/-!
# Threads — who owns the worker

The daemon's only worker slot is guarded by values that release it when they are dropped. They live
in the locals of a request thread, and move into the batch thread with its lease. Here every thread
has its own place in the code and its own locals, any number of threads may be under way, and each
drop is a step of its own: a teardown may block while other threads go on.
-/

namespace DsspBot

open Ownership (unwound Sole AllOver)

/-! ## What a thread owns -/

inductive Resource
  | control
  | worker
  | busy
  deriving DecidableEq, Repr

/-- The values whose drop is felt elsewhere: `Busy`, `Bridge` and `WorkerLease`. -/
inductive Owned
  | busy
  | worker
  | lease
  deriving DecidableEq, Repr

/-- The fields of each, in the order they are declared in. -/
def Owned.fields : Owned → List Resource
  | .busy => [.busy]
  | .worker => [.worker]
  | .lease => [.control, .worker, .busy]

/-- The locals that own something, in the order they are declared in. -/
def Holder.locals : Holder → List Owned
  | .starting _ => [.busy]
  | .connecting _ => [.busy]
  | .ensuring _ => [.busy, .worker]
  | .listing _ => [.busy, .worker]
  | .launching _ _ _ => [.busy, .worker]
  -- `busy` and `worker` were moved into the lease.
  | .spawning _ => [.lease]
  | .running => [.lease]
  | .formConnecting => [.busy]
  -- The worker is a local of the closure, which is left before the function is.
  | .formEnsuring => [.busy, .worker]
  | .formReading => [.busy, .worker]
  | _ => []

inductive Thread
  | working (holder : Holder)
  /-- On its way out, by a return or by unwinding, with this still to be dropped. -/
  | dropping (stack : List Resource) (answer : Answer)
  | over

namespace Thread

/-- What a thread drops if it leaves now. -/
def stack : Thread → List Resource
  | .working holder => unwound Owned.fields holder.locals
  | .dropping stack _ => stack
  | .over => []

@[simp] theorem stack_working (holder : Holder) :
    (working holder).stack = unwound Owned.fields holder.locals := rfl

@[simp] theorem stack_dropping (stack : List Resource) (answer : Answer) :
    (dropping stack answer).stack = stack := rfl

theorem working_ne_over (holder : Holder) : working holder ≠ .over :=
  Thread.noConfusion

/-- A thread that leaves the code it is in. -/
def leave (holder : Holder) (answer : Answer) : Thread :=
  .dropping (unwound Owned.fields holder.locals) answer

/-- What a daemon with this one thread is doing. -/
def holder : Thread → Holder
  | .working holder => holder
  | .dropping (.control :: _) answer => .leaving answer
  | .dropping (.worker :: _) answer => .tearingDown answer
  | .dropping (.busy :: _) answer => .releasing answer
  | .dropping [] _ => .nobody
  | .over => .nobody

def isOver : Thread → Bool
  | .over => true
  | _ => false

end Thread

/-- The answer a thread leaves with. -/
def Holder.answer : Holder → Option Answer
  | .leaving answer => some answer
  | .tearingDown answer => some answer
  | .releasing answer => some answer
  | _ => none

/-- The request thread has started the batch thread, and the lease has moved. -/
def Holder.handsOver : Holder → Holder → Bool
  | .spawning _, .running => true
  | _, _ => false

/-- The factory has made a worker. -/
def DaemonInput.makes : DaemonInput → Bool
  | .factory (.ok _) _ => true
  | _ => false

/-! ## The threads of the daemon -/

structure Threads where
  state : DaemonState
  store : CheckpointStore
  runs : List DaemonRun := []
  captured : List (Nat × ControlRequest) := []
  log : List DaemonEvent := []
  /-- The threads that were given the slot, in the order they began. -/
  threads : List Thread := []
  /-- How many workers were made and not dropped yet. -/
  workers : Nat := 0

inductive ThreadsInput
  | control (c : ControlRequest)
  | serve (index : Nat)
  | post (req : BatchRequest)
  | getFormOptions
  | act (i : Nat) (input : DaemonInput)
  | unwind (i : Nat)
  | drop (i : Nat)

/-- The endpoint at which an input asks for the slot. -/
def ThreadsInput.asks : ThreadsInput → Option Endpoint
  | .post _ => some .batch
  | .getFormOptions => some .formOptions
  | _ => none

namespace Threads

variable (t : Threads)

/-- The daemon as a thread at this place sees it. -/
def seenBy (holder : Holder) : Daemon :=
  { state := t.state
    holder := holder
    store := t.store
    runs := t.runs
    captured := t.captured
    log := t.log }

/-- What a thread leaves of the daemon for the others. -/
def take (d : Daemon) : Threads :=
  { t with
    state := d.state
    store := d.store
    runs := d.runs
    captured := d.captured
    log := d.log }

/-- What is going on: the first thread that is not over. -/
def holder : Holder :=
  match t.threads.find? (fun thread => !thread.isOver) with
  | some thread => thread.holder
  | none => .nobody

/-- A request for the slot. Only a thread that is given the slot goes on. -/
def ask (endpoint : Endpoint) (holder : Holder) : Threads :=
  let d := (t.seenBy .nobody).acquire endpoint holder
  if t.state.busy then t.take d
  else { t.take d with threads := t.threads ++ [.working holder] }

/-- Where thread `i`, which was at `before`, goes on. -/
def put (i : Nat) (before after : Holder) : Threads :=
  if before.handsOver after then
    { t with threads := t.threads.set i .over ++ [.working after] }
  else
    match after.answer with
    | some answer => { t with threads := t.threads.set i (.leave before answer) }
    | none => { t with threads := t.threads.set i (.working after) }

def act (toUppercase : String → String) (i : Nat) (input : DaemonInput) : Option Threads :=
  match t.threads[i]? with
  | some (.working holder) =>
      if input.foreign then none
      else
        (Daemon.step toUppercase (t.seenBy holder) input).map fun d =>
          { (t.take d).put i holder d.holder with
            workers := if input.makes then t.workers + 1 else t.workers }
  | _ => none

/-- A panic, wherever the thread is. Nobody is answered. -/
def unwind (i : Nat) : Option Threads :=
  match t.threads[i]? with
  | some (.working holder) => some { t with threads := t.threads.set i (.leave holder none) }
  | _ => none

/-- The drops of `ControlLease`, of the worker and of `Busy`. -/
def dropped : Resource → Threads
  | .control => { t with state := t.state.clearControl }
  | .worker => { t with workers := t.workers - 1 }
  | .busy => { t with state := { t.state.clearControl with busy := false } }

def drop (i : Nat) : Option Threads :=
  match t.threads[i]? with
  | some (.dropping (resource :: rest) answer) =>
      let t := t.dropped resource
      match rest, answer with
      -- The answer has waited for the last drop.
      | [], some (endpoint, reply) =>
          some
            { t with
              threads := t.threads.set i .over
              log := t.log ++ [.answered endpoint reply] }
      | [], none => some { t with threads := t.threads.set i .over }
      | _, _ => some { t with threads := t.threads.set i (.dropping rest answer) }
  | _ => none

def step (toUppercase : String → String) (t : Threads) : ThreadsInput → Option Threads
  | .control c => some (t.take ((t.seenBy t.holder).applyControl c))
  | .serve index => ((t.seenBy t.holder).serve index).map t.take
  | .post req => some (t.ask .batch (.starting req))
  | .getFormOptions => some (t.ask .formOptions .formConnecting)
  | .act i input => t.act toUppercase i input
  | .unwind i => t.unwind i
  | .drop i => t.drop i

def start (store : CheckpointStore) : Threads :=
  { state := (Daemon.start store).state, store := store }

def Reachable (toUppercase : String → String) (store : CheckpointStore) (t : Threads) : Prop :=
  Machine.Reaches (step toUppercase) (start store) t

end Threads

/-! ## What a thread does of its own -/

namespace Daemon

/-- The slot stays taken, and the controls stay as they are or are closed. -/
structure SlotKept (d d' : Daemon) : Prop where
  busy : d'.state.busy = d.state.busy
  control : d'.state.control = none ∨ d'.state.control = d.state.control

/-- What a thread's own step means for what it owns. -/
inductive OwnStep (d : Daemon) (input : DaemonInput) (d' : Daemon) : Prop
  /-- It goes on with what it has. -/
  | on (hmakes : input.makes = false) (hidle : d.holder.handsOver d'.holder = false)
      (hanswer : d'.holder.answer = none) (hlocals : d'.holder.locals = d.holder.locals)
      (hslot : SlotKept d d')
  /-- It leaves, and drops what it has. -/
  | left (answer : Answer) (hmakes : input.makes = false)
      (hholder : d'.holder = (Thread.leave d.holder answer).holder) (hslot : SlotKept d d')
  | made (hmakes : input.makes = true) (hidle : d.holder.handsOver d'.holder = false)
      (hanswer : d'.holder.answer = none) (hlocals : d.holder.locals = [.busy])
      (hlocals' : d'.holder.locals = [.busy, .worker]) (hslot : SlotKept d d')
  /-- It installs a controller, and moves what it has into the lease. -/
  | launched (hmakes : input.makes = false) (hidle : d.holder.handsOver d'.holder = false)
      (hanswer : d'.holder.answer = none) (hlocals : d.holder.locals = [.busy, .worker])
      (hlocals' : d'.holder.locals = [.lease]) (hbusy : d'.state.busy = d.state.busy)
  /-- It has started the batch thread, which has the lease now. -/
  | handedOver (hmakes : input.makes = false) (hidle : d.holder.handsOver d'.holder = true)
      (hlocals : d'.holder.locals = d.holder.locals) (hslot : SlotKept d d')

variable {toUppercase : String → String} {d d' : Daemon}

theorem OwnStep.busy {input : DaemonInput} (h : OwnStep d input d') :
    d'.state.busy = d.state.busy := by
  cases h with
  | on _ _ _ _ hslot => exact hslot.busy
  | left _ _ _ hslot => exact hslot.busy
  | made _ _ _ _ _ hslot => exact hslot.busy
  | launched _ _ _ _ _ hbusy => exact hbusy
  | handedOver _ _ _ hslot => exact hslot.busy

theorem SlotKept.of_eq (hbusy : d'.state.busy = d.state.busy)
    (hcontrol : d'.state.control = d.state.control) : SlotKept d d' :=
  ⟨hbusy, Or.inr hcontrol⟩

/-- It leaves from a place where it has no worker yet, and is answered. -/
theorem own_reject {input : DaemonInput} (hmakes : input.makes = false)
    (hlocals : d.holder.locals = [.busy]) (endpoint : Endpoint) (reply : HttpReply) :
    OwnStep d input (d.reject endpoint reply) := by
  refine .left (some (endpoint, reply)) hmakes ?_ (.of_eq rfl rfl)
  unfold Thread.leave
  rw [hlocals]
  rfl

/-- It leaves from a place where it has one. -/
theorem own_dismissWorker {input : DaemonInput} (hmakes : input.makes = false)
    (hlocals : d.holder.locals = [.busy, .worker]) (endpoint : Endpoint) (reply : HttpReply) :
    OwnStep d input (d.dismissWorker endpoint reply) := by
  refine .left (some (endpoint, reply)) hmakes ?_ (.of_eq rfl rfl)
  unfold Thread.leave
  rw [hlocals]
  rfl

/-- What the gate leaves in the store changes nothing about what a thread owns. -/
theorem OwnStep.of_store {store : CheckpointStore} {input : DaemonInput}
    (h : OwnStep { d with store := store } input d') : OwnStep d input d' := by
  have hkept : SlotKept { d with store := store } d' → SlotKept d d' :=
    fun hslot => ⟨hslot.busy, hslot.control⟩
  cases h with
  | on hmakes hidle hanswer hlocals hslot => exact .on hmakes hidle hanswer hlocals (hkept hslot)
  | left answer hmakes hholder hslot => exact .left answer hmakes hholder (hkept hslot)
  | made hmakes hidle hanswer hlocals hlocals' hslot =>
      exact .made hmakes hidle hanswer hlocals hlocals' (hkept hslot)
  | launched hmakes hidle hanswer hlocals hlocals' hbusy =>
      exact .launched hmakes hidle hanswer hlocals hlocals' hbusy
  | handedOver hmakes hidle hlocals hslot => exact .handedOver hmakes hidle hlocals (hkept hslot)

theorem own_guarded {req : BatchRequest} (hholder : d.holder = .starting req) (batchId : String)
    (saves : GuardSaves) :
    OwnStep d (.guarded batchId saves) (d.guarded req batchId saves) := by
  have hlocals : d.holder.locals = [.busy] := by
    rw [hholder]
    rfl
  -- What the gate leaves in the store is read by none of this.
  have hkept : ∀ store : CheckpointStore, ({ d with store := store } : Daemon).holder.locals =
      [.busy] := fun _ => hlocals
  generalize hgated : d.guarded req batchId saves = d'
  cases guarded_cases hgated with
  | refused _ => exact (own_reject rfl (hkept _) _ _).of_store
  | invalid _ => exact (own_reject rfl (hkept _) _ _).of_store
  | done _ _ _ =>
      refine .left (some (.batch, { code := 202, body := .batchId batchId })) rfl ?_
        (.of_eq rfl rfl)
      unfold Thread.leave
      rw [hlocals]
      rfl
  | admitted _ =>
      refine .on rfl ?_ rfl hlocals.symm (.of_eq rfl rfl)
      rw [hholder]
      rfl

theorem own_connected {endpoint : Endpoint} {holder : Holder} (hlocals : d.holder.locals = [.busy])
    (hidle : d.holder.handsOver holder = false) (hanswer : holder.answer = none)
    (hlocals' : holder.locals = [.busy, .worker]) (id : String) (result : Except String Unit) :
    OwnStep d (.factory result id) (d.connected endpoint holder id result) := by
  cases result with
  | error text =>
      refine .left (some (endpoint, httpError 502 text)) rfl ?_ (.of_eq rfl rfl)
      unfold Thread.leave
      rw [hlocals]
      rfl
  | ok _ => exact .made rfl hidle hanswer hlocals hlocals' (.of_eq rfl rfl)

theorem own_ensured {endpoint : Endpoint} {holder : Holder} {next : Request} {reply : Reply}
    {id : String} (hlocals : d.holder.locals = [.busy, .worker])
    (hidle : d.holder.handsOver holder = false) (hanswer : holder.answer = none)
    (hlocals' : holder.locals = [.busy, .worker]) :
    OwnStep d (.reply reply id) (d.ensured endpoint holder next reply) := by
  unfold ensured
  split
  · exact own_dismissWorker rfl hlocals _ _
  · split
    · exact .on rfl hidle hanswer (hlocals'.trans hlocals.symm) (.of_eq rfl rfl)
    · exact own_dismissWorker rfl hlocals _ _

theorem own_listed {a : Admission} {reply : Reply} {id : String} (hholder : d.holder = .listing a) :
    OwnStep d (.reply reply id) (d.listed toUppercase a reply) := by
  have hlocals : d.holder.locals = [.busy, .worker] := by
    rw [hholder]
    rfl
  unfold listed
  split
  · exact own_dismissWorker rfl hlocals _ _
  · split
    · dsimp only
      split
      · refine .on rfl ?_ rfl hlocals.symm (.of_eq rfl rfl)
        rw [hholder]
        rfl
      · exact own_dismissWorker rfl hlocals _ _
    · exact own_dismissWorker rfl hlocals _ _

theorem own_formRead {reply : Reply} {id : String} (hholder : d.holder = .formReading) :
    OwnStep d (.reply reply id) (d.formRead reply) := by
  have hlocals : d.holder.locals = [.busy, .worker] := by
    rw [hholder]
    rfl
  unfold formRead
  split
  · exact own_dismissWorker rfl hlocals _ _
  · split
    · exact own_dismissWorker rfl hlocals _ _
    · exact own_dismissWorker rfl hlocals _ _

theorem own_spawned {a : Admission} (hholder : d.holder = .spawning a)
    (result : Except String Unit) : OwnStep d (.spawned result) (d.spawned a result) := by
  have hlocals : d.holder.locals = [.lease] := by
    rw [hholder]
    rfl
  cases result with
  | ok _ =>
      refine .handedOver rfl ?_ hlocals.symm (.of_eq rfl rfl)
      rw [hholder]
      rfl
  | error text =>
      -- The closure that was to run takes the lease down with it.
      refine .left (some (.batch, httpError 500 s!"batch thread: {text}")) rfl ?_ (.of_eq rfl rfl)
      unfold Thread.leave
      rw [hlocals]
      rfl

theorem own_engineStep {i : Input} (hholder : d.holder = .running) (h : d.engineStep i = some d') :
    OwnStep d (.engine i) d' := by
  rcases engineStep_cases h with ⟨run, engine, -, -, rfl⟩
  refine .on rfl ?_ ?_ rfl ?_
  · change d.holder.handsOver d.holder = false
    rw [hholder]
    rfl
  · change d.holder.answer = none
    rw [hholder]
    rfl
  · split
    · exact ⟨publish_busy _ _ _, publish_control _ _ _⟩
    · exact .of_eq rfl rfl

theorem own_finish (hholder : d.holder = .running) (h : d.finish = some d') :
    OwnStep d .tick d' := by
  rcases finish_cases h with ⟨run, result, -, -, rfl⟩
  refine .left none rfl ?_ ?_
  · rw [hholder]
    cases result with
    | ok report => rfl
    | error text => rfl
  · cases result with
    | ok report => exact ⟨rfl, Or.inl rfl⟩
    | error text => exact ⟨rfl, Or.inl rfl⟩

/-- A step of a thread that owns something. -/
theorem own_step {input : DaemonInput} (hlocals : d.holder.locals ≠ [])
    (hforeign : input.foreign = false) (h : step toUppercase d input = some d') :
    OwnStep d input d' := by
  cases branch_of_step h with
  | control _ => cases hforeign
  | serve _ => cases hforeign
  | post _ => cases hforeign
  | getFormOptions => cases hforeign
  | guarded hholder _ _ => exact own_guarded hholder _ _
  | connected hholder _ _ =>
      exact own_connected (by rw [hholder]; rfl) (by rw [hholder]; rfl) rfl rfl _ _
  | ensured hholder _ _ =>
      exact own_ensured (by rw [hholder]; rfl) (by rw [hholder]; rfl) rfl rfl
  | listed hholder _ _ => exact own_listed hholder
  | launched hholder _ =>
      refine .launched rfl ?_ rfl ?_ rfl rfl
      · rw [hholder]
        rfl
      · rw [hholder]
        rfl
  | spawned hholder _ => exact own_spawned hholder _
  | engine hholder h => exact own_engineStep hholder h
  | finished hholder h => exact own_finish hholder h
  | unwound hholder =>
      refine .left none rfl ?_ (.of_eq rfl rfl)
      rw [hholder]
      rfl
  | formConnected hholder _ _ =>
      exact own_connected (by rw [hholder]; rfl) (by rw [hholder]; rfl) rfl rfl _ _
  | formEnsured hholder _ _ =>
      exact own_ensured (by rw [hholder]; rfl) (by rw [hholder]; rfl) rfl rfl
  | formRead hholder _ _ => exact own_formRead hholder
  -- These three own nothing.
  | left hholder =>
      rw [hholder] at hlocals
      exact absurd rfl hlocals
  | tornDown hholder =>
      rw [hholder] at hlocals
      exact absurd rfl hlocals
  | released hholder =>
      rw [hholder] at hlocals
      exact absurd rfl hlocals

end Daemon

/-! ## Who owns what -/

/-- A thread that is under way has something to drop, and drops the worker before the slot. -/
structure Thread.Held (thread : Thread) : Prop where
  some : thread.stack ≠ []
  ordered : thread.stack <:+ [.control, .worker, .busy]

theorem stack_cases {stack : List Resource} (h : stack <:+ [.control, .worker, .busy])
    (hne : stack ≠ []) :
    stack = [.control, .worker, .busy] ∨ stack = [.worker, .busy] ∨ stack = [.busy] := by
  rw [List.suffix_cons_iff, List.suffix_cons_iff, List.suffix_cons_iff, List.suffix_nil] at h
  rcases h with h | h | h | h
  · exact Or.inl h
  · exact Or.inr (Or.inl h)
  · exact Or.inr (Or.inr h)
  · exact absurd h hne

theorem Thread.Held.not_over {thread : Thread} (h : thread.Held) : thread ≠ .over := by
  rintro rfl
  exact h.some rfl

theorem Thread.Held.locals_ne_nil {holder : Holder} (h : (Thread.working holder).Held) :
    holder.locals ≠ [] := by
  intro hnil
  apply h.some
  rw [Thread.stack_working, hnil]
  rfl

theorem Thread.Held.of_stack {thread next : Thread} (h : thread.Held)
    (hstack : next.stack = thread.stack) : next.Held :=
  ⟨hstack ▸ h.some, hstack ▸ h.ordered⟩

/-- Leaving changes nothing about what is to be dropped. -/
theorem Thread.Held.leave {holder : Holder} (h : (Thread.working holder).Held) (answer : Answer) :
    (Thread.leave holder answer).Held :=
  h.of_stack rfl

/-- Whatever is still to be dropped, the answer waits for it. -/
theorem Thread.Held.answer_holder {stack : List Resource} {answer : Answer}
    (h : (Thread.dropping stack answer).Held) :
    (Thread.dropping stack answer).holder.answer = Option.some answer := by
  rcases stack_cases h.ordered h.some with hstack | hstack | hstack
  · cases hstack
    rfl
  · cases hstack
    rfl
  · cases hstack
    rfl

namespace Threads

/-- Either everything is over and the slot is free, or one thread owns all there is. -/
inductive Accounted (t : Threads) : Prop
  | free (hover : AllOver .over t.threads) (hbusy : t.state.busy = false)
      (hcontrol : t.state.control = none) (hworkers : t.workers = 0)
  | held {i : Nat} {thread : Thread} (hsole : Sole .over t.threads i thread) (hheld : thread.Held)
      (hbusy : t.state.busy = true) (hcontrol : t.state.control ≠ none → .control ∈ thread.stack)
      (hworkers : t.workers = thread.stack.count .worker)

variable {toUppercase : String → String} {t t' : Threads}

theorem accounted_start (store : CheckpointStore) : Accounted (start store) :=
  .free Ownership.allOver_nil rfl rfl rfl

/-- Thread `i` owns all there is. -/
structure Owns (t : Threads) (i : Nat) (thread : Thread) : Prop where
  sole : Sole .over t.threads i thread
  held : thread.Held
  busy : t.state.busy = true
  control : t.state.control ≠ none → .control ∈ thread.stack
  workers : t.workers = thread.stack.count .worker

/-- Whoever is under way is the one that owns everything. -/
theorem Accounted.owns (h : Accounted t) {i : Nat} {thread : Thread}
    (hthread : t.threads[i]? = some thread) (hne : thread ≠ .over) : t.Owns i thread := by
  cases h with
  | free hover _ _ _ => exact absurd (hover thread (List.mem_of_getElem? hthread)) hne
  | held hsole hheld hbusy hcontrol hworkers =>
      rcases hsole.unique hthread hne with ⟨rfl, rfl⟩
      exact ⟨hsole, hheld, hbusy, hcontrol, hworkers⟩

/-- Somebody without a share in the slot did something. -/
theorem Accounted.aside (h : Accounted t) (hthreads : t'.threads = t.threads)
    (hworkers : t'.workers = t.workers) (hbusy : t'.state.busy = t.state.busy)
    (hcontrol : t'.state.control = t.state.control) : Accounted t' := by
  cases h with
  | free hover hfree hnone hzero =>
      exact .free (hthreads ▸ hover) (hbusy.trans hfree) (hcontrol.trans hnone)
        (hworkers.trans hzero)
  | held hsole hheld hbusy' hcontrol' hcount =>
      refine .held (hthreads ▸ hsole) hheld (hbusy.trans hbusy') ?_ (hworkers.trans hcount)
      rw [hcontrol]
      exact hcontrol'

theorem serve_control {d d' : Daemon} {index : Nat} (h : d.serve index = some d') :
    d'.state.control = d.state.control := by
  cases Daemon.serve_cases h with
  | accepted => rfl
  | refused => rfl
  | stale => rfl

theorem acquire_of_free {d : Daemon} (hfree : ¬d.state.busy = true) (endpoint : Endpoint)
    (holder : Holder) : d.acquire endpoint holder =
      { d with holder := holder, state := { d.state with busy := true } } := by
  unfold Daemon.acquire
  rw [if_neg hfree]

theorem Accounted.ask (h : Accounted t) {endpoint : Endpoint} {holder : Holder}
    (hlocals : holder.locals = [.busy]) : Accounted (t.ask endpoint holder) := by
  unfold Threads.ask
  by_cases hbusy : t.state.busy = true
  · -- Turned away.
    rw [if_pos hbusy, Daemon.acquire_of_busy hbusy]
    exact h.aside rfl rfl rfl rfl
  · rw [if_neg hbusy, acquire_of_free (d := t.seenBy .nobody) hbusy]
    cases h with
    | free hover _ hcontrol hworkers =>
        have hstack : (Thread.working holder).stack = [.busy] := by
          rw [Thread.stack_working, hlocals]
          rfl
        refine .held (hover.begin (.working holder)) ⟨?_, ?_⟩ rfl ?_ ?_
        · rw [hstack]
          simp
        · rw [hstack]
          exact ⟨[.control, .worker], rfl⟩
        · intro hsome
          exact absurd hcontrol hsome
        · rw [hstack]
          exact hworkers
    | held _ _ hheld _ _ => exact absurd hheld hbusy

theorem leave_holder {holder : Holder} (hheld : (Thread.working holder).Held) (answer : Answer) :
    holder.handsOver (Thread.leave holder answer).holder = false ∧
      (Thread.leave holder answer).holder.answer = some answer := by
  have hanswered : ∀ after : Holder, after.answer = some answer →
      holder.handsOver after = false ∧ after.answer = some answer := by
    intro after hanswer
    refine ⟨?_, hanswer⟩
    cases holder with
    | spawning a =>
        cases after with
        | running => cases hanswer
        | _ => rfl
    | _ => rfl
  apply hanswered
  exact (hheld.leave answer).answer_holder

theorem put_on {i : Nat} (before : Holder) {after : Holder} (hidle : before.handsOver after = false)
    (hanswer : after.answer = none) :
    t.put i before after = { t with threads := t.threads.set i (.working after) } := by
  simp [put, hidle, hanswer]

theorem put_left {i : Nat} {before : Holder} (hheld : (Thread.working before).Held)
    (answer : Answer) : t.put i before (Thread.leave before answer).holder =
      { t with threads := t.threads.set i (.leave before answer) } := by
  simp [put, leave_holder hheld answer]

theorem put_handedOver {i : Nat} (before : Holder) {after : Holder}
    (h : before.handsOver after = true) :
    t.put i before after =
      { t with threads := t.threads.set i .over ++ [.working after] } := by
  simp [put, h]

/-- The owner has taken a step of its own. -/
theorem Owns.own {i : Nat} {holder : Holder} {input : DaemonInput} {d : Daemon}
    (h : t.Owns i (.working holder)) (hown : Daemon.OwnStep (t.seenBy holder) input d) :
    Accounted { (t.take d).put i holder d.holder with
      workers := if input.makes then t.workers + 1 else t.workers } := by
  rcases h with ⟨hsole, hheld, hbusy, hcontrol, hworkers⟩
  have hclosed : Daemon.SlotKept (t.seenBy holder) d → d.state.control ≠ none →
      Resource.control ∈ (Thread.working holder).stack := by
    intro hslot hsome
    rcases hslot.control with hnone | hsame
    · exact absurd hnone hsome
    · exact hcontrol (hsame ▸ hsome)
  cases hown with
  | on hmakes hidle hanswer hlocals hslot =>
      have hstack : (Thread.working d.holder).stack = (Thread.working holder).stack :=
        congrArg (unwound Owned.fields) hlocals
      rw [put_on holder hidle hanswer, hmakes]
      refine .held (hsole.set (.working d.holder)) (hheld.of_stack hstack)
        (hslot.busy.trans hbusy) ?_ ?_
      · rw [hstack]
        exact hclosed hslot
      · rw [hstack]
        exact hworkers
  | left answer hmakes hholder hslot =>
      have hput : (t.take d).put i holder d.holder =
          { t.take d with threads := t.threads.set i (.leave holder answer) } := by
        rw [hholder]
        exact put_left hheld answer
      rw [hput, hmakes]
      exact .held (hsole.set (.leave holder answer)) (hheld.leave answer) (hslot.busy.trans hbusy)
        (hclosed hslot) hworkers
  | made hmakes hidle hanswer hlocals hlocals' hslot =>
      have hbefore : (Thread.working holder).stack = [.busy] :=
        congrArg (unwound Owned.fields) hlocals
      have hafter : (Thread.working d.holder).stack = [.worker, .busy] :=
        congrArg (unwound Owned.fields) hlocals'
      rw [put_on holder hidle hanswer, hmakes]
      refine .held (hsole.set (.working d.holder)) ⟨?_, ?_⟩ (hslot.busy.trans hbusy) ?_ ?_
      · rw [hafter]
        simp
      · rw [hafter]
        exact ⟨[.control], rfl⟩
      · intro hsome
        have hmem := hclosed hslot hsome
        rw [hbefore] at hmem
        simp at hmem
      · have hnone : t.workers = 0 := by
          rw [hworkers, hbefore]
          rfl
        rw [hafter]
        simp [hnone]
  | launched hmakes hidle hanswer hlocals hlocals' hkept =>
      have hbefore : (Thread.working holder).stack = [.worker, .busy] :=
        congrArg (unwound Owned.fields) hlocals
      have hafter : (Thread.working d.holder).stack = [.control, .worker, .busy] :=
        congrArg (unwound Owned.fields) hlocals'
      rw [put_on holder hidle hanswer, hmakes]
      refine .held (hsole.set (.working d.holder)) ⟨?_, ?_⟩ (hkept.trans hbusy) ?_ ?_
      · rw [hafter]
        simp
      · rw [hafter]
      · intro _
        rw [hafter]
        simp
      · rw [hafter]
        exact hworkers.trans (by rw [hbefore]; rfl)
  | handedOver hmakes hidle hlocals hslot =>
      have hstack : (Thread.working d.holder).stack = (Thread.working holder).stack :=
        congrArg (unwound Owned.fields) hlocals
      rw [put_handedOver holder hidle, hmakes]
      refine .held (hsole.handOver (.working d.holder)) (hheld.of_stack hstack)
        (hslot.busy.trans hbusy) ?_ ?_
      · rw [hstack]
        exact hclosed hslot
      · rw [hstack]
        exact hworkers

/-- A thread's own step is one of the owner's. -/
theorem Accounted.act_cases (h : Accounted t) {i : Nat} {input : DaemonInput}
    (hact : t.act toUppercase i input = some t') :
    ∃ holder d, t.Owns i (.working holder) ∧
      Daemon.step toUppercase (t.seenBy holder) input = some d ∧
      Daemon.OwnStep (t.seenBy holder) input d ∧
      t' = { (t.take d).put i holder d.holder with
        workers := if input.makes then t.workers + 1 else t.workers } := by
  unfold Threads.act at hact
  split at hact
  · next holder hthread =>
      split at hact
      · cases hact
      · next hforeign =>
          rcases Option.map_eq_some_iff.1 hact with ⟨d, hstep, rfl⟩
          have howns := h.owns hthread (Thread.working_ne_over _)
          exact ⟨holder, d, howns, hstep, Daemon.own_step howns.held.locals_ne_nil
            (Bool.eq_false_iff.2 hforeign) hstep, rfl⟩
  · cases hact

/-- Only the owner can panic. -/
theorem Accounted.unwind_cases (h : Accounted t) {i : Nat} (hunwind : t.unwind i = some t') :
    ∃ holder, t.Owns i (.working holder) ∧
      t' = { t with threads := t.threads.set i (.leave holder none) } := by
  unfold Threads.unwind at hunwind
  split at hunwind
  · next holder hthread =>
      cases hunwind
      exact ⟨holder, h.owns hthread (Thread.working_ne_over _), rfl⟩
  · cases hunwind

/-- What the owner may drop next: the controls first, then the worker while the slot is still taken,
and `Busy` last. -/
theorem Accounted.drop_cases (h : Accounted t) {i : Nat} (hdrop : t.drop i = some t') :
    ∃ answer : Answer,
      (t.Owns i (.dropping [.control, .worker, .busy] answer) ∧
        t' = { t.dropped .control with
          threads := t.threads.set i (.dropping [.worker, .busy] answer) }) ∨
      (t.Owns i (.dropping [.worker, .busy] answer) ∧
        t' = { t.dropped .worker with threads := t.threads.set i (.dropping [.busy] answer) }) ∨
      (t.Owns i (.dropping [.busy] answer) ∧
        t' = { t.dropped .busy with
          threads := t.threads.set i .over
          log := match answer with
            | some (endpoint, reply) => t.log ++ [.answered endpoint reply]
            | none => t.log }) := by
  unfold Threads.drop at hdrop
  split at hdrop
  · next resource rest answer hthread =>
      have howns := h.owns hthread Thread.noConfusion
      refine ⟨answer, ?_⟩
      rcases stack_cases howns.held.ordered howns.held.some with hstack | hstack | hstack
      · cases hstack
        cases hdrop
        exact Or.inl ⟨howns, rfl⟩
      · cases hstack
        cases hdrop
        exact Or.inr (Or.inl ⟨howns, rfl⟩)
      · cases hstack
        cases answer with
        | none =>
            cases hdrop
            exact Or.inr (Or.inr ⟨howns, rfl⟩)
        | some answered =>
            cases hdrop
            exact Or.inr (Or.inr ⟨howns, rfl⟩)
  · cases hdrop

theorem Accounted.act {i : Nat} {input : DaemonInput} (h : Accounted t)
    (hact : t.act toUppercase i input = some t') : Accounted t' := by
  rcases h.act_cases hact with ⟨holder, d, howns, -, hown, rfl⟩
  exact howns.own hown

theorem Accounted.unwind {i : Nat} (h : Accounted t) (hunwind : t.unwind i = some t') :
    Accounted t' := by
  rcases h.unwind_cases hunwind with ⟨holder, howns, rfl⟩
  exact .held (howns.sole.set (.leave holder none)) (howns.held.leave none) howns.busy
    howns.control howns.workers

theorem Accounted.drop {i : Nat} (h : Accounted t) (hdrop : t.drop i = some t') :
    Accounted t' := by
  rcases h.drop_cases hdrop with ⟨answer, ⟨howns, rfl⟩ | ⟨howns, rfl⟩ | ⟨howns, rfl⟩⟩
  · -- The controls are closed.
    refine .held (howns.sole.set (.dropping [.worker, .busy] answer)) ⟨by simp, ?_⟩ howns.busy ?_
      howns.workers
    · exact ⟨[.control], rfl⟩
    · intro hsome
      exact absurd rfl hsome
  · -- The worker is gone, and nobody had controls installed.
    refine .held (howns.sole.set (.dropping [.busy] answer)) ⟨by simp, ?_⟩ howns.busy ?_ ?_
    · exact ⟨[.control, .worker], rfl⟩
    · intro hsome
      have hmem := howns.control hsome
      simp at hmem
    · change t.workers - 1 = 0
      rw [howns.workers]
      rfl
  · -- With `Busy` the last is dropped, and after it nothing is owned.
    exact .free howns.sole.finish rfl rfl howns.workers

theorem Accounted.step {input : ThreadsInput} (h : Accounted t)
    (hstep : t.step toUppercase input = some t') : Accounted t' := by
  cases input with
  | control c =>
      cases hstep
      refine h.aside rfl rfl ?_ ?_
      · exact (Daemon.applyControl_keeps c).2.2
      · unfold Daemon.applyControl
        split
        · rfl
        · rfl
  | serve index =>
      rcases Option.map_eq_some_iff.1 hstep with ⟨d, hserved, rfl⟩
      exact h.aside rfl rfl (Daemon.serve_keeps hserved).2.2 (serve_control hserved)
  | post req =>
      cases hstep
      exact h.ask rfl
  | getFormOptions =>
      cases hstep
      exact h.ask rfl
  | act i input => exact h.act hstep
  | unwind i => exact h.unwind hstep
  | drop i => exact h.drop hstep

theorem Reachable.accounted {store : CheckpointStore} (h : Reachable toUppercase store t) :
    Accounted t :=
  Machine.Reaches.invariant (fun _ _ _ hs hstep => hs.step hstep) (accounted_start store) h

/-! ## One owner -/

/-- What holds of the slot, of the worker and of the threads at any moment. -/
structure SoleOwner (toUppercase : String → String) (t : Threads) : Prop where
  /-- At most one worker exists, and then a thread that will drop it. -/
  one : t.workers ≤ 1
  owner : 0 < t.workers → ∃ thread ∈ t.threads, .worker ∈ thread.stack
  /-- The slot is taken exactly as long as some thread is under way, and it is one thread only. -/
  busy : t.state.busy = true ↔ ∃ thread ∈ t.threads, thread ≠ .over
  unique : ∀ (i j : Nat) thread other, t.threads[i]? = some thread → t.threads[j]? = some other →
    thread ≠ .over → other ≠ .over → i = j
  /-- Whoever is under way drops its controls, its worker and the slot in this order. -/
  ordered : ∀ thread ∈ t.threads, thread ≠ .over →
    thread.stack ≠ [] ∧ thread.stack <:+ [.control, .worker, .busy]
  /-- Whatever a thread does of its own, the gate and the factory call among it, it does while the
  slot is taken, and leaves it taken. -/
  acting : ∀ i input t', t.act toUppercase i input = some t' →
    t.state.busy = true ∧ t'.state.busy = true
  /-- Whoever asks meanwhile is turned away, and nothing but the answer comes of it. -/
  refused : t.state.busy = true → ∀ input endpoint, input.asks = some endpoint →
    t.step toUppercase input = some { t with log := t.log ++ [.answered endpoint
      (httpError 503 "a batch or form-options worker is already running")] }
  /-- Once nobody is under way, nothing is left behind. -/
  idle : (∀ thread ∈ t.threads, thread = .over) →
    t.state.busy = false ∧ t.state.control = none ∧ t.workers = 0

theorem ask_of_busy (hbusy : t.state.busy = true) (endpoint : Endpoint) (holder : Holder) :
    t.ask endpoint holder = { t with log := t.log ++ [.answered endpoint
      (httpError 503 "a batch or form-options worker is already running")] } := by
  unfold Threads.ask
  rw [if_pos hbusy, Daemon.acquire_of_busy hbusy]
  rfl

theorem put_state (i : Nat) (before after : Holder) : (t.put i before after).state = t.state := by
  unfold put
  split
  · rfl
  · split
    · rfl
    · rfl

theorem Accounted.acting {i : Nat} {input : DaemonInput} (h : Accounted t)
    (hact : t.act toUppercase i input = some t') :
    t.state.busy = true ∧ t'.state.busy = true := by
  rcases h.act_cases hact with ⟨holder, d, howns, -, hown, rfl⟩
  refine ⟨howns.busy, ?_⟩
  change ((t.take d).put i holder d.holder).state.busy = true
  rw [put_state]
  exact hown.busy.trans howns.busy

theorem step_of_busy (hbusy : t.state.busy = true) {input : ThreadsInput}
    {endpoint : Endpoint} (hasks : input.asks = some endpoint) :
    t.step toUppercase input = some { t with log := t.log ++ [.answered endpoint
      (httpError 503 "a batch or form-options worker is already running")] } := by
  cases input with
  | post req =>
      cases hasks
      exact congrArg some (ask_of_busy hbusy _ _)
  | getFormOptions =>
      cases hasks
      exact congrArg some (ask_of_busy hbusy _ _)
  | _ => cases hasks

theorem Accounted.owner (h : Accounted t) :
    t.workers ≤ 1 ∧ (0 < t.workers → ∃ thread ∈ t.threads, .worker ∈ thread.stack) := by
  cases h with
  | free _ _ _ hworkers =>
      rw [hworkers]
      exact ⟨Nat.zero_le 1, fun hpos => absurd hpos (Nat.lt_irrefl 0)⟩
  | held hsole hheld _ _ hworkers =>
      rw [hworkers]
      refine ⟨?_, fun hpos => ⟨_, hsole.mem, List.count_pos_iff.1 hpos⟩⟩
      rcases stack_cases hheld.ordered hheld.some with hstack | hstack | hstack
      · rw [hstack]
        decide
      · rw [hstack]
        decide
      · rw [hstack]
        decide

theorem Accounted.busy_iff (h : Accounted t) :
    t.state.busy = true ↔ ∃ thread ∈ t.threads, thread ≠ .over := by
  cases h with
  | free hover hbusy _ _ =>
      rw [hbusy]
      constructor
      · intro htaken
        cases htaken
      · rintro ⟨thread, hmem, hne⟩
        exact absurd (hover thread hmem) hne
  | held hsole hheld hbusy _ _ => exact ⟨fun _ => ⟨_, hsole.mem, hheld.not_over⟩, fun _ => hbusy⟩

theorem Accounted.unique (h : Accounted t) {i j : Nat} {thread other : Thread}
    (hi : t.threads[i]? = some thread) (hj : t.threads[j]? = some other) (hne : thread ≠ .over)
    (hne' : other ≠ .over) : i = j := by
  cases h with
  | free hover _ _ _ => exact absurd (hover thread (List.mem_of_getElem? hi)) hne
  | held hsole _ _ _ _ => exact (hsole.unique hi hne).1.trans (hsole.unique hj hne').1.symm

theorem Accounted.ordered (h : Accounted t) {thread : Thread} (hmem : thread ∈ t.threads)
    (hne : thread ≠ .over) :
    thread.stack ≠ [] ∧ thread.stack <:+ [.control, .worker, .busy] := by
  cases h with
  | free hover _ _ _ => exact absurd (hover thread hmem) hne
  | held hsole hheld _ _ _ =>
      rw [hsole.unique_of_mem hmem hne]
      exact ⟨hheld.some, hheld.ordered⟩

theorem Accounted.idle (h : Accounted t) (hover : ∀ thread ∈ t.threads, thread = .over) :
    t.state.busy = false ∧ t.state.control = none ∧ t.workers = 0 := by
  cases h with
  | free _ hbusy hcontrol hworkers => exact ⟨hbusy, hcontrol, hworkers⟩
  | held hsole hheld _ _ _ => exact absurd (hover _ hsole.mem) hheld.not_over

/-- However requests, controls, the batch thread, failures and panics interleave, the worker has one
owner, who keeps the slot until the worker is gone. -/
theorem worker_has_one_owner {store : CheckpointStore} (h : Reachable toUppercase store t) :
    SoleOwner toUppercase t where
  one := h.accounted.owner.1
  owner := h.accounted.owner.2
  busy := h.accounted.busy_iff
  unique := fun _ _ _ _ hi hj hne hne' => h.accounted.unique hi hj hne hne'
  ordered := fun _ hmem hne => h.accounted.ordered hmem hne
  acting := fun _ _ _ hact => h.accounted.acting hact
  refused := fun hbusy _ _ hasks => step_of_busy hbusy hasks
  idle := fun hover => h.accounted.idle hover

/-! ### A thread that could not be spawned -/

/-- The lease is going down with its closure: the controls are closed, and the worker is still being
shut down when the form options are asked for. -/
def teardownInputs : List ThreadsInput :=
  [.post (Daemon.pairRequest false), .act 0 (.guarded "batch" {}), .act 0 (.factory (.ok ()) "a"),
    .act 0 (.reply (.ok { status := .ok }) "b"),
    .act 0 (.reply (.ok { status := .ok, trainees := some (BatchRun.portalOf ["7", "8"]) }) "c"),
    .act 0 (.clock "0"), .act 0 (.spawned (.error "no thread")), .drop 0, .getFormOptions]

def teardownState : Threads :=
  (Machine.run (step id) (start pairStore) teardownInputs).getD (start pairStore)

theorem teardownState_reachable : Reachable id pairStore teardownState :=
  ⟨teardownInputs, rfl⟩

theorem worker_has_one_owner_in_teardown :
    teardownState.workers = 1 ∧ teardownState.state.control = none ∧
      teardownState.log.getLast? = some (.answered .formOptions
        (httpError 503 "a batch or form-options worker is already running")) ∧
      SoleOwner id teardownState :=
  ⟨rfl, rfl, rfl, worker_has_one_owner teardownState_reachable⟩

/-! ## The daemon with one holder -/

/-- The daemon that knows only what is going on, and not which thread is at it. -/
def daemon (t : Threads) : Daemon :=
  t.seenBy t.holder

theorem daemon_of_sole {i : Nat} {thread : Thread} (hsole : Sole .over t.threads i thread)
    (hne : thread ≠ .over) : t.daemon = t.seenBy thread.holder := by
  have hfound : t.threads.find? (fun thread => !thread.isOver) = some thread := by
    refine hsole.find? rfl ?_
    cases thread with
    | working holder => rfl
    | dropping stack answer => rfl
    | _ => exact absurd rfl hne
  unfold daemon holder
  rw [hfound]

theorem daemon_of_over (hover : AllOver .over t.threads) : t.daemon = t.seenBy .nobody := by
  have hnone : t.threads.find? (fun thread => !thread.isOver) = none := hover.find? rfl
  unfold daemon holder
  rw [hnone]

/-- Somebody without a share in the slot has left the daemon so. -/
theorem daemon_take {d : Daemon} (hholder : d.holder = t.holder) : (t.take d).daemon = d := by
  unfold daemon
  rw [show (t.take d).holder = d.holder from hholder.symm]
  rfl

/-- A panic of a request thread: the daemon with one holder knows those of the batch thread only. -/
def PanicsInRequest (t : Threads) : ThreadsInput → Prop
  | .unwind i => ∃ holder, t.threads[i]? = some (.working holder) ∧ holder ≠ .running
  | _ => False

theorem Accounted.ask_daemon (h : Accounted t) {endpoint : Endpoint} {holder : Holder} :
    (t.ask endpoint holder).daemon = t.daemon.acquire endpoint holder := by
  by_cases hbusy : t.state.busy = true
  · have hbusy' : t.daemon.state.busy = true := hbusy
    rw [ask_of_busy hbusy, Daemon.acquire_of_busy hbusy']
    rfl
  · cases h with
    | free hover _ _ _ =>
        rw [daemon_of_over hover, acquire_of_free (d := t.seenBy .nobody) hbusy]
        have hask : t.ask endpoint holder =
            { t with
              state := { t.state with busy := true }
              threads := t.threads ++ [.working holder] } := by
          unfold Threads.ask
          rw [if_neg hbusy, acquire_of_free (d := t.seenBy .nobody) hbusy]
          rfl
        rw [hask, daemon_of_sole (hover.begin (.working holder)) (Thread.working_ne_over _)]
        rfl
    | held _ _ hheld _ _ => exact absurd hheld hbusy

theorem Owns.act_daemon {i : Nat} {holder : Holder} {input : DaemonInput} {d : Daemon}
    (h : t.Owns i (.working holder)) (hown : Daemon.OwnStep (t.seenBy holder) input d)
    (workers : Nat) :
    Threads.daemon { (t.take d).put i holder d.holder with workers := workers } = d := by
  rcases h with ⟨hsole, hheld, -, -, -⟩
  have hon : holder.handsOver d.holder = false → d.holder.answer = none →
      Threads.daemon { (t.take d).put i holder d.holder with workers := workers } = d := by
    intro hidle hanswer
    rw [put_on holder hidle hanswer]
    exact daemon_of_sole (hsole.set (.working d.holder)) (Thread.working_ne_over _)
  cases hown with
  | on _ hidle hanswer _ _ => exact hon hidle hanswer
  | made _ hidle hanswer _ _ _ => exact hon hidle hanswer
  | launched _ hidle hanswer _ _ _ => exact hon hidle hanswer
  | left answer _ hholder _ =>
      have hput : (t.take d).put i holder d.holder =
          { t.take d with threads := t.threads.set i (.leave holder answer) } := by
        rw [hholder]
        exact put_left hheld answer
      rw [hput]
      refine (daemon_of_sole (hsole.set (.leave holder answer)) Thread.noConfusion).trans ?_
      rw [← show d.holder = (Thread.leave holder answer).holder from hholder]
      rfl
  | handedOver _ hidle _ _ =>
      rw [put_handedOver holder hidle]
      exact daemon_of_sole (hsole.handOver (.working d.holder)) (Thread.working_ne_over _)

theorem daemon_of_set {i : Nat} {thread : Thread} (hsole : Sole .over t.threads i thread)
    (next : Thread) (hne : next ≠ .over) (hthreads : t'.threads = t.threads.set i next) :
    t'.daemon = t'.seenBy next.holder :=
  daemon_of_sole (hthreads ▸ hsole.set next) hne

theorem daemon_of_finish {i : Nat} {thread : Thread} (hsole : Sole .over t.threads i thread)
    (hthreads : t'.threads = t.threads.set i .over) : t'.daemon = t'.seenBy .nobody :=
  daemon_of_over (hthreads ▸ hsole.finish)

theorem Accounted.drop_daemon {i : Nat} (h : Accounted t) (hdrop : t.drop i = some t') :
    t.daemon.step toUppercase .tick = some t'.daemon := by
  rcases h.drop_cases hdrop with ⟨answer, ⟨howns, rfl⟩ | ⟨howns, rfl⟩ | ⟨howns, rfl⟩⟩
  · rw [daemon_of_sole howns.sole howns.held.not_over,
      daemon_of_set howns.sole (.dropping [.worker, .busy] answer) (by simp) rfl]
    rfl
  · rw [daemon_of_sole howns.sole howns.held.not_over,
      daemon_of_set howns.sole (.dropping [.busy] answer) (by simp) rfl]
    rfl
  · rw [daemon_of_sole howns.sole howns.held.not_over, daemon_of_finish howns.sole rfl]
    cases answer with
    | none => rfl
    | some answered => rfl

/-- Apart from panics of request threads, a step of the threads is a step of the daemon that knows
one holder only. -/
theorem Accounted.daemon_step {input : ThreadsInput} (h : Accounted t)
    (hstep : t.step toUppercase input = some t') (hcalm : ¬PanicsInRequest t input) :
    ∃ input', t.daemon.step toUppercase input' = some t'.daemon := by
  cases input with
  | control c =>
      cases hstep
      refine ⟨.control c, ?_⟩
      rw [daemon_take (Daemon.applyControl_keeps c).1]
      simp [Daemon.step, daemon]
  | serve index =>
      rcases Option.map_eq_some_iff.1 hstep with ⟨d, hserved, rfl⟩
      refine ⟨.serve index, ?_⟩
      rw [daemon_take (Daemon.serve_keeps hserved).1]
      simpa [Daemon.step, daemon] using hserved
  | post req =>
      cases hstep
      refine ⟨.post req, ?_⟩
      rw [h.ask_daemon]
      simp [Daemon.step]
  | getFormOptions =>
      cases hstep
      refine ⟨.getFormOptions, ?_⟩
      rw [h.ask_daemon]
      simp [Daemon.step]
  | act i input =>
      rcases h.act_cases (hstep : t.act toUppercase i input = some t') with
        ⟨holder, d, howns, htaken, hown, rfl⟩
      refine ⟨input, ?_⟩
      rw [howns.act_daemon hown, daemon_of_sole howns.sole howns.held.not_over]
      exact htaken
  | unwind i =>
      rcases h.unwind_cases (hstep : t.unwind i = some t') with ⟨holder, howns, rfl⟩
      have hrunning : holder = .running := by
        by_contra hnot
        exact hcalm ⟨holder, howns.sole.owner, hnot⟩
      subst hrunning
      refine ⟨.unwind, ?_⟩
      rw [daemon_of_sole howns.sole howns.held.not_over,
        daemon_of_set howns.sole (.leave .running none) (by simp [Thread.leave]) rfl]
      rfl
  | drop i => exact ⟨.tick, h.drop_daemon hstep⟩

/-- The threads in a run in which no request thread panics. -/
def calmStep (toUppercase : String → String) (t : Threads) (input : ThreadsInput) :
    Option Threads :=
  match input with
  | .unwind i =>
      match t.threads[i]? with
      | some (.working .running) => t.unwind i
      | _ => none
  | input => t.step toUppercase input

/-- The daemon with one holder is what the threads look like from outside. -/
theorem daemon_reachable {store : CheckpointStore}
    (h : Machine.Reaches (calmStep toUppercase) (start store) t) :
    Accounted t ∧ Daemon.Reachable toUppercase store t.daemon := by
  refine h.invariant (P := fun x => Accounted x ∧ Daemon.Reachable toUppercase store x.daemon) ?_
    ⟨accounted_start store, Machine.Reaches.refl _⟩
  rintro x input x' ⟨haccounted, hreachable⟩ hcalm
  have hparts : x.step toUppercase input = some x' ∧ ¬PanicsInRequest x input := by
    unfold calmStep at hcalm
    split at hcalm
    · split at hcalm
      · next hthread =>
          refine ⟨hcalm, ?_⟩
          rintro ⟨holder, hholder, hnot⟩
          rw [hthread] at hholder
          cases hholder
          exact hnot rfl
      · cases hcalm
    · next hnot =>
        refine ⟨hcalm, ?_⟩
        intro hpanics
        cases input with
        | unwind i => exact hnot i rfl
        | _ => exact hpanics
  rcases haccounted.daemon_step hparts.1 hparts.2 with ⟨input', hinput'⟩
  exact ⟨haccounted.step hparts.1, hreachable.tail hinput'⟩

end Threads

end DsspBot

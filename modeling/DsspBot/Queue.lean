/-!
# Queue — the FIFO task queue of a batch run
-/

namespace DsspBot

structure QueueTask (α : Type) where
  id : String
  payload : α
  deriving DecidableEq, Repr

@[ext] structure TaskQueue (α : Type) where
  tasks : List (QueueTask α) := []
  deriving DecidableEq, Repr

namespace TaskQueue

variable {α : Type}

def new : TaskQueue α := {}

def enqueue (q : TaskQueue α) (id : String) (payload : α) : TaskQueue α :=
  { tasks := q.tasks ++ [{ id := id, payload := payload }] }

def dequeue (q : TaskQueue α) : Option (QueueTask α × TaskQueue α) :=
  match q.tasks with
  | [] => none
  | task :: rest => some (task, { tasks := rest })

/-- Put back at the front, so the order a batch was queued in survives. -/
def putBack (q : TaskQueue α) (task : QueueTask α) : TaskQueue α :=
  { tasks := task :: q.tasks }

/-- Ids of everything still queued, in dequeue order. -/
def ids (q : TaskQueue α) : List String :=
  q.tasks.map (·.id)

def isEmpty (q : TaskQueue α) : Bool :=
  q.tasks.isEmpty

@[simp] theorem tasks_new : (new : TaskQueue α).tasks = [] := rfl

@[simp] theorem tasks_putBack (q : TaskQueue α) (task : QueueTask α) :
    (q.putBack task).tasks = task :: q.tasks := rfl

@[simp] theorem isEmpty_iff (q : TaskQueue α) : q.isEmpty = true ↔ q.tasks = [] := by
  simp [isEmpty]

theorem dequeue_eq_some {q q' : TaskQueue α} {task : QueueTask α} :
    q.dequeue = some (task, q') ↔ q.tasks = task :: q'.tasks := by
  rcases q with ⟨tasks⟩
  rcases q' with ⟨tasks'⟩
  cases tasks with
  | nil => simp [dequeue]
  | cons t rest => simp [dequeue]

/-- Enqueuing a list in order keeps its order behind what is already queued. -/
theorem tasks_foldl_enqueue (q : TaskQueue α) (xs : List (String × α)) :
    (xs.foldl (fun q x => q.enqueue x.1 x.2) q).tasks =
      q.tasks ++ xs.map fun x => { id := x.1, payload := x.2 } := by
  -- The induction starts from any queue, since each enqueue hands a longer one on.
  induction xs generalizing q with
  | nil => simp
  | cons x xs ih =>
      rw [List.foldl_cons, ih]
      simp [enqueue]

end TaskQueue

end DsspBot

import DsspBot.Checkpoint

/-!
# Store — the checkpoint slot

One file, rewritten in full. A save either replaces the whole file or leaves the old one, so the
slot is modelled by its content and a save by its result.
-/

namespace DsspBot

/-- A checkpoint as it was on disk, plus what the file itself testifies to. A checkpoint that is
written as an array has no keys, and may have a trainee in flight all the same. -/
structure StoredCheckpoint where
  checkpoint : BatchCheckpoint
  /-- Whether the file carries the `in_flight` key. -/
  tracksInFlight : Bool
  deriving DecidableEq, Repr

/-- What the path holds. -/
inductive Slot
  | absent
  | unreadable (reason : String)
  | file (stored : StoredCheckpoint)
  deriving DecidableEq, Repr

/-- The file every write of this build leaves: it always carries the key. -/
def StoredCheckpoint.written (cp : BatchCheckpoint) : StoredCheckpoint :=
  { checkpoint := cp, tracksInFlight := true }

structure CheckpointStore where
  path : String
  slot : Slot
  deriving DecidableEq, Repr

namespace CheckpointStore

/-- A missing file is the ordinary first run, an unreadable one is an error. -/
def loadWithProvenance (store : CheckpointStore) : Except String (Option StoredCheckpoint) :=
  match store.slot with
  | .absent => .ok none
  | .unreadable reason => .error s!"{store.path}: {reason}"
  | .file stored => .ok (some stored)

def load (store : CheckpointStore) : Except String (Option BatchCheckpoint) :=
  store.loadWithProvenance.map fun loaded => loaded.map (·.checkpoint)

theorem loadWithProvenance_of_file {store : CheckpointStore} {stored : StoredCheckpoint}
    (h : store.slot = .file stored) : store.loadWithProvenance = .ok (some stored) := by
  simp [loadWithProvenance, h]

theorem loadWithProvenance_of_absent {store : CheckpointStore} (h : store.slot = .absent) :
    store.loadWithProvenance = .ok none := by
  simp [loadWithProvenance, h]

/-- Rewrite the file in one step. The caller sees the result it was given. -/
def save (store : CheckpointStore) (cp : BatchCheckpoint) (result : Except String Unit) :
    CheckpointStore :=
  match result with
  | .ok () => { store with slot := .file (.written cp) }
  | .error _ => store

@[simp] theorem save_path (store : CheckpointStore) (cp : BatchCheckpoint)
    (result : Except String Unit) : (store.save cp result).path = store.path := by
  cases result <;> rfl

@[simp] theorem save_ok (store : CheckpointStore) (cp : BatchCheckpoint) :
    store.save cp (.ok ()) = { store with slot := .file (.written cp) } := rfl

@[simp] theorem save_error (store : CheckpointStore) (cp : BatchCheckpoint) (e : String) :
    store.save cp (.error e) = store := rfl

end CheckpointStore

end DsspBot

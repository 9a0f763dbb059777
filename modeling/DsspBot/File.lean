import DsspBot.Lib.Json
import DsspBot.Lib.Machine
import DsspBot.Store
import Mathlib.Algebra.Group.Nat.Defs

/-!
# File — the checkpoint on disk

A save writes a temporary file beside the target and renames it. Every call to the system is a step
of its own, so that a process may die between any two of them, and what a later start reads is told
from the files as they were left. The text of a file is read twice, because the checkpoint alone
does not say whether the file had the `in_flight` key.
-/

namespace DsspBot

/-! ## Bytes of a text -/

def utf8 (text : String) : List UInt8 :=
  text.toByteArray.data.toList

def ofUtf8 (bytes : List UInt8) : Option String :=
  String.fromUTF8? ⟨bytes.toArray⟩

theorem utf8_injective : Function.Injective utf8 := by
  intro a b h
  apply String.toByteArray_inj.1
  exact ByteArray.ext (Array.toList_inj.1 h)

@[simp] theorem ofUtf8_utf8 (text : String) : ofUtf8 (utf8 text) = some text := by
  unfold ofUtf8 utf8
  have hbytes : (⟨text.toByteArray.data.toList.toArray⟩ : ByteArray) = text.toByteArray := by simp
  rw [hbytes]
  unfold String.fromUTF8?
  rw [dif_pos text.isValidUTF8]
  rfl

/-! ## The form of a checkpoint -/

/-- What a `u32` and a `usize` can hold is below these. -/
def U32_END : Nat := 2 ^ 32
def USIZE_END : Nat := 2 ^ 64

def Outcome.text : Outcome → String
  | .success => "success"
  | .failed => "failed"
  | .skipped => "skipped"
  | .indeterminate => "indeterminate"

def CheckpointStatus.text : CheckpointStatus → String
  | .running => "running"
  | .paused => "paused"
  | .finished => "finished"
  | .interrupted => "interrupted"
  | .aborted => "aborted"

namespace File

open Json (Codec)

def outcome : Codec Outcome :=
  .variant [.success, .failed, .skipped, .indeterminate] Outcome.text
    (by intro a; cases a <;> decide)

def status : Codec CheckpointStatus :=
  .variant [.running, .paused, .finished, .interrupted, .aborted] CheckpointStatus.text
    (by intro a; cases a <;> decide)

/-- An `Option<String>`. -/
def text? : Codec (Option String) :=
  .nullable .string nofun

def attempts : Codec Nat :=
  .natural U32_END

def total : Codec Nat :=
  .natural USIZE_END

/-- `skip_serializing_if`: the last two fields are left out when there is nothing to tell. -/
def resultEntries (r : TrainingResult) : List (String × Option Json) :=
  [("trainee_id", some (.string r.traineeId)),
    ("trainee_name", some (.string r.traineeName)),
    ("outcome", some (outcome.encode r.outcome)),
    ("attempts", some (attempts.encode r.attempts)),
    ("error_code", r.errorCode.map .string),
    ("message", r.message.map .string)]

def RESULT_FIELDS : List String :=
  ["trainee_id", "trainee_name", "outcome", "attempts", "error_code", "message"]

def decodeResult (value : Json) : Option TrainingResult :=
  (value.row RESULT_FIELDS).bind fun
    | [id, name, result, count, code, message] => do
        return {
          traineeId := ← id.bind Codec.string.decode
          traineeName := ← name.bind Codec.string.decode
          outcome := ← result.bind outcome.decode
          attempts := ← count.bind attempts.decode
          errorCode := ← text?.orElse none code
          message := ← text?.orElse none message }
    | _ => none

theorem RESULT_FIELDS_nodup : RESULT_FIELDS.Nodup := by decide +kernel

theorem orElse_text? (a : Option String) : text?.orElse none (a.map .string) = some a := by
  cases a <;> rfl

theorem decodeResult_record {r : TrainingResult} (h : r.attempts < U32_END) :
    decodeResult (.record (resultEntries r)) = some r := by
  have hnodup : ((resultEntries r).map (·.1)).Nodup := RESULT_FIELDS_nodup
  have hrow := Json.row_record hnodup
  have horiginal : outcome.decode (outcome.encode r.outcome) = some r.outcome :=
    outcome.roundtrip _ trivial
  have hattempts : attempts.decode (attempts.encode r.attempts) = some r.attempts :=
    attempts.roundtrip _ h
  have hnames : (resultEntries r).map (·.1) = RESULT_FIELDS := rfl
  rw [hnames] at hrow
  unfold decodeResult
  rw [hrow]
  simp [resultEntries, horiginal, hattempts, orElse_text?]

def result : Codec TrainingResult where
  encode r := .record (resultEntries r)
  decode := decodeResult
  Fits r := r.attempts < U32_END
  roundtrip _ h := decodeResult_record h

/-- The in-flight trainee is always written, as `null` when there is none. -/
def checkpointEntries (cp : BatchCheckpoint) : List (String × Option Json) :=
  [("status", some (status.encode cp.status)),
    ("started_at", some (.string cp.startedAt)),
    ("updated_at", some (.string cp.updatedAt)),
    ("total", some (total.encode cp.total)),
    ("results", some ((Codec.list result).encode cp.results)),
    ("pending", some ((Codec.list .string).encode cp.pending)),
    ("in_flight", some (text?.encode cp.inFlight))]

def CHECKPOINT_FIELDS : List String :=
  ["status", "started_at", "updated_at", "total", "results", "pending", "in_flight"]

def decodeCheckpoint (value : Json) : Option BatchCheckpoint :=
  (value.row CHECKPOINT_FIELDS).bind fun
    | [state, started, updated, queued, results, pending, inFlight] => do
        return {
          status := ← state.bind status.decode
          startedAt := ← started.bind Codec.string.decode
          updatedAt := ← updated.bind Codec.string.decode
          total := ← queued.bind total.decode
          results := ← results.bind (Codec.list result).decode
          pending := ← pending.bind (Codec.list .string).decode
          -- `#[serde(default)]`: a file from before there was such a field still loads.
          inFlight := ← text?.orElse none inFlight }
    | _ => none

/-- The numbers fit the types they are read into. -/
structure Fits (cp : BatchCheckpoint) : Prop where
  total : cp.total < USIZE_END
  attempts : ∀ r ∈ cp.results, r.attempts < U32_END

theorem CHECKPOINT_FIELDS_nodup : CHECKPOINT_FIELDS.Nodup := by decide +kernel

theorem decodeCheckpoint_record {cp : BatchCheckpoint} (h : Fits cp) :
    decodeCheckpoint (.record (checkpointEntries cp)) = some cp := by
  have hnodup : ((checkpointEntries cp).map (·.1)).Nodup := CHECKPOINT_FIELDS_nodup
  have hrow := Json.row_record hnodup
  have hstatus : status.decode (status.encode cp.status) = some cp.status :=
    status.roundtrip _ trivial
  have htotal : total.decode (total.encode cp.total) = some cp.total :=
    total.roundtrip _ h.total
  have hresults : (Codec.list result).decode ((Codec.list result).encode cp.results) =
      some cp.results := (Codec.list result).roundtrip _ h.attempts
  have hpending : (Codec.list .string).decode ((Codec.list .string).encode cp.pending) =
      some cp.pending := (Codec.list .string).roundtrip _ fun _ _ => trivial
  have hinFlight : text?.decode (text?.encode cp.inFlight) = some cp.inFlight :=
    text?.roundtrip _ fun _ _ => trivial
  have hnames : (checkpointEntries cp).map (·.1) = CHECKPOINT_FIELDS := rfl
  rw [hnames] at hrow
  unfold decodeCheckpoint
  rw [hrow]
  simp [checkpointEntries, Codec.orElse, hstatus, htotal, hresults, hpending,
    hinFlight]

def checkpoint : Codec BatchCheckpoint where
  encode cp := .record (checkpointEntries cp)
  decode := decodeCheckpoint
  Fits := Fits
  roundtrip _ h := decodeCheckpoint_record h

end File

/-! ## Paths -/

inductive Component
  | root
  | cur
  | up
  | normal (name : String)
  deriving DecidableEq, Repr

def Component.text : Component → String
  | .root => ""
  | .cur => "."
  | .up => ".."
  | .normal name => name

abbrev PathBuf := List Component

namespace PathBuf

variable (path : PathBuf)

def display : String :=
  match path with
  | [.root] => "/"
  | _ => "/".intercalate (path.map Component.text)

def fileName : Option String :=
  match path.getLast? with
  | some (.normal name) => some name
  | _ => none

def withFileName (name : String) : PathBuf :=
  if path.fileName.isSome then path.dropLast ++ [.normal name] else path ++ [.normal name]

def parent : Option PathBuf :=
  match path.getLast? with
  | none => none
  | some .root => none
  | some _ => some path.dropLast

/-- `temp_path`: beside the target, and of this process alone. -/
def temp (pid : Nat) : PathBuf :=
  path.withFileName (path.fileName.getD "" ++ s!".{pid}.tmp")

/-- The directory whose sync makes a rename last. -/
def directory : PathBuf :=
  match path.parent with
  | some (first :: rest) => first :: rest
  | _ => [.cur]

end PathBuf

/-! ## Reading -/

/-- What a path leads to: a file, or something that cannot be read. -/
inductive Node
  | file (bytes : List UInt8)
  | closed (reason : String)
  deriving DecidableEq, Repr

abbrev Files := PathBuf → Option Node

/-- The JSON library on texts. A document still has its doubled fields. -/
structure SerdeJson where
  toStringPretty : Json → Except String String
  document : String → Option Json
  /-- What it says of a text that is no document, or no checkpoint. -/
  complaint : String → String

/-- What a file was read as, whatever its form. -/
structure Loaded where
  checkpoint : BatchCheckpoint
  tracksInFlight : Bool
  deriving DecidableEq, Repr

section Loading

variable (serde : SerdeJson)

def readText (text : String) : Except String Loaded :=
  match serde.document text with
  | none => .error s!"unreadable checkpoint: {serde.complaint text}"
  | some raw =>
      match File.checkpoint.decode raw with
      | none => .error s!"unreadable checkpoint: {serde.complaint text}"
      | some cp => .ok { checkpoint := cp, tracksInFlight := raw.hasKey "in_flight" }

def readNode : Option Node → Except String (Option Loaded)
  | none => .ok none
  | some (.closed reason) => .error reason
  | some (.file bytes) =>
      match ofUtf8 bytes with
      | none => .error "stream did not contain valid UTF-8"
      | some text => (readText serde text).map some

/-- `load_with_provenance`. -/
def loadWithProvenance (path : PathBuf) (files : Files) : Except String (Option Loaded) :=
  (readNode serde (files path)).mapError fun reason => s!"{path.display}: {reason}"

end Loading

/-! ## Saving -/

/-- The call to the system that comes next. -/
inductive SaveStage
  | creating (json : List UInt8)
  | writing (written left : List UInt8)
  | syncing
  | discarding (text : String)
  | replacing
  | opening
  | syncingDir
  | returned (result : Except String Unit)
  deriving DecidableEq

inductive SaveInput
  | created (result : Except String Unit)
  | wrote (result : Except String Nat)
  | synced (result : Except String Unit)
  | removed (gone : Bool)
  | renamed (result : Except String Unit)
  | opened (found : Bool)
  | dirSynced (result : Except String Unit)

structure Saving where
  files : Files
  stage : SaveStage
  stderr : List String := []

namespace Saving

/-- `write_all`: nothing is left to write, or the next piece. -/
def written (done left : List UInt8) : SaveStage :=
  match left with
  | [] => .syncing
  | _ :: _ => .writing done left

def start (serde : SerdeJson) (cp : BatchCheckpoint) (files : Files) : Saving :=
  match serde.toStringPretty (File.checkpoint.encode cp) with
  | .ok json => { files := files, stage := .creating (utf8 json) }
  | .error text =>
      { files := files, stage := .returned (.error s!"could not serialize checkpoint: {text}") }

section Step

variable (path : PathBuf) (pid : Nat) (s : Saving)

def put (name : PathBuf) (node : Option Node) : Saving :=
  { s with files := Function.update s.files name node }

/-- A failed call for the temporary file: it is to be removed. -/
def giveUp (text : String) : Saving :=
  { s with stage := .discarding s!"{(path.temp pid).display}: {text}" }

def step (input : SaveInput) : Option Saving :=
  match s.stage, input with
  | .creating json, .created (.ok ()) =>
      some { s.put (path.temp pid) (some (.file [])) with stage := written [] json }
  | .creating _, .created (.error text) => some (s.giveUp path pid text)
  | .writing done left, .wrote (.ok n) =>
      if n = 0 then
        some (s.giveUp path pid "failed to write whole buffer")
      else if n ≤ left.length then
        some { s.put (path.temp pid) (some (.file (done ++ left.take n))) with
          stage := written (done ++ left.take n) (left.drop n) }
      else
        none
  | .writing _ _, .wrote (.error text) => some (s.giveUp path pid text)
  -- Before the rename, or a power loss could leave a name without its contents.
  | .syncing, .synced (.ok ()) => some { s with stage := .replacing }
  | .syncing, .synced (.error text) => some (s.giveUp path pid text)
  | .replacing, .renamed (.ok ()) =>
      some { (s.put path (s.files (path.temp pid))).put (path.temp pid) none with
        stage := .opening }
  | .replacing, .renamed (.error text) =>
      some { s with stage := .discarding s!"{path.display}: {text}" }
  -- `let _ =`: the temporary file may stay.
  | .discarding text, .removed gone =>
      some { (if gone then s.put (path.temp pid) none else s) with
        stage := .returned (.error text) }
  | .opening, .opened true => some { s with stage := .syncingDir }
  | .opening, .opened false => some { s with stage := .returned (.ok ()) }
  | .syncingDir, .dirSynced (.ok ()) => some { s with stage := .returned (.ok ()) }
  | .syncingDir, .dirSynced (.error text) =>
      -- Reported, and the save has succeeded all the same.
      some { s with
        stage := .returned (.ok ())
        stderr := s.stderr ++ [s!"dssp-bot: could not sync {path.directory.display} after " ++
          s!"writing {path.display}: {text} — the checkpoint is saved, but a power loss could " ++
          "still revert it to the previous one"] }
  | _, _ => none

end Step

end Saving

end DsspBot

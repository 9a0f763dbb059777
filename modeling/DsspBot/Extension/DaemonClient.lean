import DsspBot.Daemon.Served

/-!
# DaemonClient — what the extension accepts of the daemon

The extension checks every document the daemon serves before anything reads it. The checks and the
daemon are written in different languages, and agree only by what they say.
-/

namespace DsspBot

namespace Extension

/-! ## Documents as the extension sees them -/

/-- Of fields of one name the last one counts. -/
def property (fields : List (String × Json)) (key : String) : Option Json :=
  Json.field fields.reverse key

/-- Nothing stands for an infinite number. -/
def toNumber (text : String) : Option ℚ :=
  Binary64.ofRat (Binary64.decimal text)

mutual

/-- `String(value)`. No number reads as a word, however it is printed. -/
def toText : Json → String
  | .null => "null"
  | .bool true => "true"
  | .bool false => "false"
  | .number text => text
  | .string value => value
  | .array items => ",".intercalate (itemTexts items)
  | .object _ => "[object Object]"

def itemTexts : List Json → List String
  | [] => []
  | .null :: rest => "" :: itemTexts rest
  | item :: rest => toText item :: itemTexts rest

end

def textOf : Option Json → String
  | none => "undefined"
  | some value => toText value

def isString : Option Json → Bool
  | some (.string _) => true
  | _ => false

def isBoolean : Option Json → Bool
  | some (.bool _) => true
  | _ => false

def isSafeInteger (x : ℚ) : Bool :=
  decide (x.den = 1) && decide (|x| ≤ 2 ^ 53 - 1)

def isCount : Option Json → Bool
  | some (.number text) => (toNumber text).any fun x => isSafeInteger x && decide (0 ≤ x)
  | _ => false

/-- A field that is not there, or satisfies the check. -/
def optional (check : Option Json → Bool) (value : Option Json) : Bool :=
  value.isNone || check value

/-! ## Checks -/

def counts (fields : List (String × Json)) (keys : List String) : Bool :=
  keys.all fun key => isCount (property fields key)

def OUTCOMES : List String :=
  ["success", "failed", "skipped", "indeterminate"]

def isRow : Json → Bool
  | .object fields =>
      isString (property fields "traineeId") && isString (property fields "traineeName") &&
        OUTCOMES.contains (textOf (property fields "outcome")) && counts fields ["attempts"]
  | _ => false

def results : Option Json → Bool
  | some (.array rows) => rows.all isRow
  | _ => false

def countKeys : List String :=
  ["total", "successful", "failed", "skipped", "indeterminate"]

def STATES : List String :=
  ["idle", "initializing", "loading_trainee", "submitting", "retrying", "paused", "stopped",
    "complete"]

def isDaemonProgress : Json → Bool
  | .object fields =>
      STATES.contains (textOf (property fields "state")) &&
        counts fields (countKeys ++ ["processed", "remaining"]) &&
        optional isString (property fields "currentTraineeName") &&
        optional isBoolean (property fields "pauseRequested") &&
        optional isBoolean (property fields "stopRequested")
  | _ => false

def isRate : Option Json → Bool
  | some (.number text) => (toNumber text).any fun x => decide (0 ≤ x) && decide (x ≤ 1)
  | _ => false

def isReport : Json → Bool
  | .null => true
  | .object fields =>
      counts fields countKeys && isBoolean (property fields "aborted") &&
        isRate (property fields "successRate") && isString (property fields "startedAt") &&
        isString (property fields "finishedAt") && results (property fields "results")
  | _ => false

def STATUSES : List String :=
  ["running", "paused", "finished", "interrupted", "aborted"]

def isIds : Option Json → Bool
  | some (.array ids) => ids.all fun id => isString (some id)
  | _ => false

def isNull : Option Json → Bool
  | some .null => true
  | _ => false

def isCheckpoint : Json → Bool
  | .null => true
  | .object fields =>
      STATUSES.contains (textOf (property fields "status")) && counts fields ["total"] &&
        isString (property fields "startedAt") && isString (property fields "updatedAt") &&
        results (property fields "results") && isIds (property fields "pending") &&
        (isNull (property fields "inFlight") || isString (property fields "inFlight"))
  | _ => false

structure DaemonError where
  message : String
  status : Option Nat := none
  deriving DecidableEq, Repr

/-! ## Settings -/

/-- `/^[a-fA-F0-9]{64}$/`. -/
def isToken (token : String) : Bool :=
  decide (token.toList.length = 64) &&
    token.toList.all fun c =>
      c.isDigit || decide ('a' ≤ c ∧ c ≤ 'f') || decide ('A' ≤ c ∧ c ≤ 'F')

structure DaemonSettings where
  port : Nat
  token : String
  port_pos : 1 ≤ port
  port_le : port ≤ 65535
  token_hex : isToken token = true
  deriving DecidableEq

/-- What is no finite number is no port. -/
def validateSettings (port : Option ℚ) (token : String) : Except DaemonError DaemonSettings :=
  match port with
  | none => .error { message := "Daemon port must be an integer from 1 to 65535." }
  | some value =>
      if hport : value.den = 1 ∧ 1 ≤ value.num ∧ value.num ≤ 65535 then
        if htoken : isToken token = true then
          .ok
            { port := value.num.toNat
              token := token
              port_pos := by omega
              port_le := by omega
              token_hex := htoken }
        else .error { message := "Paste the daemon's 64-character hex token manually." }
      else .error { message := "Daemon port must be an integer from 1 to 65535." }

/-! ## Requests -/

/-- How a request ends: a response has a status, and a document if it is JSON. -/
inductive Fetched
  | lost
  | response (status : Nat) (value : Option Json)

/-- What a lost connection means for the request. -/
def lostMessage (path : String) (posts : Bool) : String :=
  if !posts then "Daemon disconnected. Start it manually in the rust directory."
  else if path = "/batch" then
    "Daemon connection lost during admission. Outcome unknown; inspect daemon status/checkpoint " ++
      "before another start. This request was not retried."
  else
    "Daemon connection lost during control. Outcome unknown; inspect daemon status before " ++
      "another control request. This request was not retried."

/-- The `error` of a refusal. -/
def detailOf : Json → String
  | .object fields =>
      match property fields "error" with
      | some (.string detail) => detail
      | _ => "Request failed."
  | _ => "Request failed."

def request (path : String) (validate : Json → Bool) (posts : Bool) (expectedStatus : Nat) :
    Fetched → Except DaemonError Json
  | .lost => .error { message := lostMessage path posts }
  | .response status none =>
      .error { message := s!"Daemon returned invalid JSON (HTTP {status}).", status := some status }
  | .response status (some value) =>
      if ¬(200 ≤ status ∧ status < 300) then
        .error { message := s!"Daemon HTTP {status}: {detailOf value}", status := some status }
      else if status ≠ expectedStatus ∨ validate value = false then
        .error { message := "Daemon returned an unexpected response.", status := some status }
      else .ok value

namespace DaemonClient

def status : Fetched → Except DaemonError Json :=
  request "/status" isDaemonProgress false 200

def report : Fetched → Except DaemonError Json :=
  request "/report" isReport false 200

def checkpoint : Fetched → Except DaemonError Json :=
  request "/checkpoint" isCheckpoint false 200

end DaemonClient

/-! ## Documents as they are read -/

def string? : Option Json → Option String
  | some (.string value) => some value
  | _ => none

def boolean? : Option Json → Option Bool
  | some (.bool value) => some value
  | _ => none

def number? : Option Json → Option ℚ
  | some (.number text) => toNumber text
  | _ => none

def array? : Option Json → Option (List Json)
  | some (.array items) => some items
  | _ => none

def nullable {α : Type} (read : Json → Option α) : Json → Option (Option α)
  | .null => some none
  | value => (read value).map some

structure DaemonResult where
  traineeId : String
  traineeName : String
  outcome : String
  attempts : ℚ
  errorCode : Option String := none
  message : Option String := none
  deriving DecidableEq

/-- What the extension is to see of a row. -/
def DaemonResult.of (r : DsspBot.TrainingResult) : DaemonResult :=
  { traineeId := r.traineeId
    traineeName := r.traineeName
    outcome := r.outcome.text
    attempts := r.attempts
    errorCode := r.errorCode
    message := r.message }

structure BatchProgress where
  state : String
  total : ℚ
  processed : ℚ
  successful : ℚ
  failed : ℚ
  skipped : ℚ
  indeterminate : ℚ
  remaining : ℚ
  currentTraineeName : Option String := none
  pauseRequested : Option Bool := none
  stopRequested : Option Bool := none
  deriving DecidableEq

structure DaemonReport where
  total : ℚ
  successful : ℚ
  failed : ℚ
  skipped : ℚ
  indeterminate : ℚ
  successRate : ℚ
  aborted : Bool
  startedAt : String
  finishedAt : String
  results : List DaemonResult
  deriving DecidableEq

structure DaemonCheckpoint where
  status : String
  startedAt : String
  updatedAt : String
  total : ℚ
  results : List DaemonResult
  pending : List String
  inFlight : Option String
  deriving DecidableEq

def BatchProgress.of (p : Progress) : BatchProgress :=
  { state := p.state
    total := p.total
    processed := p.processed
    successful := p.successful
    failed := p.failed
    skipped := p.skipped
    indeterminate := p.indeterminate
    remaining := p.remaining
    currentTraineeName := p.currentTraineeName
    pauseRequested := some p.pauseRequested
    stopRequested := some p.stopRequested }

def DaemonReport.of (report : DsspBot.BatchReport) : DaemonReport :=
  { total := report.total
    successful := report.successful
    failed := report.failed
    skipped := report.skipped
    indeterminate := report.indeterminate
    successRate := Binary64.round report.successRate
    aborted := report.aborted
    startedAt := report.startedAt
    finishedAt := report.finishedAt
    results := report.results.map .of }

def DaemonCheckpoint.of (cp : DsspBot.BatchCheckpoint) : DaemonCheckpoint :=
  { status := cp.status.text
    startedAt := cp.startedAt
    updatedAt := cp.updatedAt
    total := cp.total
    results := cp.results.map .of
    pending := cp.pending
    inFlight := cp.inFlight }

def DaemonResult.read : Json → Option DaemonResult
  | .object fields => do
      return {
        traineeId := ← string? (property fields "traineeId")
        traineeName := ← string? (property fields "traineeName")
        outcome := ← string? (property fields "outcome")
        attempts := ← number? (property fields "attempts")
        errorCode := string? (property fields "errorCode")
        message := string? (property fields "message") }
  | _ => none

def BatchProgress.read : Json → Option BatchProgress
  | .object fields => do
      return {
        state := ← string? (property fields "state")
        total := ← number? (property fields "total")
        processed := ← number? (property fields "processed")
        successful := ← number? (property fields "successful")
        failed := ← number? (property fields "failed")
        skipped := ← number? (property fields "skipped")
        indeterminate := ← number? (property fields "indeterminate")
        remaining := ← number? (property fields "remaining")
        currentTraineeName := string? (property fields "currentTraineeName")
        pauseRequested := boolean? (property fields "pauseRequested")
        stopRequested := boolean? (property fields "stopRequested") }
  | _ => none

def DaemonReport.read : Json → Option DaemonReport
  | .object fields => do
      return {
        total := ← number? (property fields "total")
        successful := ← number? (property fields "successful")
        failed := ← number? (property fields "failed")
        skipped := ← number? (property fields "skipped")
        indeterminate := ← number? (property fields "indeterminate")
        successRate := ← number? (property fields "successRate")
        aborted := ← boolean? (property fields "aborted")
        startedAt := ← string? (property fields "startedAt")
        finishedAt := ← string? (property fields "finishedAt")
        results := ← (← array? (property fields "results")).mapM DaemonResult.read }
  | _ => none

def DaemonCheckpoint.read : Json → Option DaemonCheckpoint
  | .object fields => do
      return {
        status := ← string? (property fields "status")
        startedAt := ← string? (property fields "startedAt")
        updatedAt := ← string? (property fields "updatedAt")
        total := ← number? (property fields "total")
        results := ← (← array? (property fields "results")).mapM DaemonResult.read
        pending := ← (← array? (property fields "pending")).mapM fun id => string? (some id)
        inFlight := string? (property fields "inFlight") }
  | _ => none

/-! ## What the daemon serves -/

section Serving

variable (table : Char → List Char) (print : ℚ → String)

theorem property_present {entries : List (String × Option Json)}
    (hnodup : (entries.map (·.1)).Nodup) {key : String} {value : Option Json}
    (hmem : (key, value) ∈ entries) : property (Json.present entries) key = value := by
  have hreverse : (Json.present entries).reverse = Json.present entries.reverse := by
    unfold Json.present
    rw [List.filterMap_reverse]
  unfold property
  rw [hreverse]
  refine Json.field_present ?_ (List.mem_reverse.2 hmem)
  rw [List.map_reverse, List.nodup_reverse]
  exact hnodup

/-- Each name reads as the value written under it. -/
theorem properties_present {entries : List (String × Option Json)}
    (hnodup : (entries.map (·.1)).Nodup) :
    (entries.map (·.1)).map (property (Json.present entries)) = entries.map (·.2) := by
  rw [List.map_map]
  apply List.map_congr_left
  rintro ⟨key, value⟩ hmem
  exact property_present hnodup hmem

def servedResult (r : DsspBot.TrainingResult) : List (String × Option Json) :=
  [("traineeId", some (.string r.traineeId)),
    ("traineeName", some (.string r.traineeName)),
    ("outcome", some (.string r.outcome.text)),
    ("attempts", some (.number r.attempts.repr)),
    ("errorCode", r.errorCode.map .string),
    ("message", r.message.map .string)]

theorem camel_record {entries served : List (String × Option Json)}
    (h : entries.map (fun entry =>
      (camelKey table entry.1, entry.2.map (Json.mapKeys (camelKey table)))) = served) :
    camel table (.record entries) = .record served :=
  (Json.mapKeys_record (camelKey table) entries).trans (congrArg Json.record h)

theorem camel_text? (text : Option String) :
    (text.map Json.string).map (Json.mapKeys (camelKey table)) = text.map Json.string := by
  cases text <;> rfl

theorem camel_result (r : DsspBot.TrainingResult) :
    camel table (File.result.encode r) = .record (servedResult r) := by
  refine camel_record table ?_
  unfold File.resultEntries servedResult
  simp only [List.map_cons, List.map_nil, camel_text?]
  rfl

theorem toNumber_repr {n : Nat} (h : n < 2 ^ 53) : toNumber n.repr = some (n : ℚ) := by
  unfold toNumber
  rw [Binary64.decimal_natCast]
  exact Binary64.ofRat_natCast h

theorem total_encode (n : Nat) : File.total.encode n = .number n.repr := rfl

/-- A count that is small enough is accepted, and read as it is. -/
theorem count_served {n : Nat} (h : n < 2 ^ 53) :
    isCount (some (.number n.repr)) = true ∧ toNumber n.repr = some (n : ℚ) := by
  have hnonneg : (0 : ℚ) ≤ n := Nat.cast_nonneg n
  have hsafe : (n : ℚ) ≤ 2 ^ 53 - 1 := by
    have hle : ((n + 1 : ℕ) : ℚ) ≤ 2 ^ 53 := by exact_mod_cast h
    push_cast at hle
    linarith
  have hnumber := toNumber_repr h
  exact ⟨by simp [isCount, hnumber, isSafeInteger, abs_of_nonneg hnonneg, hsafe], hnumber⟩

@[simp] theorem isString_some (value : String) : isString (some (.string value)) = true := rfl

@[simp] theorem isBoolean_some (value : Bool) : isBoolean (some (.bool value)) = true := rfl

@[simp] theorem string?_some (value : String) : string? (some (.string value)) = some value := rfl

@[simp] theorem boolean?_some (value : Bool) : boolean? (some (.bool value)) = some value := rfl

@[simp] theorem number?_some (text : String) : number? (some (.number text)) = toNumber text := rfl

@[simp] theorem array?_some (items : List Json) : array? (some (.array items)) = some items := rfl

@[simp] theorem string?_map (text : Option String) : string? (text.map .string) = text := by
  cases text <;> rfl

/-- A list is read item by item. -/
theorem mapM_served {α β : Type} {f : α → Json} {g : α → β} {r : Json → Option β} {items : List α}
    (h : ∀ item ∈ items, r (f item) = some (g item)) :
    (items.map f).mapM r = some (items.map g) := by
  induction items with
  | nil => rfl
  | cons item rest ih =>
      rcases List.forall_mem_cons.1 h with ⟨hitem, hrest⟩
      rw [List.map_cons, List.mapM_cons, hitem, ih hrest]
      rfl

/-! ### Rows -/

theorem outcome_listed (outcome : Outcome) : outcome.text ∈ OUTCOMES := by
  cases outcome <;> decide

theorem row_served {r : DsspBot.TrainingResult} (h : r.attempts < 2 ^ 53) :
    isRow (camel table (File.result.encode r)) = true ∧
      DaemonResult.read (camel table (File.result.encode r)) = some (.of r) := by
  have hnodup : ["traineeId", "traineeName", "outcome", "attempts", "errorCode",
      "message"].Nodup := by
    decide +kernel
  have hread := properties_present (show ((servedResult r).map (·.1)).Nodup from hnodup)
  rw [camel_result]
  unfold Json.record
  generalize Json.present (servedResult r) = fields at hread ⊢
  simp only [servedResult, List.map_cons, List.map_nil, List.cons.injEq] at hread
  rcases hread with ⟨hid, hname, houtcome, hattempts, hcode, hmessage, -⟩
  have hlisted := outcome_listed r.outcome
  have hcount := count_served h
  constructor
  · simp [isRow, counts, hid, hname, houtcome, hattempts, textOf, toText, hlisted, hcount.1]
  · simp [DaemonResult.read, DaemonResult.of, hid, hname, houtcome, hattempts, hcode, hmessage,
      hcount.2]

/-- The rows as they are served. -/
def servedRows (rows : List DsspBot.TrainingResult) : List Json :=
  rows.map fun r => camel table (File.result.encode r)

theorem camel_rows (rows : List DsspBot.TrainingResult) :
    Json.mapKeys (camelKey table) ((Json.Codec.list File.result).encode rows) =
      .array (servedRows table rows) := by
  refine (Json.mapKeys_array (camelKey table) (rows.map File.result.encode)).trans ?_
  rw [List.map_map]
  rfl

theorem rows_served {rows : List DsspBot.TrainingResult} (h : ∀ r ∈ rows, r.attempts < 2 ^ 53) :
    results (some (.array (servedRows table rows))) = true ∧
      (servedRows table rows).mapM DaemonResult.read = some (rows.map .of) := by
  unfold servedRows
  constructor
  · simp only [results, List.all_map, List.all_eq_true]
    exact fun r hr => (row_served table (h r hr)).1
  · exact mapM_served fun r hr => (row_served table (h r hr)).2

/-! ### The checkpoint -/

/-- No count is too large to be read exactly. -/
structure SafeCheckpoint (cp : DsspBot.BatchCheckpoint) : Prop where
  total : cp.total < 2 ^ 53
  attempts : ∀ r ∈ cp.results, r.attempts < 2 ^ 53

def servedCheckpoint (cp : DsspBot.BatchCheckpoint) : List (String × Option Json) :=
  [("status", some (.string cp.status.text)),
    ("startedAt", some (.string cp.startedAt)),
    ("updatedAt", some (.string cp.updatedAt)),
    ("total", some (.number cp.total.repr)),
    ("results", some (.array (servedRows table cp.results))),
    ("pending", some (.array (cp.pending.map .string))),
    ("inFlight", some (File.text?.encode cp.inFlight))]

theorem camel_ids (ids : List String) :
    Json.mapKeys (camelKey table) ((Json.Codec.list .string).encode ids) =
      .array (ids.map .string) := by
  refine (Json.mapKeys_array (camelKey table) (ids.map Json.Codec.string.encode)).trans ?_
  rw [List.map_map]
  rfl

theorem camel_nullable (text : Option String) :
    Json.mapKeys (camelKey table) (File.text?.encode text) = File.text?.encode text := by
  cases text <;> rfl

theorem camel_checkpoint (cp : DsspBot.BatchCheckpoint) :
    camel table (File.checkpoint.encode cp) = .record (servedCheckpoint table cp) := by
  refine camel_record table ?_
  unfold File.checkpointEntries servedCheckpoint
  simp only [List.map_cons, List.map_nil, Option.map_some, camel_rows, camel_ids, camel_nullable]
  rfl

theorem status_listed (status : CheckpointStatus) : status.text ∈ STATUSES := by
  cases status <;> decide

theorem ids_served (ids : List String) :
    isIds (some (.array (ids.map .string))) = true ∧
      (ids.map Json.string).mapM (fun id => string? (some id)) = some ids := by
  constructor
  · simp [isIds]
  · have hread : (ids.map Json.string).mapM (fun id => string? (some id)) =
        some (ids.map fun id => id) := mapM_served fun id _ => string?_some id
    rwa [List.map_id'] at hread

theorem checkpoint_served {cp : DsspBot.BatchCheckpoint} (h : SafeCheckpoint cp) :
    isCheckpoint (camel table (File.checkpoint.encode cp)) = true ∧
      nullable DaemonCheckpoint.read (camel table (File.checkpoint.encode cp)) =
        some (some (.of cp)) := by
  have hnodup : ["status", "startedAt", "updatedAt", "total", "results", "pending",
      "inFlight"].Nodup := by
    decide +kernel
  have hread := properties_present (show ((servedCheckpoint table cp).map (·.1)).Nodup from hnodup)
  rw [camel_checkpoint]
  unfold Json.record
  generalize Json.present (servedCheckpoint table cp) = fields at hread ⊢
  simp only [servedCheckpoint, List.map_cons, List.map_nil, List.cons.injEq] at hread
  rcases hread with ⟨hstatus, hstarted, hupdated, htotal, hresults, hpending, hinFlight, -⟩
  have hlisted := status_listed cp.status
  have hcount := count_served h.total
  have hrows := rows_served table h.attempts
  have hids := ids_served cp.pending
  have hnullable : (isNull (some (File.text?.encode cp.inFlight)) = true ∨
      isString (some (File.text?.encode cp.inFlight)) = true) ∧
        string? (some (File.text?.encode cp.inFlight)) = cp.inFlight := by
    cases cp.inFlight with
    | none => exact ⟨Or.inl rfl, rfl⟩
    | some id => exact ⟨Or.inr rfl, rfl⟩
  constructor
  · simp [isCheckpoint, counts, hstatus, hstarted, hupdated, htotal, hresults, hpending, hinFlight,
      textOf, toText, hlisted, hcount.1, hrows.1, hids.1, hnullable.1]
  · simp [nullable, DaemonCheckpoint.read, DaemonCheckpoint.of, hstatus, hstarted, hupdated, htotal,
      hresults, hpending, hinFlight, hcount.2, hrows.2, hids.2, hnullable.2]

/-! ### The report -/

/-- No count is too large to be read exactly. The other counts are no larger than the total. -/
structure SafeRows (rows : List DsspBot.TrainingResult) : Prop where
  total : rows.length < 2 ^ 53
  attempts : ∀ r ∈ rows, r.attempts < 2 ^ 53

def servedReport (report : DsspBot.BatchReport) : List (String × Option Json) :=
  [("total", some (.number report.total.repr)),
    ("successful", some (.number report.successful.repr)),
    ("failed", some (.number report.failed.repr)),
    ("skipped", some (.number report.skipped.repr)),
    ("indeterminate", some (.number report.indeterminate.repr)),
    ("successRate", some (.number (print (Binary64.round report.successRate)))),
    ("aborted", some (.bool report.aborted)),
    ("startedAt", some (.string report.startedAt)),
    ("finishedAt", some (.string report.finishedAt)),
    ("results", some (.array (servedRows table report.results)))]

theorem camel_report (report : DsspBot.BatchReport) :
    camel table (.record (File.reportEntries print report)) =
      .record (servedReport table print report) := by
  refine camel_record table ?_
  unfold File.reportEntries servedReport
  simp only [List.map_cons, List.map_nil, Option.map_some, camel_rows]
  rfl

/-- A rate lies between 0 and 1, and rounding keeps it there. -/
theorem rate_between (rows : List DsspBot.TrainingResult) (startedAt finishedAt : String)
    (aborted : Bool) :
    let report := DsspBot.BatchReport.build rows startedAt finishedAt aborted
    0 ≤ Binary64.round report.successRate ∧ Binary64.round report.successRate ≤ 1 := by
  have hle : (countOutcome .success rows : ℚ) ≤ rows.length := by
    exact_mod_cast List.countP_le_length
  have hexact : 0 ≤ (DsspBot.BatchReport.build rows startedAt finishedAt aborted).successRate ∧
      (DsspBot.BatchReport.build rows startedAt finishedAt aborted).successRate ≤ 1 := by
    dsimp only [DsspBot.BatchReport.build]
    split
    · exact ⟨le_rfl, zero_le_one⟩
    · exact ⟨div_nonneg (Nat.cast_nonneg _) (Nat.cast_nonneg _), div_le_one_of_le₀ hle
        (Nat.cast_nonneg _)⟩
  have hsmall : |(DsspBot.BatchReport.build rows startedAt finishedAt aborted).successRate| <
      2 ^ 53 := by
    rw [abs_of_nonneg hexact.1]
    exact hexact.2.trans_lt (one_lt_pow₀ one_lt_two (by decide))
  have he := Binary64.exponent_nonpos hsmall
  have hlow := Binary64.le_round (n := 0) he (by simpa using hexact.1)
  have hhigh := Binary64.round_le (n := 1) he (by simpa using hexact.2)
  exact ⟨by simpa using hlow, by simpa using hhigh⟩

theorem report_served {rows : List DsspBot.TrainingResult} (startedAt finishedAt : String)
    (aborted : Bool) (h : SafeRows rows)
    (hprint : let report := DsspBot.BatchReport.build rows startedAt finishedAt aborted
      toNumber (print (Binary64.round report.successRate)) =
        some (Binary64.round report.successRate)) :
    let report := DsspBot.BatchReport.build rows startedAt finishedAt aborted
    isReport (camel table (.record (File.reportEntries print report))) = true ∧
      nullable DaemonReport.read (camel table (.record (File.reportEntries print report))) =
        some (some (.of report)) := by
  have hnodup : ["total", "successful", "failed", "skipped", "indeterminate", "successRate",
      "aborted", "startedAt", "finishedAt", "results"].Nodup := by
    decide +kernel
  have hrate := rate_between rows startedAt finishedAt aborted
  have hrows := rows_served table h.attempts
  have hcounts : ∀ o, countOutcome o rows < 2 ^ 53 :=
    fun o => List.countP_le_length.trans_lt h.total
  dsimp only at hprint hrate ⊢
  generalize hbuild : DsspBot.BatchReport.build rows startedAt finishedAt aborted = report at *
  have hread := properties_present
    (show ((servedReport table print report).map (·.1)).Nodup from hnodup)
  have htotal := count_served (show report.total < 2 ^ 53 from hbuild ▸ h.total)
  have hsuccessful := count_served (show report.successful < 2 ^ 53 from hbuild ▸ hcounts .success)
  have hfailed := count_served (show report.failed < 2 ^ 53 from hbuild ▸ hcounts .failed)
  have hskipped := count_served (show report.skipped < 2 ^ 53 from hbuild ▸ hcounts .skipped)
  have hindeterminate :=
    count_served (show report.indeterminate < 2 ^ 53 from hbuild ▸ hcounts .indeterminate)
  have hresults : report.results = rows := hbuild ▸ rfl
  rw [camel_report]
  unfold Json.record
  generalize Json.present (servedReport table print report) = fields at hread ⊢
  simp only [servedReport, List.map_cons, List.map_nil, List.cons.injEq, hresults] at hread
  rcases hread with ⟨htotal', hsuccessful', hfailed', hskipped', hindeterminate', hrate', haborted,
    hstarted, hfinished, hresults', -⟩
  constructor
  · simp [isReport, counts, countKeys, isRate, htotal', hsuccessful', hfailed', hskipped',
      hindeterminate', hrate', haborted, hstarted, hfinished, hresults', htotal.1, hsuccessful.1,
      hfailed.1, hskipped.1, hindeterminate.1, hprint, hrate, hrows.1]
  · simp [nullable, DaemonReport.read, DaemonReport.of, htotal', hsuccessful', hfailed', hskipped',
      hindeterminate', hrate', haborted, hstarted, hfinished, hresults', htotal.2, hsuccessful.2,
      hfailed.2, hskipped.2, hindeterminate.2, hprint, hrows.2, hresults]

/-! ### The progress -/

structure SafeProgress (p : Progress) : Prop where
  total : p.total < 2 ^ 53
  processed : p.processed < 2 ^ 53
  successful : p.successful < 2 ^ 53
  failed : p.failed < 2 ^ 53
  skipped : p.skipped < 2 ^ 53
  indeterminate : p.indeterminate < 2 ^ 53
  remaining : p.remaining < 2 ^ 53

theorem phases_listed {phase : String} (h : phase ∈ PHASES) : phase ∈ STATES := by
  have hall : ∀ p ∈ PHASES, p ∈ STATES := by decide +kernel
  exact hall phase h

theorem progress_served {p : Progress} (hphase : p.state ∈ PHASES) (h : SafeProgress p) :
    isDaemonProgress (.record (progressEntries p)) = true ∧
      BatchProgress.read (.record (progressEntries p)) = some (.of p) := by
  have hnodup : ["state", "total", "processed", "successful", "failed", "skipped", "indeterminate",
      "remaining", "pauseRequested", "stopRequested", "currentTraineeName"].Nodup := by
    decide +kernel
  have hread := properties_present (show ((progressEntries p).map (·.1)).Nodup from hnodup)
  have hlisted := phases_listed hphase
  have hname : optional isString (p.currentTraineeName.map .string) = true := by
    cases p.currentTraineeName <;> rfl
  have hflag : ∀ flag, optional isBoolean (some (.bool flag)) = true := fun _ => rfl
  unfold Json.record
  generalize Json.present (progressEntries p) = fields at hread ⊢
  simp only [progressEntries, total_encode, List.map_cons, List.map_nil, List.cons.injEq] at hread
  rcases hread with ⟨hstate, htotal, hprocessed, hsuccessful, hfailed, hskipped, hindeterminate,
    hremaining, hpause, hstop, hcurrent, -⟩
  have hall := count_served h.total
  have hdone := count_served h.processed
  have hgood := count_served h.successful
  have hbad := count_served h.failed
  have hleft := count_served h.skipped
  have hopen := count_served h.indeterminate
  have hrest := count_served h.remaining
  constructor
  · simp [isDaemonProgress, counts, countKeys, hstate, htotal, hprocessed, hsuccessful, hfailed,
      hskipped, hindeterminate, hremaining, hpause, hstop, hcurrent, textOf, toText, hlisted,
      hname, hall.1, hdone.1, hgood.1, hbad.1, hleft.1, hopen.1, hrest.1, hflag]
  · simp [BatchProgress.read, BatchProgress.of, hstate, htotal, hprocessed, hsuccessful, hfailed,
      hskipped, hindeterminate, hremaining, hpause, hstop, hcurrent, hall.2, hdone.2, hgood.2,
      hbad.2, hleft.2, hopen.2, hrest.2]

/-! ### Everything -/

/-- What is shown is delivered to whoever asks for it, and read as this. -/
structure Accepted {α : Type} (get : Fetched → Except DaemonError Json) (validate : Json → Bool)
    (read : Json → Option α) (shown : Shown) (data : α) : Prop where
  passes : validate (shown.json table print) = true
  delivered : get (.response shown.code (some (shown.json table print))) =
    .ok (shown.json table print)
  reads : read (shown.json table print) = some data

theorem request_ok {path : String} {validate : Json → Bool} {posts : Bool} {value : Json}
    (h : validate value = true) :
    request path validate posts 200 (.response 200 (some value)) = .ok value := by
  simp [request, h]

/-- The three documents, as the daemon answers with them. -/
theorem gets_answered (body : BodyReader) (r : HttpRequest) (d : Daemon) (hget : r.method = "GET") :
    (r.path = "/status" → dispatch body r d =
      .answered (.reply { code := 200, body := .progress d.state.progress })) ∧
    (r.path = "/report" → dispatch body r d = .answered (.report d.state.report)) ∧
    (r.path = "/checkpoint" → ∀ cp, d.store.load = .ok cp →
      dispatch body r d = .answered (.checkpoint cp)) := by
  refine ⟨?_, ?_, ?_⟩
  · intro hpath
    simp [dispatch, hget, hpath]
  · intro hpath
    simp [dispatch, hget, hpath]
  · intro hpath cp hload
    simp [dispatch, hget, hpath, hload]

/-- The extension accepts every checkpoint, every report and every progress of the daemon, and reads
the same out of it. The text of the rate is to read as the rate. -/
theorem everything_served_is_accepted :
    (∀ cp : Option DsspBot.BatchCheckpoint, (∀ saved, cp = some saved → SafeCheckpoint saved) →
      Accepted table print DaemonClient.checkpoint isCheckpoint (nullable DaemonCheckpoint.read)
        (.checkpoint cp) (cp.map .of)) ∧
    Accepted table print DaemonClient.report isReport (nullable DaemonReport.read)
      (.report none) none ∧
    (∀ rows startedAt finishedAt aborted, SafeRows rows →
      let report := DsspBot.BatchReport.build rows startedAt finishedAt aborted
      toNumber (print (Binary64.round report.successRate)) =
          some (Binary64.round report.successRate) →
        Accepted table print DaemonClient.report isReport (nullable DaemonReport.read)
          (.report (some report)) (some (.of report))) ∧
    (∀ toUppercase store d, Daemon.Reachable toUppercase store d →
      SafeProgress d.state.progress →
        Accepted table print DaemonClient.status isDaemonProgress BatchProgress.read
          (.reply { code := 200, body := .progress d.state.progress })
          (.of d.state.progress)) := by
  refine ⟨?_, ⟨rfl, rfl, rfl⟩, ?_, ?_⟩
  · intro cp hsafe
    cases cp with
    | none => exact ⟨rfl, rfl, rfl⟩
    | some saved =>
        have hserved := checkpoint_served table (hsafe saved rfl)
        exact ⟨hserved.1, request_ok hserved.1, hserved.2⟩
  · intro rows startedAt finishedAt aborted hsafe report hprint
    have hserved := report_served table print startedAt finishedAt aborted hsafe hprint
    exact ⟨hserved.1, request_ok hserved.1, hserved.2⟩
  · intro toUppercase store d hreachable hsafe
    have hserved := progress_served hreachable.phase hsafe
    exact ⟨hserved.1, request_ok hserved.1, hserved.2⟩

end Serving

def adaResult : DsspBot.TrainingResult :=
  { traineeId := "7", traineeName := "Ada Obi", outcome := .success, attempts := 1 }

def pausedFile : DsspBot.BatchCheckpoint :=
  { status := .paused
    startedAt := "1"
    updatedAt := "2"
    total := 2
    results := [adaResult]
    pending := ["8"]
    inFlight := none }

theorem paused_batch_is_accepted :
    Accepted (fun c => [c]) (fun _ => "1.0") DaemonClient.checkpoint isCheckpoint
        (nullable DaemonCheckpoint.read) (.checkpoint (some pausedFile)) (some (.of pausedFile)) ∧
      Accepted (fun c => [c]) (fun _ => "1.0") DaemonClient.report isReport
        (nullable DaemonReport.read)
        (.report (some (.build [adaResult] "1" "2" false)))
        (some (.of (.build [adaResult] "1" "2" false))) ∧
      Accepted (fun c => [c]) (fun _ => "1.0") DaemonClient.status isDaemonProgress
        BatchProgress.read
        (.reply { code := 200, body := .progress (Daemon.start shortStore).state.progress })
        (.of (Daemon.start shortStore).state.progress) := by
  have hall := everything_served_is_accepted (fun c => [c]) (fun _ => "1.0")
  refine ⟨hall.1 (some pausedFile) ?_, hall.2.2.1 [adaResult] "1" "2" false ?_ ?_,
    hall.2.2.2 id shortStore _ (Machine.Reaches.refl _) ?_⟩
  · rintro saved ⟨⟩
    exact ⟨by decide, by decide⟩
  · exact ⟨by decide, by decide⟩
  · have hrate : Binary64.round (DsspBot.BatchReport.build [adaResult] "1" "2" false).successRate =
        1 := by
      have hexact : (DsspBot.BatchReport.build [adaResult] "1" "2" false).successRate = 1 :=
        div_one 1
      rw [hexact]
      exact_mod_cast Binary64.round_intCast (n := 1) (by norm_num)
    have hread : Binary64.decimal "1.0" = 1 := by decide +kernel
    rw [hrate, toNumber, hread]
    exact_mod_cast Binary64.ofRat_natCast (n := 1) (by decide)
  · exact ⟨by decide, by decide, by decide, by decide, by decide, by decide, by decide⟩

end Extension

end DsspBot

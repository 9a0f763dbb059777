import DsspBot.Lib.Firsts
import DsspBot.Lib.Words

/-!
# Shared — errors and texts of the extension

The browser extension is written in another language, with its own notion of whitespace and of a
normalized name. Unicode's tables are its runtime's.
-/

namespace DsspBot

namespace Extension

/-! ## Errors -/

inductive ErrorCode
  | elementNotFound
  | timeout
  | network
  | portalUnavailable
  | sessionExpired
  | traineeNotFound
  | missingData
  | validationFailed
  | duplicateRecord
  | portalStructureChanged
  | portalNotMapped
  | confirmationUnknown
  | submissionFailed
  deriving DecidableEq, Repr

structure AutomationError where
  message : String
  code : ErrorCode
  recoverable : Bool
  deriving DecidableEq, Repr

namespace AutomationError

def validation (message : String) : AutomationError :=
  { message := message, code := .validationFailed, recoverable := false }

def traineeNotFound (traineeId : String) : AutomationError :=
  { message := s!"Trainee not found: {traineeId}", code := .traineeNotFound, recoverable := false }

end AutomationError

/-! ## Texts -/

/-- What `\s` stands for, and what `trim` takes off. -/
def isSpace (c : Char) : Bool :=
  let n := c.toNat
  decide (9 ≤ n ∧ n ≤ 13) || decide (n = 0x20) || decide (n = 0xA0) || decide (n = 0x1680) ||
    decide (0x2000 ≤ n ∧ n ≤ 0x200A) || decide (n = 0x2028) || decide (n = 0x2029) ||
    decide (n = 0x202F) || decide (n = 0x205F) || decide (n = 0x3000) || decide (n = 0xFEFF)

def trim (value : String) : String :=
  String.ofList (Words.trim isSpace value.toList)

/-- `replace(/\s+/g, " ")`, told whether the letter before was whitespace. -/
def collapseFrom : Bool → List Char → List Char
  | _, [] => []
  | after, c :: rest =>
      if isSpace c then
        if after then collapseFrom true rest else ' ' :: collapseFrom true rest
      else
        c :: collapseFrom false rest

/-- `/^\d+$/`. -/
def isNumeric (value : String) : Bool :=
  !value.toList.isEmpty && value.toList.all Char.isDigit

/-- Unicode's compatibility forms and lower case. -/
structure Unicode where
  nfkc : String → String
  toLowerCase : String → String

def normalizeName (unicode : Unicode) (name : String) : String :=
  unicode.toLowerCase (trim (String.ofList (collapseFrom false (unicode.nfkc name).toList)))

/-! ## Names as they are typed -/

/-- By what two entries are the same. Lower case is that of the browser's locale. -/
def entryKey (toLocaleLowerCase : String → String) (entry : String) : String :=
  toLocaleLowerCase (String.ofList (collapseFrom false entry.toList))

/-- The entries between commas and line breaks, each once. -/
def parseTraineeInput (toLocaleLowerCase : String → String) (raw : String) : List String :=
  let pieces := raw.toList.splitOnP fun c => c == ',' || c == '\r' || c == '\n'
  let entries := pieces.map fun piece => trim (String.ofList piece)
  Firsts.firsts (entryKey toLocaleLowerCase) [] (entries.filter fun entry => entry != "")

/-- No name is blank, and no two are the same. -/
theorem parseTraineeInput_distinct (toLocaleLowerCase : String → String) (raw : String) :
    (∀ name ∈ parseTraineeInput toLocaleLowerCase raw, name ≠ "") ∧
      ((parseTraineeInput toLocaleLowerCase raw).map (entryKey toLocaleLowerCase)).Nodup := by
  constructor
  · intro name hname
    have hentry := (Firsts.mem_of_mem_firsts hname).1
    simpa using (List.mem_filter.1 hentry).2
  · exact Firsts.nodup_firsts _ _ _

end Extension

end DsspBot

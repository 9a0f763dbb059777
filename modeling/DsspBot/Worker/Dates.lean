import DsspBot.Worker.Portal

/-!
# Dates — the training date of a session

Three spellings of a date are accepted, and each must name a day of the calendar. The value of a
digit is the library's, which knows the digits of every script.
-/

namespace DsspBot

def isLeapYear (year : Nat) : Bool :=
  decide (year % 4 = 0 ∧ (year % 100 ≠ 0 ∨ year % 400 = 0))

def daysInMonth (year month : Nat) : Nat :=
  if month = 2 then (if isLeapYear year then 29 else 28)
  else if month ∈ [4, 6, 9, 11] then 30
  else 31

/-- A day of the calendar. -/
structure CalendarDate where
  year : Nat
  month : Nat
  day : Nat
  year_range : 1 ≤ year ∧ year ≤ 9999
  month_range : 1 ≤ month ∧ month ≤ 12
  day_range : 1 ≤ day ∧ day ≤ daysInMonth year month

/-- `str(value)` with leading zeros. -/
def padded (width value : Nat) : String :=
  let digits := (Nat.repr value).toList
  String.ofList (List.replicate (width - digits.length) '0' ++ digits)

/-- `strftime("%Y-%m-%d")`, where `%Y` is taken as it is documented, padded with zeros. -/
def CalendarDate.text (date : CalendarDate) : String :=
  padded 4 date.year ++ "-" ++ padded 2 date.month ++ "-" ++ padded 2 date.day

/-- `date(year, month, day)`, which raises for a day that is not in the calendar. -/
def checkedDate (year month day : Nat) : Except PyException String :=
  if h : (1 ≤ year ∧ year ≤ 9999) ∧ (1 ≤ month ∧ month ≤ 12) ∧
      (1 ≤ day ∧ day ≤ daysInMonth year month) then
    .ok (CalendarDate.text ⟨year, month, day, h.1, h.2.1, h.2.2⟩)
  else
    .error (.portal (.validation "Training date must be a real calendar date."))

theorem checkedDate_real {year month day : Nat} {text : String}
    (h : checkedDate year month day = .ok text) : ∃ date : CalendarDate, date.text = text := by
  unfold checkedDate at h
  split at h
  · next hreal =>
      exact ⟨⟨year, month, day, hreal.1, hreal.2.1, hreal.2.2⟩, Except.ok.inj h⟩
  · cases h

section Spellings

variable (decimal : Char → Option Nat)

/-- `int(text)`, where every letter is a digit. -/
def number (text : List Char) : Option Nat :=
  text.foldlM (fun value c => (decimal c).map (10 * value + ·)) 0

/-- A number of as many digits. -/
def digits (widths : List Nat) (text : List Char) : Option Nat :=
  if text.length ∈ widths then number decimal text else none

/-- One digit, or two of which the first is one of these. -/
def shortNumber (tens : List Char) (text : List Char) : Option Nat :=
  match text with
  | [_] => number decimal text
  | [first, _] => if first ∈ tens then number decimal text else none
  | _ => none

/-- Year, month and day, where all three are there. -/
def triple (year month day : Option Nat) : Option (Nat × Nat × Nat) :=
  year.bind fun y => month.bind fun m => day.map fun d => (y, m, d)

/-- `_ISO_DATE`: four, two and two digits. -/
def isoDate (text : List Char) : Option (Nat × Nat × Nat) :=
  match text.splitOnP (· = '-') with
  | [year, month, day] =>
      triple (digits decimal [4] year) (digits decimal [2] month) (digits decimal [2] day)
  | _ => none

/-- `_YEAR_FIRST`: the month has at most a leading 1, the day at most a leading 3. -/
def yearFirst (text : List Char) : Option (Nat × Nat × Nat) :=
  match text.splitOnP (· = '/') with
  | [year, month, day] =>
      triple (digits decimal [4] year) (shortNumber decimal ['0', '1'] month)
        (shortNumber decimal ['0', '1', '2', '3'] day)
  | _ => none

/-- `_DAY_FIRST`: slashes and hyphens may be mixed. -/
def dayFirst (text : List Char) : Option (Nat × Nat × Nat) :=
  match text.splitOnP fun c => decide (c = '/' ∨ c = '-') with
  | [day, month, year] =>
      triple (digits decimal [4] year) (digits decimal [1, 2] month) (digits decimal [1, 2] day)
  | _ => none

def formatTrainingDate (value : String) : Except PyException String :=
  let text := (strip value).toList
  -- The first spelling that fits decides, also when its day is not in the calendar.
  match ((isoDate decimal text).or (yearFirst decimal text)).or (dayFirst decimal text) with
  | some (year, month, day) => checkedDate year month day
  | none =>
      .error (.portal (.validation
        "Training date must use YYYY-MM-DD (or DD/MM/YYYY) format."))

/-- Whatever is accepted is a day of the calendar. -/
theorem formatTrainingDate_real {value text : String}
    (h : formatTrainingDate decimal value = .ok text) :
    ∃ date : CalendarDate, date.text = text := by
  unfold formatTrainingDate at h
  dsimp only at h
  split at h
  · exact checkedDate_real h
  · cases h

end Spellings

end DsspBot

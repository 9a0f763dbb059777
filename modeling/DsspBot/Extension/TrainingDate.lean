import DsspBot.Extension.Shared
import DsspBot.Lib.Calendar
import DsspBot.Worker.Dates
import DsspBot.Worker.Selector
import Mathlib.Tactic.IntervalCases

/-!
# TrainingDate — the extension's training date and the worker's

The extension reads the same three spellings as the worker, and checks a day by naming it and asking
what it is called. It takes no year before 1000, the worker takes every year of four digits.
-/

namespace DsspBot

namespace Extension

/-! ## Formatting a date -/

/-- `\d`, and what `Number` makes of it. -/
def digit (c : Char) : Option Nat :=
  if c.isDigit then some (c.toNat - '0'.toNat) else none

def ISO_DATE_PATTERN (input : List Char) : Option (Nat × Nat × Nat) :=
  isoDate digit input

def YEAR_FIRST_PATTERN (input : List Char) : Option (Nat × Nat × Nat) :=
  yearFirst digit input

def DAY_FIRST_PATTERN (input : List Char) : Option (Nat × Nat × Nat) :=
  dayFirst digit input

def padStart (text : String) (width : Nat) (fill : Char) : String :=
  String.ofList (List.replicate (width - text.toList.length) fill ++ text.toList)

/-- A `Date` of this name is another day if the month has no such day. -/
def checkedDate (year month day : Nat) : Except AutomationError String :=
  if year < 1000 ∨ year > 9999 ∨ month < 1 ∨ month > 12 then
    .error (.validation "Training date must be a real calendar date.")
  else
    let candidate := Calendar.dayOf year (month - 1) day
    if Calendar.yearOf candidate ≠ year ∨ Calendar.monthOf candidate ≠ month - 1 ∨
        Calendar.dateOf candidate ≠ day then
      .error (.validation "Training date must be a real calendar date.")
    else
      .ok (padStart year.repr 4 '0' ++ "-" ++ padStart month.repr 2 '0' ++ "-" ++
        padStart day.repr 2 '0')

def formatTrainingDate (value : String) : Except AutomationError String :=
  let input := (trim value).toList
  match ISO_DATE_PATTERN input with
  | some (year, month, day) => checkedDate year month day
  | none =>
      match YEAR_FIRST_PATTERN input with
      | some (year, month, day) => checkedDate year month day
      | none =>
          match DAY_FIRST_PATTERN input with
          | some (year, month, day) => checkedDate year month day
          | none =>
              .error (.validation "Training date must use YYYY-MM-DD (or DD/MM/YYYY) format.")

/-! ## The two calendars -/

theorem daysInMonth_eq {year month : Nat} (h : month < 12) :
    daysInMonth year (month + 1) = (Calendar.monthLengths year)[month] := by
  have hleap : isLeapYear year = Calendar.isLeap year := rfl
  interval_cases month <;> simp [daysInMonth, Calendar.monthLengths, hleap]

theorem padStart_repr (value width : Nat) :
    padStart value.repr width '0' = padded width value := rfl

/-- The worker takes every day of its calendar. -/
theorem worker_checkedDate_ok_iff {year month day : Nat} {text : String} :
    DsspBot.checkedDate year month day = .ok text ↔
      ∃ date : CalendarDate, date.year = year ∧ date.month = month ∧ date.day = day ∧
        date.text = text := by
  unfold DsspBot.checkedDate
  constructor
  · intro h
    split at h
    · next hreal =>
        exact ⟨⟨year, month, day, hreal.1, hreal.2.1, hreal.2.2⟩, rfl, rfl, rfl, Except.ok.inj h⟩
    · cases h
  · rintro ⟨date, rfl, rfl, rfl, rfl⟩
    rw [dif_pos ⟨date.year_range, date.month_range, date.day_range⟩]

/-- The extension takes those of them that lie in a year of four digits. -/
theorem checkedDate_ok_iff {year month day : Nat} {text : String} :
    checkedDate year month day = .ok text ↔
      ∃ date : CalendarDate, date.year = year ∧ date.month = month ∧ date.day = day ∧
        1000 ≤ date.year ∧ date.text = text := by
  unfold checkedDate
  dsimp only
  by_cases hrange : year < 1000 ∨ year > 9999 ∨ month < 1 ∨ month > 12
  · rw [if_pos hrange]
    refine iff_of_false (by simp) ?_
    rintro ⟨date, rfl, rfl, rfl, hlate, -⟩
    have hyear := date.year_range
    have hmonth := date.month_range
    omega
  · rw [if_neg hrange]
    have hmonth : month - 1 < 12 := by omega
    have hfields := Calendar.fields_dayOf_iff year day hmonth
    rw [← daysInMonth_eq hmonth, Nat.sub_add_cancel (by omega)] at hfields
    split
    · next hother =>
        refine iff_of_false (by simp) ?_
        rintro ⟨date, rfl, rfl, rfl, -⟩
        have hnamed := hfields.2 date.day_range
        simp [hnamed] at hother
    · next hsame =>
        push Not at hsame
        have hday := hfields.1 hsame
        simp only [padStart_repr]
        constructor
        · intro h
          refine ⟨⟨year, month, day, by omega, by omega, hday⟩, rfl, rfl, rfl, ?_, Except.ok.inj h⟩
          exact Nat.le_of_not_lt fun hearly => hrange (Or.inl hearly)
        · rintro ⟨date, rfl, rfl, rfl, -, rfl⟩
          rfl

/-! ## Reading a date -/

/-- The first of the three spellings that fits. -/
def reading (decimal : Char → Option Nat) (text : List Char) : Option (Nat × Nat × Nat) :=
  ((isoDate decimal text).or (yearFirst decimal text)).or (dayFirst decimal text)

section Congruence

variable {decimal decimal' : Char → Option Nat} {text : List Char}

theorem number_congr (h : ∀ c ∈ text, decimal c = decimal' c) :
    number decimal text = number decimal' text := by
  unfold number
  generalize (0 : Nat) = value
  induction text generalizing value with
  | nil => rfl
  | cons c text ih =>
      rw [List.foldlM_cons, List.foldlM_cons, h c List.mem_cons_self]
      congr 1
      funext sofar
      exact ih (fun d hd => h d (List.mem_cons_of_mem c hd)) sofar

theorem digits_congr (widths : List Nat) (h : ∀ c ∈ text, decimal c = decimal' c) :
    digits decimal widths text = digits decimal' widths text := by
  unfold digits
  rw [number_congr h]

theorem shortNumber_congr (tens : List Char) (h : ∀ c ∈ text, decimal c = decimal' c) :
    shortNumber decimal tens text = shortNumber decimal' tens text := by
  unfold shortNumber
  split <;> simp only [number_congr h]

/-- Spellings that agree on the letters of a text read it alike. -/
theorem reading_congr (h : ∀ c ∈ text, decimal c = decimal' c) :
    reading decimal text = reading decimal' text := by
  have hpieces : ∀ (sep : Char → Bool) (piece : List Char), piece ∈ text.splitOnP sep →
      ∀ c ∈ piece, decimal c = decimal' c :=
    fun _ _ hpiece c hc => h c (Words.mem_of_mem_splitOnP hpiece hc)
  have hiso : isoDate decimal text = isoDate decimal' text := by
    unfold isoDate
    split
    · next year month day hsplit =>
        have hmem := hpieces (fun c => decide (c = '-'))
        rw [hsplit] at hmem
        rw [digits_congr [4] (hmem year (by simp)), digits_congr [2] (hmem month (by simp)),
          digits_congr [2] (hmem day (by simp))]
    · rfl
  have hyear : yearFirst decimal text = yearFirst decimal' text := by
    unfold yearFirst
    split
    · next year month day hsplit =>
        have hmem := hpieces (fun c => decide (c = '/'))
        rw [hsplit] at hmem
        rw [digits_congr [4] (hmem year (by simp)), shortNumber_congr _ (hmem month (by simp)),
          shortNumber_congr _ (hmem day (by simp))]
    · rfl
  have hday : dayFirst decimal text = dayFirst decimal' text := by
    unfold dayFirst
    split
    · next day month year hsplit =>
        have hmem := hpieces (fun c => decide (c = '/' ∨ c = '-'))
        rw [hsplit] at hmem
        rw [digits_congr [4] (hmem year (by simp)), digits_congr [1, 2] (hmem month (by simp)),
          digits_congr [1, 2] (hmem day (by simp))]
    · rfl
  unfold reading
  rw [hiso, hyear, hday]

end Congruence

/-! ## A date as it is written -/

theorem number_digits {text : List Char} (h : ∀ c ∈ text, c.isDigit = true) :
    number digit text = some (Nat.ofDigitChars 10 text 0) := by
  unfold number
  generalize (0 : Nat) = value
  induction text generalizing value with
  | nil => rfl
  | cons c text ih =>
      rcases List.forall_mem_cons.1 h with ⟨hc, hrest⟩
      have hdigit : digit c = some (c.toNat - '0'.toNat) := if_pos hc
      rw [List.foldlM_cons, hdigit, Nat.ofDigitChars_cons]
      exact ih hrest _

theorem toList_padded (width value : Nat) :
    (padded width value).toList =
      List.replicate (width - (Nat.toDigits 10 value).length) '0' ++ Nat.toDigits 10 value := by
  unfold padded
  rw [String.toList_ofList, Nat.toList_repr]

theorem isDigit_of_mem_padded {width value : Nat} {c : Char}
    (h : c ∈ (padded width value).toList) : c.isDigit = true := by
  rw [toList_padded] at h
  rcases List.mem_append.1 h with hzero | hdigit
  · obtain rfl := List.eq_of_mem_replicate hzero
    rfl
  · exact Nat.isDigit_of_mem_toDigits (by decide) (by decide) hdigit

/-- Leading zeros do not count. -/
theorem number_padded (width value : Nat) :
    number digit (padded width value).toList = some value := by
  rw [number_digits fun c => isDigit_of_mem_padded, toList_padded, Nat.ofDigitChars_append,
    Nat.ofDigitChars_replicate_zero, Nat.mul_zero, Nat.ofDigitChars_ten_toDigits]

theorem length_padded {width value : Nat} (hwidth : 0 < width) (h : value < 10 ^ width) :
    (padded width value).toList.length = width := by
  have hshort := (Nat.length_toDigits_le_iff (b := 10) (by decide) hwidth).2 h
  rw [toList_padded, List.length_append, List.length_replicate]
  omega

theorem digits_padded {width value : Nat} (hwidth : 0 < width) (h : value < 10 ^ width) :
    digits digit [width] (padded width value).toList = some value := by
  unfold digits
  rw [length_padded hwidth h, if_pos (List.mem_singleton.2 rfl), number_padded]

section Written

variable (date : CalendarDate)

theorem toList_text :
    date.text.toList =
      (padded 4 date.year).toList ++ '-' :: ((padded 2 date.month).toList ++
        '-' :: (padded 2 date.day).toList) := by
  unfold CalendarDate.text
  simp [String.toList_append]

theorem fields_small : date.year < 10 ^ 4 ∧ date.month < 10 ^ 2 ∧ date.day < 10 ^ 2 := by
  have hyear := date.year_range
  have hmonth := date.month_range
  have hday := date.day_range
  have hlong : daysInMonth date.year date.month ≤ 31 := by
    unfold daysInMonth
    split_ifs <;> omega
  omega

/-- A written date is read as itself. -/
theorem reading_text : reading digit date.text.toList = some (date.year, date.month, date.day) := by
  have hsmall := fields_small date
  have hplain : ∀ width value, ∀ c ∈ (padded width value).toList, decide (c = '-') = false := by
    intro width value c hc
    have hdigit := isDigit_of_mem_padded hc
    by_contra hhyphen
    obtain rfl : c = '-' := by simpa using hhyphen
    cases hdigit
  have hsplit : date.text.toList.splitOnP (fun c => decide (c = '-')) =
      [(padded 4 date.year).toList, (padded 2 date.month).toList, (padded 2 date.day).toList] := by
    rw [toList_text, List.splitOnP_append_cons_of_forall_mem (hplain 4 date.year) '-' rfl,
      List.splitOnP_append_cons_of_forall_mem (hplain 2 date.month) '-' rfl,
      List.splitOnP_eq_singleton (hplain 2 date.day)]
  unfold reading isoDate
  rw [hsplit]
  dsimp only
  rw [digits_padded (by decide) hsmall.1, digits_padded (by decide) hsmall.2.1,
    digits_padded (by decide) hsmall.2.2]
  simp only [triple, Option.bind_some, Option.map_some, Option.some_or]

theorem text_letters {c : Char} (h : c ∈ date.text.toList) : c.isDigit = true ∨ c = '-' := by
  rw [toList_text] at h
  simp only [List.mem_append, List.mem_cons] at h
  rcases h with h | rfl | h | rfl | h
  · exact Or.inl (isDigit_of_mem_padded h)
  · exact Or.inr rfl
  · exact Or.inl (isDigit_of_mem_padded h)
  · exact Or.inr rfl
  · exact Or.inl (isDigit_of_mem_padded h)

theorem printable_text : Printable date.text := by
  intro c hc
  rcases text_letters date hc with hdigit | rfl
  · have hrange : 48 ≤ c.toNat ∧ c.toNat ≤ 57 := Char.isDigit_iff_toNat.1 hdigit
    omega
  · decide

theorem length_text : date.text.length = 10 := by
  have hsmall := fields_small date
  rw [← String.length_toList, toList_text]
  simp only [List.length_append, List.length_cons]
  rw [length_padded (by decide) hsmall.1, length_padded (by decide) hsmall.2.1,
    length_padded (by decide) hsmall.2.2]

theorem trim_text : trim date.text = date.text := by
  have hplain : ∀ c ∈ date.text.toList, isSpace c = false := by
    intro c hc
    rcases text_letters date hc with hdigit | rfl
    · have hrange : 48 ≤ c.toNat ∧ c.toNat ≤ 57 := Char.isDigit_iff_toNat.1 hdigit
      unfold isSpace
      grind
    · decide
  have hnone : ∀ c ∈ ([] : List Char), isSpace c = true := by simp
  have hwhole := Words.trim_append_append hnone hplain hnone
  unfold trim
  rw [List.nil_append, List.append_nil] at hwhole
  rw [hwhole, String.ofList_toList]

end Written

/-! ## Agreement -/

theorem isSpace_of_printable {c : Char} (h : 0x20 ≤ c.toNat ∧ c.toNat ≤ 0x7E) :
    isspace c = isSpace c := by
  rcases h with ⟨hlow, hhigh⟩
  have hspace : isSpace c = decide (c.toNat = 0x20) := by
    unfold isSpace
    grind
  have hworker : isspace c = decide (c.toNat = 0x20) := by
    unfold isspace isWhitespace
    grind
  rw [hspace, hworker]

/-- Over printable texts both sides take off the same blanks. -/
theorem strip_of_printable {value : String} (h : Printable value) : strip value = trim value := by
  have htrim := Words.trim_congr fun c hc => isSpace_of_printable (h c hc)
  exact congrArg String.ofList htrim

theorem worker_formatTrainingDate_eq (decimal : Char → Option Nat) (value : String) :
    DsspBot.formatTrainingDate decimal value =
      match reading decimal (strip value).toList with
      | some (year, month, day) => DsspBot.checkedDate year month day
      | none => .error (.portal (.validation
          "Training date must use YYYY-MM-DD (or DD/MM/YYYY) format.")) := by
  cases hreading : reading decimal (strip value).toList with
  | some date =>
      unfold reading at hreading
      simp only [DsspBot.formatTrainingDate, hreading]
  | none =>
      unfold reading at hreading
      simp only [DsspBot.formatTrainingDate, hreading]

theorem formatTrainingDate_eq (value : String) :
    formatTrainingDate value =
      match reading digit (trim value).toList with
      | some (year, month, day) => checkedDate year month day
      | none => .error (.validation
          "Training date must use YYYY-MM-DD (or DD/MM/YYYY) format.") := by
  unfold formatTrainingDate reading ISO_DATE_PATTERN YEAR_FIRST_PATTERN DAY_FIRST_PATTERN
  dsimp only
  cases isoDate digit (trim value).toList with
  | some date => simp only [Option.some_or]
  | none =>
      cases yearFirst digit (trim value).toList with
      | some date => simp only [Option.some_or, Option.none_or]
      | none => simp only [Option.none_or]

/-- The text is a day of the calendar in one of the three spellings. -/
def Names (value : String) (date : CalendarDate) : Prop :=
  reading digit (trim value).toList = some (date.year, date.month, date.day)

theorem Names.of_text (date : CalendarDate) : Names date.text date := by
  unfold Names
  rw [trim_text]
  exact reading_text date

theorem formatTrainingDate_ok_iff {value text : String} :
    formatTrainingDate value = .ok text ↔
      ∃ date, Names value date ∧ 1000 ≤ date.year ∧ date.text = text := by
  unfold Names
  rw [formatTrainingDate_eq]
  cases reading digit (trim value).toList with
  | none => simp
  | some fields =>
      rcases fields with ⟨year, month, day⟩
      rw [checkedDate_ok_iff]
      constructor
      · rintro ⟨date, rfl, rfl, rfl, hlate, rfl⟩
        exact ⟨date, rfl, hlate, rfl⟩
      · rintro ⟨date, hnames, hlate, rfl⟩
        cases hnames
        exact ⟨date, rfl, rfl, rfl, hlate, rfl⟩

section Agreement

variable {decimal : Char → Option Nat}
  (hdecimal : ∀ c : Char, 0x20 ≤ c.toNat ∧ c.toNat ≤ 0x7E → decimal c = digit c)
include hdecimal

theorem worker_formatTrainingDate_ok_iff {value text : String} (h : Printable value) :
    DsspBot.formatTrainingDate decimal value = .ok text ↔
      ∃ date, Names value date ∧ date.text = text := by
  have htrimmed : ∀ c ∈ (trim value).toList, decimal c = digit c := by
    intro c hc
    unfold trim at hc
    rw [String.toList_ofList] at hc
    exact hdecimal c (h c (Words.mem_of_mem_trim hc))
  unfold Names
  rw [worker_formatTrainingDate_eq, strip_of_printable h, reading_congr htrimmed]
  cases reading digit (trim value).toList with
  | none => simp
  | some fields =>
      rcases fields with ⟨year, month, day⟩
      rw [worker_checkedDate_ok_iff]
      constructor
      · rintro ⟨date, rfl, rfl, rfl, rfl⟩
        exact ⟨date, rfl, rfl⟩
      · rintro ⟨date, hnames, rfl⟩
        cases hnames
        exact ⟨date, rfl, rfl, rfl, rfl⟩

/-- The worker leaves a written date as it is. -/
theorem worker_formatTrainingDate_text (date : CalendarDate) :
    DsspBot.formatTrainingDate decimal date.text = .ok date.text :=
  (worker_formatTrainingDate_ok_iff hdecimal (printable_text date)).2 ⟨date, .of_text date, rfl⟩

end Agreement

/-- Both refuse a text, or both make the same date of it, which they leave as it is. -/
def Agree (decimal : Char → Option Nat) (value : String) : Prop :=
  ((∃ e, DsspBot.formatTrainingDate decimal value = .error e) ∧
      ∃ e, formatTrainingDate value = .error e) ∨
    ∃ text, DsspBot.formatTrainingDate decimal value = .ok text ∧
      formatTrainingDate value = .ok text ∧ text.length = 10 ∧
        (∃ date : CalendarDate, date.text = text) ∧
          DsspBot.formatTrainingDate decimal text = .ok text ∧ formatTrainingDate text = .ok text

theorem exists_error_iff {α ε : Type} {result : Except ε α} :
    (∃ e, result = .error e) ↔ ∀ a, result ≠ .ok a := by
  cases result <;> simp

/-- Over printable texts the two sides agree unless the text names a day before the year 1000. -/
theorem normalizers_agree_iff {decimal : Char → Option Nat}
    (hdecimal : ∀ c : Char, 0x20 ≤ c.toNat ∧ c.toNat ≤ 0x7E → decimal c = digit c)
    {value : String} (hprintable : Printable value) :
    Agree decimal value ↔ ¬∃ date, Names value date ∧ date.year < 1000 := by
  have hworker : ∀ text, DsspBot.formatTrainingDate decimal value = .ok text ↔
      ∃ date, Names value date ∧ date.text = text :=
    fun _ => worker_formatTrainingDate_ok_iff hdecimal hprintable
  constructor
  · rintro hagree ⟨date, hnames, hearly⟩
    have hok := (hworker date.text).2 ⟨date, hnames, rfl⟩
    rcases hagree with ⟨hrefused, -⟩ | ⟨text, -, htaken, -⟩
    · exact exists_error_iff.1 hrefused _ hok
    · -- The extension takes a later year only, and the text names one day.
      rcases formatTrainingDate_ok_iff.1 htaken with ⟨date', hnames', hlate, -⟩
      have hsame := hnames.symm.trans hnames'
      simp only [Option.some.injEq, Prod.mk.injEq] at hsame
      omega
  · intro hlate
    by_cases hnamed : ∃ date, Names value date
    · rcases hnamed with ⟨date, hnames⟩
      have hyear : 1000 ≤ date.year := Nat.le_of_not_lt fun hearly => hlate ⟨date, hnames, hearly⟩
      refine Or.inr ⟨date.text, (hworker _).2 ⟨date, hnames, rfl⟩, ?_, length_text date,
        ⟨date, rfl⟩, worker_formatTrainingDate_text hdecimal date, ?_⟩
      · exact formatTrainingDate_ok_iff.2 ⟨date, hnames, hyear, rfl⟩
      · exact formatTrainingDate_ok_iff.2 ⟨date, .of_text date, hyear, rfl⟩
    · refine Or.inl ⟨exists_error_iff.2 ?_, exists_error_iff.2 ?_⟩
      · intro text hok
        rcases (hworker text).1 hok with ⟨date, hnames, -⟩
        exact hnamed ⟨date, hnames⟩
      · intro text hok
        rcases formatTrainingDate_ok_iff.1 hok with ⟨date, hnames, -⟩
        exact hnamed ⟨date, hnames⟩

/-- A day of the year 999 is taken by the worker only. -/
theorem early_day_is_refused_by_one :
    ¬∀ decimal : Char → Option Nat,
      (∀ c : Char, 0x20 ≤ c.toNat ∧ c.toNat ≤ 0x7E → decimal c = digit c) →
        ∀ value, Printable value → Agree decimal value := by
  intro h
  have hworker : DsspBot.formatTrainingDate digit "31/12/0999" = .ok "0999-12-31" := by
    decide +kernel
  have hrefused : formatTrainingDate "31/12/0999" =
      .error (.validation "Training date must be a real calendar date.") := by
    decide +kernel
  rcases h digit (fun _ _ => rfl) "31/12/0999" (by decide +kernel) with
    ⟨⟨e, he⟩, -⟩ | ⟨text, -, htaken, -⟩
  · rw [hworker] at he
    cases he
  · rw [hrefused] at htaken
    cases htaken

theorem plain_day_agrees : Agree digit " 5/1/2026 " := by
  refine (normalizers_agree_iff (fun _ _ => rfl) (by decide +kernel)).2 ?_
  rintro ⟨date, hnames, hearly⟩
  have hread : reading digit (trim " 5/1/2026 ").toList = some (2026, 1, 5) := by decide +kernel
  have hsame := hnames.symm.trans hread
  simp only [Option.some.injEq, Prod.mk.injEq] at hsame
  omega

end Extension

end DsspBot

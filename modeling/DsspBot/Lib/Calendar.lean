import Mathlib.Algebra.GroupWithZero.Nat
import Mathlib.Data.Nat.Find
import Mathlib.Order.Monotone.Basic
import Mathlib.Tactic.SplitIfs

/-!
# Calendar — days of the Gregorian calendar

Days are counted from the first day of the year 0, months from 0, and the days of a month from 1.
This file gives

* which block of a line that is cut into blocks a place lies in,
* the number of a day, and the year, month and date of a number,
* when counting past the end of a month leads to another day than the one that was named.
-/

namespace Calendar

/-! ## Blocks -/

/-- The last block that starts at a place or before it. -/
def locate (start : Nat → Nat) (bound place : Nat) : Nat :=
  Nat.findGreatest (fun i => start i ≤ place) bound

theorem locate_eq_iff {start : Nat → Nat} {bound place i : Nat} (hmono : Monotone start)
    (hzero : start 0 ≤ place) (hbound : ∀ k, start k ≤ place → k ≤ bound) :
    locate start bound place = i ↔ start i ≤ place ∧ place < start (i + 1) := by
  constructor
  · rintro rfl
    refine ⟨Nat.findGreatest_spec (P := fun k => start k ≤ place) (Nat.zero_le bound) hzero, ?_⟩
    by_contra hlate
    have hnext : start (locate start bound place + 1) ≤ place := Nat.le_of_not_lt hlate
    exact Nat.findGreatest_is_greatest (P := fun k => start k ≤ place)
      (Nat.lt_succ_self (locate start bound place)) (hbound _ hnext) hnext
  · rintro ⟨hfrom, hto⟩
    refine Nat.findGreatest_eq_iff.2 ⟨hbound i hfrom, fun _ => hfrom, ?_⟩
    intro k hk _ hle
    have hlater : start (i + 1) ≤ start k := hmono hk
    omega

/-! ## Years and months -/

def isLeap (year : Nat) : Bool :=
  decide (year % 4 = 0 ∧ (year % 100 ≠ 0 ∨ year % 400 = 0))

def daysInYear (year : Nat) : Nat :=
  if isLeap year then 366 else 365

/-- The days before a year. -/
def dayFromYear (year : Nat) : Nat :=
  365 * year + (year + 3) / 4 - (year + 99) / 100 + (year + 399) / 400

def monthLengths (year : Nat) : List Nat :=
  [31, if isLeap year then 29 else 28, 31, 30, 31, 30, 31, 31, 30, 31, 30, 31]

/-- The days of a year before a month. -/
def dayFromMonth (year month : Nat) : Nat :=
  ((monthLengths year).take month).sum

theorem dayFromYear_succ (year : Nat) :
    dayFromYear (year + 1) = dayFromYear year + daysInYear year := by
  have hfour : (year + 1 + 3) / 4 = (year + 3) / 4 + if year % 4 = 0 then 1 else 0 := by
    split <;> omega
  have hhundred : (year + 1 + 99) / 100 = (year + 99) / 100 + if year % 100 = 0 then 1 else 0 := by
    split <;> omega
  have hcycle : (year + 1 + 399) / 400 = (year + 399) / 400 + if year % 400 = 0 then 1 else 0 := by
    split <;> omega
  have hless : (year + 99) / 100 ≤ 365 * year + (year + 3) / 4 := by omega
  have hrule : year % 400 = 0 → year % 100 = 0 := by omega
  have hfourth : year % 100 = 0 → year % 4 = 0 := by omega
  unfold dayFromYear daysInYear isLeap
  simp only [hfour, hhundred, hcycle, decide_eq_true_eq]
  generalize (year + 99) / 100 = hundreds at hless
  generalize (year + 3) / 4 = fours at hless
  split_ifs <;> omega

theorem dayFromYear_mono : Monotone dayFromYear := by
  apply monotone_nat_of_le_succ
  intro year
  rw [dayFromYear_succ]
  exact Nat.le_add_right _ _

theorem le_of_dayFromYear_le {year day : Nat} (h : dayFromYear year ≤ day) : year ≤ day / 365 := by
  unfold dayFromYear at h
  omega

@[simp] theorem length_monthLengths (year : Nat) : (monthLengths year).length = 12 := rfl

theorem dayFromMonth_succ (year : Nat) {month : Nat} (h : month < 12) :
    dayFromMonth year (month + 1) = dayFromMonth year month + (monthLengths year)[month] := by
  unfold dayFromMonth
  have hlt : month < (monthLengths year).length := by simpa using h
  rw [List.take_succ_eq_append_getElem hlt, List.sum_append_nat, List.sum_singleton]
  rfl

theorem dayFromMonth_mono (year : Nat) : Monotone (dayFromMonth year) := by
  apply monotone_nat_of_le_succ
  intro month
  by_cases h : month < 12
  · rw [dayFromMonth_succ year h]
    exact Nat.le_add_right _ _
  · unfold dayFromMonth
    rw [List.take_of_length_le (by simpa using h), List.take_of_length_le (by simp; omega)]

/-- The months make up the year. -/
theorem dayFromMonth_twelve (year : Nat) : dayFromMonth year 12 = daysInYear year := by
  unfold dayFromMonth monthLengths daysInYear
  split <;> rfl

/-! ## The number of a day -/

/-- The day with this date in this month, counted past the ends of the month if need be. -/
def dayOf (year month date : Nat) : Nat :=
  dayFromYear year + dayFromMonth year month + date - 1

def yearOf (day : Nat) : Nat :=
  locate dayFromYear (day / 365) day

def monthOf (day : Nat) : Nat :=
  locate (dayFromMonth (yearOf day)) 11 (day - dayFromYear (yearOf day))

def dateOf (day : Nat) : Nat :=
  day - dayFromYear (yearOf day) - dayFromMonth (yearOf day) (monthOf day) + 1

theorem yearOf_eq_iff {day year : Nat} :
    yearOf day = year ↔ dayFromYear year ≤ day ∧ day < dayFromYear (year + 1) :=
  locate_eq_iff dayFromYear_mono (Nat.zero_le day) fun _ => le_of_dayFromYear_le

theorem monthOf_eq_iff {day month : Nat} :
    monthOf day = month ↔
      dayFromMonth (yearOf day) month ≤ day - dayFromYear (yearOf day) ∧
        day - dayFromYear (yearOf day) < dayFromMonth (yearOf day) (month + 1) := by
  apply locate_eq_iff (dayFromMonth_mono (yearOf day)) (Nat.zero_le _)
  intro k hk
  -- A place in the year lies before its end, which is where a thirteenth month would start.
  by_contra hlate
  have hyear : dayFromYear (yearOf day) ≤ day ∧ day < dayFromYear (yearOf day + 1) :=
    yearOf_eq_iff.1 rfl
  rw [dayFromYear_succ] at hyear
  have hend : dayFromMonth (yearOf day) 12 ≤ dayFromMonth (yearOf day) k :=
    dayFromMonth_mono (yearOf day) (by omega)
  rw [dayFromMonth_twelve] at hend
  omega

/-- A named day keeps its name exactly if the month has such a date. -/
theorem fields_dayOf_iff (year date : Nat) {month : Nat} (h : month < 12) :
    (yearOf (dayOf year month date) = year ∧ monthOf (dayOf year month date) = month ∧
        dateOf (dayOf year month date) = date) ↔
      1 ≤ date ∧ date ≤ (monthLengths year)[month] := by
  have hmonth := dayFromMonth_succ year h
  have hyear : dayFromMonth year (month + 1) ≤ daysInYear year := by
    rw [← dayFromMonth_twelve]
    exact dayFromMonth_mono year (by omega)
  have hnext := dayFromYear_succ year
  constructor
  · rintro ⟨hy, hm, hd⟩
    have hbounds := monthOf_eq_iff.1 hm
    rw [hy] at hbounds
    have hfrom := (yearOf_eq_iff.1 hy).1
    unfold dateOf at hd
    rw [hy, hm] at hd
    omega
  · rintro ⟨hfrom, hto⟩
    have hday : dayOf year month date =
        dayFromYear year + dayFromMonth year month + (date - 1) := by
      unfold dayOf
      omega
    have hy : yearOf (dayOf year month date) = year := yearOf_eq_iff.2 (by omega)
    have hm : monthOf (dayOf year month date) = month := by
      rw [monthOf_eq_iff, hy]
      omega
    refine ⟨hy, hm, ?_⟩
    unfold dateOf
    rw [hy, hm]
    omega

end Calendar

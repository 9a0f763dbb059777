import Mathlib.Algebra.Order.Floor.Ring
import Mathlib.Data.Int.Log
import Mathlib.Data.List.TakeWhile
import Mathlib.Data.Rat.Floor
import Mathlib.Tactic.Linarith

/-!
# Binary64 — numbers of double precision, and decimal texts

A finite number of double precision is a rational with 53 binary digits at most. This file gives

* rounding a rational to the nearest such number, ties to even,
* which integers are left as they are, and that rounding stays between integers,
* the value of a decimal text, and that of a text of digits.
-/

namespace Binary64

/-! ## Rounding to an integer -/

/-- Half-way between two integers, the even one is taken. -/
def nearest (x : ℚ) : ℤ :=
  let floor := ⌊x⌋
  if x - floor < 1 / 2 then floor
  else if 1 / 2 < x - floor then floor + 1
  else if floor % 2 = 0 then floor
  else floor + 1

theorem nearest_cases (x : ℚ) : nearest x = ⌊x⌋ ∨ nearest x = ⌊x⌋ + 1 ∧ (⌊x⌋ : ℚ) < x := by
  unfold nearest
  dsimp only
  split
  · exact Or.inl rfl
  · next hfar =>
      have hlt : (⌊x⌋ : ℚ) < x := by linarith
      split
      · exact Or.inr ⟨rfl, hlt⟩
      · split
        · exact Or.inl rfl
        · exact Or.inr ⟨rfl, hlt⟩

theorem le_nearest {n : ℤ} {x : ℚ} (h : (n : ℚ) ≤ x) : n ≤ nearest x := by
  have hfloor : n ≤ ⌊x⌋ := Int.le_floor.2 h
  rcases nearest_cases x with heq | ⟨heq, -⟩ <;> omega

theorem nearest_le {n : ℤ} {x : ℚ} (h : x ≤ n) : nearest x ≤ n := by
  rcases nearest_cases x with heq | ⟨heq, hlt⟩
  · rw [heq]
    exact Int.floor_le_iff.2 (h.trans_lt (by linarith))
  · have hstrict : ((⌊x⌋ : ℤ) : ℚ) < n := hlt.trans_le h
    have hfloor : ⌊x⌋ < n := by exact_mod_cast hstrict
    omega

/-! ## Rounding to double precision -/

/-- The exponent of the last binary digit: the smallest one is that of the subnormal numbers. -/
def exponent (x : ℚ) : ℤ :=
  max (Int.log 2 |x| - 52) (-1074)

def round (x : ℚ) : ℚ :=
  nearest (x / 2 ^ exponent x) * 2 ^ exponent x

/-- Nothing stands for what is too large to be finite. -/
def ofRat (x : ℚ) : Option ℚ :=
  if |round x| < 2 ^ 1024 then some (round x) else none

/-- Below `2 ^ 53` no integer is lost. -/
theorem exponent_nonpos {x : ℚ} (h : |x| < 2 ^ 53) : exponent x ≤ 0 := by
  unfold exponent
  refine max_le ?_ (by decide)
  by_cases hzero : |x| = 0
  · rw [hzero, Int.log_zero_right]
    decide
  · have hpos : 0 < |x| := lt_of_le_of_ne (abs_nonneg x) (Ne.symm hzero)
    have hbound : |x| < ((2 : ℕ) : ℚ) ^ (53 : ℤ) := by exact_mod_cast h
    have hlog : Int.log 2 |x| < 53 := (Int.lt_zpow_iff_log_lt (by decide) hpos).1 hbound
    omega

section Bounds

variable {n : ℤ} {x : ℚ} (he : exponent x ≤ 0)
include he

/-- In units of the last digit an integer is one still. -/
theorem exists_units (n : ℤ) : ∃ m : ℤ, (n : ℚ) / 2 ^ exponent x = m := by
  refine ⟨n * 2 ^ (-exponent x).toNat, ?_⟩
  have hunits : (2 : ℚ) ^ exponent x = ((2 : ℚ) ^ (-exponent x).toNat)⁻¹ := by
    rw [← zpow_natCast, Int.toNat_of_nonneg (by omega), ← zpow_neg, neg_neg]
  rw [hunits, div_inv_eq_mul]
  push_cast
  rfl

theorem le_round (h : (n : ℚ) ≤ x) : (n : ℚ) ≤ round x := by
  have hpos : (0 : ℚ) < 2 ^ exponent x := zpow_pos (by decide) _
  rcases exists_units he n with ⟨m, hm⟩
  have hle : (m : ℚ) ≤ x / 2 ^ exponent x := by
    rw [← hm]
    exact div_le_div_of_nonneg_right h hpos.le
  calc
    (n : ℚ) = m * 2 ^ exponent x := by rw [← hm, div_mul_cancel₀ _ hpos.ne']
    _ ≤ round x := mul_le_mul_of_nonneg_right (by exact_mod_cast le_nearest hle) hpos.le

theorem round_le (h : x ≤ n) : round x ≤ n := by
  have hpos : (0 : ℚ) < 2 ^ exponent x := zpow_pos (by decide) _
  rcases exists_units he n with ⟨m, hm⟩
  have hle : x / 2 ^ exponent x ≤ m := by
    rw [← hm]
    exact div_le_div_of_nonneg_right h hpos.le
  calc
    round x ≤ m * 2 ^ exponent x :=
      mul_le_mul_of_nonneg_right (by exact_mod_cast nearest_le hle) hpos.le
    _ = n := by rw [← hm, div_mul_cancel₀ _ hpos.ne']

end Bounds

theorem round_intCast {n : ℤ} (h : |(n : ℚ)| < 2 ^ 53) : round n = n :=
  le_antisymm (round_le (exponent_nonpos h) le_rfl) (le_round (exponent_nonpos h) le_rfl)

theorem ofRat_of_small {x : ℚ} (h : |x| < 2 ^ 53) : ofRat x = some (round x) := by
  have he := exponent_nonpos h
  have hbounds := abs_lt.1 h
  have hlow : ((-2 ^ 53 : ℤ) : ℚ) ≤ round x := le_round he (by push_cast; linarith)
  have hhigh : round x ≤ ((2 ^ 53 : ℤ) : ℚ) := round_le he (by push_cast; linarith)
  push_cast at hlow hhigh
  have hlarge : (2 : ℚ) ^ 53 < 2 ^ 1024 := pow_lt_pow_right₀ one_lt_two (by decide)
  exact if_pos ((abs_le.2 ⟨hlow, hhigh⟩).trans_lt hlarge)

theorem ofRat_natCast {n : ℕ} (h : n < 2 ^ 53) : ofRat n = some (n : ℚ) := by
  have hsmall : |((n : ℤ) : ℚ)| < 2 ^ 53 := by
    rw [Int.cast_natCast, abs_of_nonneg (Nat.cast_nonneg n)]
    exact_mod_cast h
  have hround := round_intCast hsmall
  have hsome := ofRat_of_small hsmall
  rw [Int.cast_natCast] at hround hsome
  rw [hsome, hround]

/-! ## Decimal texts -/

def digits (cs : List Char) : ℕ :=
  Nat.ofDigitChars 10 cs 0

def isExponent (c : Char) : Bool :=
  c == 'e' || c == 'E'

/-- Digits that may have a sign. -/
def integer : List Char → ℤ
  | '-' :: cs => -digits cs
  | '+' :: cs => digits cs
  | cs => digits cs

/-- Digits that may have a sign, a fraction and an exponent. -/
def decimal (text : String) : ℚ :=
  let significand := text.toList.takeWhile fun c => !isExponent c
  let scale := (text.toList.dropWhile fun c => !isExponent c).drop 1
  let whole := significand.takeWhile (· ≠ '.')
  let fraction := (significand.dropWhile (· ≠ '.')).drop 1
  integer (whole ++ fraction) * 10 ^ (integer scale - fraction.length)

theorem integer_of_digits {cs : List Char} (h : cs.all Char.isDigit = true) :
    integer cs = digits cs := by
  unfold integer
  split
  · simp at h
  · simp at h
  · rfl

theorem decimal_natCast (n : ℕ) : decimal n.repr = n := by
  have hdigits : ∀ c ∈ n.repr.toList, c.isDigit = true := by
    intro c hc
    rw [Nat.toList_repr] at hc
    exact Nat.isDigit_of_mem_toDigits (by decide) (by decide) hc
  have hplain : ∀ c ∈ n.repr.toList, (!isExponent c) = true ∧ (c ≠ '.') := by
    intro c hc
    have hdigit := hdigits c hc
    refine ⟨?_, ?_⟩
    · simp only [Bool.not_eq_true', isExponent, Bool.or_eq_false_iff, beq_eq_false_iff_ne]
      exact ⟨fun heq => by simp [heq] at hdigit, fun heq => by simp [heq] at hdigit⟩
    · exact fun heq => by simp [heq] at hdigit
  have hvalue : digits n.repr.toList = n := by
    unfold digits
    rw [Nat.toList_repr]
    exact Nat.ofDigitChars_toDigits (by decide) (by decide)
  have hsignificand : n.repr.toList.takeWhile (fun c => !isExponent c) = n.repr.toList :=
    List.takeWhile_eq_self_iff.2 fun c hc => (hplain c hc).1
  have hscale : n.repr.toList.dropWhile (fun c => !isExponent c) = [] :=
    List.dropWhile_eq_nil_iff.2 fun c hc => (hplain c hc).1
  have hwhole : n.repr.toList.takeWhile (fun c => decide (c ≠ '.')) = n.repr.toList :=
    List.takeWhile_eq_self_iff.2 fun c hc => by simpa using (hplain c hc).2
  have hfraction : n.repr.toList.dropWhile (fun c => decide (c ≠ '.')) = [] :=
    List.dropWhile_eq_nil_iff.2 fun c hc => by simpa using (hplain c hc).2
  have hinteger : integer n.repr.toList = n := by
    rw [integer_of_digits (List.all_eq_true.2 hdigits), hvalue]
  unfold decimal
  simp only [hsignificand, hscale, hwhole, hfraction, List.drop_nil, List.append_nil, hinteger]
  simp [integer, digits]

end Binary64

import Mathlib.Algebra.Order.Field.Rat
import Mathlib.Tactic.Positivity
import Mathlib.Tactic.Ring
import QueryPolicy.Number.Binary64

/-!
# The values of numbers

A pattern stands for a rational number, for an infinity or for nothing. Two patterns are equal as
numbers exactly when both stand for something, and for the same.
-/

namespace QueryPolicy.Binary64

/-- What a pattern can stand for. -/
inductive Denoted
  | finite (q : ℚ)
  | infinite (negative : Bool)

/-- What a pattern stands for; a not-a-number stands for nothing. -/
def value? (x : Binary64) : Option Denoted :=
  if x.isNaN then none
  else if x.isInfinite then some (.infinite x.isNegative)
  else some (.finite ((if x.isNegative then -1 else 1) * (x.numerator / x.denominator)))

/-! ## Magnitudes -/

theorem eq_iff {x y : Binary64} :
    x = y ↔ x.magnitude = y.magnitude ∧ x.isNegative = y.isNegative := by
  constructor
  · rintro rfl
    exact ⟨rfl, rfl⟩
  · obtain ⟨x⟩ := x
    obtain ⟨y⟩ := y
    rintro ⟨hmagnitude, hsign⟩
    have hx := x.toNat_lt
    have hy := y.toNat_lt
    simp only [magnitude, isNegative, decide_eq_decide, Nat.pow_eq] at hmagnitude hsign
    congr
    rw [← UInt64.toNat_inj]
    omega

/-- The absolute value of a finite number, counted in units of the least positive one. -/
def units (x : Binary64) : ℕ := x.significand * 2 ^ (max x.exponentField 1 - 1)

theorem fraction_lt (x : Binary64) : x.magnitude % Nat.pow 2 52 < 2 ^ 52 :=
  Nat.mod_lt _ (by decide)

theorem units_lt (x : Binary64) : x.units < 2 ^ 52 * 2 ^ x.exponentField := by
  have hfraction := x.fraction_lt
  rw [units, significand]
  by_cases h : x.exponentField = 0
  · simpa [h] using hfraction
  · obtain ⟨k, hk⟩ := Nat.exists_eq_succ_of_ne_zero h
    have hpow : 2 ^ 52 * 2 ^ (k + 1) = (2 * 2 ^ 52) * 2 ^ k := by ring
    rw [hk, if_neg k.succ_ne_zero, Nat.succ_eq_add_one, max_eq_left (by omega), hpow]
    exact Nat.mul_lt_mul_of_pos_right (by rw [Nat.pow_eq]; omega) (Nat.two_pow_pos k)

theorem le_units {x : Binary64} (h : x.exponentField ≠ 0) :
    2 ^ 52 * 2 ^ (x.exponentField - 1) ≤ x.units := by
  rw [units, significand, if_neg h, max_eq_left (by omega)]
  exact Nat.mul_le_mul_right _ (Nat.le_add_left _ _)

/-- A greater magnitude counts more units, within one power of two and across them. -/
theorem units_lt_of_lt {x y : Binary64} (h : x.magnitude < y.magnitude) : x.units < y.units := by
  have hle : x.exponentField ≤ y.exponentField := Nat.div_le_div_right h.le
  -- A power of two lies between numbers of different exponents; else the significands decide.
  rcases hle.lt_or_eq with hlt | heq
  · calc x.units < 2 ^ 52 * 2 ^ x.exponentField := x.units_lt
      _ ≤ 2 ^ 52 * 2 ^ (y.exponentField - 1) :=
        Nat.mul_le_mul_left _ (Nat.pow_le_pow_right (by decide) (by omega))
      _ ≤ y.units := le_units (by omega)
  · have hsignificand : x.significand < y.significand := by
      rw [significand, significand, heq]
      refine Nat.add_lt_add_right ?_ _
      rw [exponentField, exponentField] at heq
      rw [Nat.pow_eq] at heq ⊢
      omega
    rw [units, units, heq]
    exact Nat.mul_lt_mul_of_pos_right hsignificand (Nat.two_pow_pos _)

theorem units_eq_iff {x y : Binary64} : x.units = y.units ↔ x.magnitude = y.magnitude := by
  constructor
  · intro h
    rcases Nat.lt_trichotomy x.magnitude y.magnitude with hlt | heq | hgt
    · exact absurd h (units_lt_of_lt hlt).ne
    · exact heq
    · exact absurd h (units_lt_of_lt hgt).ne'
  · intro h
    rw [units, units, significand, significand, exponentField, exponentField, h]

theorem units_eq_zero_iff {x : Binary64} : x.units = 0 ↔ x.isZero = true := by
  have hzero : (⟨0⟩ : Binary64).units = 0 := by decide
  rw [← hzero, units_eq_iff, isZero, decide_eq_true_eq]
  rfl

theorem numerator_mul (x : Binary64) : x.numerator * 2 ^ 1074 = x.units * x.denominator := by
  have hexponent : x.scale.toNat + 1074 = (max x.exponentField 1 - 1) + (-x.scale).toNat := by
    rw [scale]
    omega
  rw [numerator, denominator, units, Nat.pow_eq, Nat.pow_eq, mul_assoc, mul_assoc, ← pow_add,
    ← pow_add, hexponent]

/-- The value of a finite number as a whole number of units. -/
def signedUnits (x : Binary64) : ℤ := if x.isNegative then -x.units else x.units

theorem signedUnits_eq_iff {x y : Binary64} :
    x.signedUnits = y.signedUnits ↔ x = y ∨ (x.isZero = true ∧ y.isZero = true) := by
  rw [eq_iff, ← units_eq_iff, ← units_eq_zero_iff, ← units_eq_zero_iff, signedUnits, signedUnits]
  cases x.isNegative <;> cases y.isNegative <;> simp <;> omega

/-! ## Values -/

theorem value?_of_finite {x : Binary64} (hnan : x.isNaN = false) (hinf : x.isInfinite = false) :
    x.value? = some (.finite (x.signedUnits / 2 ^ 1074)) := by
  have hden : (x.denominator : ℚ) ≠ 0 := by
    rw [denominator, Nat.pow_eq]
    positivity
  have habs : (x.numerator / x.denominator : ℚ) = x.units / 2 ^ 1074 := by
    rw [div_eq_div_iff hden (by positivity)]
    simpa only [Nat.cast_mul, Nat.cast_pow, Nat.cast_ofNat] using
      congrArg (Nat.cast (R := ℚ)) x.numerator_mul
  rw [value?, hnan, hinf, habs, signedUnits]
  cases x.isNegative <;> simp [neg_div]

theorem value?_of_infinite {x : Binary64} (hinf : x.isInfinite = true) :
    x.value? = some (.infinite x.isNegative) := by
  have hnan : x.isNaN = false := by
    rw [isInfinite, decide_eq_true_eq] at hinf
    rw [isNaN, hinf, decide_eq_false_iff_not]
    exact Nat.lt_irrefl _
  rw [value?, hnan, hinf]
  rfl

theorem value?_of_isNaN {x : Binary64} (hnan : x.isNaN = true) : x.value? = none := by
  rw [value?, hnan]
  rfl

theorem not_isZero_of_isInfinite {x : Binary64} (hinf : x.isInfinite = true) :
    x.isZero = false := by
  rw [isInfinite, decide_eq_true_eq] at hinf
  rw [isZero, hinf]
  rfl

theorem eq_iff_of_isInfinite {x y : Binary64} (hx : x.isInfinite = true)
    (hy : y.isInfinite = true) : x = y ↔ x.isNegative = y.isNegative := by
  rw [isInfinite, decide_eq_true_eq] at hx hy
  rw [eq_iff, hx, hy, eq_self, true_and]

theorem finite_eq_finite_iff {m n : ℤ} :
    Denoted.finite (m / 2 ^ 1074) = .finite (n / 2 ^ 1074) ↔ m = n := by
  rw [Denoted.finite.injEq, div_left_inj' (by positivity), Int.cast_inj]

theorem ne_of_isInfinite {x y : Binary64} (hx : x.isInfinite = true) (hy : y.isInfinite = false) :
    x ≠ y := by
  rintro rfl
  rw [hx] at hy
  cases hy

/-- Among patterns that stand for something, only the two zeros share what they stand for. -/
theorem value?_eq_iff {x y : Binary64} (hx : x.isNaN = false) (hy : y.isNaN = false) :
    x.value? = y.value? ↔ x = y ∨ (x.isZero = true ∧ y.isZero = true) := by
  cases hxi : x.isInfinite with
  | true =>
      have hzero := not_isZero_of_isInfinite hxi
      cases hyi : y.isInfinite with
      | true =>
          rw [value?_of_infinite hxi, value?_of_infinite hyi, eq_iff_of_isInfinite hxi hyi]
          simp [hzero]
      | false => simp [value?_of_infinite hxi, value?_of_finite hy hyi, hzero,
          ne_of_isInfinite hxi hyi]
  | false =>
      cases hyi : y.isInfinite with
      | true => simp [value?_of_finite hx hxi, value?_of_infinite hyi,
          not_isZero_of_isInfinite hyi, (ne_of_isInfinite hyi hxi).symm]
      | false =>
          rw [value?_of_finite hx hxi, value?_of_finite hy hyi, Option.some_inj,
            finite_eq_finite_iff, signedUnits_eq_iff]

theorem isSome_value? {x : Binary64} (hx : x.isNaN = false) : x.value?.isSome := by
  rw [value?, hx]
  cases x.isInfinite <;> rfl

/-- Two patterns are equal as numbers exactly when they stand for the same. -/
theorem valueEq_iff_value? (x y : Binary64) :
    x.valueEq y = true ↔ ∃ a, x.value? = some a ∧ y.value? = some a := by
  cases hx : x.isNaN with
  | true => simp [valueEq, hx, value?_of_isNaN hx]
  | false =>
      cases hy : y.isNaN with
      | true => simp [valueEq, hy, value?_of_isNaN hy]
      | false =>
          have heq : x.valueEq y = true ↔ x = y ∨ (x.isZero = true ∧ y.isZero = true) := by
            simp [valueEq, hx, hy]
          rw [heq, ← value?_eq_iff hx hy]
          obtain ⟨a, ha⟩ := Option.isSome_iff_exists.1 (isSome_value? hx)
          constructor
          · intro h
            exact ⟨a, ha, h ▸ ha⟩
          · rintro ⟨b, hb, hb'⟩
            rw [hb, hb']

end QueryPolicy.Binary64

import LineControl.Number.Basic
import Mathlib.Algebra.Order.Field.Power
import Mathlib.Algebra.Order.Field.Rat
import Mathlib.Tactic.Positivity

/-!
# Numbers by their values

A count or a time is compared with the passes or the changes counted so far, which are natural
numbers. For a double-precision number both sides are scaled up by a power of two, so that only
natural numbers are compared. This file says that the outcome is that of the values:
`Number.toRat?` is the value as a rational number, and `isNat_iff` and `isAbove_iff` are the two
comparisons.

Infinities and what is no number have no value. They are equal to no natural number, and only the
positive infinity exceeds one.

The rational numbers are here for the statements alone. Nothing that runs uses them, and the two
comparisons above are all that the rest of the theory knows about double precision: a statement
about counts says "is the natural number `k`" or "exceeds `k`" and never mentions a mantissa.
-/

set_option autoImplicit false

namespace LineControl

namespace Binary64

/-- The value with the given sign, mantissa and exponent. -/
def signed (negative : Bool) (m : Nat) (e : Int) : ℚ :=
  if negative then -(m * 2 ^ e) else m * 2 ^ e

/-- The value of a finite number. -/
def toRat? : Binary64 → Option ℚ
  | .nan | .infinite _ => none
  | .finite negative m e => some (signed negative m e)

/-! ## 1. Scaling up -/

/-- A power of two is a quotient of two natural powers, one of which is one. -/
theorem two_zpow_eq (e : Int) : (2 : ℚ) ^ e = 2 ^ e.toNat / 2 ^ (-e).toNat := by
  conv_lhs => rw [← Int.toNat_sub_toNat_neg e]
  rw [zpow_sub₀ two_ne_zero, zpow_natCast, zpow_natCast]

/-- Scaled up on both sides, a natural number and a size compare as they do. -/
theorem scaleUp_lt_iff (k m : Nat) (e : Int) :
    scaleUp 2 k (-e) < scaleUp 2 m e ↔ (k : ℚ) < m * 2 ^ e := by
  have hpos : (0 : ℚ) < 2 ^ (-e).toNat := by positivity
  rw [two_zpow_eq, ← mul_div_assoc, lt_div_iff₀ hpos, scaleUp, scaleUp, ← Nat.cast_lt (α := ℚ)]
  simp

theorem scaleUp_eq_iff (k m : Nat) (e : Int) :
    scaleUp 2 k (-e) = scaleUp 2 m e ↔ (k : ℚ) = m * 2 ^ e := by
  have hne : (2 : ℚ) ^ (-e).toNat ≠ 0 := by positivity
  rw [two_zpow_eq, ← mul_div_assoc, eq_div_iff hne, scaleUp, scaleUp, ← Nat.cast_inj (R := ℚ)]
  simp

/-! ## 2. The comparisons -/

/-- Comparing mantissas compares values, and a number with a minus exceeds nothing. -/
theorem isAbove_finite_iff (k : Nat) (negative : Bool) (m : Nat) (e : Int) :
    isAbove k (.finite negative m e) = true ↔ (k : ℚ) < signed negative m e := by
  cases negative with
  | false => simp [isAbove, signed, scaleUp_lt_iff]
  | true =>
    -- no natural number lies below one that is not positive
    have hle : -(m * 2 ^ e : ℚ) ≤ k := by
      have hsize : (0 : ℚ) ≤ m * 2 ^ e := by positivity
      exact (neg_nonpos.mpr hsize).trans k.cast_nonneg
    simpa [isAbove, signed] using hle

/-- Zero has two signs, so a number with a minus may be a natural number after all. -/
theorem isNat_finite_iff (k : Nat) (negative : Bool) (m : Nat) (e : Int) :
    isNat k (.finite negative m e) = true ↔ signed negative m e = k := by
  rw [isNat, Bool.and_eq_true, beq_iff_eq, scaleUp_eq_iff]
  cases negative with
  | false => simp [signed, eq_comm]
  | true =>
    have hpower : (2 : ℚ) ^ e ≠ 0 := by positivity
    have hsize : (0 : ℚ) ≤ m * 2 ^ e := by positivity
    simp only [signed, if_true, Bool.not_true, Bool.or_false, beq_iff_eq]
    constructor
    · rintro ⟨hk, rfl⟩
      simp [hk]
    · intro hk
      -- one side is not negative and the other not positive, so both are zero
      have hzero : (m * 2 ^ e : ℚ) = 0 :=
        le_antisymm (neg_nonneg.mp (hk ▸ k.cast_nonneg)) hsize
      refine ⟨by rw [← hk, hzero, neg_zero], ?_⟩
      simpa [hpower] using hzero

end Binary64

namespace Number

/-- The value of the number, if it is finite. -/
def toRat? : Number → Option ℚ
  | .int n => some n
  | .real x => x.toRat?

/-- The natural number lies below the number. -/
def Exceeds (v : Number) (k : Nat) : Prop :=
  v = .real (.infinite false) ∨ ∃ value, v.toRat? = some value ∧ (k : ℚ) < value

/-- Whether a number exceeds a count is a question about its value. -/
theorem isAbove_iff (k : Nat) (v : Number) : v.isAbove k = true ↔ v.Exceeds k := by
  cases v with
  | int n =>
    have hcast : (k : ℚ) < (n : ℚ) ↔ (k : Int) < n := by exact_mod_cast Iff.rfl
    simp [isAbove, Exceeds, toRat?, hcast]
  | real x =>
    cases x with
    | nan => simp [isAbove, Binary64.isAbove, Exceeds, toRat?, Binary64.toRat?]
    | infinite negative => simp [isAbove, Binary64.isAbove, Exceeds, toRat?, Binary64.toRat?]
    | finite negative m e =>
      simp [isAbove, Binary64.isAbove_finite_iff, Exceeds, toRat?, Binary64.toRat?]

instance (v : Number) : DecidablePred v.Exceeds :=
  fun k => decidable_of_iff _ (isAbove_iff k v)

/-- Whether a number is a count is a question about its value: `2.0` is the number two. -/
theorem isNat_iff (k : Nat) (v : Number) : v.isNat k = true ↔ v.toRat? = some (k : ℚ) := by
  cases v with
  | int n =>
    have hcast : (n : ℚ) = (k : ℚ) ↔ n = (k : Int) := by exact_mod_cast Iff.rfl
    simp [isNat, toRat?, hcast]
  | real x =>
    cases x with
    | nan => simp [isNat, Binary64.isNat, toRat?, Binary64.toRat?]
    | infinite negative => simp [isNat, Binary64.isNat, toRat?, Binary64.toRat?]
    | finite negative m e =>
      simp [isNat, Binary64.isNat_finite_iff, toRat?, Binary64.toRat?]

end Number

end LineControl

/-!
# Double-precision numbers

The numbers are kept as exact values. A finite number is a sign, a mantissa and a power of two;
arithmetic on it is arithmetic on natural numbers, so that rounding and comparison are exact.
-/

set_option autoImplicit false

namespace LineControl

/-- A double-precision number. `finite negative m e` has the size `m * 2 ^ e`; the numbers that
`Binary64.ofRatio` builds have `m < 2 ^ 53` and `-1074 ≤ e ≤ 971`. -/
inductive Binary64 where
  | nan
  | infinite (negative : Bool)
  | finite (negative : Bool) (mantissa : Nat) (exponent : Int)
deriving DecidableEq

namespace Binary64

/-- The bound of the mantissas: `2 ^ 53`. -/
def mantissaBound : Nat := 0x20000000000000

/-- The least mantissa of a number above the smallest ones: `2 ^ 52`. -/
def leastMantissa : Nat := 0x10000000000000

/-- The exponent of the smallest numbers. -/
def minExponent : Int := -1074

/-- The exponent of the largest numbers. -/
def maxExponent : Int := 971

/-- The number `n * base ^ e`, or `n` itself if `e` is negative. To multiply a quotient by a power,
its numerator is scaled up by `e` and its denominator by `-e`. -/
def scaleUp (base n : Nat) (e : Int) : Nat :=
  n * Nat.pow base e.toNat

/-- The quotient of two natural numbers, rounded to the nearest whole number; a half goes to the
even neighbour. -/
def roundQuotient (num den : Nat) : Nat :=
  let q := num / den
  let twice := 2 * (num % den)
  if twice < den then q
  else if den < twice then q + 1
  else q + q % 2

/-- The largest `k` with `2 ^ k ≤ num / den`, for positive numbers. -/
def floorLog2 (num den : Nat) : Int :=
  let k := (num.log2 : Int) - den.log2
  if scaleUp 2 den k ≤ scaleUp 2 num (-k) then k else k - 1

/-- The double-precision number nearest to `num / den`; of two that are equally near, the one with
the even mantissa. A quotient too large becomes infinite. -/
def ofRatio (negative : Bool) (num den : Nat) : Binary64 :=
  if num = 0 then .finite negative 0 minExponent
  else
    let e := max (floorLog2 num den - 52) minExponent
    let m := roundQuotient (scaleUp 2 num (-e)) (scaleUp 2 den e)
    let (m, e) := if m = mantissaBound then (leastMantissa, e + 1) else (m, e)
    if e > maxExponent then .infinite negative else .finite negative m e

/-- The double-precision number nearest to `m * 10 ^ e`. Since ten is more than eight, the result is
certain for large powers, and they are not computed. -/
def ofDecimal (negative : Bool) (m : Nat) (e : Int) : Binary64 :=
  if m = 0 then .finite negative 0 minExponent
  else if 0 ≤ e ∧ 1024 ≤ m.log2 + 3 * e then .infinite negative
  else if e ≤ 0 ∧ m.log2 + 1 + 3 * e ≤ -1075 then .finite negative 0 minExponent
  else ofRatio negative (scaleUp 10 m e) (scaleUp 10 1 (-e))

instance : OfScientific Binary64 where
  ofScientific m down e := ofDecimal false m (if down then -(e : Int) else e)

/-- Whether the natural number `k` lies below the number. -/
def isAbove (k : Nat) : Binary64 → Bool
  | .nan => false
  | .infinite negative => !negative
  | .finite true _ _ => false
  | .finite false m e => scaleUp 2 k (-e) < scaleUp 2 m e

/-- Whether the number is the natural number `k`. -/
def isNat (k : Nat) : Binary64 → Bool
  | .nan | .infinite _ => false
  | .finite negative m e =>
    scaleUp 2 k (-e) == scaleUp 2 m e && (m == 0 || !negative)

end Binary64

end LineControl

import LineControl.Number.Binary64

/-!
# Shortest decimal texts

The text of a double-precision number: the fewest decimal digits that read back as the number.

For each count of digits from one to seventeen the two neighbours of the number on that decimal grid
are tried in exact arithmetic. The first grid with a neighbour inside the interval of the reals that
round to the number wins; of two such neighbours the nearer one is taken, of two equally near ones
the even one.
-/

set_option autoImplicit false

namespace LineControl

namespace Binary64

/-- The number of decimal digits of `n`. -/
def decimalLength (n : Nat) : Nat :=
  (Nat.toDigits 10 n).length

/-- A positive finite number and the reals that round to it, all as multiples of
`2 ^ exponent / 4`. -/
structure Rounding where
  value : Nat
  low : Nat
  high : Nat
  exponent : Int
  closed : Bool

/-- The reals that round to `m * 2 ^ e`. Below a power of two the next number is only half as far
away, and the ends belong to the interval if the mantissa is even. -/
def rounding (m : Nat) (e : Int) : Rounding where
  value := 4 * m
  low := 4 * m - (if m = leastMantissa ∧ minExponent < e then 1 else 2)
  high := 4 * m + 2
  exponent := e - 2
  closed := m % 2 == 0

/-- The least `k` with `n * 2 ^ e < 10 ^ k`, for positive `n`. -/
def decimalPoint (n : Nat) (e : Int) : Int :=
  let num := scaleUp 2 n e
  let den := scaleUp 2 1 (-e)
  if den ≤ num then decimalLength (num / den)
  else 1 - (decimalLength ((den - 1) / num) : Int)

/-- The multiple `c * 10 ^ grid` and the multiples of `2 ^ r.exponent` on one scale: the factors of
the first and of the others. -/
def Rounding.scales (r : Rounding) (grid : Int) : Nat × Nat :=
  (scaleUp 10 (scaleUp 2 1 (-r.exponent)) grid, scaleUp 10 (scaleUp 2 1 r.exponent) (-grid))

/-- Whether `c * 10 ^ grid` rounds to the number. -/
def Rounding.contains (r : Rounding) (grid : Int) (c : Nat) : Bool :=
  let (ours, theirs) := r.scales grid
  let x := c * ours
  if r.closed then r.low * theirs ≤ x && x ≤ r.high * theirs
  else r.low * theirs < x && x < r.high * theirs

/-- The nearest multiple of `10 ^ grid` that rounds to the number, if there is one. -/
def Rounding.nearest? (r : Rounding) (grid : Int) : Option Nat :=
  let (ours, theirs) := r.scales grid
  let v := r.value * theirs
  let q := v / ours
  match r.contains grid q, r.contains grid (q + 1) with
  | false, false => none
  | true, false => some q
  | false, true => some (q + 1)
  | true, true =>
    let below := v - q * ours
    let above := (q + 1) * ours - v
    if below < above then some q
    else if above < below then some (q + 1)
    else some (q + q % 2)

/-- The fewest digits of `m * 2 ^ e`, for positive `m`, as a number `c` and a power of ten. -/
def shortest (m : Nat) (e : Int) : Nat × Int :=
  let r := rounding m e
  let point := decimalPoint m e
  let grids := (List.range 17).map fun (i : Nat) => point - (i + 1)
  (grids.findSome? fun grid => (r.nearest? grid).map (·, grid)).getD (scaleUp 2 m e, 0)

/-- The digits without the zeros at the end, and the place of the point counted from the first
digit. -/
def significant (c : Nat) (grid : Int) : List Char × Int :=
  let digits := Nat.toDigits 10 c
  ((digits.reverse.dropWhile (· == '0')).reverse, digits.length + grid)

/-- The exponent of a number in exponent form: a sign and at least two digits. -/
def exponentText (e : Int) : List Char :=
  (if e < 0 then '-' else '+') :: (Nat.toDigits 10 e.natAbs).leftpad 2 '0'

/-- The digits with their point. Numbers from `10 ^ -4` to below `10 ^ 16` are written out, with at
least one digit after the point; others have one digit before the point and an exponent. -/
def layout (digits : List Char) (point : Int) : List Char :=
  if -4 < point ∧ point ≤ 16 then
    if point ≤ 0 then '0' :: '.' :: List.replicate (-point).toNat '0' ++ digits
    else if digits.length ≤ point.toNat then
      digits ++ List.replicate (point.toNat - digits.length) '0' ++ ['.', '0']
    else digits.take point.toNat ++ '.' :: digits.drop point.toNat
  else
    let fraction := digits.drop 1
    digits.take 1 ++ (if fraction.isEmpty then [] else '.' :: fraction) ++
      'e' :: exponentText (point - 1)

/-- The text of the number. -/
def text : Binary64 → List Char
  | .nan => "nan".toList
  | .infinite negative => (if negative then "-inf" else "inf").toList
  | .finite negative m e =>
    let unsigned :=
      if m = 0 then "0.0".toList
      else
        let (c, grid) := shortest m e
        let (digits, point) := significant c grid
        layout digits point
    if negative then '-' :: unsigned else unsigned

end Binary64

end LineControl

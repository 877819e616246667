import LineControl.Number.Numeral
import LineControl.Number.Shortest

/-!
# Counts and times

A number in a program is a whole number or a double-precision one; the two print differently but
compare by value.
-/

set_option autoImplicit false

namespace LineControl

/-- A count or a time. -/
inductive Number where
  | int (n : Int)
  | real (x : Binary64)
deriving DecidableEq

namespace Number

instance (n : Nat) : OfNat Number n where
  ofNat := .int n

instance : OfScientific Number where
  ofScientific m down e := .real (OfScientific.ofScientific m down e)

/-- Whether the natural number `k` lies below the number. -/
def isAbove (k : Nat) : Number → Bool
  | .int n => (k : Int) < n
  | .real x => x.isAbove k

/-- Whether the number is the natural number `k`. -/
def isNat (k : Nat) : Number → Bool
  | .int n => n == k
  | .real x => x.isNat k

/-- The text of the number. Whether it may be written down is another question (`isPrintable`). -/
def text : Number → String
  | .int n => toString n
  | .real x => String.ofList x.text

/-- Whether the number can be written down. As when it is read, a whole number must not have too
many digits, its sign left aside. -/
def isPrintable : Number → Bool
  | .int n => Binary64.decimalLength n.natAbs ≤ Numeral.maxDigits
  | .real _ => true

/-- The number written in the value column of a line. A point or a comma makes it a decimal number;
what is no numeral is no value. -/
def ofField? (cs : List Char) : Option Number :=
  if cs.contains '.' || cs.contains ',' then
    (Numeral.decimal? (cs.map fun c => if c == ',' then '.' else c)).map .real
  else
    match Numeral.integer cs with
    | .ok n => some (.int n)
    | .error _ => none

end Number

end LineControl

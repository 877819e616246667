import LineControl.Number.Binary64
import LineControl.Text.Blank
import LineControl.Text.Digit
import LineControl.Text.Quoted

/-!
# Numerals

A whole number is a sign and digits of any script, a decimal number may have a point and an
exponent. Single underscores may stand between two digits, and blanks around the numeral.
-/

set_option autoImplicit false

namespace LineControl

open Text

/-- Why a text is no whole number: it is none, or it has too many digits to be read. -/
inductive NumeralFault where
  | malformed (text : List Char)
  | tooLong (digits : Nat)
deriving DecidableEq

namespace Numeral

/-- The greatest number of digits of a whole number that is read or written. -/
def maxDigits : Nat := 4300

/-- The sign at the start of a text, and what follows it. -/
def sign : List Char → Bool × List Char
  | '+' :: rest => (false, rest)
  | '-' :: rest => (true, rest)
  | rest => (false, rest)

/-- The groups between underscores. -/
def groups : List Char → List (List Char)
  | [] => [[]]
  | c :: rest =>
    if c == '_' then [] :: groups rest
    else
      match groups rest with
      | [] => [[c]]
      | group :: later => (c :: group) :: later

/-- The digit values of a text of digits and underscores, if every underscore stands between two
digits and there is a digit. -/
def digits? (cs : List Char) : Option (List Nat) :=
  let parts := groups cs
  if parts.any (·.isEmpty) then none else parts.flatten.mapM digit?

/-- The whole number that the text stands for. The length of the row of digits is looked at before
what follows it. -/
def integer (cs : List Char) : Except NumeralFault Int :=
  let (negative, body) := sign (cs.dropWhile isNumericBlank)
  let isPart := fun c => isDigit c || c == '_'
  match digits? (body.takeWhile isPart) with
  | none => .error (.malformed cs)
  | some digits =>
    if maxDigits < digits.length then .error (.tooLong digits.length)
    else if !(body.dropWhile isPart).all isNumericBlank then .error (.malformed cs)
    else
      let value : Int := decimalValue digits
      .ok (if negative then -value else value)

/-- The text without its underscores, if every one of them stands between two digits. -/
def ungroup? (cs : List Char) : Option (List Char) :=
  let parts := groups cs
  let joins := (parts.zip (parts.drop 1)).all fun (before, after) =>
    before.getLast?.any isDigit && after.head?.any isDigit
  if joins then some parts.flatten else none

/-- The exponent at the end of a decimal numeral: nothing, or a mark, a sign and digits. -/
def exponent? : List Char → Option Int
  | [] => some 0
  | c :: rest =>
    if c == 'e' || c == 'E' then
      let (negative, body) := sign rest
      if body.isEmpty then none
      else (body.mapM digit?).map fun digits =>
        let value : Int := decimalValue digits
        if negative then -value else value
    else none

/-- The digits before and after the point, and the rest. -/
def mantissa (cs : List Char) : List Char × List Char × List Char :=
  let whole := cs.takeWhile isDigit
  match cs.dropWhile isDigit with
  | '.' :: rest => (whole, rest.takeWhile isDigit, rest.dropWhile isDigit)
  | rest => (whole, [], rest)

/-- The double-precision number that the text stands for, correctly rounded. -/
def decimal? (cs : List Char) : Option Binary64 := do
  let body ← ungroup? (dropEndWhile isNumericBlank (cs.dropWhile isNumericBlank))
  let (negative, body) := sign body
  let (whole, fraction, rest) := mantissa body
  if whole.isEmpty && fraction.isEmpty then none
  else
    let e ← exponent? rest
    let digits ← (whole ++ fraction).mapM digit?
    some (.ofDecimal negative (decimalValue digits) (e - fraction.length))

end Numeral

/-- The wording of a fault. The quoted text is cut after two hundred characters. -/
def NumeralFault.message : NumeralFault → String
  | .malformed text =>
    "invalid literal for int() with base 10: " ++ String.ofList ((quote text).take 200)
  | .tooLong digits =>
    "Exceeds the limit (" ++ toString Numeral.maxDigits ++
      " digits) for integer string conversion: value has " ++ toString digits ++
      " digits; use sys.set_int_max_str_digits() to increase the limit"

/-- The number with the given text: a decimal numeral, or a word for infinity or for no number. -/
def Binary64.ofText? (text : String) : Option Binary64 :=
  let cs := text.toList
  let (negative, word) := Numeral.sign (dropEndWhile isNumericBlank (cs.dropWhile isNumericBlank))
  match String.ofList (word.map Char.toLower) with
  | "nan" => some .nan
  | "inf" | "infinity" => some (.infinite negative)
  | _ => Numeral.decimal? cs

end LineControl

import LineControl.Text.Printable

/-!
# Quoted texts

Messages show a text between single quotes, or between double quotes if it holds a single quote and
no double one. What would not print is escaped.
-/

set_option autoImplicit false

namespace LineControl.Text

/-- The hexadecimal digits of `n`, filled up with zeros to `width`. -/
def hex (width n : Nat) : List Char :=
  (Nat.toDigits 16 n).leftpad width '0'

/-- The quotation mark for a text. -/
def quotationMark (cs : List Char) : Char :=
  if cs.contains '\x27' && !cs.contains '"' then '"' else '\x27'

/-- A character inside quotation marks. The mark in use and the backslash are escaped by a
backslash, characters that do not print by their code in the shortest of three widths. -/
def escape (mark c : Char) : List Char :=
  if c == mark || c == '\\' then ['\\', c]
  else if c == '\t' then ['\\', 't']
  else if c == '\n' then ['\\', 'n']
  else if c == '\r' then ['\\', 'r']
  else if isPrintable c then [c]
  else if c.toNat < 0x100 then '\\' :: 'x' :: hex 2 c.toNat
  else if c.toNat < 0x10000 then '\\' :: 'u' :: hex 4 c.toNat
  else '\\' :: 'U' :: hex 8 c.toNat

/-- The quoted text. -/
def quote (cs : List Char) : List Char :=
  let mark := quotationMark cs
  mark :: cs.flatMap (escape mark) ++ [mark]

end LineControl.Text

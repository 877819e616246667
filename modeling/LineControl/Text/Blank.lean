/-!
# Blank characters

Trimming a label or a line takes away every character of `isBlank`. A numeral may be surrounded only
by the characters of `isNumericBlank`, which leaves out the four separators U+001C to U+001F.
-/

set_option autoImplicit false

namespace LineControl.Text

/-- The blanks that may surround a numeral: tab to carriage return, the space, and the spaces and
line separators beyond ASCII. -/
def isNumericBlank (c : Char) : Bool :=
  let n := c.toNat
  (0x09 ≤ n && n ≤ 0x0D) || n == 0x20 || n == 0x85 || n == 0xA0 || n == 0x1680 ||
    (0x2000 ≤ n && n ≤ 0x200A) || n == 0x2028 || n == 0x2029 || n == 0x202F || n == 0x205F ||
    n == 0x3000

/-- The blanks that trimming takes away. -/
def isBlank (c : Char) : Bool :=
  isNumericBlank c || (0x1C ≤ c.toNat && c.toNat ≤ 0x1F)

/-- Takes away the longest end of the list on which `p` holds. -/
def dropEndWhile {α : Type} (p : α → Bool) (l : List α) : List α :=
  (l.reverse.dropWhile p).reverse

/-- A line without the blanks at its end. -/
def trimEnd (cs : List Char) : List Char :=
  dropEndWhile isBlank cs

/-- A text without the blanks at both ends. -/
def trim (cs : List Char) : List Char :=
  trimEnd (cs.dropWhile isBlank)

end LineControl.Text

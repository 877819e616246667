import LineControl.Instruction

/-!
# The listing of a program

The listing is a table with a row per instruction. Columns are filled up with blanks but never cut,
so a long label or value pushes the rest of its row to the right. The active line has a marker and
inverted colours.

A line cannot be listed if it has no label, or if its value is a whole number with more digits than
are written down. A program with such a line has no listing: the rows are made from top to bottom,
and the first line that has none says why.
-/

set_option autoImplicit false

namespace LineControl

/-- Why a line cannot be listed. -/
inductive ListingFault where
  /-- It has no label. -/
  | noLabel
  /-- Its value has too many digits. -/
  | longValue
deriving DecidableEq

/-- The wording of a fault. -/
def ListingFault.message : ListingFault → String
  | .noLabel => "unsupported format string passed to NoneType.__format__"
  | .longValue =>
    "Exceeds the limit (" ++ toString Numeral.maxDigits ++ " digits) for integer string " ++
      "conversion; use sys.set_int_max_str_digits() to increase the limit"

namespace Listing

/-- The text followed by blanks up to the given width. -/
def padRight (width : Nat) (s : String) : String :=
  s ++ String.ofList (List.replicate (width - s.length) ' ')

/-- The text after blanks up to the given width. -/
def padLeft (width : Nat) (s : String) : String :=
  String.ofList (List.replicate (width - s.length) ' ') ++ s

/-- A cell for a bit. -/
def bitCell (bit : Bool) : String :=
  if bit then " 1 " else " 0 "

/-- A cell for an input: shaded if any reading will do. -/
def inputCell : Option Bool → String
  | none => "▒▒▒"
  | some bit => bitCell bit

/-- The six output cells, bit 5 first; one blank field if the line sets no outputs. -/
def outputCells : Option Int → String
  | none => "                       │"
  | some pattern =>
    String.join ([5, 4, 3, 2, 1, 0].map fun i => bitCell (testBit pattern i) ++ "│")

/-- The value cell. -/
def valueCell : Option Number → Except ListingFault String
  | none => .ok "     "
  | some v => if v.isPrintable then .ok (padRight 5 v.text) else .error .longValue

/-- The columns of an instruction, from its label to its value. -/
def columns (label : String) (i : Instruction) (value : String) : String :=
  padRight 12 label ++ " │" ++ inputCell i.condition.in7 ++ "│" ++ inputCell i.condition.in6 ++
    "│" ++ outputCells i.pattern ++ " " ++ value

/-- The text of an instruction. Its label is looked at before its value. -/
def instructionText (i : Instruction) : Except ListingFault String :=
  match i.label with
  | none => .error .noLabel
  | some label => (valueCell i.value).map (columns label i)

/-- The head of the table. -/
def header : String :=
  "                      ┌ IN ───┬ OUT ──────────────────┐\n" ++
  "        BRICK Lines   ├───┬───┼───┬───┬───┬───┬───┬───┤\n" ++
  "                      │ 7 │ 6 │ 5 │ 4 │ 3 │ 2 │ 1 │ 0 │\n" ++
  "┌─ # ──┬─ LABEL ──────┼───┼───┼───┼───┼───┼───┼───┼───┼───────┐\n"

/-- The foot of the table. -/
def footer : String :=
  "└──────┴──────────────┴───┴───┴───┴───┴───┴───┴───┴───┴───────┘\n"

/-- The codes before an active line. They are those of terminals for a white background (47) and for
black letters (30); colorama has them as `Back.WHITE` and `Fore.BLACK`. -/
def activeColours : String := "\x1b[47m\x1b[30m"

/-- The code after an active line that restores the colours, colorama's `Style.RESET_ALL`. -/
def plainColours : String := "\x1b[0m"

/-- A row of the table: the line's number, counted from one, and the text of its instruction. -/
def row (number : Int) (text : String) (active : Bool) : String :=
  (if active then activeColours else "") ++ "│ " ++ (if active then ">" else " ") ++ " " ++
    padLeft 2 (toString number) ++ " │ " ++ text ++ " │\n" ++
    (if active then plainColours else "")

/-- The rows of the lines from index `start` on, given the texts of their instructions. -/
def rows (active : Option Int) : Nat → List String → String
  | _, [] => ""
  | start, text :: rest =>
    row (start + 1) text (active == some (start : Int)) ++ rows active (start + 1) rest

/-- The texts of the lines of a program, or what the first line that has none lacks. -/
def texts (program : Program) : Except ListingFault (List String) :=
  program.mapM instructionText

/-- The listing of the program. -/
def listing (program : Program) (active : Option Int) : Except ListingFault String :=
  (texts program).map fun texts => header ++ rows active 0 texts ++ footer

/-- The instruction at an index; a negative index counts from the end. -/
def instructionAt? (program : Program) (index : Int) : Option Instruction :=
  if 0 ≤ index then program[index.toNat]?
  else if 0 ≤ index + program.length then program[(index + program.length).toNat]?
  else none

/-- The codes that clear the screen and what was scrolled off it. -/
def clearScreen : String := "\x1bc\x1b[3J"

/-- What is put on the screen before a listing: the codes that clear it, if asked for. -/
def lead (clear : Bool) : String :=
  if clear then clearScreen else ""

end Listing

end LineControl

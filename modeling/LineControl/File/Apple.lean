import LineControl.File.Fault
import LineControl.Text.Blank
import LineControl.Text.Lines

/-!
# Record texts

Record texts are the program files of the Apple computer. The first line gives the number of
records. A record has four lines: the length of the label, the view (the line as the screen shows
it), the type and the bits. Label and value are read from the view, which has fixed columns.
-/

set_option autoImplicit false

namespace LineControl.Apple

/-- The parts of a view that are read. -/
structure View where
  label : List Char
  pattern : List Char
  value : Option Number

/-- The characters from column `start` up to, but not including, column `stop`. -/
def columns (start stop : Nat) (cs : List Char) : List Char :=
  (cs.take stop).drop start

/-- Takes a view apart. Its columns are marked, and its label has to have the length given. -/
def View.read (labelLength : Int) (cs : List Char) : Except LoadFault View :=
  match cs.head? with
  | none => .error .emptyView
  | some mark =>
    let label := Text.trim (columns 1 11 cs)
    if mark == ';' && columns 11 14 cs == ['~', 'A', 's'] && columns 31 34 cs == ['t', '~', '@'] &&
        (label.length : Int) == labelLength then
      .ok ⟨label, columns 14 31 cs, Number.ofField? (cs.drop 34)⟩
    else .error .viewLayout

/-- The bits that stand for a condition. -/
def conditionBits : List Int := [0, 1, 2, 3, 4, 6, 8, 9, 10]

/-- The condition in the bits of a record. Bits 3 and 2 say that inputs 7 and 6 do not matter; if
they do, bits 1 and 0 give the readings. -/
def condition (bits : Int) : Except LoadFault Condition :=
  if conditionBits.contains bits then
    .ok {
      in7 := if testBit bits 3 then none else some (testBit bits 1)
      in6 := if testBit bits 2 then none else some (testBit bits 0) }
  else .error .recordLayout

/-- A line with a condition: type 1. -/
def conditionLine (label : String) (bits : Int) (value : Option Number) :
    Except LoadFault Instruction :=
  match label with
  | "UNTIL" => do (Instruction.mkUntil (← condition bits)).mapError .build
  | "IF" => do return .ifStart (← condition bits)
  | "COUNT" => do (Instruction.mkCount (← condition bits) value).mapError .build
  | _ => .error .recordLayout

/-- A keyword without a condition: type 2. -/
def keywordLine (label : String) (bits : Int) (value : Option Number) :
    Except LoadFault Instruction :=
  if bits ≠ 0 then .error .recordLayout
  else
    match label with
    | "REPEAT" => .ok (.repeatStart value)
    | "ENDREPEAT" => .ok .repeatEnd
    | "FOREVER" => .ok .repeatForever
    | "ENDIF" => .ok .ifEnd
    | _ => .error .recordLayout

/-- The line that label, type, bits and value of a record stand for. -/
def instruction (label : String) (type bits : Int) (value : Option Number) :
    Except LoadFault Instruction :=
  if type = 0 then
    if 0 ≤ bits ∧ bits < 256 then .ok (.setOutput (some label) (some bits) value)
    else .error .recordLayout
  else if type = 1 then conditionLine label bits value
  else if type = 2 then keywordLine label bits value
  else .error .recordType

/-- The four lines of a record. -/
structure Record where
  labelLength : List Char
  view : List Char
  type : List Char
  bits : List Char

/-- The records in a row of lines. -/
def records : List (List Char) → List Record
  | labelLength :: view :: type :: bits :: rest => ⟨labelLength, view, type, bits⟩ :: records rest
  | _ => []

/-- A line of a record that holds a whole number. -/
def wholeNumber (cs : List Char) : Except LoadFault Int :=
  (Numeral.integer cs).mapError .numeral

/-- The line that a record stands for. Its parts are looked at in the order of the file. -/
def Record.decode (r : Record) : Except LoadFault Instruction := do
  let labelLength ← wholeNumber r.labelLength
  let view ← View.read labelLength r.view
  let type ← wholeNumber r.type
  let bits ← wholeNumber r.bits
  instruction (String.ofList view.label) type bits view.value

/-- Reads the records from the lines of a file. -/
def ofLines : List (List Char) → Loading
  | [] => .failed .noLines
  | first :: rest =>
    match wholeNumber first with
    | .error fault => .failed fault
    | .ok count =>
      if (rest.length : Int) = count * 4 then .ofLines ((records rest).map Record.decode)
      else .failed .lineCount

/-- Reads a record text. All of it has to be text before anything is read from it. -/
def load (bytes : List UInt8) : Loading :=
  match Text.Utf8.decode bytes with
  | .error fault => .failed (.notUtf8 fault)
  | .ok cs => ofLines ((Text.lines cs).map Text.trimEnd)

end LineControl.Apple

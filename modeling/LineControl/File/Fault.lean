import LineControl.Number.Numeral
import LineControl.Instruction
import LineControl.Text.Utf8

/-!
# Faults of program files

Why a program file cannot be loaded, and what a load leaves behind: the lines read before the fault
stay in the program.
-/

set_option autoImplicit false

namespace LineControl

/-- Why a file cannot be loaded. -/
inductive LoadFault where
  /-- The format asked for is none of the known ones. -/
  | unknownFormat
  /-- There is no such file. -/
  | noSuchFile
  /-- The bytes are not laid out as an image. -/
  | imageLayout
  /-- A label or value of an image holds a byte that is no ASCII character. -/
  | notAscii (byte : UInt8) (position : Nat)
  /-- The bytes are no text. -/
  | notUtf8 (fault : Text.Utf8.Fault)
  /-- The text has no line. -/
  | noLines
  /-- A line that should be a whole number is none. -/
  | numeral (fault : NumeralFault)
  /-- The number of lines does not fit the number of records. -/
  | lineCount
  /-- The view of a record is empty. -/
  | emptyView
  /-- The view of a record is not laid out as a view. -/
  | viewLayout
  /-- Label or bits do not fit the type of their record. -/
  | recordLayout
  /-- A record has a type that is none of the known ones. -/
  | recordType
  /-- The line that a record stands for cannot be built. -/
  | build (fault : BuildFault)
deriving DecidableEq

/-- The wording of a fault. -/
def LoadFault.message : LoadFault → String
  | .unknownFormat | .imageLayout | .viewLayout | .recordLayout => ""
  | .noSuchFile => "Invalid file path"
  | .notAscii byte position =>
    "'ascii' codec can't decode byte 0x" ++ String.ofList (Text.hex 2 byte.toNat) ++
      " in position " ++ toString position ++ ": ordinal not in range(128)"
  | .notUtf8 fault => fault.message
  | .noLines => "list index out of range"
  | .numeral fault => fault.message
  | .lineCount => "Wrong number of encoded lines"
  | .emptyView => "string index out of range"
  | .recordType => "cannot access local variable 'i' where it is not associated with a value"
  | .build fault => fault.message

/-- What a load leaves behind: the lines read, and the fault that ended it, if one did. -/
structure Loading where
  program : Program
  fault : Option LoadFault

namespace Loading

/-- A load that fails before its first line. -/
def failed (fault : LoadFault) : Loading := ⟨[], some fault⟩

/-- Takes the lines up to the first fault. -/
def ofLines : List (Except LoadFault Instruction) → Loading
  | [] => ⟨[], none⟩
  | .ok i :: rest =>
    let loading := ofLines rest
    { loading with program := i :: loading.program }
  | .error fault :: _ => failed fault

end Loading

end LineControl

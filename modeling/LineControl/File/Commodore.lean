import LineControl.File.Fault
import LineControl.Text.Blank

/-!
# Images

Images are the program files of the Commodore home computer. An image has 762 bytes: forty slots of
sixteen bytes (a label of twelve and a value of four, both filled up with zeros), a reserved part of
zeros, a table with one pattern per slot, and a final FF. In the table FF marks a free slot. As many
slots as the table has other entries are read, from the first slot on.
-/

set_option autoImplicit false

namespace LineControl.Commodore

/-- The number of bytes of an image. -/
def imageSize : Nat := 762

/-- The number of slots. -/
def slotCount : Nat := 40

/-- The number of bytes of a slot. -/
def slotSize : Nat := 16

/-- The number of bytes of a slot's label. -/
def labelSize : Nat := 12

/-- Where the slots end and the reserved part starts. -/
def reservedStart : Nat := 0x280

/-- Where the reserved part ends and the table of patterns starts. -/
def tableStart : Nat := 0x2D1

/-- The table entry of a free slot, which also ends the image. -/
def freeMark : UInt8 := 0xFF

/-- The bytes from place `start` up to, but not including, place `stop`. -/
def slice (start stop : Nat) (bytes : List UInt8) : List UInt8 :=
  (bytes.take stop).drop start

/-- Whether the bytes have the size, the reserved zeros and the last byte of an image. -/
def isImage (bytes : List UInt8) : Bool :=
  bytes.length == imageSize && (slice reservedStart tableStart bytes).all (· == 0) &&
    bytes.getLast? == some freeMark

/-- The patterns of all slots. -/
def table (bytes : List UInt8) : List UInt8 :=
  slice tableStart (imageSize - 1) bytes

/-- The number of slots in use. -/
def usedCount (bytes : List UInt8) : Nat :=
  slotCount - (table bytes).count freeMark

/-- The bytes of a slot. -/
def slot (bytes : List UInt8) (index : Nat) : List UInt8 :=
  slice (index * slotSize) ((index + 1) * slotSize) bytes

/-- The characters of a field, without the zeros at its end. -/
def field (bytes : List UInt8) : Except LoadFault (List Char) :=
  let stripped := Text.dropEndWhile (· == 0) bytes
  match stripped.findIdx? (0x80 ≤ ·) with
  | some position => .error (.notAscii (stripped.getD position 0) position)
  | none => .ok (stripped.map fun b => Char.ofNat b.toNat)

/-- The condition in a pattern. Bits 1 and 0 say that inputs 7 and 6 do not matter; if they do,
bits 7 and 6 give the readings. -/
def condition (pattern : Int) : Condition where
  in7 := if testBit pattern 1 then none else some (testBit pattern 7)
  in6 := if testBit pattern 0 then none else some (testBit pattern 6)

/-- The line that a label, a pattern and a value stand for: a keyword's line if the label is a
keyword, else a line that sets the outputs. -/
def instruction (label : String) (pattern : UInt8) (value : Option Number) :
    Except LoadFault Instruction :=
  let bits : Int := pattern.toNat
  match label with
  | "REPEAT" => .ok (.repeatStart value)
  | "UNTIL" => (Instruction.mkUntil (condition bits)).mapError .build
  | "ENDREPEAT" => .ok .repeatEnd
  | "FOREVER" => .ok .repeatForever
  | "IF" => .ok (.ifStart (condition bits))
  | "ENDIF" => .ok .ifEnd
  | "COUNT" => (Instruction.mkCount (condition bits) value).mapError .build
  | _ => .ok (.setOutput (some label) (some bits) value)

/-- The line in a slot. The label is looked at before the value. -/
def decodeSlot (bytes : List UInt8) (pattern : UInt8) : Except LoadFault Instruction := do
  let label ← field (bytes.take labelSize)
  let value ← field (bytes.drop labelSize)
  instruction (String.ofList label) pattern (Number.ofField? value)

/-- Reads the slots in use. The slots after them have to be zero. -/
def load (bytes : List UInt8) : Loading :=
  let used := usedCount bytes
  if isImage bytes && (slice (used * slotSize) reservedStart bytes).all (· == 0) then
    .ofLines ((List.range used).map fun index =>
      decodeSlot (slot bytes index) ((table bytes).getD index freeMark))
  else .failed .imageLayout

end LineControl.Commodore

import LineControl.File.Apple
import LineControl.File.Commodore

/-!
# Program files

A program file has either format. If no format is asked for, bytes that look like an image are read
as one and all others as a record text.
-/

set_option autoImplicit false

namespace LineControl

/-- How a file is to be read. -/
inductive Format where
  | detect
  | commodore
  | apple
deriving DecidableEq

/-- The format with the given name. -/
def Format.ofName? : String → Option Format
  | "auto" => some .detect
  | "commodore" => some .commodore
  | "apple" => some .apple
  | _ => none

/-- Reads a program file. -/
def Format.load (format : Format) (bytes : List UInt8) : Loading :=
  match format with
  | .detect => if Commodore.isImage bytes then Commodore.load bytes else Apple.load bytes
  | .commodore => Commodore.load bytes
  | .apple => Apple.load bytes

end LineControl

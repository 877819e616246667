import LineControl.Control.Clock
import LineControl.File.Fault
import LineControl.Listing
import LineControl.Nesting

/-!
# Faults of the controller

What can stop a controller, with the wording of each cause.
-/

set_option autoImplicit false

namespace LineControl

/-- Why an action of the controller stopped. -/
inductive Fault where
  /-- A line of a program cannot be built. -/
  | build (fault : BuildFault)
  /-- A file cannot be loaded. -/
  | load (fault : LoadFault)
  /-- The structures of the program are refused. -/
  | nesting (fault : NestingFault)
  /-- The program has no such line. -/
  | noSuchLine
  /-- The number of a line does not fit into a word. -/
  | indexTooLarge
  /-- A line that cannot be listed is to be listed. -/
  | listing (fault : ListingFault)
  /-- A file is to be loaded, but its name is an empty list. -/
  | noFileName
  /-- Outputs are to be set to no pattern. -/
  | noPattern
  /-- The pattern for the outputs is below zero. -/
  | patternNegative
  /-- The pattern for the outputs does not fit into a byte. -/
  | patternTooLarge
  /-- There is no connection. -/
  | notConnected
  /-- The port cannot be opened. -/
  | cannotOpen
  /-- The port takes no more bytes. -/
  | writeRefused
  /-- The port gives no more bytes. -/
  | readRefused
  /-- The port did not take the byte. -/
  | shortWrite
  /-- The last byte is to be repeated, but none has been sent. -/
  | nothingToRepeat
  /-- The clock does not wait so long. -/
  | clock (fault : ClockFault)
  /-- The inputs are to be compared with a condition that asks for nothing. -/
  | noCondition
  /-- A loop is to be left, but none is open. -/
  | noLoopToLeave
  /-- A loop is to be repeated, but none is open. -/
  | noLoopToRepeat
  /-- Passes are to be counted in a loop without a count. -/
  | noPassCount
  /-- Changes are to be counted up to no value. -/
  | noChangeLimit
  /-- Changes can be counted only of one input that is asked to be on. -/
  | unsupportedCount
  /-- The line has no meaning. -/
  | unknownInstruction
  /-- The screens allowed for a run are used up. -/
  | stepLimit
deriving DecidableEq

/-- The wording of a fault. -/
def Fault.message : Fault → String
  | .build fault => fault.message
  | .load fault => fault.message
  | .nesting fault => fault.message
  | .listing fault => fault.message
  | .clock fault => fault.message
  | .noSuchLine | .noLoopToRepeat => "list index out of range"
  | .indexTooLarge => "cannot fit 'int' into an index-sized integer"
  | .noFileName => "stat: path should be string, bytes, os.PathLike or integer, not list"
  | .noPattern => "'NoneType' object has no attribute 'to_bytes'"
  | .patternNegative => "can't convert negative int to unsigned"
  | .patternTooLarge => "int too big to convert"
  | .notConnected => "'NoneType' object has no attribute 'write'"
  | .cannotOpen => "could not open port"
  | .writeRefused => "write limit"
  | .readRefused => "rx exhausted"
  | .shortWrite => ""
  | .nothingToRepeat => "write of None"
  | .noCondition => "Software developer made a dumb logical error"
  | .noLoopToLeave => "pop from empty list"
  | .noPassCount => "unsupported operand type(s) for +=: 'NoneType' and 'int'"
  | .noChangeLimit => "'<' not supported between instances of 'int' and 'NoneType'"
  | .unsupportedCount => "Currently not supported; make sure this is really supported"
  | .unknownInstruction => "Unknown instruction"
  | .stepLimit => "step limit"

end LineControl

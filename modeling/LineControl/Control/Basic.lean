import LineControl.Control.Dialogue
import LineControl.Control.Fault
import LineControl.File.Load
import LineControl.Listing

/-!
# The controller

A controller holds a program, a connection to the interface box, and the byte last put on its
outputs. The box answers each byte it gets with one byte, so an action on it sends a byte and takes
one. To read the inputs without changing the outputs, the last byte is sent again.

A fault keeps all that was done before it.
-/

set_option autoImplicit false

namespace LineControl

/-- The state of a controller. The latch holds the byte last put on the outputs. -/
structure Controller where
  program : Program := []
  connected : Bool := false
  latch : Option UInt8 := none

/-- Actions of a controller: they hold a dialogue, change the state, and may stop with a fault. -/
abbrev ControlM := ExceptT Fault (StateT Controller Dialogue)

/-- The readings of the two inputs. -/
structure Inputs where
  in7 : Bool
  in6 : Bool
deriving DecidableEq

/-- The readings in a byte from the box; no byte reads as zero. -/
def Inputs.ofByte (b : Option UInt8) : Inputs :=
  let n := (b.getD 0).toNat
  ⟨n.testBit 7, n.testBit 6⟩

/-- Whether the readings meet the condition; no answer for a condition that asks for nothing. -/
def Condition.holds? (c : Condition) (i : Inputs) : Option Bool :=
  match c.in7, c.in6 with
  | none, none => none
  | some a, none => some (i.in7 == a)
  | none, some b => some (i.in6 == b)
  | some a, some b => some (i.in7 == a && i.in6 == b)

namespace Control

/-- Makes a request. -/
def request (r : Request) : ControlM r.Answer :=
  ExceptT.lift (StateT.lift (.ask r .done))

/-- Appends a line to the program. -/
def append (built : Except BuildFault Instruction) : ControlM Unit :=
  match built with
  | .ok i => modify fun c => { c with program := c.program ++ [i] }
  | .error fault => throw (.build fault)

/-- Replaces the program by that of a file. The old program is given up as soon as there is a file
of a known format, and what was read before a fault stays. -/
def load (file : String) (format : Option Format) : ControlM Unit := do
  let some format := format | throw (.load .unknownFormat)
  let some bytes ← request (.fetch file) | throw (.load .noSuchFile)
  let loading := format.load bytes
  modify fun c => { c with program := loading.program }
  match loading.fault with
  | none => pure ()
  | some fault => throw (.load fault)

/-- Checks the structures of the program. -/
def check : ControlM Unit := do
  match (← get).program.check with
  | .ok () => pure ()
  | .error fault => throw (.nesting fault)

/-- The text of an instruction. -/
def describe (i : Instruction) : ControlM String :=
  match Listing.instructionText i with
  | .ok text => pure text
  | .error fault => throw (.listing fault)

/-- The listing of the program. -/
def list (active : Option Int) : ControlM String := do
  match Listing.listing (← get).program active with
  | .ok listing => pure listing
  | .error fault => throw (.listing fault)

/-- Puts the listing on the screen, cleared first if asked for. The screen is cleared even if there
is no listing. -/
def display (active : Option Int) (clear : Bool) : ControlM Unit := do
  let lead := Listing.lead clear
  match Listing.listing (← get).program active with
  | .ok listing => request (.display active (lead ++ listing ++ "\n"))
  | .error fault =>
    request (.display active lead)
    throw (.listing fault)

/-- Whether a line number fits into a signed word of 64 bits. -/
def isIndex (line : Int) : Bool :=
  -0x8000000000000000 ≤ line && line < 0x8000000000000000

/-- The row of a line. The number shown is one more than the given one, also for a negative one. -/
def showRow (line : Int) (active : Bool) : ControlM String := do
  unless isIndex line do throw .indexTooLarge
  match Listing.instructionAt? (← get).program line with
  | some i => return Listing.row (line + 1) (← describe i) active
  | none => throw .noSuchLine

/-- The byte for a pattern of the outputs. -/
def outputByte : Option Int → ControlM UInt8
  | none => throw .noPattern
  | some pattern =>
    if pattern < 0 then throw .patternNegative
    else if 255 < pattern then throw .patternTooLarge
    else pure (UInt8.ofNat pattern.toNat)

/-- Sends a byte. -/
def transmit (purpose : Purpose) (byte : Option UInt8) : ControlM Unit := do
  unless (← get).connected do throw .notConnected
  match ← request (.write purpose byte), byte with
  | .refused, _ => throw .writeRefused
  | _, none => throw .nothingToRepeat
  | .short, some _ => throw .shortWrite
  | .taken, some _ => pure ()

/-- Takes a byte; nothing may come in time. -/
def receive : ControlM (Option UInt8) := do
  match ← request .read with
  | .byte b => pure (some b)
  | .nothing => pure none
  | .refused => throw .readRefused

/-- Waits, if the clock takes the time. -/
def pause (seconds : Number) : ControlM Unit := do
  match ← request (.sleep seconds) with
  | .ok () => pure ()
  | .error fault => throw (.clock fault)

/-- Sets the outputs and waits, for a second if no time is given. The byte counts as put on the
outputs once it is taken, whatever the answer and however the waiting goes. -/
def setOutputs (pattern : Option Int) (wait timeout : Option Number) : ControlM Unit := do
  let byte ← outputByte pattern
  transmit .outputs (some byte)
  modify fun c => { c with latch := some byte }
  request (.setTimeout timeout)
  let _ ← receive
  pause (wait.getD 1)

/-- Reads the inputs, with the outputs as they are. -/
def readInputs : ControlM Inputs := do
  transmit .inputs (← get).latch
  return .ofByte (← receive)

/-- Reads the inputs and compares them with a condition. -/
def checkInputs (c : Condition) : ControlM Bool := do
  let inputs ← readInputs
  match c.holds? inputs with
  | some holds => pure holds
  | none => throw .noCondition

/-- Connects to the box over the named port, in place of an earlier connection, and turns all
outputs off. The box may miss the first byte after it is switched on, so this is done twice. If the
port cannot be opened, the earlier connection stays. -/
def connect (port : String) : ControlM Unit := do
  if (← get).connected then request .closePort
  let isOpen : Bool ← request (.openPort port)
  unless isOpen do throw .cannotOpen
  modify fun c => { c with connected := true }
  request .clearInput
  request .clearOutput
  setOutputs (some 0) none (some 0.5)
  setOutputs (some 0) none none

end Control

end LineControl

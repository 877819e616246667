import LineControl.CommandLine

/-!
# The command

The command carries out dialogues on the files, the screen and a serial device of this machine. The
speed of the device is left as the system has set it.
-/

set_option autoImplicit false

namespace LineControl

/-- The device that is open, if one is. -/
abbrev Live := StateT (Option IO.FS.Handle) IO

namespace Live

/-- The result of an action that may fail. -/
def attempt {α : Type} (action : IO α) : IO (Option α) := do
  try
    return some (← action)
  catch _ =>
    return none

/-- Sends a byte to the open device. -/
def write (byte : Option UInt8) : Live WriteAnswer := do
  match ← get, byte with
  | some device, some b =>
    let sent ← attempt (do device.write ⟨#[b]⟩; device.flush)
    return if sent.isSome then .taken else .refused
  | some _, none => return .taken
  | none, _ => return .refused

/-- Takes a byte from the open device. -/
def read : Live ReadAnswer := do
  match ← get with
  | none => return .refused
  | some device =>
    match ← attempt (device.read 1) with
    | none => return .refused
    | some bytes =>
      match bytes.toList with
      | b :: _ => return .byte b
      | [] => return .nothing

/-- Waits for the given nanoseconds, rounded up to milliseconds. The system waits for at most so
many milliseconds at once as fit into a word of 32 bits. -/
def sleep (nanoseconds : Nat) : Live Unit := do
  let milliseconds := (nanoseconds + 999999) / 1000000
  for _ in List.range (milliseconds / 0xFFFFFFFF) do
    IO.sleep 0xFFFFFFFF
  IO.sleep (UInt32.ofNat (milliseconds % 0xFFFFFFFF))

/-- Answers a request. -/
def answer : (request : Request) → Live request.Answer
  | .fetch file => do
    let bytes ← attempt (IO.FS.readBinFile file)
    return show Option (List UInt8) from bytes.map (·.toList)
  | .display _ text => do
    let stdout ← IO.getStdout
    stdout.putStr text
    stdout.flush
  | .openPort name => do
    match ← attempt (IO.FS.Handle.mk name .readWrite) with
    | none => return false
    | some device =>
      set (some device)
      return true
  | .closePort => set (none : Option IO.FS.Handle)
  | .clearInput | .clearOutput | .setTimeout _ => pure ()
  | .write _ byte => write byte
  | .read => read
  | .sleep seconds => do
    match Clock.wait (← IO.monoNanosNow) seconds with
    | .ok nanoseconds =>
      sleep nanoseconds
      return .ok ()
    | .error fault => return .error fault

/-- Carries out a dialogue. -/
def carryOut {α : Type} : Dialogue α → Live α
  | .done result => pure result
  | .ask request next => do carryOut (next (← answer request))

end Live

end LineControl

/-- More screens and readings than a run lives to see. -/
def endless : LineControl.Limits := ⟨1000000000000000, 1000000000000000⟩

open LineControl in
/-- Lists a file, or runs it on the named port. -/
def main (args : List String) : IO UInt32 := do
  let command := "linecontrol"
  match CommandLine.parse args with
  | .error fault =>
    IO.eprint (CommandLine.refusal command fault)
    return UInt32.ofNat CommandLine.refusedCode
  | .ok .help =>
    IO.print (CommandLine.help command)
    return 0
  | .ok (.program file port) =>
    let dialogue := (CommandLine.script endless file port).run.run {}
    let ((result, _), _) ← (Live.carryOut dialogue).run none
    match result with
    | .ok () => return 0
    | .error fault =>
      IO.eprintln (command ++ ": " ++ fault.message)
      return 1

import LineControl.Control.Basic

/-!
# The bench

Dialogues are played on a bench. A port is a tape of answers to the bytes sent to it and a tape of
answers when bytes are asked for; past the end of a tape it refuses. What a dialogue can see of any
port in a finite time is such a pair of tapes. The clock waits for any time, unless the bench has
another one. Playing a dialogue logs its events.
-/

set_option autoImplicit false

namespace LineControl

/-- The speed of the line to the box, in bits per second. -/
def baudRate : Nat := 19200

/-- What happened during a dialogue. A byte that was sent may not have been taken. -/
inductive Event where
  | displayed (active : Option Int)
  | opened (port : String)
  | closed
  | inputCleared
  | outputCleared
  | timeoutSet (seconds : Option Number)
  | wrote (byte : Option UInt8) (taken : Bool)
  | read (byte : Option UInt8)
  | slept (seconds : Number)
deriving DecidableEq

/-- The answers that are still to come from a port. -/
structure Wire where
  writes : List WriteAnswer := []
  reads : List ReadAnswer := []

/-- A port: whether it can be opened, and how it answers then. -/
structure Port where
  opens : Bool
  wire : Wire

/-- The world on a bench: its files, the port plugged in, the wire of the open port, and the
clock. -/
structure Bench where
  files : String → Option (List UInt8) := fun _ => none
  socket : Port := ⟨false, {}⟩
  wire : Wire := {}
  clock : Clock := .patient

/-- What playing leaves behind: the result, the events, the text on the screen, and the bench. -/
structure Played (α : Type) where
  result : α
  events : List Event
  output : String
  bench : Bench

namespace Bench

/-- A result without any trace. -/
def quiet {α : Type} (bench : Bench) (result : α) : Played α :=
  ⟨result, [], "", bench⟩

/-- A result with one event. -/
def logged {α : Type} (bench : Bench) (result : α) (event : Event) : Played α :=
  ⟨result, [event], "", bench⟩

/-- Answers a byte that is sent. A refusal leaves no event. -/
def write (bench : Bench) (byte : Option UInt8) : Played WriteAnswer :=
  match bench.wire.writes with
  | [] => bench.quiet .refused
  | answer :: later =>
    let bench := { bench with wire := { bench.wire with writes := later } }
    match answer with
    | .refused => bench.quiet .refused
    | .short => bench.logged .short (.wrote byte false)
    | .taken => bench.logged .taken (.wrote byte true)

/-- Answers when a byte is asked for. A refusal leaves no event. -/
def read (bench : Bench) : Played ReadAnswer :=
  match bench.wire.reads with
  | [] => bench.quiet .refused
  | answer :: later =>
    let bench := { bench with wire := { bench.wire with reads := later } }
    match answer with
    | .refused => bench.quiet .refused
    | .nothing => bench.logged .nothing (.read none)
    | .byte b => bench.logged (.byte b) (.read (some b))

/-- Opens the port plugged in, if it can be opened. -/
def openPort (bench : Bench) (name : String) : Played Bool :=
  if bench.socket.opens then
    { bench with wire := bench.socket.wire }.logged true (.opened name)
  else bench.logged false (.opened name)

/-- Waits, if the clock takes the time. A refusal leaves no event. -/
def sleep (bench : Bench) (seconds : Number) : Played (Except ClockFault Unit) :=
  let answer := bench.clock seconds
  ⟨answer, if answer.isOk then [.slept seconds] else [], "", bench⟩

/-- Answers a request. -/
def answer (bench : Bench) : (request : Request) → Played request.Answer
  | .fetch file => bench.quiet (bench.files file)
  | .display active text => ⟨(), [.displayed active], text, bench⟩
  | .openPort name => bench.openPort name
  | .closePort => bench.logged () .closed
  | .clearInput => bench.logged () .inputCleared
  | .clearOutput => bench.logged () .outputCleared
  | .setTimeout seconds => bench.logged () (.timeoutSet seconds)
  | .write _ byte => bench.write byte
  | .read => bench.read
  | .sleep seconds => bench.sleep seconds

/-- Plays a dialogue to its end. -/
def play {α : Type} (bench : Bench) : Dialogue α → Played α
  | .done result => bench.quiet result
  | .ask request next =>
    let first := bench.answer request
    let rest := first.bench.play (next first.result)
    ⟨rest.result, first.events ++ rest.events, first.output ++ rest.output, rest.bench⟩

end Bench

/-- What an input does after its last byte. -/
inductive InputEnd where
  /-- It starts over. -/
  | cycle
  /-- It refuses. -/
  | stop
  /-- Nothing comes any more. -/
  | silence
deriving DecidableEq

/-- A port described by its input and the number of bytes it takes; the bytes with the numbers in
`shortWrites` are not taken. -/
structure PortScript where
  input : List UInt8 := [0]
  inputEnd : InputEnd := .cycle
  shortWrites : List Nat := []
  maxWrites : Nat := 200
  opens : Bool := true

namespace PortScript

/-- The answers to the bytes sent. -/
def writes (s : PortScript) : List WriteAnswer :=
  (List.range s.maxWrites).map fun n => if s.shortWrites.contains n then .short else .taken

/-- The answers when bytes are asked for. A controller asks for a byte only after one was taken, so
there are never more of them than of the others. -/
def reads (s : PortScript) : List ReadAnswer :=
  match s.inputEnd with
  | .stop => s.input.map .byte
  | .silence => s.input.map .byte ++ List.replicate s.maxWrites .nothing
  | .cycle =>
    (List.range s.maxWrites).map fun n =>
      match s.input[n % s.input.length]? with
      | some b => .byte b
      | none => .nothing

/-- The port that the script describes. -/
def port (s : PortScript) : Port :=
  ⟨s.opens, s.writes, s.reads⟩

end PortScript

namespace Event

/-- A byte in a log. -/
def byteText : Option UInt8 → Option String
  | none => none
  | some b => some (String.ofList (Text.hex 2 b.toNat))

/-- The line that the event leaves in a log. -/
def text : Event → String
  | .displayed none => "print none"
  | .displayed (some line) => "print " ++ toString line
  | .opened port => "open " ++ port ++ " " ++ toString baudRate
  | .closed => "close"
  | .inputCleared => "reset_input"
  | .outputCleared => "reset_output"
  | .timeoutSet none => "timeout none"
  | .timeoutSet (some seconds) => "timeout " ++ seconds.text
  | .wrote byte _ => "write " ++ (byteText byte).getD "none"
  | .read byte => "read " ++ (byteText byte).getD "-"
  | .slept seconds => "sleep " ++ seconds.text

/-- Whether the event is one of the screen. -/
def isDisplay : Event → Bool
  | .displayed _ => true
  | _ => false

end Event

end LineControl

import LineControl.Control.Bench
import LineControl.Run

/-!
# Sessions

A session is a controller at work on a bench. Each action is played on what the earlier ones left,
also after a fault.
-/

set_option autoImplicit false

namespace LineControl

/-- A controller and the bench it works on. -/
structure Session where
  controller : Controller := {}
  bench : Bench := {}

/-- What an action leaves behind: its result or fault, its events, the text on the screen, and the
session. -/
structure Report (α : Type) where
  result : Except Fault α
  events : List Event
  output : String
  session : Session

/-- The limits of a run that shows at most the given number of screens. A reading sends a byte, so
the bytes that the ports take bound the readings. -/
def Bench.limits (bench : Bench) (screens : Nat) : Limits :=
  ⟨screens, bench.wire.writes.length + bench.socket.wire.writes.length⟩

namespace Session

/-- Plays an action. -/
def perform {α : Type} (session : Session) (action : ControlM α) : Report α :=
  let played := session.bench.play (action.run.run session.controller)
  ⟨played.result.1, played.events, played.output, ⟨played.result.2, played.bench⟩⟩

/-- The session with other files at hand. -/
def withFiles (session : Session) (files : String → Option (List UInt8)) : Session :=
  { session with bench := { session.bench with files := files } }

/-- The session with another port plugged in. -/
def withSocket (session : Session) (port : Port) : Session :=
  { session with bench := { session.bench with socket := port } }

/-- Runs the program, showing at most the given number of screens. -/
def run (session : Session) (screens : Nat) : Report Unit :=
  session.perform (Control.run (session.bench.limits screens))

end Session

end LineControl

import LineControl.Control.Clock

/-!
# Dialogues

A controller never acts by itself: it makes requests (show this, write that byte, wait so long) and
goes on with the answers. A dialogue is such a course of requests as a value, so the same controller
can be played against a port on a bench or carried out on a real one.

What can go wrong outside is part of the answer: a file may be missing, a port may not open, may not
take a byte or may not give one, and the clock may refuse to wait. The other requests are taken
never to fail. These are closing a port, clearing its input and output, setting its timeout and
putting a text on the screen; nothing is known of a device that fails at one of them, and the
controller would not act on it.
-/

set_option autoImplicit false

namespace LineControl

/-- How a port answers a byte sent to it. -/
inductive WriteAnswer where
  | taken
  | short
  | refused
deriving DecidableEq

/-- How a port answers when a byte is asked for; nothing may come in time. -/
inductive ReadAnswer where
  | byte (b : UInt8)
  | nothing
  | refused
deriving DecidableEq

/-- What a byte is sent for: to set the outputs, or to have the inputs sent back with the outputs as
they are. A port gets the same byte either way. -/
inductive Purpose where
  | outputs
  | inputs
deriving DecidableEq

/-- A request to the outside. -/
inductive Request where
  /-- The content of a file. -/
  | fetch (file : String)
  /-- Put a text on the screen, the listing with the given active line. -/
  | display (active : Option Int) (text : String)
  /-- Open the port of that name. -/
  | openPort (name : String)
  | closePort
  | clearInput
  | clearOutput
  /-- How long to wait for a byte; without a limit if none is given. -/
  | setTimeout (seconds : Option Number)
  /-- Send a byte, or send that there is none. -/
  | write (purpose : Purpose) (byte : Option UInt8)
  | read
  /-- Wait for so long. -/
  | sleep (seconds : Number)

/-- What answers a request. -/
def Request.Answer : Request → Type
  | .fetch _ => Option (List UInt8)
  | .openPort _ => Bool
  | .write _ _ => WriteAnswer
  | .read => ReadAnswer
  | .sleep _ => Except ClockFault Unit
  | .display _ _ | .closePort | .clearInput | .clearOutput | .setTimeout _ => Unit

/-- A dialogue: a result, or a request and how to go on with its answer. -/
inductive Dialogue (α : Type) where
  | done (result : α)
  | ask (request : Request) (next : request.Answer → Dialogue α)

namespace Dialogue

variable {α β : Type}

/-- Goes on with the result of a dialogue. -/
def bind (x : Dialogue α) (f : α → Dialogue β) : Dialogue β :=
  match x with
  | .done a => f a
  | .ask request next => .ask request fun answer => (next answer).bind f

instance : Monad Dialogue where
  pure := .done
  bind := bind

end Dialogue

end LineControl

import LineControl.Control.Basic

/-!
# Running a program

A cursor says which line is next, which line was before, and which loops are open. Before each line
the listing is shown with that line active, and once more at the end.

A loop is entered when its head is reached from above; from below it is another pass. A false `IF`
goes on at the next `ENDIF` in the program.
-/

set_option autoImplicit false

namespace LineControl

/-- An open loop: its head, and the number of passes done if they are counted. -/
structure Loop where
  head : Nat
  passes : Option Nat
deriving DecidableEq

/-- A place in a run: the line that is next, the line before it, and the open loops, innermost
first. Lines are counted from zero. -/
structure Cursor where
  line : Nat := 0
  previous : Option Nat := none
  loops : List Loop := []
deriving DecidableEq

/-- How long a run may go on: the screens it may show, and the readings that one `COUNT` may
take. -/
structure Limits where
  screens : Nat
  readings : Nat

namespace Cursor

/-- Goes on at another line. -/
def jump (c : Cursor) (line : Nat) : Cursor :=
  { c with line := line, previous := some c.line }

/-- Goes on at the line below. -/
def next (c : Cursor) : Cursor :=
  c.jump (c.line + 1)

/-- Whether the line is reached from above. -/
def isEntry (c : Cursor) : Bool :=
  c.previous.all (· < c.line)

/-- Goes on below with the innermost loop closed. -/
def leave (c : Cursor) : ControlM Cursor :=
  match c.loops with
  | [] => throw .noLoopToLeave
  | _ :: outer => pure { c.next with loops := outer }

/-- Goes back to the head of the innermost loop. -/
def again (c : Cursor) : ControlM Cursor :=
  match c.loops with
  | [] => throw .noLoopToRepeat
  | loop :: _ => pure (c.jump loop.head)

end Cursor

/-- The input of which a line counts the changes: the one that is asked to be on, if the other does
not matter. -/
def Condition.watched? (c : Condition) : Option (Inputs → Bool) :=
  match c.in7, c.in6 with
  | some true, none => some Inputs.in7
  | none, some true => some Inputs.in6
  | _, _ => none

namespace Control

/-- Reads the inputs until the watched one has changed often enough since the reading `last`. -/
def awaitChanges (c : Condition) (limit : Number) : Nat → Inputs → Nat → ControlM Unit
  | 0, _, changes => if limit.isAbove changes then throw .stepLimit else pure ()
  | readings + 1, last, changes => do
    if limit.isAbove changes then
      let now ← readInputs
      match c.watched? with
      | none => throw .unsupportedCount
      | some watched =>
        awaitChanges c limit readings now
          (if watched now == watched last then changes else changes + 1)

/-- Waits for a number of changes of an input. -/
def countChanges (readings : Nat) (c : Condition) (limit : Option Number) : ControlM Unit := do
  let first ← readInputs
  match limit with
  | none => throw .noChangeLimit
  | some limit => awaitChanges c limit readings first 0

end Control

namespace Program

/-- The next `ENDIF` below a line, or the line itself if there is none. -/
def nextEnd (program : Program) (line : Nat) : Nat :=
  match (program.drop (line + 1)).findIdx? (· == .ifEnd) with
  | some distance => line + 1 + distance
  | none => line

/-- Whether `passes` passes are as many as the head of the loop asks for. -/
def isLastPass (program : Program) (head passes : Nat) : Bool :=
  ((program[head]?).bind Instruction.value).any (·.isNat passes)

/-- Ends a pass of a counted loop. -/
def endPass (program : Program) (c : Cursor) : ControlM Cursor :=
  match c.loops with
  | [] => throw .noLoopToRepeat
  | ⟨_, none⟩ :: _ => throw .noPassCount
  | ⟨head, some passes⟩ :: outer =>
    let c := { c with loops := ⟨head, some (passes + 1)⟩ :: outer }
    if program.isLastPass head (passes + 1) then c.leave else c.again

/-- Executes the line at the cursor. -/
def execute (program : Program) (readings : Nat) (c : Cursor) : ControlM Cursor :=
  match program[c.line]? with
  | none => throw .noSuchLine
  | some (.setOutput _ pattern wait) => do
    Control.setOutputs pattern wait none
    return c.next
  | some (.repeatStart count) =>
    if c.isEntry then
      pure { c.next with loops := ⟨c.line, count.map fun _ => 0⟩ :: c.loops }
    else pure c.next
  | some (.repeatUntil condition) => do
    if ← Control.checkInputs condition then c.leave else c.again
  | some .repeatEnd => program.endPass c
  | some .repeatForever => c.again
  | some (.ifStart condition) => do
    if ← Control.checkInputs condition then return c.next
    else return c.jump (program.nextEnd c.line)
  | some .ifEnd => pure c.next
  | some (.count condition limit) => do
    Control.countChanges readings condition limit
    return c.next
  | some (.plain ..) | some (.plainEnd ..) => throw .unknownInstruction

/-- Runs the program from the cursor on, as long as there are screens left. -/
def runFrom (program : Program) (readings : Nat) : Nat → Cursor → ControlM Unit
  | 0, _ => throw .stepLimit
  | screens + 1, c => do
    Control.display (some c.line) true
    let c ← program.execute readings c
    if c.line < program.length then program.runFrom readings screens c
    else if screens = 0 then throw .stepLimit
    else Control.display none true

end Program

/-- Checks the program and runs it. An empty program shows nothing. -/
def Control.run (limits : Limits) : ControlM Unit := do
  Control.check
  let program := (← get).program
  unless program.isEmpty do program.runFrom limits.readings limits.screens {}

end LineControl

import LineControl.Proofs.Play

/-!
# What a run is made of

A line of a program acts on the box in two ways only: it sets the outputs, or it reads the inputs.
All else in it is sequence, choice and faults. So a property of actions that these two have and that
a sequence takes over from its parts is a property of every line (`LineClosed.execute`). If it is
one of the screens too, and looking at the controller does not break it, every run has it
(`RunClosed.run`).

The lines are split into their kinds here, once. Frames, invariants over sessions and the comparison
of two runs are then each proved of the two actions.

## Why two structures

Some properties are those of lines but not of screens. A line shows nothing, for one
(`OnBox.unseen`), and a run shows a screen for every line. So `LineClosed` asks for what a line
needs and `RunClosed` adds the screens. The property is one of actions at every type of result,
because a sequence passes through results of several types. It may speak of sessions, so an
invariant `I` of sessions is the property of an action that it keeps `I`.

What cannot be had this way is anything that depends on which line comes next. For these there is
`Proofs.Turns`, where a run is a sequence of turns with a place in the program.
-/

set_option autoImplicit false

namespace LineControl

variable {P : (α : Type) → ControlM α → Prop}

/-- The property holds of the actions that a line is made of, and passes on to sequences. -/
structure LineClosed (P : (α : Type) → ControlM α → Prop) : Prop where
  pure : ∀ {α : Type} (a : α), P α (Pure.pure a)
  throw : ∀ {α : Type} (fault : Fault), P α (throw fault)
  bind : ∀ {α β : Type} {x : ControlM α} {f : α → ControlM β},
    P α x → (∀ a, P β (f a)) → P β (x >>= f)
  setOutputs : ∀ (pattern : Option Int) (wait timeout : Option Number),
    P Unit (Control.setOutputs pattern wait timeout)
  readInputs : P Inputs Control.readInputs

/-- The property also holds of the screens, and of what looks at the controller. -/
structure RunClosed (P : (α : Type) → ControlM α → Prop) : Prop extends LineClosed P where
  get_bind : ∀ {α : Type} {f : Controller → ControlM α}, (∀ c, P α (f c)) → P α (get >>= f)
  display : ∀ (active : Option Int) (clear : Bool), P Unit (Control.display active clear)

/-- What connecting does once an earlier connection is closed. -/
def Control.establish (name : String) : ControlM Unit := do
  let isOpen : Bool ← request (.openPort name)
  unless isOpen do throw .cannotOpen
  modify fun c => { c with connected := true }
  request .clearInput
  request .clearOutput
  setOutputs (some 0) none (some 0.5)
  setOutputs (some 0) none none

theorem Control.connect_eq (name : String) :
    connect name = (do
      if (← get).connected then request .closePort
      establish name) := rfl

/-- The byte for a pattern is found without any exchange: there is one, or a fault. -/
theorem Control.outputByte_cases {Q : ControlM UInt8 → Prop} (hpure : ∀ byte, Q (pure byte))
    (hthrow : ∀ fault, Q (throw fault)) (pattern : Option Int) : Q (outputByte pattern) := by
  cases pattern with
  | none => exact hthrow _
  | some pattern =>
    unfold outputByte
    dsimp only
    split
    · exact hthrow _
    · split
      · exact hthrow _
      · exact hpure _

/-! ## 1. Lines

One lemma for each function that a line is made of, each by following its text. -/

namespace LineClosed

variable (h : LineClosed P)

include h

theorem checkInputs (condition : Condition) : P Bool (Control.checkInputs condition) := by
  refine h.bind h.readInputs fun inputs => ?_
  cases condition.holds? inputs with
  | some holds => exact h.pure _
  | none => exact h.throw _

/-- Waiting for changes is a row of readings, by induction on how many there may be. -/
theorem awaitChanges (condition : Condition) (limit : Number) (readings : Nat) (last : Inputs)
    (changes : Nat) : P Unit (Control.awaitChanges condition limit readings last changes) := by
  induction readings generalizing last changes with
  | zero =>
    unfold Control.awaitChanges
    split
    · exact h.throw _
    · exact h.pure _
  | succ readings ih =>
    unfold Control.awaitChanges
    split
    · refine h.bind h.readInputs fun now => ?_
      cases condition.watched? with
      | none => exact h.throw _
      | some watched => exact ih _ _
    · exact h.pure _

theorem countChanges (readings : Nat) (condition : Condition) (limit : Option Number) :
    P Unit (Control.countChanges readings condition limit) := by
  refine h.bind h.readInputs fun first => ?_
  cases limit with
  | none => exact h.throw _
  | some limit => exact h.awaitChanges condition limit readings first 0

theorem leave (c : Cursor) : P Cursor c.leave := by
  unfold Cursor.leave
  split
  · exact h.throw _
  · exact h.pure _

theorem again (c : Cursor) : P Cursor c.again := by
  unfold Cursor.again
  split
  · exact h.throw _
  · exact h.pure _

theorem endPass (program : Program) (c : Cursor) : P Cursor (program.endPass c) := by
  unfold Program.endPass
  split
  · exact h.throw _
  · exact h.throw _
  · dsimp only
    split
    · exact h.leave _
    · exact h.again _

/-- What passes on to sequences and holds of the two actions on the box holds of every line. -/
theorem execute (program : Program) (readings : Nat) (c : Cursor) :
    P Cursor (program.execute readings c) := by
  unfold Program.execute
  cases program[c.line]? with
  | none => exact h.throw _
  | some i =>
    cases i with
    | setOutput label pattern wait =>
      exact h.bind (h.setOutputs pattern wait none) fun _ => h.pure _
    | repeatStart count =>
      dsimp only
      split
      · exact h.pure _
      · exact h.pure _
    | repeatUntil condition =>
      refine h.bind (h.checkInputs condition) fun met => ?_
      cases met with
      | true => exact h.leave c
      | false => exact h.again c
    | repeatEnd => exact h.endPass program c
    | repeatForever => exact h.again c
    | ifStart condition =>
      refine h.bind (h.checkInputs condition) fun met => ?_
      cases met with
      | true => exact h.pure _
      | false => exact h.pure _
    | ifEnd => exact h.pure _
    | count condition limit =>
      exact h.bind (h.countChanges readings condition limit) fun _ => h.pure _
    | plain label condition pattern value => exact h.throw _
    | plainEnd label condition => exact h.throw _

end LineClosed

/-! ## 2. Runs -/

namespace RunClosed

variable (h : RunClosed P)

include h

/-- A run from a line on is a row of screens and lines, by induction on the screens that may be
shown. -/
theorem runFrom (program : Program) (readings screens : Nat) (c : Cursor) :
    P Unit (program.runFrom readings screens c) := by
  induction screens generalizing c with
  | zero => exact h.throw _
  | succ screens ih =>
    unfold Program.runFrom
    refine h.bind (h.display _ _) fun _ => ?_
    refine h.bind (h.execute program readings c) fun c' => ?_
    split
    · exact ih c'
    · split
      · exact h.throw _
      · exact h.display _ _

/-- What holds of the screens as well holds of every run, wherever it stops. -/
theorem run (limits : Limits) : P Unit (Control.run limits) := by
  have hcheck : P Unit Control.check := by
    refine h.get_bind fun controller => ?_
    split
    · exact h.pure _
    · exact h.throw _
  refine h.bind hcheck fun _ => h.get_bind fun controller => ?_
  dsimp only
  split
  · exact h.pure _
  · exact h.runFrom _ _ _ _

end RunClosed

end LineControl

import LineControl.Instruction

/-!
# The check of structures

One pass over the lines keeps the structures that are open, innermost first. A closing line has to
fit the innermost open structure; with none open it is let pass. At most eight structures may be
open at once, and a `COUNT` needs a value.
-/

set_option autoImplicit false

namespace LineControl

/-- Why a program is refused. Each fault names a line, counted from one. -/
inductive NestingFault where
  | countWithoutValue (line : Nat)
  | ifWithoutEnd (line : Nat)
  | repeatWithoutEnd (line : Nat)
  | endWithoutCount (line : Nat)
  | tooDeep (line : Nat)
deriving DecidableEq

/-- The wording of a fault. -/
def NestingFault.message : NestingFault → String
  | .countWithoutValue line => "Line " ++ toString line ++ ": COUNT has no value"
  | .ifWithoutEnd line => "Line " ++ toString line ++ ": IF structure has no ending"
  | .repeatWithoutEnd line => "Line " ++ toString line ++ ": REPEAT structure has no ending"
  | .endWithoutCount line =>
    "Line " ++ toString line ++ ": ENDREPEAT has no matching REPEAT n statement"
  | .tooDeep line => "Line " ++ toString line ++ ": Structures too deeply nested"

namespace Nesting

/-- An open structure: an `IF`, or a `REPEAT` with or without a count. -/
inductive Kind where
  | conditional
  | loop (counted : Bool)
deriving DecidableEq

/-- An open structure and the line that opened it. -/
structure Opening where
  line : Nat
  kind : Kind
deriving DecidableEq

/-- The number of structures that may be open at once. -/
def maxDepth : Nat := 8

/-- The fault of a structure that is not closed. -/
def Opening.unclosed (o : Opening) : NestingFault :=
  match o.kind with
  | .conditional => .ifWithoutEnd o.line
  | .loop _ => .repeatWithoutEnd o.line

/-- Opens a structure. -/
def enter (opened : List Opening) (o : Opening) : Except NestingFault (List Opening) :=
  if opened.length < maxDepth then .ok (o :: opened) else .error (.tooDeep o.line)

/-- Closes the innermost loop. An end that counts needs a loop with a count. -/
def leaveLoop (counting : Bool) : List Opening → Except NestingFault (List Opening)
  | [] => .ok []
  | ⟨line, .conditional⟩ :: _ => .error (.ifWithoutEnd line)
  | ⟨line, .loop counted⟩ :: rest =>
    if counting && !counted then .error (.endWithoutCount line) else .ok rest

/-- Closes the innermost `IF`. -/
def leaveConditional : List Opening → Except NestingFault (List Opening)
  | [] => .ok []
  | ⟨_, .conditional⟩ :: rest => .ok rest
  | ⟨line, .loop _⟩ :: _ => .error (.repeatWithoutEnd line)

/-- The open structures after a line. -/
def step (opened : List Opening) (line : Nat) : Instruction →
    Except NestingFault (List Opening)
  | .repeatStart count => enter opened ⟨line, .loop count.isSome⟩
  | .ifStart _ => enter opened ⟨line, .conditional⟩
  | .repeatUntil _ | .repeatForever => leaveLoop false opened
  | .repeatEnd => leaveLoop true opened
  | .ifEnd => leaveConditional opened
  | .count _ none => .error (.countWithoutValue line)
  | .count _ (some _) | .setOutput .. | .plain .. | .plainEnd .. => .ok opened

/-- The open structures after the given lines, the first of which has the given number. -/
def scan (opened : List Opening) (line : Nat) : Program → Except NestingFault (List Opening)
  | [] => .ok opened
  | i :: rest =>
    match step opened line i with
    | .ok opened => scan opened (line + 1) rest
    | .error fault => .error fault

end Nesting

/-- Accepts the program, or names its first fault. -/
def Program.check (program : Program) : Except NestingFault Unit :=
  match Nesting.scan [] 1 program with
  | .ok [] => .ok ()
  | .ok (o :: _) => .error o.unclosed
  | .error fault => .error fault

end LineControl

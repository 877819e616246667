import LineControl.Number.Basic

/-!
# Instructions

Instructions are the lines of a program. A line either sets the outputs, opens or closes a structure
(`REPEAT` with one of its three ends, `IF` with `ENDIF`), or counts the changes of an input. A plain
line has no meaning of its own: it can be listed and checked, but not run.
-/

set_option autoImplicit false

namespace LineControl

/-- What the two inputs have to show; `none` stands for any reading. -/
structure Condition where
  in7 : Option Bool
  in6 : Option Bool
deriving DecidableEq

/-- Whether the condition asks for anything. -/
def Condition.isReal (c : Condition) : Bool :=
  c.in7.isSome || c.in6.isSome

/-- The condition that any reading meets. -/
def Condition.any : Condition := ⟨none, none⟩

/-- A line of a program. The pattern holds one bit for each output, the value is a count or a time.
A line without a keyword of its own may be left without a label; then it can be checked, but not
listed. -/
inductive Instruction where
  | setOutput (label : Option String) (pattern : Option Int) (value : Option Number)
  | repeatStart (count : Option Number)
  | repeatUntil (condition : Condition)
  | repeatEnd
  | repeatForever
  | ifStart (condition : Condition)
  | ifEnd
  | count (condition : Condition) (value : Option Number)
  | plain (label : Option String) (condition : Condition) (pattern : Option Int)
    (value : Option Number)
  | plainEnd (label : Option String) (condition : Condition)
deriving DecidableEq

/-- A program: its lines from top to bottom. -/
abbrev Program := List Instruction

/-- Why a line cannot be built. -/
inductive BuildFault where
  | noCondition
  | notAnInstruction
deriving DecidableEq

/-- The wording of a fault. -/
def BuildFault.message : BuildFault → String
  | .noCondition => "No real condition present, cannot accept any value for both IN7 and IN6"
  | .notAnInstruction => ""

namespace Instruction

/-- The end of a loop that is left when the condition holds. -/
def mkUntil (c : Condition) : Except BuildFault Instruction :=
  if c.isReal then .ok (.repeatUntil c) else .error .noCondition

/-- A line that waits for a number of changes. -/
def mkCount (c : Condition) (value : Option Number) : Except BuildFault Instruction :=
  if c.isReal then .ok (.count c value) else .error .noCondition

/-- What stands in the label column; there is nothing to put there if the line has no label. -/
def label : Instruction → Option String
  | .setOutput label _ _ => label
  | .repeatStart _ => some "REPEAT"
  | .repeatUntil _ => some "UNTIL"
  | .repeatEnd => some "ENDREPEAT"
  | .repeatForever => some "FOREVER"
  | .ifStart _ => some "IF"
  | .ifEnd => some "ENDIF"
  | .count _ _ => some "COUNT"
  | .plain label _ _ _ => label
  | .plainEnd label _ => label

/-- What stands in the two input columns. -/
def condition : Instruction → Condition
  | .repeatUntil c | .ifStart c | .count c _ | .plain _ c _ _ | .plainEnd _ c => c
  | _ => .any

/-- What stands in the output columns. -/
def pattern : Instruction → Option Int
  | .setOutput _ pattern _ | .plain _ _ pattern _ => pattern
  | _ => none

/-- What stands in the value column. -/
def value : Instruction → Option Number
  | .setOutput _ _ value | .repeatStart value | .count _ value | .plain _ _ _ value => value
  | _ => none

end Instruction

/-- Bit `i` of a whole number; negative numbers have infinitely many high bits set. -/
def testBit (n : Int) (i : Nat) : Bool :=
  n >>> i % 2 == 1

end LineControl

import LineControl.Nesting
import LineControl.Run

/-!
# Blocks

A block is a program written as a tree: lines that do something in sequence, loops with one of
their three ends, and bodies under an `IF`. `Block.lines` is the program in the order in which it
is listed. The check accepts it if no more than eight structures lie inside one another
(`Block.check_lines`).

`Block.run` is the meaning of a block, by recursion on the tree. It knows no cursor, no stack of
loops and no search for an `ENDIF`; line numbers occur only to be shown. Each screen shown is taken
off the number of screens left. The types say that this number never grows, and that a pass of a
loop takes at least one, so the passes of a loop that never ends are defined by recursion on it.

That a run of the lines is the meaning of the block is not in this file, but in `Proofs.Meaning`.

## What is no block

An accepted program need not be a block. A closing line with nothing to close is let pass by the
check, and so is a line of no known kind; neither has a place in the tree, for the first has no
structure and the second does nothing but stop the run. A `COUNT` without a value and an `ENDREPEAT`
without a number are refused, and here the types leave no room for them. The programs that are
accepted are those of the grammar in `Proofs.Grammar`, which has no meaning attached.
-/

set_option autoImplicit false

namespace LineControl

/-! ## 1. Trees and their lines

The rest of a block is part of its first constructor, so a sequence of lines is a chain of blocks
and an induction on the tree goes from top to bottom. -/

/-- A line that does something and goes on below: it sets the outputs, or waits for changes. -/
inductive Action where
  | output (label : Option String) (pattern : Option Int) (wait : Option Number)
  | count (condition : Condition) (limit : Number)
deriving DecidableEq

/-- How a loop ends: when a condition holds after a pass, never, or after a number of passes. Only
the last makes use of the number at the head, and cannot be without one. -/
inductive Ending where
  | upon (count : Option Number) (condition : Condition)
  | never (count : Option Number)
  | after (count : Number)
deriving DecidableEq

/-- A program as a tree. -/
inductive Block where
  | empty
  | action (action : Action) (rest : Block)
  | loop (ending : Ending) (body rest : Block)
  | guarded (condition : Condition) (body rest : Block)

/-- The line of an action. -/
def Action.line : Action → Instruction
  | .output label pattern wait => .setOutput label pattern wait
  | .count condition limit => .count condition (some limit)

namespace Ending

/-- The number at the head of the loop. -/
def headCount : Ending → Option Number
  | .upon count _ | .never count => count
  | .after count => some count

/-- The line that closes the loop. -/
def closing : Ending → Instruction
  | .upon _ condition => .repeatUntil condition
  | .never _ => .repeatForever
  | .after _ => .repeatEnd

end Ending

namespace Block

/-- The lines from top to bottom. -/
def lines : Block → Program
  | empty => []
  | action a rest => a.line :: rest.lines
  | loop ending body rest =>
    .repeatStart ending.headCount :: (body.lines ++ ending.closing :: rest.lines)
  | guarded condition body rest => .ifStart condition :: (body.lines ++ .ifEnd :: rest.lines)

/-- How many structures lie inside one another. -/
def depth : Block → Nat
  | empty => 0
  | action _ rest => rest.depth
  | loop _ body rest | guarded _ body rest => max (body.depth + 1) rest.depth

/-- Whether there is no `IF` at any depth. -/
def isIfFree : Block → Bool
  | empty => true
  | action _ rest => rest.isIfFree
  | loop _ body rest => body.isIfFree && rest.isIfFree
  | guarded .. => false

/-- Whether no `IF` has another in its body, at any depth. -/
def isFlat : Block → Bool
  | empty => true
  | action _ rest => rest.isFlat
  | loop _ body rest => body.isFlat && rest.isFlat
  | guarded _ body rest => body.isIfFree && rest.isFlat

theorem isFlat_of_isIfFree {block : Block} (h : block.isIfFree = true) : block.isFlat = true := by
  induction block with
  | empty => rfl
  | action a rest ih => exact ih h
  | loop ending body rest ihbody ihrest =>
    rw [isIfFree, Bool.and_eq_true] at h
    rw [isFlat, ihbody h.1, ihrest h.2]
    rfl
  | guarded condition body rest _ _ => cases h

/-- A block without `IF` has no `ENDIF` in its lines, so none that a search could stop at. -/
theorem ifEnd_not_mem_lines {block : Block} (h : block.isIfFree = true) :
    Instruction.ifEnd ∉ block.lines := by
  induction block with
  | empty => exact List.not_mem_nil
  | action a rest ih =>
    have hline : Instruction.ifEnd ≠ a.line := by cases a <;> nofun
    rw [lines, List.mem_cons, not_or]
    exact ⟨hline, ih h⟩
  | loop ending body rest ihbody ihrest =>
    have hclosing : Instruction.ifEnd ≠ ending.closing := by cases ending <;> nofun
    rw [isIfFree, Bool.and_eq_true] at h
    rw [lines, List.mem_cons, List.mem_append, List.mem_cons, not_or, not_or, not_or]
    exact ⟨nofun, ihbody h.1, hclosing, ihrest h.2⟩
  | guarded condition body rest _ _ => cases h

end Block

/-! ## 2. The meaning of a block -/

/-- Shows the listing if a screen is left for it. -/
def Control.screen (active : Option Nat) : (screens : Nat) → ControlM {left // left < screens}
  | 0 => throw .stepLimit
  | left + 1 => do
    Control.display (active.map Int.ofNat) true
    return ⟨left, left.lt_succ_self⟩

/-- What the action does. -/
def Action.perform (readings : Nat) : Action → ControlM Unit
  | .output _ pattern wait => Control.setOutputs pattern wait none
  | .count condition limit => Control.countChanges readings condition (some limit)

/-- Whether the loop is over once so many passes are done. -/
def Ending.isOver (passes : Nat) : Ending → ControlM Bool
  | .upon _ condition => Control.checkInputs condition
  | .never _ => pure false
  | .after count => pure (count.isNat passes)

namespace Block

/-- Passes of a loop up to the last one, `passes` of them done before. -/
def repeatPasses (pass : (screens : Nat) → ControlM {left // left < screens})
    (ending : Ending) (passes screens : Nat) : ControlM {left // left ≤ screens} := do
  let left ← pass screens
  -- the end of the loop is looked at after the pass, so there is always a first one
  if ← ending.isOver (passes + 1) then return ⟨left, Nat.le_of_lt left.2⟩
  let rest ← repeatPasses pass ending (passes + 1) left
  return ⟨rest, Nat.le_trans rest.2 (Nat.le_of_lt left.2)⟩
termination_by screens
decreasing_by exact left.2

/-- One pass of a loop: its head, its body and its closing line. -/
def pass (head closing : Nat) (body : (screens : Nat) → ControlM {left // left ≤ screens})
    (screens : Nat) : ControlM {left // left < screens} := do
  let shown ← Control.screen (some head) screens
  let inside ← body shown
  let left ← Control.screen (some closing) inside
  return ⟨left, Nat.lt_trans (Nat.lt_of_lt_of_le left.2 inside.2) shown.2⟩

/-- The meaning of a block whose first line has the given number. -/
def meaning (readings : Nat) : Block → (line screens : Nat) → ControlM {left // left ≤ screens}
  | empty, _, screens => pure ⟨screens, Nat.le_refl _⟩
  | action a rest, line, screens => do
    let shown ← Control.screen (some line) screens
    a.perform readings
    let left ← rest.meaning readings (line + 1) shown
    return ⟨left, Nat.le_trans left.2 (Nat.le_of_lt shown.2)⟩
  | loop ending body rest, line, screens => do
    let closing := line + 1 + body.lines.length
    let passed ←
      repeatPasses (pass line closing (body.meaning readings (line + 1))) ending 0 screens
    let left ← rest.meaning readings (closing + 1) passed
    return ⟨left, Nat.le_trans left.2 passed.2⟩
  | guarded condition body rest, line, screens => do
    let closing := line + 1 + body.lines.length
    let shown ← Control.screen (some line) screens
    let inside : {left // left ≤ shown.1} ←
      if ← Control.checkInputs condition then body.meaning readings (line + 1) shown
      else pure ⟨shown, Nat.le_refl _⟩
    let closed ← Control.screen (some closing) inside
    let left ← rest.meaning readings (closing + 1) closed
    return ⟨left, Nat.le_trans left.2 (Nat.le_trans (Nat.le_of_lt closed.2)
      (Nat.le_trans inside.2 (Nat.le_of_lt shown.2)))⟩

/-- A run of a block: its meaning from the first line on, and the listing once more with no line
active. An empty block shows nothing. -/
def run (limits : Limits) : Block → ControlM Unit
  | empty => pure ()
  | block => do
    let left ← block.meaning limits.readings 0 limits.screens
    let _ ← Control.screen none left

/-! ## 3. The check accepts blocks

The pass is followed through a block with other structures open around it and other lines below; for
the whole program both are empty. -/

open Nesting

theorem step_action (a : Action) (opened : List Opening) (line : Nat) :
    step opened line a.line = .ok opened := by
  cases a with
  | output label pattern wait => rfl
  | count condition limit => rfl

/-- A loop is closed by the line of its ending, which asks for a number only if there is one. -/
theorem step_closing (ending : Ending) (opened : List Opening) (head line : Nat) :
    step (⟨head, .loop ending.headCount.isSome⟩ :: opened) line ending.closing = .ok opened := by
  cases ending with
  | upon count condition => rfl
  | never count => rfl
  | after count => rfl

/-- A structure that is opened and closed again leaves the structures around it as they were, if
what is inside does. -/
theorem scan_enclosed {opened : List Opening} {o : Opening} {line : Nat}
    {head closing : Instruction} {body rest : Program} (hroom : opened.length < maxDepth)
    (hhead : step opened line head = enter opened o)
    (hbody : ∀ rest, scan (o :: opened) (line + 1) (body ++ rest) =
      scan (o :: opened) (line + 1 + body.length) rest)
    (hclosing : step (o :: opened) (line + 1 + body.length) closing = .ok opened) :
    scan opened line (head :: (body ++ closing :: rest)) =
      scan opened (line + 1 + body.length + 1) rest := by
  rw [scan, hhead, enter, if_pos hroom]
  dsimp only
  rw [hbody, scan, hclosing]

/-- What a block opens it closes again. -/
theorem scan_lines (block : Block) (opened : List Opening) (line : Nat) (rest : Program)
    (hroom : opened.length + block.depth ≤ maxDepth) :
    scan opened line (block.lines ++ rest) = scan opened (line + block.lines.length) rest := by
  induction block generalizing opened line rest with
  | empty => rfl
  | action a below ih =>
    rw [lines, List.cons_append, scan, step_action]
    dsimp only
    rw [ih opened (line + 1) rest hroom, List.length_cons, Nat.add_right_comm, Nat.add_assoc]
  | loop ending body below ihbody ihbelow =>
    rw [depth] at hroom
    -- the head takes up one level, and `depth` has counted it
    have hinside : opened.length + 1 + body.depth ≤ maxDepth := by omega
    rw [lines, List.cons_append, List.append_assoc, List.cons_append,
      scan_enclosed (by omega) rfl (fun rest => ihbody (_ :: opened) _ rest hinside)
        (step_closing ending opened _ _),
      ihbelow opened _ rest (by omega)]
    congr 1
    simp only [List.length_cons, List.length_append]
    omega
  | guarded condition body below ihbody ihbelow =>
    rw [depth] at hroom
    have hinside : opened.length + 1 + body.depth ≤ maxDepth := by omega
    rw [lines, List.cons_append, List.append_assoc, List.cons_append,
      scan_enclosed (by omega) rfl (fun rest => ihbody (_ :: opened) _ rest hinside) rfl,
      ihbelow opened _ rest (by omega)]
    congr 1
    simp only [List.length_cons, List.length_append]
    omega

/-- The check accepts a block in which at most eight structures lie inside one another. -/
theorem check_lines (block : Block) (hdepth : block.depth ≤ maxDepth) :
    block.lines.check = .ok () := by
  have hscan := block.scan_lines [] 1 [] (by rw [List.length_nil]; omega)
  rw [List.append_nil] at hscan
  rw [Program.check, hscan]
  rfl

end Block

end LineControl

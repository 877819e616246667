import LineControl.Proofs.Block
import LineControl.Proofs.Pairing

/-!
# The language of the check

The check is one pass with a stack. This file gives the programs it accepts by a grammar instead:
`Grammar.Lines` is made of simple lines and of blocks, with blocks inside blocks up to a depth, and
at the outermost level also of closing lines that close nothing. The grammar knows no stack and no
line numbers.

    program.check = .ok ()  ↔  (every COUNT has a value) ∧ Lines true 8 program

The pass through a sequence of the grammar leaves the stack as it was (`scan_lines`). The other way
round, whatever is on the stack, a pass that ends with nothing open has read the rest of each open
block, innermost first, and then lines of the outermost level (`completes_of_scan`). The second is
an induction from the end of the program: `Completes` is stated for the rest of a program, and one
line more in front of it either is part of the innermost block, opens one, or closes one.

Closing lines that stand alone are allowed at the outermost level only. Inside a block they would
be taken for its end, so a block ends at the first closing line that is left over in it. Which line
closes which is not said here, though, and is the subject of `Proofs.Pairing`.
-/

set_option autoImplicit false

namespace LineControl

/-- Whether the line neither opens nor closes a structure. -/
def Instruction.isSimple : Instruction → Bool
  | .setOutput .. | .count .. | .plain .. | .plainEnd .. => true
  | .repeatStart _ | .repeatUntil _ | .repeatEnd | .repeatForever | .ifStart _ | .ifEnd => false

/-! ## 1. The grammar -/

namespace Grammar

/-- The head and the closing line of a block. Only `ENDREPEAT` asks for a number at the head. -/
inductive Encloses : Instruction → Instruction → Prop where
  | upon (count : Option Number) (condition : Condition) :
      Encloses (.repeatStart count) (.repeatUntil condition)
  | never (count : Option Number) : Encloses (.repeatStart count) .repeatForever
  | after (count : Number) : Encloses (.repeatStart (some count)) .repeatEnd
  | guarded (condition : Condition) : Encloses (.ifStart condition) .ifEnd

/-- Sequences of simple lines and blocks, at most `depth` blocks inside one another. A closing line
may stand alone at the outermost level, but not inside a block. -/
inductive Lines : (outermost : Bool) → (depth : Nat) → Program → Prop where
  | nil {outermost : Bool} {depth : Nat} : Lines outermost depth []
  | simple {outermost : Bool} {depth : Nat} {i : Instruction} {rest : Program} :
      i.isSimple = true → Lines outermost depth rest → Lines outermost depth (i :: rest)
  | lone {depth : Nat} {i : Instruction} {rest : Program} :
      i.isClosing = true → Lines true depth rest → Lines true depth (i :: rest)
  | block {outermost : Bool} {depth : Nat} {head closing : Instruction} {body rest : Program} :
      Encloses head closing → Lines false depth body → Lines outermost (depth + 1) rest →
      Lines outermost (depth + 1) (head :: (body ++ closing :: rest))

/-- Every `COUNT` of the program has a value. -/
def CountsHaveValues (program : Program) : Prop :=
  ∀ condition, Instruction.count condition none ∉ program

variable {outermost : Bool} {depth : Nat} {first second : Program}

/-- One sequence after another is a sequence, at the same level and of the same depth. -/
theorem Lines.append (h : Lines outermost depth first) (h' : Lines outermost depth second) :
    Lines outermost depth (first ++ second) := by
  induction h with
  | nil => exact h'
  | simple hi _ ih => exact .simple hi (ih h')
  | lone hi _ ih => exact .lone hi (ih h')
  | block hends hbody _ _ ih =>
    rw [List.cons_append, List.append_assoc, List.cons_append]
    exact .block hends hbody (ih h')

theorem CountsHaveValues.append (h : CountsHaveValues first) (h' : CountsHaveValues second) :
    CountsHaveValues (first ++ second) := by
  intro condition hmem
  rcases List.mem_append.mp hmem with hmem | hmem
  · exact h condition hmem
  · exact h' condition hmem

theorem CountsHaveValues.mono {part whole : Program} (h : CountsHaveValues whole)
    (hsub : part ⊆ whole) : CountsHaveValues part :=
  fun condition hmem => h condition (hsub hmem)

/-! ## 2. What the grammar produces, the check accepts -/

open Nesting

variable {opened : List Opening} {line : Nat} {i : Instruction} {program : Program}

/-- A simple line is let pass, unless it is a `COUNT` without a value. -/
theorem step_simple (hi : i.isSimple = true) (hvalue : ∀ condition, i ≠ .count condition none) :
    step opened line i = .ok opened := by
  cases i with
  | setOutput label pattern value => rfl
  | plain label condition pattern value => rfl
  | plainEnd label condition => rfl
  | count condition value =>
    cases value with
    | none => exact absurd rfl (hvalue condition)
    | some value => rfl
  | _ => cases hi

/-- With nothing open, every closing line is let pass. -/
theorem step_lone (hi : i.isClosing = true) : step [] line i = .ok [] := by
  cases i with
  | repeatUntil condition => rfl
  | repeatEnd => rfl
  | repeatForever => rfl
  | ifEnd => rfl
  | _ => cases hi

/-- The structure that the head of a block opens is the one that its closing line closes. -/
theorem Encloses.exists_kind {head closing : Instruction} (h : Encloses head closing) :
    ∃ kind, (∀ opened line, step opened line head = enter opened ⟨line, kind⟩) ∧
      ∀ opened line head', step (⟨head', kind⟩ :: opened) line closing = .ok opened := by
  cases h with
  | upon count condition => exact ⟨.loop count.isSome, fun _ _ => rfl, fun _ _ _ => rfl⟩
  | never count => exact ⟨.loop count.isSome, fun _ _ => rfl, fun _ _ _ => rfl⟩
  | after count => exact ⟨.loop true, fun _ _ => rfl, fun _ _ _ => rfl⟩
  | guarded condition => exact ⟨.conditional, fun _ _ => rfl, fun _ _ _ => rfl⟩

/-- A sequence closes what it opens. Closing lines that stand alone need an empty stack for that, so
the outermost level is scanned with nothing open. -/
theorem scan_lines (h : Lines outermost depth program) (hcounts : CountsHaveValues program)
    (hroom : opened.length + depth ≤ maxDepth) (hnone : outermost = true → opened = [])
    (below : Program) :
    scan opened line (program ++ below) = scan opened (line + program.length) below := by
  induction h generalizing opened line below with
  | nil => rfl
  | @simple _ _ i rest hi _ ih =>
    have hvalue : ∀ condition, i ≠ .count condition none := by
      rintro condition rfl
      exact hcounts condition List.mem_cons_self
    rw [List.cons_append, scan, step_simple hi hvalue]
    dsimp only
    rw [ih (hcounts.mono (List.subset_cons_self _ _)) hroom hnone, List.length_cons,
      Nat.add_right_comm, Nat.add_assoc]
  | @lone _ i rest hi _ ih =>
    obtain rfl := hnone rfl
    rw [List.cons_append, scan, step_lone hi]
    dsimp only
    rw [ih (hcounts.mono (List.subset_cons_self _ _)) hroom hnone, List.length_cons,
      Nat.add_right_comm, Nat.add_assoc]
  | @block _ depth head closing body rest hends _ _ ihbody ihrest =>
    obtain ⟨kind, hhead, hclosing⟩ := hends.exists_kind
    have hbody : CountsHaveValues body := hcounts.mono fun j hj => by simp [hj]
    have hrest : CountsHaveValues rest := hcounts.mono fun j hj => by simp [hj]
    -- inside the block there is one structure more open, and room for one less
    have hinside : (⟨line, kind⟩ :: opened : List Opening).length + depth ≤ maxDepth := by
      rw [List.length_cons]
      omega
    have hinner : false = true → (⟨line, kind⟩ :: opened : List Opening) = [] := by
      intro h
      cases h
    rw [List.cons_append, List.append_assoc, List.cons_append,
      Block.scan_enclosed (by omega) (hhead opened line)
        (fun below => ihbody hbody hinside hinner below) (hclosing opened _ line),
      ihrest hrest hroom hnone]
    congr 1
    simp only [List.length_cons, List.length_append]
    omega

/-- What the grammar produces, the check accepts. -/
theorem check_of_lines (h : Lines true maxDepth program) (hcounts : CountsHaveValues program) :
    program.check = .ok () := by
  have hroom : ([] : List Opening).length + maxDepth ≤ maxDepth := by simp
  have hscan : scan [] 1 (program ++ []) = .ok [] := scan_lines h hcounts hroom (fun _ => rfl) []
  rw [List.append_nil] at hscan
  rw [Program.check, hscan]

/-! ## 3. What the check accepts, the grammar produces -/

/-- The program finishes the open blocks, innermost first, and goes on at the outermost level. -/
def Completes : List Opening → Program → Prop
  | [], program => Lines true maxDepth program
  | o :: outer, program =>
    ∃ body closing rest, program = body ++ closing :: rest ∧
      Lines false (maxDepth - (outer.length + 1)) body ∧ closing.closes o.kind = true ∧
      Completes outer rest

/-- Lines that may stand before any sequence of the current level may stand before what finishes the
open blocks. -/
theorem Completes.append_front {front : Program}
    (hfront : ∀ outermost rest, Lines outermost (maxDepth - opened.length) rest →
      Lines outermost (maxDepth - opened.length) (front ++ rest))
    (h : Completes opened program) : Completes opened (front ++ program) := by
  cases opened with
  | nil => exact hfront true program h
  | cons o outer =>
    obtain ⟨body, closing, rest, rfl, hbody, hcloses, hrest⟩ := h
    exact ⟨front ++ body, closing, rest, (List.append_assoc _ _ _).symm,
      hfront false body hbody, hcloses, hrest⟩

/-- A line that opens a structure and a line that closes it enclose a block. -/
theorem encloses_of_closes {head closing : Instruction} {kind : Kind}
    (hopens : head.opens = some kind) (hcloses : closing.closes kind = true) :
    Encloses head closing := by
  cases head with
  | repeatStart count =>
    cases hopens
    cases closing with
    | repeatUntil condition => exact .upon count condition
    | repeatForever => exact .never count
    | repeatEnd =>
      cases count with
      | none => cases hcloses
      | some count => exact .after count
    | _ => cases hcloses
  | ifStart condition =>
    cases hopens
    cases closing with
    | ifEnd => exact .guarded condition
    | _ => cases hcloses
  | _ => cases hopens

theorem isSimple_of_opens (hopens : i.opens = none) (hclosing : i.isClosing = false) :
    i.isSimple = true := by
  cases i with
  | setOutput label pattern value => rfl
  | count condition value => rfl
  | plain label condition pattern value => rfl
  | plainEnd label condition => rfl
  | repeatStart count => cases hopens
  | ifStart condition => cases hopens
  | _ => cases hclosing

/-- One line of the pass, read backwards. -/
theorem Completes.of_change {opened' : List Opening} (hchange : Change line i opened opened')
    (h : Completes opened' program) : Completes opened (i :: program) := by
  cases hchange with
  | @enter kind _ hopens hlt =>
    -- the block that the line opens ends in `program`, and goes in front of what comes after it
    obtain ⟨body, closing, rest, rfl, hbody, hcloses, hrest⟩ := h
    have hblock : i :: (body ++ closing :: rest) = (i :: (body ++ [closing])) ++ rest := by simp
    rw [hblock]
    refine hrest.append_front ?_
    intro outermost rest' hrest'
    have hdepth : maxDepth - opened.length = maxDepth - (opened.length + 1) + 1 := by omega
    rw [hdepth] at hrest' ⊢
    rw [List.cons_append, List.append_assoc]
    exact .block (encloses_of_closes hopens hcloses) hbody hrest'
  | close hcloses => exact ⟨[], i, program, rfl, .nil, hcloses, h⟩
  | lone hclosing => exact .lone hclosing h
  | keep hopens hclosing =>
    have hfront : ∀ outermost rest, Lines outermost (maxDepth - opened.length) rest →
        Lines outermost (maxDepth - opened.length) ([i] ++ rest) :=
      fun _ _ hrest => .simple (isSimple_of_opens hopens hclosing) hrest
    exact h.append_front hfront

/-- A pass that ends with nothing open has finished the open blocks. -/
theorem completes_of_scan (h : scan opened line program = .ok []) : Completes opened program := by
  induction program generalizing opened line with
  | nil =>
    cases h
    exact .nil
  | cons i rest ih =>
    rw [scan] at h
    cases hstep : step opened line i with
    | ok opened' =>
      rw [hstep] at h
      exact (ih h).of_change (step_change hstep)
    | error fault =>
      rw [hstep] at h
      cases h

/-- No pass gets past a `COUNT` without a value, whatever is open. -/
theorem countsHaveValues_of_scan {opened' : List Opening}
    (h : scan opened line program = .ok opened') : CountsHaveValues program := by
  induction program generalizing opened line with
  | nil => exact fun condition hmem => absurd hmem List.not_mem_nil
  | cons i rest ih =>
    rw [scan] at h
    intro condition hmem
    cases hstep : step opened line i with
    | ok opened' =>
      rw [hstep] at h
      rcases List.mem_cons.mp hmem with rfl | hmem
      · cases hstep
      · exact ih h condition hmem
    | error fault =>
      rw [hstep] at h
      cases h

end Grammar

namespace Program

variable {program : Program}

theorem lines_of_check (hcheck : program.check = .ok ()) :
    Grammar.Lines true Nesting.maxDepth program :=
  Grammar.completes_of_scan (scan_of_check hcheck)

theorem countsHaveValues_of_check (hcheck : program.check = .ok ()) :
    Grammar.CountsHaveValues program :=
  Grammar.countsHaveValues_of_scan (scan_of_check hcheck)

/-- **The language of the check.** A program is accepted if and only if every `COUNT` has a value
and the program is a sequence of simple lines, lone closing lines and blocks, where the inside of a
block is made of simple lines and blocks only and at most eight blocks lie inside one another. -/
theorem check_iff_lines (program : Program) :
    program.check = .ok () ↔
      (∀ condition, Instruction.count condition none ∉ program) ∧ Grammar.Lines true 8 program := by
  constructor
  · intro hcheck
    exact ⟨countsHaveValues_of_check hcheck, lines_of_check hcheck⟩
  · rintro ⟨hcounts, hlines⟩
    exact Grammar.check_of_lines hlines hcounts

end Program

end LineControl

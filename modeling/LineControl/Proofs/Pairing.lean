import LineControl.Nesting

/-!
# Which line closes which

The check keeps a stack of open structures and says only whether a program is accepted. This file
reads the pairing of opening and closing lines off that stack: `Program.openBefore` is the stack
before a line, and `Program.Pairs head closing` says that the line `closing` takes off what the line
`head` has put on.

For an accepted program the pairs are blocks. Each opened structure is closed
(`IsOpen.exists_pairs`), the lines below the head up to the closing line are exactly those before
which it is open (`Pairs.isOpen_iff`), and what is open around a structure is what was open before
its head (`openBefore_eq_of_mem`).

Lines are counted from zero here; the stack names them counted from one, as the check does.

## How the proofs go

What one line may do to the stack is `Nesting.Change`, four cases, and `openBefore_succ` says which
of them it is between one line of an accepted program and the next. Everything below that is an
induction on the line number with these cases. Statements about stacks are stated for `Opening`s,
and from section 3 on for the line numbers of heads, which is what a run knows of its loops.

Programs that are refused have pairs too, up to the line where the check stops, but nothing is said
about them. Every statement here assumes that the program is accepted, because a program that is
not is never run.
-/

set_option autoImplicit false

namespace LineControl

/-! ## 1. One line of the check

The check is a function that fails; for the lines that it lets pass, the change of the stack is said
as a relation, with the three kinds of closing lines treated alike. -/

/-- The structure that the line opens. -/
def Instruction.opens : Instruction → Option Nesting.Kind
  | .repeatStart passes => some (.loop passes.isSome)
  | .ifStart _ => some .conditional
  | _ => none

/-- Whether the line closes a structure of the kind. -/
def Instruction.closes : Instruction → Nesting.Kind → Bool
  | .repeatUntil _, .loop _ | .repeatForever, .loop _ => true
  | .repeatEnd, .loop counted => counted
  | .ifEnd, .conditional => true
  | _, _ => false

/-- Whether the line is a closing one. -/
def Instruction.isClosing : Instruction → Bool
  | .repeatUntil _ | .repeatEnd | .repeatForever | .ifEnd => true
  | _ => false

theorem Instruction.opens_of_isClosing (i : Instruction) (h : i.isClosing = true) :
    i.opens = none := by
  cases i <;> first | rfl | simp [isClosing] at h

theorem Instruction.isClosing_of_closes {i : Instruction} {kind : Nesting.Kind}
    (h : i.closes kind = true) : i.isClosing = true := by
  cases i <;> first | rfl | simp [closes] at h

namespace Nesting

/-- What a line that is let pass does to the open structures. -/
inductive Change (line : Nat) (i : Instruction) : List Opening → List Opening → Prop where
  | enter {kind : Kind} {opened : List Opening} : i.opens = some kind →
      opened.length < maxDepth → Change line i opened (⟨line, kind⟩ :: opened)
  | close {o : Opening} {opened : List Opening} : i.closes o.kind = true →
      Change line i (o :: opened) opened
  /-- A closing line with nothing to close. -/
  | lone : i.isClosing = true → Change line i [] []
  | keep {opened : List Opening} : i.opens = none → i.isClosing = false →
      Change line i opened opened

theorem enter_eq_ok {opened opened' : List Opening} {o : Opening}
    (h : enter opened o = .ok opened') : opened.length < maxDepth ∧ opened' = o :: opened := by
  unfold enter at h
  split at h
  · cases h
    exact ⟨‹_›, rfl⟩
  · cases h

/-- The end of a loop closes a loop, which has a count if the end needs one, or nothing if nothing
is open. -/
theorem leaveLoop_eq_ok {counting : Bool} {opened opened' : List Opening}
    (h : leaveLoop counting opened = .ok opened') :
    (opened = [] ∧ opened' = []) ∨
      ∃ line counted, opened = ⟨line, .loop counted⟩ :: opened' ∧
        (counting = true → counted = true) := by
  unfold leaveLoop at h
  split at h
  · cases h
    exact .inl ⟨rfl, rfl⟩
  · cases h
  · split at h
    · cases h
    · cases h
      refine .inr ⟨_, _, rfl, ?_⟩
      intro hcounting
      simp_all

theorem leaveConditional_eq_ok {opened opened' : List Opening}
    (h : leaveConditional opened = .ok opened') :
    (opened = [] ∧ opened' = []) ∨ ∃ line, opened = ⟨line, .conditional⟩ :: opened' := by
  unfold leaveConditional at h
  split at h
  · cases h
    exact .inl ⟨rfl, rfl⟩
  · cases h
    exact .inr ⟨_, rfl⟩
  · cases h

/-- A line that is let pass makes one of the four changes. -/
theorem step_change {opened opened' : List Opening} {line : Nat} {i : Instruction}
    (h : step opened line i = .ok opened') : Change line i opened opened' := by
  cases i with
  | repeatStart count =>
    obtain ⟨hlt, rfl⟩ := enter_eq_ok h
    exact .enter rfl hlt
  | ifStart condition =>
    obtain ⟨hlt, rfl⟩ := enter_eq_ok h
    exact .enter rfl hlt
  | repeatUntil condition =>
    obtain ⟨rfl, rfl⟩ | ⟨line', counted, rfl, _⟩ := leaveLoop_eq_ok h
    · exact .lone rfl
    · exact .close rfl
  | repeatForever =>
    obtain ⟨rfl, rfl⟩ | ⟨line', counted, rfl, _⟩ := leaveLoop_eq_ok h
    · exact .lone rfl
    · exact .close rfl
  | repeatEnd =>
    obtain ⟨rfl, rfl⟩ | ⟨line', counted, rfl, hcounted⟩ := leaveLoop_eq_ok h
    · exact .lone rfl
    · exact .close (hcounted rfl)
  | ifEnd =>
    obtain ⟨rfl, rfl⟩ | ⟨line', rfl⟩ := leaveConditional_eq_ok h
    · exact .lone rfl
    · exact .close rfl
  | count condition value =>
    cases value with
    | none => cases h
    | some value => cases h; exact .keep rfl rfl
  | setOutput label pattern value => cases h; exact .keep rfl rfl
  | plain label condition pattern value => cases h; exact .keep rfl rfl
  | plainEnd label condition => cases h; exact .keep rfl rfl

/-- The pass through two parts goes on with what the first part leaves open. -/
theorem scan_append (opened : List Opening) (line : Nat) (first second : Program) :
    scan opened line (first ++ second) =
      match scan opened line first with
      | .ok opened' => scan opened' (line + first.length) second
      | .error fault => .error fault := by
  induction first generalizing opened line with
  | nil => rfl
  | cons i rest ih =>
    simp only [List.cons_append, scan, List.length_cons]
    cases step opened line i with
    | ok opened' => simp only [ih]; rw [Nat.add_assoc, Nat.add_comm 1]
    | error fault => rfl

end Nesting

/-! ## 2. The open structures before a line

All facts about the stack are proved by going from one line to the next, with `openBefore_succ` for
the step. -/

namespace Program

open Nesting

/-- The structures that are open before a line, innermost first. -/
def openBefore (program : Program) (line : Nat) : List Opening :=
  match scan [] 1 (program.take line) with
  | .ok opened => opened
  | .error _ => []

variable {program : Program} {line : Nat} {i : Instruction}

theorem scan_of_check (hcheck : program.check = .ok ()) : scan [] 1 program = .ok [] := by
  unfold check at hcheck
  split at hcheck
  · assumption
  · cases hcheck
  · cases hcheck

/-- The stack before a line is what the pass has left there. The pass does not fail in an accepted
program. -/
theorem scan_take (hcheck : program.check = .ok ()) (line : Nat) :
    scan [] 1 (program.take line) = .ok (program.openBefore line) := by
  have hscan := scan_of_check hcheck
  rw [← List.take_append_drop line program, scan_append] at hscan
  unfold openBefore
  cases h : scan [] 1 (program.take line) with
  | ok opened => rfl
  | error fault => rw [h] at hscan; cases hscan

@[simp] theorem openBefore_zero (program : Program) : program.openBefore 0 = [] := by
  simp [openBefore, scan]

theorem openBefore_of_length_le (hcheck : program.check = .ok ()) (h : program.length ≤ line) :
    program.openBefore line = [] := by
  have hscan := scan_take hcheck line
  rw [List.take_of_length_le h, scan_of_check hcheck] at hscan
  exact (Except.ok.inj hscan).symm

/-- From one line to the next, the open structures change as the check says. -/
theorem change_at (hcheck : program.check = .ok ()) (hi : program[line]? = some i) :
    Change (line + 1) i (program.openBefore line) (program.openBefore (line + 1)) := by
  have hscan := scan_take hcheck (line + 1)
  obtain ⟨hlt, _⟩ := List.getElem?_eq_some_iff.mp hi
  have hlen : (program.take line).length = line := by
    rw [List.length_take]
    omega
  rw [List.take_add_one, hi, scan_append, scan_take hcheck line] at hscan
  simp only [hlen, Option.toList_some, scan, Nat.add_comm 1] at hscan
  apply step_change
  cases hstep : step (program.openBefore line) (line + 1) i with
  | ok opened => rw [hstep] at hscan; simpa using hscan
  | error fault => rw [hstep] at hscan; cases hscan

/-- A line opens a structure, closes the innermost one, or leaves all as they are. The last is the
case of a closing line only if nothing is open. -/
theorem openBefore_succ (hcheck : program.check = .ok ()) (line : Nat) :
    (∃ i kind, program[line]? = some i ∧ i.opens = some kind ∧
      (program.openBefore line).length < maxDepth ∧
      program.openBefore (line + 1) = ⟨line + 1, kind⟩ :: program.openBefore line) ∨
    (∃ i o, program[line]? = some i ∧ i.closes o.kind = true ∧
      program.openBefore line = o :: program.openBefore (line + 1)) ∨
    program.openBefore (line + 1) = program.openBefore line ∧
      ∀ i, program[line]? = some i →
        i.opens = none ∧ (i.isClosing = true → program.openBefore line = []) := by
  cases hi : program[line]? with
  | none =>
    have hle := List.getElem?_eq_none_iff.mp hi
    refine .inr (.inr ⟨?_, fun i h => by cases h⟩)
    rw [openBefore_of_length_le hcheck hle, openBefore_of_length_le hcheck (Nat.le_succ_of_le hle)]
  | some i =>
    have hchange := change_at hcheck hi
    -- generalized, so that the cases of the change can say what the two stacks are
    revert hchange
    generalize program.openBefore line = before
    generalize program.openBefore (line + 1) = after
    intro hchange
    cases hchange with
    | enter hopens hlt => exact .inl ⟨i, _, rfl, hopens, hlt, rfl⟩
    | close hcloses => exact .inr (.inl ⟨i, _, rfl, hcloses, rfl⟩)
    | lone hclosing =>
      refine .inr (.inr ⟨rfl, fun i' h => ?_⟩)
      cases h
      exact ⟨i.opens_of_isClosing hclosing, fun _ => rfl⟩
    | keep hopens hclosing =>
      refine .inr (.inr ⟨rfl, fun i' h => ?_⟩)
      cases h
      exact ⟨hopens, fun hc => by rw [hclosing] at hc; cases hc⟩

/-- There are never more structures open than may be. -/
theorem length_openBefore_le (hcheck : program.check = .ok ()) (line : Nat) :
    (program.openBefore line).length ≤ maxDepth := by
  induction line with
  | zero => simp
  | succ line ih =>
    rcases openBefore_succ hcheck line with ⟨_, _, _, _, hlt, heq⟩ | ⟨_, _, _, _, heq⟩ | ⟨heq, _⟩
    · rw [heq]
      exact hlt
    · rw [heq] at ih
      exact Nat.le_of_succ_le ih
    · rw [heq]
      exact ih

/-- What is open after a line was open before it, or has just been opened by it. -/
theorem mem_openBefore_succ (hcheck : program.check = .ok ()) {o : Opening}
    (h : o ∈ program.openBefore (line + 1)) :
    o ∈ program.openBefore line ∨
      o.line = line + 1 ∧ (∃ i, program[line]? = some i ∧ i.opens = some o.kind) ∧
        program.openBefore (line + 1) = o :: program.openBefore line := by
  rcases openBefore_succ hcheck line with
    ⟨i, kind, hi, hopens, _, heq⟩ | ⟨_, _, _, _, heq⟩ | ⟨heq, _⟩
  · rw [heq] at h
    rcases List.mem_cons.mp h with rfl | h
    · exact .inr ⟨rfl, ⟨i, hi, hopens⟩, heq⟩
    · exact .inl h
  · rw [heq]
    exact .inl (List.mem_cons_of_mem _ h)
  · rw [heq] at h
    exact .inl h

/-- An open structure names the line above that opened it. -/
theorem exists_head_of_mem (hcheck : program.check = .ok ()) {o : Opening}
    (h : o ∈ program.openBefore line) :
    ∃ head i, o.line = head + 1 ∧ head < line ∧ program[head]? = some i ∧
      i.opens = some o.kind := by
  induction line with
  | zero => simp at h
  | succ line ih =>
    rcases mem_openBefore_succ hcheck h with h | ⟨hline, ⟨i, hi, hopens⟩, _⟩
    · obtain ⟨head, i, hline, hlt, hi, hopens⟩ := ih h
      exact ⟨head, i, hline, Nat.lt_succ_of_lt hlt, hi, hopens⟩
    · exact ⟨line, i, hline, Nat.lt_succ_self line, hi, hopens⟩

theorem line_le_of_mem (hcheck : program.check = .ok ()) {o : Opening}
    (h : o ∈ program.openBefore line) : o.line ≤ line := by
  obtain ⟨head, _, hline, hlt, _⟩ := exists_head_of_mem hcheck h
  omega

/-- A structure that is open at a line was open at all lines between its head and there. -/
theorem mem_openBefore_of_le (hcheck : program.check = .ok ()) {o : Opening} {later : Nat}
    (h : o ∈ program.openBefore later) (hhead : o.line ≤ line) (hle : line ≤ later) :
    o ∈ program.openBefore line := by
  induction later with
  | zero => simp at h
  | succ later ih =>
    rcases Nat.lt_or_ge later line with hlt | hge
    · have heq : line = later + 1 := by omega
      rwa [heq]
    · -- only its own line opens a structure, and that line is above
      rcases mem_openBefore_succ hcheck h with h | ⟨hline, _⟩
      · exact ih h hge
      · omega

/-- Around an open structure are those that were open before its head. -/
theorem openBefore_eq_of_mem (hcheck : program.check = .ok ()) {o : Opening} {head : Nat}
    (hhead : o.line = head + 1) (h : o ∈ program.openBefore line) :
    ∃ above, program.openBefore line = above ++ o :: program.openBefore head := by
  induction line with
  | zero => simp at h
  | succ line ih =>
    rcases openBefore_succ hcheck line with
      ⟨i, kind, _, _, _, heq⟩ | ⟨i, closed, _, _, heq⟩ | ⟨heq, _⟩
    · rw [heq] at h ⊢
      rcases List.mem_cons.mp h with rfl | h
      · obtain rfl : head = line := by simpa using hhead.symm
        exact ⟨[], rfl⟩
      · obtain ⟨above, habove⟩ := ih h
        exact ⟨⟨line + 1, kind⟩ :: above, by rw [habove]; rfl⟩
    · have hbefore : o ∈ program.openBefore line := by
        rw [heq]
        exact List.mem_cons_of_mem _ h
      obtain ⟨above, habove⟩ := ih hbefore
      rw [heq] at habove
      cases above with
      | nil =>
        -- the structure itself would have been closed, but it is not open before its own head
        obtain ⟨_, hrest⟩ := List.cons.inj habove
        rw [hrest] at h
        have := line_le_of_mem hcheck h
        omega
      | cons _ above => exact ⟨above, (List.cons.inj habove).2⟩
    · rw [heq] at h ⊢
      exact ih h

/-- Structures were opened from the outermost to the innermost. -/
theorem pairwise_openBefore (hcheck : program.check = .ok ()) (line : Nat) :
    (program.openBefore line).Pairwise fun inner outer => outer.line < inner.line := by
  induction line with
  | zero => simp
  | succ line ih =>
    rcases openBefore_succ hcheck line with
      ⟨_, _, _, _, _, heq⟩ | ⟨_, _, _, _, heq⟩ | ⟨heq, _⟩
    · rw [heq]
      exact .cons (fun o ho => Nat.lt_succ_of_le (line_le_of_mem hcheck ho)) ih
    · rw [heq] at ih
      exact (List.pairwise_cons.mp ih).2
    · rw [heq]
      exact ih

/-- A line that opens a structure has it on top of the stack below. -/
theorem openBefore_of_opens (hcheck : program.check = .ok ()) {kind : Kind}
    (hi : program[line]? = some i) (hopens : i.opens = some kind) :
    program.openBefore (line + 1) = ⟨line + 1, kind⟩ :: program.openBefore line := by
  rcases openBefore_succ hcheck line with
    ⟨i', kind', hi', hopens', _, heq⟩ | ⟨i', _, hi', hcloses, _⟩ | ⟨_, hnone⟩
  · rw [hi] at hi'
    cases hi'
    rw [hopens] at hopens'
    cases hopens'
    exact heq
  · rw [hi] at hi'
    cases hi'
    rw [i.opens_of_isClosing (Instruction.isClosing_of_closes hcloses)] at hopens
    cases hopens
  · rw [(hnone i hi).1] at hopens
    cases hopens

theorem openBefore_of_isClosing (hcheck : program.check = .ok ()) (hi : program[line]? = some i)
    (hclosing : i.isClosing = true) :
    program.openBefore line = [] ∨
      ∃ o, i.closes o.kind = true ∧
        program.openBefore line = o :: program.openBefore (line + 1) := by
  rcases openBefore_succ hcheck line with
    ⟨i', _, hi', hopens, _, _⟩ | ⟨i', o, hi', hcloses, heq⟩ | ⟨_, hlone⟩
  · rw [hi] at hi'
    cases hi'
    rw [i.opens_of_isClosing hclosing] at hopens
    cases hopens
  · rw [hi] at hi'
    cases hi'
    exact .inr ⟨o, hcloses, heq⟩
  · exact .inl ((hlone i hi).2 hclosing)

/-! ## 3. Open structures by their heads

A structure is named by the line of its head, so two openings with the same line are the same
one. -/

/-- The structure that the head opens is open before the line. -/
def IsOpen (program : Program) (head line : Nat) : Prop :=
  ∃ o ∈ program.openBefore line, o.line = head + 1

theorem isOpen_of_opens (hcheck : program.check = .ok ()) {kind : Kind}
    (hi : program[line]? = some i) (hopens : i.opens = some kind) :
    program.IsOpen line (line + 1) :=
  ⟨⟨line + 1, kind⟩, by rw [openBefore_of_opens hcheck hi hopens]; exact List.mem_cons_self, rfl⟩

namespace IsOpen

variable {head inner outer later : Nat}

theorem lt (hcheck : program.check = .ok ()) (h : program.IsOpen head line) : head < line := by
  obtain ⟨o, ho, hline⟩ := h
  have := line_le_of_mem hcheck ho
  omega

theorem of_le (hcheck : program.check = .ok ()) (h : program.IsOpen head later)
    (hlt : head < line) (hle : line ≤ later) : program.IsOpen head line := by
  obtain ⟨o, ho, hline⟩ := h
  exact ⟨o, mem_openBefore_of_le hcheck ho (by omega) hle, hline⟩

/-- What is open around a structure stays open as long as the structure does. -/
theorem of_inner (hcheck : program.check = .ok ()) (h : program.IsOpen outer inner)
    (hinner : program.IsOpen inner line) : program.IsOpen outer line := by
  obtain ⟨o, ho, hline⟩ := h
  obtain ⟨o', ho', hline'⟩ := hinner
  obtain ⟨above, heq⟩ := openBefore_eq_of_mem hcheck hline' ho'
  exact ⟨o, by rw [heq]; simp [ho], hline⟩

/-- Only the innermost structure can be closed, so all others are still open below. -/
theorem succ_of_lt (hcheck : program.check = .ok ()) (h : program.IsOpen outer line)
    (hinner : program.IsOpen inner line) (hlt : outer < inner) :
    program.IsOpen outer (line + 1) := by
  obtain ⟨o, ho, hline⟩ := h
  obtain ⟨o', ho', hline'⟩ := hinner
  rcases openBefore_succ hcheck line with
    ⟨_, _, _, _, _, heq⟩ | ⟨_, first, _, _, heq⟩ | ⟨heq, _⟩
  · exact ⟨o, by rw [heq]; exact List.mem_cons_of_mem _ ho, hline⟩
  · -- the line closes the innermost structure, which is not the outer one
    have hsorted := pairwise_openBefore hcheck line
    rw [heq] at ho ho' hsorted
    have hfirst := (List.pairwise_cons.mp hsorted).1
    rcases List.mem_cons.mp ho with rfl | ho
    · rcases List.mem_cons.mp ho' with rfl | ho'
      · omega
      · have := hfirst o' ho'
        omega
    · exact ⟨o, ho, hline⟩
  · exact ⟨o, by rw [heq]; exact ho, hline⟩

theorem succ_of_closes_eq_false (hcheck : program.check = .ok ()) {j : Instruction} {kind : Kind}
    (h : program.IsOpen head line) (hj : program[head]? = some j) (hopens : j.opens = some kind)
    (hi : program[line]? = some i) (hcloses : i.closes kind = false) :
    program.IsOpen head (line + 1) := by
  obtain ⟨o, ho, hline⟩ := h
  rcases openBefore_succ hcheck line with
    ⟨_, _, _, _, _, heq⟩ | ⟨i', first, hi', hcloses', heq⟩ | ⟨heq, _⟩
  · exact ⟨o, by rw [heq]; exact List.mem_cons_of_mem _ ho, hline⟩
  · obtain ⟨head', j', hline', _, hj', hopens'⟩ := exists_head_of_mem hcheck ho
    obtain rfl : head = head' := by omega
    rw [hj] at hj'
    cases hj'
    rw [hopens] at hopens'
    cases hopens'
    rw [hi] at hi'
    cases hi'
    rw [heq] at ho
    rcases List.mem_cons.mp ho with rfl | ho
    · rw [hcloses] at hcloses'
      cases hcloses'
    · exact ⟨o, ho, hline⟩
  · exact ⟨o, by rw [heq]; exact ho, hline⟩

end IsOpen

/-! ## 4. Pairs -/

/-- The closing line takes off the structure that the head has opened. -/
def Pairs (program : Program) (head closing : Nat) : Prop :=
  ∃ i o, program[closing]? = some i ∧ i.isClosing = true ∧
    (program.openBefore closing).head? = some o ∧ o.line = head + 1

namespace Pairs

variable {head closing : Nat}

/-- A pair in full: the structure, the two lines that fit it, and what is open on both sides. -/
theorem exists_opening (hcheck : program.check = .ok ()) (h : program.Pairs head closing) :
    ∃ i i' o, program[head]? = some i ∧ i.opens = some o.kind ∧
      program[closing]? = some i' ∧ i'.closes o.kind = true ∧ o.line = head + 1 ∧
      program.openBefore closing = o :: program.openBefore head ∧
      program.openBefore (closing + 1) = program.openBefore head := by
  obtain ⟨i', o, hi', hclosing, hfirst, hline⟩ := h
  obtain ⟨rest, hopen⟩ := List.head?_eq_some_iff.mp hfirst
  have hmem : o ∈ program.openBefore closing := by
    rw [hopen]
    exact List.mem_cons_self
  obtain ⟨head', i, hline', _, hi, hopens⟩ := exists_head_of_mem hcheck hmem
  obtain rfl : head = head' := by omega
  rcases openBefore_of_isClosing hcheck hi' hclosing with hnil | ⟨o', hcloses, heq⟩
  · rw [hnil] at hopen
    cases hopen
  · obtain ⟨rfl, _⟩ := List.cons.inj (hopen.symm.trans heq)
    have hbefore : program.openBefore closing = o :: program.openBefore head := by
      obtain ⟨above, habove⟩ := openBefore_eq_of_mem hcheck hline hmem
      cases above with
      | nil => exact habove
      | cons o' above =>
        -- the structure stands first, so it cannot stand further back as well
        have hsorted := pairwise_openBefore hcheck closing
        rw [hopen] at habove hsorted
        obtain ⟨_, hrest⟩ := List.cons.inj habove
        have hlt := (List.pairwise_cons.mp hsorted).1 o (by rw [hrest]; simp)
        omega
    refine ⟨i, i', o, hi, hopens, hi', hcloses, hline, hbefore, ?_⟩
    exact (List.cons.inj (heq.symm.trans hbefore)).2

theorem isOpen (hcheck : program.check = .ok ()) (h : program.Pairs head closing) :
    program.IsOpen head closing := by
  obtain ⟨_, _, o, _, _, _, _, hline, hbefore, _⟩ := h.exists_opening hcheck
  exact ⟨o, by rw [hbefore]; exact List.mem_cons_self, hline⟩

theorem lt (hcheck : program.check = .ok ()) (h : program.Pairs head closing) :
    head < closing :=
  (h.isOpen hcheck).lt hcheck

/-- The structure is open before the lines below its head, down to the closing line, and before no
others. -/
theorem isOpen_iff (hcheck : program.check = .ok ()) (h : program.Pairs head closing) :
    program.IsOpen head line ↔ head < line ∧ line ≤ closing := by
  obtain ⟨_, _, _, _, _, _, _, _, _, hafter⟩ := h.exists_opening hcheck
  have hopen := h.isOpen hcheck
  constructor
  · intro hline
    refine ⟨hline.lt hcheck, ?_⟩
    rcases Nat.lt_or_ge closing line with hlt | hge
    · -- it would still be open below its closing line, where only what surrounds it is
      obtain ⟨o', ho', hline'⟩ := hline.of_le hcheck (Nat.lt_succ_of_lt (h.lt hcheck)) hlt
      rw [hafter] at ho'
      have := line_le_of_mem hcheck ho'
      omega
    · exact hge
  · rintro ⟨hlt, hle⟩
    exact hopen.of_le hcheck hlt hle

theorem unique (hcheck : program.check = .ok ()) {closing' : Nat} (h : program.Pairs head closing)
    (h' : program.Pairs head closing') : closing = closing' := by
  have hle := (h.isOpen_iff hcheck).mp (h'.isOpen hcheck)
  have hge := (h'.isOpen_iff hcheck).mp (h.isOpen hcheck)
  omega

theorem head_unique {head' : Nat} (h : program.Pairs head closing)
    (h' : program.Pairs head' closing) : head = head' := by
  obtain ⟨_, o, _, _, hfirst, hline⟩ := h
  obtain ⟨_, o', _, _, hfirst', hline'⟩ := h'
  rw [hfirst] at hfirst'
  cases hfirst'
  omega

end Pairs

/-- A closing line with something open is paired, and with nothing further out. -/
theorem exists_pairs_of_isClosing (hcheck : program.check = .ok ()) {head : Nat}
    (hopen : program.IsOpen head line) (hi : program[line]? = some i)
    (hclosing : i.isClosing = true) :
    ∃ inner j kind, head ≤ inner ∧ program.Pairs inner line ∧ program[inner]? = some j ∧
      j.opens = some kind ∧ i.closes kind = true := by
  obtain ⟨o, ho, hline⟩ := hopen
  rcases openBefore_of_isClosing hcheck hi hclosing with hnil | ⟨first, hcloses, heq⟩
  · rw [hnil] at ho
    cases ho
  · have hfirst : first ∈ program.openBefore line := by
      rw [heq]
      exact List.mem_cons_self
    obtain ⟨inner, j, hinner, _, hj, hopens⟩ := exists_head_of_mem hcheck hfirst
    refine ⟨inner, j, first.kind, ?_, ⟨i, first, hi, hclosing, by rw [heq]; rfl, hinner⟩, hj,
      hopens, hcloses⟩
    have hsorted := pairwise_openBefore hcheck line
    rw [heq] at ho hsorted
    rcases List.mem_cons.mp ho with rfl | ho
    · omega
    · have := (List.pairwise_cons.mp hsorted).1 o ho
      omega

/-- What is open is closed, at some line below: at the end of an accepted program nothing is
open. -/
theorem IsOpen.exists_pairs (hcheck : program.check = .ok ()) {head : Nat}
    (h : program.IsOpen head line) : ∃ closing, line ≤ closing ∧ program.Pairs head closing := by
  obtain ⟨o, ho, hline⟩ := h
  -- the induction goes down the program; at its end nothing is open any more
  generalize hgap : program.length - line = gap
  induction gap generalizing line with
  | zero =>
    rw [openBefore_of_length_le hcheck (by omega)] at ho
    cases ho
  | succ gap ih =>
    have hnext : o ∈ program.openBefore (line + 1) →
        ∃ closing, line ≤ closing ∧ program.Pairs head closing := by
      intro hmem
      obtain ⟨closing, hle, hpairs⟩ := ih hmem (by omega)
      exact ⟨closing, by omega, hpairs⟩
    rcases openBefore_succ hcheck line with
      ⟨_, _, _, _, _, heq⟩ | ⟨i, o', hi, hcloses, heq⟩ | ⟨heq, _⟩
    · exact hnext (by rw [heq]; exact List.mem_cons_of_mem _ ho)
    · rw [heq] at ho
      rcases List.mem_cons.mp ho with rfl | ho
      · refine ⟨line, Nat.le_refl _, i, o, hi, Instruction.isClosing_of_closes hcloses, ?_, hline⟩
        rw [heq]
        rfl
      · exact hnext ho
    · exact hnext (by rw [heq]; exact ho)

theorem exists_pairs_of_opens (hcheck : program.check = .ok ()) {kind : Kind}
    (hi : program[line]? = some i) (hopens : i.opens = some kind) :
    ∃ closing, program.Pairs line closing := by
  obtain ⟨closing, _, hpairs⟩ := (isOpen_of_opens hcheck hi hopens).exists_pairs hcheck
  exact ⟨closing, hpairs⟩

end Program

end LineControl

import LineControl.Proofs.Skip
import Mathlib.Data.List.Perm.Basic

/-!
# The open loops of a run

A run keeps a stack of open loops and tells a new entry from another pass only by comparing the line
with the line before. `Program.LoopsFit` says what this stack is worth for any accepted program,
also for one with an `IF` inside an `IF` or with closing lines that close nothing: the open loops
are among the loops around the line, outermost first, and none of them twice.

They need not be all of them. A false `IF` may go on inside a loop that was never entered, and the
closing line of that loop then ends a pass of a loop further out (`loop_stack_of_strayingIf`). When
they are all of them is the subject of `Proofs.LoopFaults`.

## The invariant

Two clauses of `LoopsFit` have the shape that the induction needs. `around` would be "every open
loop is around the line", but at the head of a loop, reached for another pass, the loop is open and
the line is not inside it; and `back` makes that the only exception. Both speak of how the line was
reached, and with them every move can be checked by itself: the invariant is kept by `Move` and
hence by every run, whatever the inputs were.

That the passes stay below the count is said of positive whole numbers only. A count of zero, a
negative one or a fraction is never met by a number of passes, and the loop goes on; see
`Proofs.Endless`.
-/

set_option autoImplicit false

namespace LineControl

namespace Program

open Nesting

variable {program : Program} {c c' : Cursor}

/-! ## 1. The invariant -/

/-- The loop is that of a `REPEAT`. It counts passes exactly if the `REPEAT` has a value, and has
not come to a value that is a positive whole number. -/
def CountsFit (program : Program) (loop : Loop) : Prop :=
  ∃ count, program[loop.head]? = some (.repeatStart count) ∧ (loop.passes = none ↔ count = none) ∧
    ∀ limit passes n, count = some limit → loop.passes = some passes → limit.isNat n = true →
      0 < n → passes < n

/-- What holds of the open loops before every line of a run. -/
structure LoopsFit (program : Program) (c : Cursor) : Prop where
  sorted : (c.loops.map Loop.head).Pairwise (· > ·)
  around : ∀ loop ∈ c.loops,
    program.IsOpen loop.head c.line ∨ loop.head = c.line ∧ c.isEntry = false
  counted : ∀ loop ∈ c.loops, program.CountsFit loop
  /-- A line that is reached from below is the head of the innermost open loop. -/
  back : c.isEntry = false → ∃ loop outer, c.loops = loop :: outer ∧ loop.head = c.line

namespace LoopsFit

theorem init : program.LoopsFit {} where
  sorted := .nil
  around := by simp
  counted := by simp
  back := by simp [Cursor.isEntry]

/-- Away from the heads of loops, all open loops are around the line. -/
theorem isOpen (h : program.LoopsFit c) {i : Instruction} (hi : program[c.line]? = some i)
    (hnot : ∀ count, i ≠ .repeatStart count) {loop : Loop} (hloop : loop ∈ c.loops) :
    program.IsOpen loop.head c.line := by
  rcases h.around loop hloop with hopen | ⟨hhead, _⟩
  · exact hopen
  · obtain ⟨count, hrepeat, _⟩ := h.counted loop hloop
    rw [hhead, hi] at hrepeat
    exact absurd (Option.some.inj hrepeat) (hnot count)

end LoopsFit


/-! ## 2. Every move keeps it

One lemma for each of the four things that can happen to the stack, and then one case for each
move. -/

/-- A line that closes no loop leaves open the loops around it. -/
theorem CountsFit.isOpen_succ (hcheck : program.check = .ok ()) {loop : Loop} {line : Nat}
    {i : Instruction} (h : program.CountsFit loop) (hopen : program.IsOpen loop.head line)
    (hi : program[line]? = some i) (hcloses : i.closesLoop = false) :
    program.IsOpen loop.head (line + 1) := by
  obtain ⟨count, hrepeat, _⟩ := h
  refine hopen.succ_of_closes_eq_false hcheck hrepeat rfl hi ?_
  cases i <;> first | rfl | simp [Instruction.closesLoop] at hcloses

namespace LoopsFit

theorem next (h : program.LoopsFit c)
    (haround : ∀ loop ∈ c.loops, program.IsOpen loop.head (c.line + 1)) :
    program.LoopsFit c.next where
  sorted := h.sorted
  around := fun loop hloop => .inl (haround loop hloop)
  counted := h.counted
  back := by simp [Cursor.isEntry_next]

/-- Opening a loop at its head keeps the invariant. The head was reached from above, so the loop is
not on the stack yet. -/
theorem enter (hcheck : program.check = .ok ()) (h : program.LoopsFit c) {count : Option Number}
    (hi : program[c.line]? = some (.repeatStart count)) (hentry : c.isEntry = true) :
    program.LoopsFit { c.next with loops := ⟨c.line, count.map fun _ => 0⟩ :: c.loops } := by
  have hopen : ∀ loop ∈ c.loops, program.IsOpen loop.head c.line := by
    intro loop hloop
    rcases h.around loop hloop with hopen | ⟨_, hback⟩
    · exact hopen
    · rw [hentry] at hback
      cases hback
  refine ⟨List.pairwise_cons.mpr ⟨?_, h.sorted⟩, ?_, ?_, ?_⟩
  · intro head hhead
    obtain ⟨loop, hloop, rfl⟩ := List.mem_map.mp hhead
    exact (hopen loop hloop).lt hcheck
  · intro loop hloop
    rcases List.mem_cons.mp hloop with rfl | hloop
    · exact .inl (isOpen_of_opens hcheck hi rfl)
    · exact .inl ((h.counted loop hloop).isOpen_succ hcheck (hopen loop hloop) hi rfl)
  · intro loop hloop
    rcases List.mem_cons.mp hloop with rfl | hloop
    · refine ⟨count, hi, by simp, ?_⟩
      -- no pass is done, and a count of zero is excluded
      intro limit passes n hcount hpasses _ hpos
      subst hcount
      cases hpasses
      exact hpos
    · exact h.counted loop hloop
  · intro hback
    rw [Cursor.isEntry_withLoops, Cursor.isEntry_next] at hback
    cases hback

/-- Leaving the innermost open loop keeps the invariant. The line need not be the closing line of
that loop. -/
theorem leave (hcheck : program.check = .ok ()) (h : program.LoopsFit c) {i : Instruction}
    (hi : program[c.line]? = some i) (hnot : ∀ count, i ≠ .repeatStart count) {loop : Loop}
    {outer : List Loop} (hl : c.loops = loop :: outer) :
    program.LoopsFit { c.next with loops := outer } := by
  have hsorted := h.sorted
  rw [hl, List.map_cons, List.pairwise_cons] at hsorted
  have hmem : ∀ loop' ∈ outer, loop' ∈ c.loops := by
    intro loop' hloop'
    rw [hl]
    exact List.mem_cons_of_mem _ hloop'
  refine ⟨hsorted.2, ?_, fun loop' hloop' => h.counted loop' (hmem loop' hloop'), ?_⟩
  · intro loop' hloop'
    -- the line closes the innermost structure at most, and that is not further out than `loop`
    refine .inl ((h.isOpen hi hnot (hmem loop' hloop')).succ_of_lt hcheck
      (h.isOpen hi hnot (by rw [hl]; exact List.mem_cons_self)) ?_)
    exact hsorted.1 _ (List.mem_map_of_mem hloop')
  · intro hentry
    rw [Cursor.isEntry_withLoops, Cursor.isEntry_next] at hentry
    cases hentry

/-- Going back to the head of the innermost open loop keeps the invariant. -/
theorem again (hcheck : program.check = .ok ()) (h : program.LoopsFit c) {i : Instruction}
    (hi : program[c.line]? = some i) (hnot : ∀ count, i ≠ .repeatStart count) {loop : Loop}
    {outer : List Loop} (hl : c.loops = loop :: outer) {passes : Option Nat}
    (hcounted : program.CountsFit ⟨loop.head, passes⟩) :
    program.LoopsFit { c.jump loop.head with loops := ⟨loop.head, passes⟩ :: outer } := by
  have hsorted := h.sorted
  rw [hl, List.map_cons, List.pairwise_cons] at hsorted
  have hmem : ∀ loop' ∈ outer, loop' ∈ c.loops := by
    intro loop' hloop'
    rw [hl]
    exact List.mem_cons_of_mem _ hloop'
  have hopen : program.IsOpen loop.head c.line := h.isOpen hi hnot (by rw [hl]; simp)
  have hlt := hopen.lt hcheck
  -- the head lies above the line, so it is reached from below
  have hentry : ({ c.jump loop.head with loops := ⟨loop.head, passes⟩ :: outer } :
      Cursor).isEntry = false := by
    rw [Cursor.isEntry_withLoops, Cursor.isEntry_jump, decide_eq_false_iff_not]
    omega
  refine ⟨List.pairwise_cons.mpr hsorted, ?_, ?_, fun _ => ⟨_, _, rfl, rfl⟩⟩
  · intro loop' hloop'
    rcases List.mem_cons.mp hloop' with rfl | hloop'
    · exact .inr ⟨rfl, hentry⟩
    · refine .inl ((h.isOpen hi hnot (hmem loop' hloop')).of_le hcheck ?_ (Nat.le_of_lt hlt))
      exact hsorted.1 _ (List.mem_map_of_mem hloop')
  · intro loop' hloop'
    rcases List.mem_cons.mp hloop' with rfl | hloop'
    · exact hcounted
    · exact h.counted loop' (hmem loop' hloop')

/-- A pass that was not the last one leaves the passes below the count. -/
theorem countsFit_succ {head passes : Nat} (h : program.CountsFit ⟨head, some passes⟩)
    (hlast : program.isLastPass head (passes + 1) = false) :
    program.CountsFit ⟨head, some (passes + 1)⟩ := by
  obtain ⟨count, hrepeat, hnone, hbound⟩ := h
  refine ⟨count, hrepeat, by simpa using hnone, ?_⟩
  intro limit passes' n hcount hpasses hn hpos
  cases hpasses
  have hlt := hbound limit passes n hcount rfl hn hpos
  have hne : passes + 1 ≠ n := by
    rintro rfl
    simp only [isLastPass, hrepeat, hcount, Option.bind_some, Instruction.value, Option.any_some,
      hn] at hlast
    cases hlast
  omega

/-- **Every move of a run keeps the open loops fit.** -/
theorem move (hcheck : program.check = .ok ()) (h : program.LoopsFit c)
    (hmove : program.Move c c') : program.LoopsFit c' := by
  cases hmove with
  | @straight i hi hstraight =>
    have hnot : ∀ count, i ≠ .repeatStart count := by
      rintro count rfl
      cases hstraight
    have hcloses : i.closesLoop = false := by
      cases i <;> first | rfl | cases hstraight
    exact h.next fun loop hloop =>
      (h.counted loop hloop).isOpen_succ hcheck (h.isOpen hi hnot hloop) hi hcloses
  | enter hi hentry => exact h.enter hcheck hi hentry
  | @pass count hi hentry =>
    refine h.next fun loop hloop => ?_
    rcases h.around loop hloop with hopen | ⟨hhead, _⟩
    · exact (h.counted loop hloop).isOpen_succ hcheck hopen hi rfl
    · rw [hhead]
      exact isOpen_of_opens hcheck hi rfl
  | leave hi hl => exact h.leave hcheck hi (by simp) hl
  | @again i loop outer hi hcloses hl =>
    have hloop : loop ∈ c.loops := by simp [hl]
    have := h.again hcheck hi (Instruction.ne_repeatStart_of_closesLoop hcloses) hl
      (h.counted loop hloop)
    rwa [show ({ c.jump loop.head with loops := ⟨loop.head, loop.passes⟩ :: outer } : Cursor) =
      c.jump loop.head by simp [Cursor.jump, hl]] at this
  | lastPass hi hl _ => exact h.leave hcheck hi (by simp) hl
  | @nextPass head passes outer hi hl hlast =>
    have hloop : ⟨head, some passes⟩ ∈ c.loops := by simp [hl]
    exact h.again hcheck hi (by simp) hl (countsFit_succ (h.counted _ hloop) hlast)
  | inside hi =>
    exact h.next fun loop hloop =>
      (h.counted loop hloop).isOpen_succ hcheck (h.isOpen hi (by simp) hloop) hi rfl
  | skip hi =>
    -- the `ENDIF` is in the block of the `IF`, so what is open around the one is around the other
    obtain ⟨own, hown⟩ := exists_pairs_of_opens hcheck hi rfl
    obtain ⟨hlt, hle, _⟩ := nextEnd_bounds hcheck hi hown
    refine ⟨h.sorted, ?_, h.counted, ?_⟩
    · intro loop hloop
      exact .inl ((h.isOpen hi (by simp) hloop).of_inner hcheck
        ((hown.isOpen_iff hcheck).mpr ⟨hlt, hle⟩))
    · intro hentry
      rw [Cursor.isEntry_jump, decide_eq_false_iff_not] at hentry
      exact absurd hlt hentry

end LoopsFit

theorem Reaches.loopsFit {readings turns : Nat} {start session : Session}
    (hcheck : program.check = .ok ()) (h : program.Reaches readings start turns session c) :
    program.LoopsFit c :=
  h.induction .init fun _ _ hfit _ hmove => hfit.move hcheck hmove

/-! ## 3. What follows for a run -/

/-- No more structures can be open at once than the check allows. -/
theorem length_le_of_isOpen (hcheck : program.check = .ok ()) {heads : List Nat} {line : Nat}
    (hnodup : heads.Nodup) (hopen : ∀ head ∈ heads, program.IsOpen head line) :
    heads.length ≤ maxDepth := by
  have hsub : heads.map (· + 1) ⊆ (program.openBefore line).map Opening.line := by
    intro n hn
    obtain ⟨head, hhead, rfl⟩ := List.mem_map.mp hn
    obtain ⟨o, ho, hline⟩ := hopen head hhead
    exact List.mem_map.mpr ⟨o, ho, hline⟩
  have hnodup' : (heads.map (· + 1)).Nodup :=
    List.pairwise_map.mpr (hnodup.imp fun hne heq => hne (Nat.succ.inj heq))
  calc heads.length = (heads.map (· + 1)).length := (List.length_map _).symm
    _ ≤ ((program.openBefore line).map Opening.line).length :=
        (List.subperm_of_subset hnodup' hsub).length_le
    _ = (program.openBefore line).length := List.length_map _
    _ ≤ maxDepth := length_openBefore_le hcheck line

namespace LoopsFit

/-- The block of an open loop holds the line. -/
theorem exists_pairs (hcheck : program.check = .ok ()) (h : program.LoopsFit c) {loop : Loop}
    (hloop : loop ∈ c.loops) :
    ∃ closing, program.Pairs loop.head closing ∧ loop.head ≤ c.line ∧ c.line ≤ closing := by
  rcases h.around loop hloop with hopen | ⟨hhead, _⟩
  · obtain ⟨closing, hle, hpairs⟩ := hopen.exists_pairs hcheck
    exact ⟨closing, hpairs, Nat.le_of_lt (hopen.lt hcheck), hle⟩
  · obtain ⟨count, hrepeat, _⟩ := h.counted loop hloop
    obtain ⟨closing, hpairs⟩ := exists_pairs_of_opens hcheck hrepeat rfl
    have hlt := hpairs.lt hcheck
    exact ⟨closing, hpairs, by omega, by omega⟩

/-- The stack is no higher than the check allows: its loops are different and all around the line,
or around the line below. -/
theorem length_le (hcheck : program.check = .ok ()) (h : program.LoopsFit c) :
    c.loops.length ≤ maxDepth := by
  have hnodup : (c.loops.map Loop.head).Nodup := h.sorted.imp fun hlt => Nat.ne_of_gt hlt
  rw [← List.length_map Loop.head]
  cases hentry : c.isEntry with
  | true =>
    refine @length_le_of_isOpen _ hcheck _ c.line hnodup fun head hhead => ?_
    obtain ⟨loop, hloop, rfl⟩ := List.mem_map.mp hhead
    rcases h.around loop hloop with hopen | ⟨_, hback⟩
    · exact hopen
    · rw [hentry] at hback
      cases hback
  | false =>
    -- at a head reached from below, all open loops are around the line after it
    obtain ⟨first, outer, hl, hfirst⟩ := h.back hentry
    obtain ⟨count, hrepeat, _⟩ := h.counted first (by simp [hl])
    rw [hfirst] at hrepeat
    refine @length_le_of_isOpen _ hcheck _ (c.line + 1) hnodup fun head hhead => ?_
    obtain ⟨loop, hloop, rfl⟩ := List.mem_map.mp hhead
    rcases h.around loop hloop with hopen | ⟨hhead, _⟩
    · exact (h.counted loop hloop).isOpen_succ hcheck hopen hrepeat rfl
    · rw [hhead]
      exact isOpen_of_opens hcheck hrepeat rfl

/-- A block that a move leaves below is left from its closing line. -/
theorem line_eq_of_move_below (hcheck : program.check = .ok ()) (h : program.LoopsFit c)
    (hmove : program.Move c c') {head closing : Nat} {count : Option Number}
    (hrepeat : program[head]? = some (.repeatStart count)) (hpairs : program.Pairs head closing)
    (hle : head ≤ c.line) (hle' : c.line ≤ closing) (hbelow : closing < c'.line) :
    c.line = closing := by
  have hdown : c'.line = c.line + 1 → c.line = closing := by
    intro heq
    omega
  have hup : ∀ {loop : Loop} {outer : List Loop}, c.loops = loop :: outer →
      c'.line = loop.head → c.line = closing := by
    intro loop outer hl heq
    have hloop : loop ∈ c.loops := by simp [hl]
    obtain ⟨_, _, hhead, _⟩ := h.exists_pairs hcheck hloop
    omega
  cases hmove with
  | straight _ _ => exact hdown rfl
  | enter _ _ => exact hdown rfl
  | pass _ _ => exact hdown rfl
  | leave _ _ => exact hdown rfl
  | again _ _ hl => exact hup hl rfl
  | lastPass _ _ _ => exact hdown rfl
  | nextPass _ hl _ => exact hup hl rfl
  | inside _ => exact hdown rfl
  | skip hi =>
    -- the next `ENDIF` is not below the own one, which is inside the block with its `IF`
    obtain ⟨own, hown⟩ := exists_pairs_of_opens hcheck hi rfl
    obtain ⟨hlt, hle'', _⟩ := nextEnd_bounds hcheck hi hown
    have hne : head ≠ c.line := ne_of_getElem? hrepeat hi (by simp)
    have hopen := ((hpairs.isOpen_iff hcheck).mpr ⟨by omega, hle'⟩).of_inner hcheck
      ((hown.isOpen_iff hcheck).mpr ⟨hlt, hle''⟩)
    have hstill := ((hpairs.isOpen_iff hcheck).mp hopen).2
    have hjump : (c.jump (program.nextEnd c.line)).line = program.nextEnd c.line := rfl
    omega

end LoopsFit

/-- **The loop stack of a run.** Before each line that a run of an accepted program executes, the
line exists; the heads of the open loops increase from the outermost to the innermost, there are at
most eight of them, and each is a `REPEAT` whose block holds the line, with passes counted exactly
if it has a value and fewer than a value that is a positive whole number. A false `IF` goes strictly
down, to an `ENDIF` not below its own. And a turn that ends below the block of a loop was made from
the closing line of that block. -/
theorem reached_loop_stack {readings turns : Nat} {start session : Session}
    (hcheck : program.check = .ok ())
    (hreach : program.Reaches readings start turns session c) :
    c.line < program.length ∧
    (c.loops.map Loop.head).reverse.Pairwise (· < ·) ∧
    c.loops.length ≤ 8 ∧
    (∀ loop ∈ c.loops, ∃ count closing, program[loop.head]? = some (.repeatStart count) ∧
      program.Pairs loop.head closing ∧ loop.head ≤ c.line ∧ c.line ≤ closing ∧
      (loop.passes = none ↔ count = none) ∧
      ∀ limit n, count = some limit → limit.isNat n = true → 0 < n →
        ∃ passes, loop.passes = some passes ∧ passes < n) ∧
    (∀ condition c', program[c.line]? = some (.ifStart condition) →
      (session.perform (Control.checkInputs condition)).result = .ok false →
      (session.perform (program.turn readings c)).result = .ok c' →
      ∃ own, program.Pairs c.line own ∧ program[c'.line]? = some .ifEnd ∧
        c.line < c'.line ∧ c'.line ≤ own) ∧
    (∀ c' head closing count, (session.perform (program.turn readings c)).result = .ok c' →
      program[head]? = some (.repeatStart count) → program.Pairs head closing →
      head ≤ c.line → c.line ≤ closing → closing < c'.line → c.line = closing) := by
  have hfit := hreach.loopsFit hcheck
  refine ⟨hreach.line_lt, List.pairwise_reverse.mpr hfit.sorted, hfit.length_le hcheck, ?_, ?_, ?_⟩
  · intro loop hloop
    obtain ⟨closing, hpairs, hle, hle'⟩ := hfit.exists_pairs hcheck hloop
    obtain ⟨count, hrepeat, hnone, hbound⟩ := hfit.counted loop hloop
    refine ⟨count, closing, hrepeat, hpairs, hle, hle', hnone, ?_⟩
    intro limit n hcount hn hpos
    cases hpasses : loop.passes with
    | none =>
      rw [hnone.mp hpasses] at hcount
      cases hcount
    | some passes => exact ⟨passes, rfl, hbound limit passes n hcount hpasses hn hpos⟩
  · intro condition c' hi hfalse hturn
    obtain ⟨own, hown⟩ := exists_pairs_of_opens hcheck hi rfl
    obtain ⟨hlt, hle, hend⟩ := nextEnd_bounds hcheck hi hown
    rw [turn_if hi (turn_eq_ok_iff.mp hturn).1 hfalse] at hturn
    cases hturn
    exact ⟨own, hown, hend, hlt, hle⟩
  · intro c' head closing count hturn hrepeat hpairs hle hle' hbelow
    exact hfit.line_eq_of_move_below hcheck (turn_move hturn) hrepeat hpairs hle hle' hbelow

/-- A program with an `ENDIF` that closes nothing, and an `IF` that goes on, if it is false, inside
a loop that was not entered. -/
def strayingIf : Program :=
  [.ifEnd, .repeatStart (some 3), .ifStart ⟨some true, none⟩, .repeatStart none,
    .ifStart ⟨some true, none⟩, .ifEnd, .repeatUntil ⟨some true, none⟩, .ifEnd, .repeatEnd]

/-- The `UNTIL` of the inner loop has led back to the head of the outer one. -/
theorem loop_stack_of_strayingIf :
    strayingIf.check = .ok () ∧
    strayingIf.Reaches 2 (.answering strayingIf [0, 0]) 5 (.answering strayingIf [])
      ⟨1, some 6, [⟨1, some 0⟩]⟩ ∧
    ∀ loop ∈ [(⟨1, some 0⟩ : Loop)], ∃ count closing,
      strayingIf[loop.head]? = some (.repeatStart count) ∧
      strayingIf.Pairs loop.head closing ∧ loop.head ≤ 1 ∧ 1 ≤ closing ∧
      (loop.passes = none ↔ count = none) ∧
      ∀ limit n, count = some limit → limit.isNat n = true → 0 < n →
        ∃ passes, loop.passes = some passes ∧ passes < n := by
  have hendif : strayingIf.Reaches 2 (.answering strayingIf [0, 0]) 1
      (.answering strayingIf [0, 0]) ⟨1, some 0, []⟩ :=
    .turn (.start (List.cons_ne_nil _ _)) rfl (by decide)
  have hrepeat : strayingIf.Reaches 2 (.answering strayingIf [0, 0]) 2
      (.answering strayingIf [0, 0]) ⟨2, some 1, [⟨1, some 0⟩]⟩ :=
    .turn hendif rfl (by decide)
  have hif : strayingIf.Reaches 2 (.answering strayingIf [0, 0]) 3
      (.answering strayingIf [0]) ⟨5, some 2, [⟨1, some 0⟩]⟩ :=
    .turn hrepeat rfl (by decide)
  have hinner : strayingIf.Reaches 2 (.answering strayingIf [0, 0]) 4
      (.answering strayingIf [0]) ⟨6, some 5, [⟨1, some 0⟩]⟩ :=
    .turn hif rfl (by decide)
  have hreach : strayingIf.Reaches 2 (.answering strayingIf [0, 0]) 5
      (.answering strayingIf []) ⟨1, some 6, [⟨1, some 0⟩]⟩ :=
    .turn hinner rfl (by decide)
  exact ⟨rfl, hreach, (reached_loop_stack rfl hreach).2.2.2.1⟩

end Program

end LineControl

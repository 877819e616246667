import LineControl.Proofs.Pairing
import LineControl.Proofs.Turns

/-!
# Where a false `IF` goes on

The check pairs each `IF` with an `ENDIF` by a stack; a run looks for the next `ENDIF` below. The
two agree on an `IF` exactly if no other `IF` stands in its block (`nextEnd_eq_iff`). If one does,
the run goes on too early, at an `ENDIF` inside the block, and the lines between there and the
closing `ENDIF` are executed although the condition was not met (`skip_to_inner_end`).

This is the reason for two restrictions elsewhere. The meaning of a block is that of its lines only
if no `IF` stands inside another (`Proofs.Meaning`), and a loop that is entered in the middle by
such a jump has nothing on the stack of loops when it ends (`Proofs.LoopFaults`).

`skip_to_own_end_iff` is about every `IF` at every place that a run comes to. The two hypotheses
about the session say that the `IF` is executed at all: the listing is shown and the inputs can be
read. It does not say how the run goes on after the `ENDIF`, which is a line like any other.
-/

set_option autoImplicit false

namespace LineControl

namespace Program

open Nesting

variable {program : Program} {line own : Nat} {condition : Condition}

theorem ne_of_getElem? {line' : Nat} {i i' : Instruction} (hi : program[line]? = some i)
    (hi' : program[line']? = some i') (hne : i ≠ i') : line ≠ line' := by
  rintro rfl
  rw [hi] at hi'
  exact hne (Option.some.inj hi')

/-- If there is an `ENDIF` below, the next one is the first of them. -/
theorem nextEnd_spec {stop : Nat} (hlt : line < stop) (hstop : program[stop]? = some .ifEnd) :
    line < program.nextEnd line ∧ program.nextEnd line ≤ stop ∧
      program[program.nextEnd line]? = some .ifEnd ∧
      ∀ m, line < m → m < program.nextEnd line → program[m]? ≠ some .ifEnd := by
  have hbelow : (program.drop (line + 1))[stop - (line + 1)]? = some .ifEnd := by
    rw [List.getElem?_drop, Nat.add_sub_cancel' hlt]
    exact hstop
  unfold nextEnd
  cases hfind : (program.drop (line + 1)).findIdx? (· == .ifEnd) with
  | none =>
    have := List.findIdx?_eq_none_iff.mp hfind _ (List.mem_of_getElem? hbelow)
    simp at this
  | some distance =>
    obtain ⟨hd, hfound, hfirst⟩ := List.findIdx?_eq_some_iff_getElem.mp hfind
    -- a place that is not after the one found is the one found
    have hat : ∀ d, d ≤ distance → (program.drop (line + 1))[d]? = some .ifEnd → d = distance := by
      intro d hle hd'
      rcases Nat.lt_or_ge d distance with hlt' | hge
      · obtain ⟨_, heq⟩ := List.getElem?_eq_some_iff.mp hd'
        exact absurd (beq_iff_eq.mpr heq) (hfirst d hlt')
      · omega
    refine ⟨by dsimp only; omega, ?_, ?_, ?_⟩
    · dsimp only
      rcases Nat.lt_or_ge (stop - (line + 1)) distance with hlt' | hge
      · have := hat _ (Nat.le_of_lt hlt') hbelow
        omega
      · omega
    · dsimp only
      rw [← List.getElem?_drop, List.getElem?_eq_getElem hd, beq_iff_eq.mp hfound]
    · dsimp only
      intro m hm hlt' hend
      have hend' : (program.drop (line + 1))[m - (line + 1)]? = some .ifEnd := by
        rw [List.getElem?_drop, Nat.add_sub_cancel' hm]
        exact hend
      have := hat _ (by omega) hend'
      omega

theorem Pairs.getElem?_own (hcheck : program.check = .ok ()) (h : program.Pairs line own)
    (hi : program[line]? = some (.ifStart condition)) : program[own]? = some .ifEnd := by
  obtain ⟨i, i', o, hi', hopens, hown, hcloses, _⟩ := h.exists_opening hcheck
  rw [hi] at hi'
  cases hi'
  rw [← Option.some.inj hopens] at hcloses
  rw [hown]
  cases i' <;> first | rfl | cases hcloses

/-- An `ENDIF` inside a structure closes an `IF` that is not outside of it. -/
theorem exists_pairs_of_ifEnd (hcheck : program.check = .ok ()) {head : Nat}
    (hopen : program.IsOpen head line) (hi : program[line]? = some .ifEnd) :
    ∃ inner condition, head ≤ inner ∧ program.Pairs inner line ∧
      program[inner]? = some (.ifStart condition) := by
  obtain ⟨inner, j, kind, hle, hpairs, hj, hopens, hcloses⟩ :=
    exists_pairs_of_isClosing hcheck hopen hi rfl
  cases kind with
  | loop counted => cases hcloses
  | conditional =>
    cases j with
    | ifStart condition => exact ⟨inner, condition, hle, hpairs, hj⟩
    | _ => cases hopens

/-- An `IF` inside the block of another is closed before it. -/
theorem Pairs.lt_of_inner (hcheck : program.check = .ok ()) {inner closing : Nat}
    (h : program.Pairs line own) (hinner : program.Pairs inner closing) (hlt : line < inner)
    (hle : inner ≤ own) : closing < own := by
  have hopen : program.IsOpen line closing :=
    ((h.isOpen_iff hcheck).mpr ⟨hlt, hle⟩).of_inner hcheck
      (hinner.isOpen hcheck)
  have hle' := ((h.isOpen_iff hcheck).mp hopen).2
  rcases Nat.lt_or_ge closing own with hlt' | hge
  · exact hlt'
  · obtain rfl : closing = own := by omega
    have := h.head_unique hinner
    omega

theorem nextEnd_bounds (hcheck : program.check = .ok ())
    (hi : program[line]? = some (.ifStart condition)) (hown : program.Pairs line own) :
    line < program.nextEnd line ∧ program.nextEnd line ≤ own ∧
      program[program.nextEnd line]? = some .ifEnd := by
  obtain ⟨hlt, hle, hend, _⟩ := nextEnd_spec (hown.lt hcheck) (hown.getElem?_own hcheck hi)
  exact ⟨hlt, hle, hend⟩

/-- The next `ENDIF` is the own one exactly if the block holds no other `IF`. -/
theorem nextEnd_eq_iff (hcheck : program.check = .ok ())
    (hi : program[line]? = some (.ifStart condition)) (hown : program.Pairs line own) :
    program.nextEnd line = own ↔
      ∀ m condition', line < m → m < own → program[m]? ≠ some (.ifStart condition') := by
  obtain ⟨hlt, hle, hend, hfirst⟩ := nextEnd_spec (hown.lt hcheck) (hown.getElem?_own hcheck hi)
  constructor
  · intro heq m condition' hm hmown hi'
    -- the inner `IF` has an `ENDIF` of its own, above the outer one
    obtain ⟨closing, hinner⟩ := exists_pairs_of_opens hcheck hi' rfl
    have hbefore := hown.lt_of_inner hcheck hinner hm (Nat.le_of_lt hmown)
    have hafter := hinner.lt hcheck
    exact hfirst closing (by omega) (by omega) (hinner.getElem?_own hcheck hi')
  · intro hnone
    rcases Nat.lt_or_ge (program.nextEnd line) own with hshort | hge
    · -- an earlier `ENDIF` closes an `IF` that was opened inside the block
      have hopen : program.IsOpen line (program.nextEnd line) :=
        (hown.isOpen_iff hcheck).mpr ⟨hlt, hle⟩
      obtain ⟨inner, condition', hinner, hpairs, hi'⟩ := exists_pairs_of_ifEnd hcheck hopen hend
      have hbelow := hpairs.lt hcheck
      rcases Nat.lt_or_ge line inner with hlt' | hge'
      · exact absurd hi' (hnone inner condition' hlt' (by omega))
      · obtain rfl : inner = line := by omega
        have := hpairs.unique hcheck hown
        omega
    · omega

/-- **A false `IF` goes on at its own `ENDIF` exactly if its block holds no other `IF`.** In every
run of an accepted program, an `IF` that is executed and whose condition is not met is followed by
the first `ENDIF` below it. That is never below the one it is paired with, and it is that one if and
only if no line between the two is an `IF`. -/
theorem skip_to_own_end_iff {readings turns : Nat} {start session : Session} {c : Cursor}
    (hcheck : program.check = .ok ())
    (hreach : program.Reaches readings start turns session c)
    (hi : program[c.line]? = some (.ifStart condition))
    (hshown : (session.perform (Control.display (some c.line) true)).result = .ok ())
    (hfalse : (session.perform (Control.checkInputs condition)).result = .ok false) :
    ∃ own c', program.Pairs c.line own ∧
      (session.perform (program.turn readings c)).result = .ok c' ∧
      program.Reaches readings start (turns + 1)
        (session.perform (program.turn readings c)).session c' ∧
      program[c'.line]? = some .ifEnd ∧ c.line < c'.line ∧ c'.line ≤ own ∧
      (c'.line = own ↔
        ∀ m condition', c.line < m → m < own → program[m]? ≠ some (.ifStart condition')) := by
  obtain ⟨own, hown⟩ := exists_pairs_of_opens hcheck hi rfl
  obtain ⟨hlt, hle, hend⟩ := nextEnd_bounds hcheck hi hown
  have hturn : (session.perform (program.turn readings c)).result =
      .ok (c.jump (program.nextEnd c.line)) := turn_if hi hshown hfalse
  obtain ⟨hlast, _⟩ := List.getElem?_eq_some_iff.mp hend
  exact ⟨own, c.jump (program.nextEnd c.line), hown, hturn, hreach.turn hturn hlast, hend, hlt, hle,
    nextEnd_eq_iff hcheck hi hown⟩

/-- An `IF` with another inside it. -/
def ifInIf : Program :=
  [.ifStart ⟨some true, none⟩, .ifStart ⟨some true, none⟩, .ifEnd, .ifEnd]

/-- A loop around an `IF` with another inside it. -/
def ifInIfForever : Program :=
  .repeatStart none :: (ifInIf ++ [.repeatForever])

/-- The outer `IF` is skipped in the first pass of the loop. -/
theorem skip_in_ifInIfForever :
    ifInIfForever.check = .ok () ∧
    ∃ own c', ifInIfForever.Pairs 1 own ∧
      ((Session.answering ifInIfForever [0]).perform
        (ifInIfForever.turn 1 ⟨1, some 0, [⟨0, none⟩]⟩)).result = .ok c' ∧
      ifInIfForever[c'.line]? = some .ifEnd ∧ 1 < c'.line ∧ c'.line ≤ own ∧
      (c'.line = own ↔
        ∀ m condition', 1 < m → m < own → ifInIfForever[m]? ≠ some (.ifStart condition')) := by
  have hreach : ifInIfForever.Reaches 1 (.answering ifInIfForever [0]) 1
      (.answering ifInIfForever [0]) ⟨1, some 0, [⟨0, none⟩]⟩ :=
    .turn (.start (List.cons_ne_nil _ _)) rfl (by decide)
  obtain ⟨own, c', hown, hturn, _, hrest⟩ := skip_to_own_end_iff rfl hreach rfl rfl rfl
  exact ⟨rfl, own, c', hown, hturn, hrest⟩

/-- The outer `IF` is paired with the second `ENDIF`, but a run in which it is false goes on at the
first. -/
theorem skip_to_inner_end :
    ifInIf.check = .ok () ∧ ifInIf.Pairs 0 3 ∧
    ((Session.answering ifInIf [0]).run 5).events =
      [.displayed (some 0), .wrote (some 0) true, .read (some 0), .displayed (some 2),
        .displayed (some 3), .displayed none] :=
  ⟨rfl, ⟨_, _, rfl, rfl, rfl, rfl⟩, rfl⟩

end Program

end LineControl

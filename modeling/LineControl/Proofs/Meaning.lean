import LineControl.Proofs.Block
import LineControl.Proofs.Skip

/-!
# A run of a block is its meaning

A run keeps a cursor with a stack of loops, and tells the entry of a loop from another pass only by
the line that came before. On the lines of a block this is the meaning of the block: same events,
same text, same result, on every session and for every number of screens,

    session.run screens = session.perform (block.run (session.bench.limits screens)).

The block may nest its structures eight deep, but no `IF` may stand inside another, for the reason
given in `Proofs.Skip`.

The equation that carries this, `resume_lines`, is between actions and not between reports, so it
says nothing of sessions. It is proved for a block anywhere in a program, with any loops open around
it, by induction on the tree. The case of a loop is an induction of its own, on the screens that are
left (`resume_passes`). That of an `IF` has two ways to the same `ENDIF` (`resume_guarded`). Both
lemmas take what is known of the body as a hypothesis, so neither is an induction on trees.

## The line that came before

A cursor remembers the line it came from, and a loop is opened only if that line is above its head.
So two cursors on the same line need not go on in the same way. `resume_of_isEntry` says that of the
line before nothing else matters, and is used at every line: a block is always entered from above,
and only the closing line of a loop leads upwards, to the head that `execute_head_again` is about.
-/

set_option autoImplicit false

namespace LineControl

/-- What a run notes of the passes of a loop once so many are done. Only a loop that ends after a
number of passes counts them; the others keep the zero they started with. -/
def Ending.noted (passes : Nat) : Ending → Option Nat
  | .upon count _ | .never count => count.map fun _ => 0
  | .after _ => some passes

namespace Program

variable {program : Program} {readings screens line : Nat} {c : Cursor} {i : Instruction}

/-! ## 1. Lines of a program

A block stands in a program from a line on if its lines are a prefix of what is left there. A prefix
is taken apart from the front, as the block is. -/

theorem getElem?_of_drop {rest : Program} (h : i :: rest <+: program.drop line) :
    program[line]? = some i := by
  obtain ⟨below, hbelow⟩ := h
  rw [← Nat.add_zero line, ← List.getElem?_drop, ← hbelow]
  rfl

theorem drop_of_cons {rest : Program} (h : i :: rest <+: program.drop line) :
    rest <+: program.drop (line + 1) := by
  obtain ⟨below, hbelow⟩ := h
  rw [← List.drop_drop, ← hbelow]
  exact List.prefix_append rest below

theorem drop_of_append {first second : Program} (h : first ++ second <+: program.drop line) :
    first <+: program.drop line ∧ second <+: program.drop (line + first.length) := by
  obtain ⟨below, hbelow⟩ := h
  refine ⟨⟨second ++ below, by rw [← hbelow, List.append_assoc]⟩, ⟨below, ?_⟩⟩
  rw [← List.drop_drop, ← hbelow, List.append_assoc, List.drop_left]

/-! ## 2. A run, screen by screen -/

/-- A run at a line shows a screen, executes the line and goes on. -/
theorem resume_line (hi : program[c.line]? = some i) :
    program.resume readings screens c = (do
      let left ← Control.screen (some c.line) screens
      let c' ← program.execute readings c
      program.resume readings left c') := by
  rw [resume, if_pos (List.getElem?_eq_some_iff.mp hi).1]
  cases screens with
  | zero => rfl
  | succ left =>
    rw [runFrom_succ, turn, Control.screen]
    simp only [bind_assoc, pure_bind]
    rfl

/-- A run below the last line shows one more screen. -/
theorem resume_end (h : program.length ≤ c.line) :
    program.resume readings screens c = (do
      let _ ← Control.screen none screens) := by
  rw [resume, if_neg (Nat.not_lt.mpr h)]
  cases screens with
  | zero => rfl
  | succ left =>
    rw [if_neg (Nat.succ_ne_zero left), Control.screen, bind_assoc]
    simp only [pure_bind]
    exact bind_pure_unit.symm

/-- Of the line before, a run only sees whether it lies above. -/
theorem resume_of_isEntry (hentry : c.isEntry = true) :
    program.resume readings screens c =
      program.resume readings screens { line := c.line, loops := c.loops } := by
  cases hi : program[c.line]? with
  | none =>
    have hend := List.getElem?_eq_none_iff.mp hi
    rw [resume_end hend]
    exact (resume_end (c := ⟨c.line, none, c.loops⟩) hend).symm
  | some i =>
    have hsame : program.execute readings c =
        program.execute readings { line := c.line, loops := c.loops } := by
      unfold execute
      rw [hi]
      cases i with
      | repeatStart count => exact if_pos hentry
      | _ => rfl
    rw [resume_line hi, hsame]
    exact (resume_line (c := ⟨c.line, none, c.loops⟩) hi).symm

/-! ## 3. The passes of a loop

Three equations for the two lines of a loop: its head reached from above, its head reached from
below, and its closing line. -/

variable {ending : Ending} {head closing passes : Nat} {loops : List Loop}

/-- At the head from above, the loop is put on the stack with no pass done. -/
theorem execute_head (hi : program[head]? = some (.repeatStart ending.headCount)) :
    program.execute readings { line := head, loops := loops } =
      pure ⟨head + 1, some head, ⟨head, ending.noted 0⟩ :: loops⟩ := by
  unfold execute
  rw [hi]
  cases ending with
  | upon count condition => rfl
  | never count => rfl
  | after count => rfl

/-- At the head from below, nothing happens. -/
theorem execute_head_again (hi : program[head]? = some (.repeatStart ending.headCount))
    (hlt : head < closing) :
    program.execute readings ⟨head, some closing, loops⟩ = pure ⟨head + 1, some head, loops⟩ := by
  have hbelow : ¬ Cursor.isEntry ⟨head, some closing, loops⟩ = true := by
    simp only [Cursor.isEntry, Option.all_some, decide_eq_true_eq]
    omega
  unfold execute
  rw [hi]
  exact if_neg hbelow

/-- At the closing line, the loop is left if it is over and gone on with if not. -/
theorem execute_closing (hhead : program[head]? = some (.repeatStart ending.headCount))
    (hclosing : program[closing]? = some ending.closing) :
    program.execute readings { line := closing, loops := ⟨head, ending.noted passes⟩ :: loops } =
      (do
        if ← ending.isOver (passes + 1) then return ⟨closing + 1, some closing, loops⟩
        return ⟨head, some closing, ⟨head, ending.noted (passes + 1)⟩ :: loops⟩) := by
  unfold execute
  rw [hclosing]
  cases ending with
  | upon count condition =>
    refine bind_congr fun met => ?_
    cases met with
    | true => rfl
    | false => rfl
  | never count => rfl
  | after count =>
    have hlast : program.isLastPass head (passes + 1) = count.isNat (passes + 1) := by
      rw [isLastPass, hhead]
      rfl
    show (if program.isLastPass head (passes + 1) then _ else _) = _
    rw [hlast]
    rfl

/-- If a run of the body is its meaning, a run of the loop is passes up to the last one. The cursor
may come to the head from above or from below, as long as it goes on into the body with the passes
noted that are done. -/
theorem resume_passes {body : Block}
    (hhead : program[head]? = some (.repeatStart ending.headCount))
    (hclosing : program[closing]? = some ending.closing) (hlt : head < closing)
    (hbody : ∀ screens loops, program.resume readings screens { line := head + 1, loops := loops } =
      (do
        let inside ← body.meaning readings (head + 1) screens
        program.resume readings inside { line := closing, loops := loops }))
    (hline : c.line = head)
    (hc : program.execute readings c =
      pure ⟨head + 1, some head, ⟨head, ending.noted passes⟩ :: loops⟩) :
    program.resume readings screens c =
      (do
        let left ← Block.repeatPasses (Block.pass head closing (body.meaning readings (head + 1)))
          ending passes screens
        program.resume readings left { line := closing + 1, loops := loops }) := by
  -- on the screens: a pass takes some, so the next pass starts with fewer
  induction screens using Nat.strongRecOn generalizing passes c with
  | _ screens ih =>
    have hat : program[c.line]? = some (.repeatStart ending.headCount) := by rw [hline]; exact hhead
    rw [resume_line hat, hline, Block.repeatPasses, Block.pass]
    simp only [bind_assoc, pure_bind]
    refine bind_congr fun shown => ?_
    rw [hc, pure_bind, resume_of_isEntry (by simp [Cursor.isEntry]), hbody]
    refine bind_congr fun inside => ?_
    rw [resume_line hclosing]
    refine bind_congr fun left => ?_
    rw [execute_closing hhead hclosing, bind_assoc]
    refine bind_congr fun isOver => ?_
    cases isOver with
    | true =>
      simp only [if_true, pure_bind]
      exact resume_of_isEntry (by simp [Cursor.isEntry])
    | false =>
      simp only [Bool.false_eq_true, if_false, bind_assoc, pure_bind]
      have hless : left.1 < screens := by
        have := left.2
        have := inside.2
        have := shown.2
        omega
      exact ih left hless rfl (execute_head_again hhead hlt)

/-! ## 4. Blocks -/

/-- If there is no `IF` in the body, the next `ENDIF` is the one below it. -/
theorem nextEnd_of_body {body : Block} {rest : Program} (hbody : body.isIfFree = true)
    (hat : body.lines ++ .ifEnd :: rest <+: program.drop (line + 1)) :
    program.nextEnd line = line + 1 + body.lines.length := by
  obtain ⟨hinside, hbelow⟩ := drop_of_append hat
  have hend := getElem?_of_drop hbelow
  have hdown : line < line + 1 + body.lines.length := by omega
  obtain ⟨hlt, hle, hfound, _⟩ := nextEnd_spec hdown hend
  rcases Nat.lt_or_ge (program.nextEnd line) (line + 1 + body.lines.length) with hshort | hge
  · obtain ⟨below, hdrop⟩ := hinside
    have hmem : (program.drop (line + 1))[program.nextEnd line - (line + 1)]? = some .ifEnd := by
      rw [List.getElem?_drop, Nat.add_sub_cancel' hlt]
      exact hfound
    rw [← hdrop, List.getElem?_append_left (by omega)] at hmem
    exact absurd (List.mem_of_getElem? hmem) (Block.ifEnd_not_mem_lines hbody)
  · omega

theorem execute_action (a : Action) (hi : program[c.line]? = some a.line) :
    program.execute readings c = (do
      a.perform readings
      return c.next) := by
  unfold execute
  rw [hi]
  cases a with
  | output label pattern wait => rfl
  | count condition limit => rfl

theorem execute_if {condition : Condition} (hi : program[c.line]? = some (.ifStart condition)) :
    program.execute readings c = (do
      let met ← Control.checkInputs condition
      return if met then c.next else c.jump (program.nextEnd c.line)) := by
  unfold execute
  rw [hi]
  refine bind_congr fun met => ?_
  cases met with
  | true => rfl
  | false => rfl

theorem execute_ifEnd (hi : program[c.line]? = some .ifEnd) :
    program.execute readings c = pure c.next := by
  unfold execute
  rw [hi]

/-- If a run of the body is its meaning, a run of the lines of an `IF` is what the condition makes
of it. Both ways through the `IF` come to its `ENDIF` from above. -/
theorem resume_guarded {condition : Condition} {body : Block}
    (hhead : program[head]? = some (.ifStart condition))
    (hclosing : program[closing]? = some .ifEnd) (hlt : head < closing)
    (hskip : program.nextEnd head = closing)
    (hbody : ∀ screens, program.resume readings screens { line := head + 1, loops := loops } = (do
      let inside ← body.meaning readings (head + 1) screens
      program.resume readings inside { line := closing, loops := loops })) :
    program.resume readings screens { line := head, loops := loops } = (do
      let shown ← Control.screen (some head) screens
      let inside : {left // left ≤ shown.1} ←
        if ← Control.checkInputs condition then body.meaning readings (head + 1) shown
        else pure ⟨shown, Nat.le_refl _⟩
      let closed ← Control.screen (some closing) inside
      program.resume readings closed { line := closing + 1, loops := loops }) := by
  have hend : ∀ left, program.resume readings left { line := closing, loops := loops } = (do
      let closed ← Control.screen (some closing) left
      program.resume readings closed { line := closing + 1, loops := loops }) := by
    intro left
    rw [resume_line hclosing]
    refine bind_congr fun closed => ?_
    rw [execute_ifEnd hclosing, pure_bind, resume_of_isEntry (Cursor.isEntry_next _)]
    rfl
  rw [resume_line hhead]
  refine bind_congr fun shown => ?_
  rw [execute_if hhead, bind_assoc]
  refine bind_congr fun met => ?_
  cases met with
  | true =>
    simp only [if_true, pure_bind]
    rw [resume_of_isEntry (Cursor.isEntry_next _)]
    exact (hbody shown).trans (bind_congr fun inside => hend inside)
  | false =>
    simp only [Bool.false_eq_true, if_false, pure_bind]
    rw [hskip, resume_of_isEntry]
    · exact hend shown
    · rw [Cursor.isEntry_jump, decide_eq_true_eq]
      exact hlt

/-- **Running the lines of a block is its meaning, wherever they stand.** The run goes on below
them, with the loops open that were open above them. -/
theorem resume_lines {block : Block} (hflat : block.isFlat = true)
    (hat : block.lines <+: program.drop line) :
    program.resume readings screens { line := line, loops := loops } = (do
      let left ← block.meaning readings line screens
      program.resume readings left { line := line + block.lines.length, loops := loops }) := by
  induction block generalizing line screens loops with
  | empty =>
    rw [Block.meaning, pure_bind]
    rfl
  | action a rest ih =>
    rw [Block.lines] at hat
    have hi := getElem?_of_drop hat
    have hlast : line + (Block.action a rest).lines.length = line + 1 + rest.lines.length := by
      rw [Block.lines, List.length_cons]
      omega
    rw [resume_line hi, Block.meaning, hlast]
    simp only [bind_assoc, pure_bind]
    refine bind_congr fun shown => ?_
    rw [execute_action a hi, bind_assoc]
    refine bind_congr fun _ => ?_
    rw [pure_bind, resume_of_isEntry (Cursor.isEntry_next _)]
    exact ih hflat (drop_of_cons hat)
  | loop ending body rest ihbody ihrest =>
    rw [Block.isFlat, Bool.and_eq_true] at hflat
    rw [Block.lines] at hat
    have hhead := getElem?_of_drop hat
    obtain ⟨hinside, hbelow⟩ := drop_of_append (drop_of_cons hat)
    have hlast : line + (Block.loop ending body rest).lines.length =
        line + 1 + body.lines.length + 1 + rest.lines.length := by
      simp only [Block.lines, List.length_cons, List.length_append]
      omega
    rw [Block.meaning, hlast]
    simp only [bind_assoc, pure_bind]
    -- the head is reached from above here, so the passes are counted from zero
    rw [resume_passes hhead (getElem?_of_drop hbelow) (by omega)
      (fun screens loops => ihbody hflat.1 hinside) rfl (execute_head hhead)]
    refine bind_congr fun passed => ?_
    exact ihrest hflat.2 (drop_of_cons hbelow)
  | guarded condition body rest ihbody ihrest =>
    rw [Block.isFlat, Bool.and_eq_true] at hflat
    rw [Block.lines] at hat
    have hhead := getElem?_of_drop hat
    obtain ⟨hinside, hbelow⟩ := drop_of_append (drop_of_cons hat)
    have hlast : line + (Block.guarded condition body rest).lines.length =
        line + 1 + body.lines.length + 1 + rest.lines.length := by
      simp only [Block.lines, List.length_cons, List.length_append]
      omega
    have hskip := nextEnd_of_body hflat.1 (drop_of_cons hat)
    rw [Block.meaning, hlast, resume_guarded hhead (getElem?_of_drop hbelow) (by omega) hskip
      fun screens => ihbody (Block.isFlat_of_isIfFree hflat.1) hinside]
    simp only [bind_assoc, pure_bind]
    refine bind_congr fun shown => bind_congr fun met => ?_
    cases met with
    | true =>
      simp only [if_true, bind_assoc, pure_bind]
      refine bind_congr fun inside => bind_congr fun closed => ?_
      exact ihrest hflat.2 (drop_of_cons hbelow)
    | false =>
      simp only [Bool.false_eq_true, if_false, bind_assoc, pure_bind]
      refine bind_congr fun closed => ?_
      exact ihrest hflat.2 (drop_of_cons hbelow)

/-- A run from the first line of a block is its meaning and one more screen. -/
theorem runFrom_lines {block : Block} (hflat : block.isFlat = true) (hne : block.lines ≠ []) :
    block.lines.runFrom readings screens {} = (do
      let left ← block.meaning readings 0 screens
      let _ ← Control.screen none left) := by
  have hstart : block.lines.runFrom readings screens {} =
      block.lines.resume readings screens { line := 0, loops := [] } := by
    rw [resume, if_pos (List.length_pos_iff.mpr hne)]
  have hat : block.lines <+: block.lines.drop 0 := List.prefix_refl block.lines
  rw [hstart, resume_lines hflat hat]
  refine bind_congr fun left => ?_
  exact resume_end (by simp)

end Program

namespace Block

/-- **A run of a structured program is the meaning of its blocks.** On every session and for every
number of screens, running the lines of the block gives the report of its meaning: the same events
in the same order, the same text on the screen, the same result or fault, and the same session in
the end. -/
theorem run_lines_eq_meaning {block : Block} (hdepth : block.depth ≤ 8)
    (hflat : block.isFlat = true) {session : Session}
    (hprogram : session.controller.program = block.lines) (screens : Nat) :
    session.run screens = session.perform (block.run (session.bench.limits screens)) := by
  have hcheck : session.controller.program.check = .ok () := by
    rw [hprogram]
    exact block.check_lines hdepth
  rw [Session.run_eq hcheck screens, hprogram]
  cases block with
  | empty => rfl
  | action | loop | guarded =>
    exact congrArg session.perform (Program.runFrom_lines hflat (List.cons_ne_nil _ _))

/-- Loops of all three kinds around, inside and beside an `IF`. -/
def nestedLoops : Block :=
  .loop (.never (some 3))
    (.guarded ⟨some true, none⟩
      (.loop (.after 2) (.action (.output (some "out0") (some 1) (some 0.5)) .empty) .empty)
      (.loop (.upon none ⟨none, some true⟩) (.action (.count ⟨some true, none⟩ 2) .empty) .empty))
    .empty

theorem run_nestedLoops_eq_meaning :
    nestedLoops.depth ≤ 8 ∧ nestedLoops.isFlat = true ∧
    (Session.answering nestedLoops.lines [0x80, 0, 0, 0x40, 0, 0x80]).run 20 =
      (Session.answering nestedLoops.lines [0x80, 0, 0, 0x40, 0, 0x80]).perform
        (nestedLoops.run ⟨20, 6⟩) :=
  ⟨by decide, rfl, run_lines_eq_meaning (by decide) rfl rfl 20⟩

end Block

end LineControl

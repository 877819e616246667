import LineControl.Proofs.LoopFaults
import LineControl.Proofs.Box
import LineControl.Proofs.Magnitude
import Mathlib.Tactic.NormNum

/-!
# Counted loops that are never left

A counted loop is left when the number of passes equals the number at its head. The check asks for a
number there, but not for one that passes can come to: zero, a negative number, a fraction, an
infinity and what is no number at all are let pass. Once such a loop is entered, the run stays in
its block (`endless_block_is_never_left`).

No line inside the block can end it either. What carries this is that the loop stays open: every
open loop has the line in its block (`LoopsFit`), and only the closing line of a loop takes it off
the stack (`LoopsFull`). The second holds as long as no `IF` goes on inside a loop, so no `IF` may
stand inside another.

## What "never left" says

Two things, neither of which implies the other for a run with a bound. All screens after the one
with the head show lines of the block, and there is no number of screens with which the run ends. It
may stop: a port may fail, or the bound may be met. For a port that always answers there is no bound
in sight, and that the run then goes on forever is what the second clause comes to.

The statement is about the lines that a run shows, in their order (`Report.shown`), so it can be
read off the events. Section 3 says which these are, turn by turn, and section 4 turns an invariant
of the cursor into a statement about runs of every length (`NeverEnds.of_invariant`).
-/

set_option autoImplicit false

namespace LineControl

/-- The line that is active on the screen, if the event is a screen. -/
def Event.shown? : Event → Option (Option Int)
  | .displayed active => some active
  | _ => none

/-- The active lines of the screens, in their order. The last screen of a run has none. -/
def Report.shown {α : Type} (report : Report α) : List (Option Int) :=
  report.events.filterMap Event.shown?

namespace Program

open Nesting

variable {program : Program} {readings : Nat} {c c' : Cursor} {session : Session}

/-! ## 1. Programs without an `IF` inside another -/

/-- No `IF` stands in the block of another. -/
def FlatIfs (program : Program) : Prop :=
  ∀ line own m condition condition', program[line]? = some (.ifStart condition) →
    program.Pairs line own → line < m → m < own → program[m]? ≠ some (.ifStart condition')

/-- A false `IF` then goes on at its own `ENDIF`, where all loops of its block are closed. -/
theorem FlatIfs.not_skipsInto (hflat : program.FlatIfs) (hcheck : program.check = .ok ())
    {line : Nat} {condition : Condition} (hi : program[line]? = some (.ifStart condition)) :
    ¬ program.SkipsInto line := by
  rintro ⟨head, count, hrepeat, hlt, hopen⟩
  obtain ⟨own, hown⟩ := exists_pairs_of_opens hcheck hi rfl
  obtain ⟨closing, hpairs⟩ := exists_pairs_of_opens hcheck hrepeat rfl
  have hend : program.nextEnd line = own :=
    (nextEnd_eq_iff hcheck hi hown).mpr fun m condition' =>
      hflat line own m condition condition' hi hown
  rw [hend] at hopen
  obtain ⟨habove, hbelow⟩ := (hpairs.isOpen_iff hcheck).mp hopen
  have hbefore := hown.lt_of_inner hcheck hpairs hlt (Nat.le_of_lt habove)
  omega

/-- The open loops are exactly the loops around the line. -/
structure OnTrack (program : Program) (c : Cursor) : Prop where
  fit : program.LoopsFit c
  full : program.LoopsFull c

namespace OnTrack

theorem init (hcheck : program.check = .ok ()) : program.OnTrack {} where
  fit := .init
  full _ _ _ hopen := absurd (hopen.lt hcheck) (Nat.not_lt_zero _)

theorem move (hflat : program.FlatIfs) (hcheck : program.check = .ok ()) (h : program.OnTrack c)
    (hmove : program.Move c c') : program.OnTrack c' where
  fit := h.fit.move hcheck hmove
  full := h.full.move hcheck h.fit hmove fun ⟨_, hi⟩ _ => hflat.not_skipsInto hcheck hi

end OnTrack

/-! ## 2. The loop stays open

A loop is taken off the stack by a closing line, or by the last of its passes. The loop in question
has no last pass, and any other closing line takes off a loop further in. -/

/-- A block from `REPEAT` to `ENDREPEAT` whose number is no positive whole number. -/
structure EndlessBlock (program : Program) (head closing : Nat) (count : Number) : Prop where
  atHead : program[head]? = some (.repeatStart (some count))
  pairs : program.Pairs head closing
  atClosing : program[closing]? = some .repeatEnd
  unreachable : ∀ n : Nat, 0 < n → count.toRat? ≠ some (n : ℚ)

/-- The loop with the given head is open, and its passes are counted. -/
def CountsAt (c : Cursor) (head : Nat) : Prop :=
  ∃ passes, ⟨head, some passes⟩ ∈ c.loops

namespace EndlessBlock

variable {head closing : Nat} {count : Number}

/-- No pass is the last one. -/
theorem isLastPass_eq_false (h : program.EndlessBlock head closing count) (passes : Nat) :
    program.isLastPass head (passes + 1) = false := by
  have hnot : count.isNat (passes + 1) = false := by
    rw [Bool.eq_false_iff, Ne, Number.isNat_iff]
    exact h.unreachable _ (Nat.succ_pos passes)
  simp [isLastPass, h.atHead, Instruction.value, hnot]

/-- While the loop is open, the run stands in its block. -/
theorem line_mem (h : program.EndlessBlock head closing count) (hcheck : program.check = .ok ())
    (hfit : program.LoopsFit c) (hopen : CountsAt c head) : head ≤ c.line ∧ c.line ≤ closing := by
  obtain ⟨passes, hloop⟩ := hopen
  obtain ⟨closing', hpairs, hle, hle'⟩ := hfit.exists_pairs hcheck hloop
  rw [hpairs.unique hcheck h.pairs] at hle'
  exact ⟨hle, hle'⟩

theorem line_lt (h : program.EndlessBlock head closing count) (hcheck : program.check = .ok ())
    (hfit : program.LoopsFit c) (hopen : CountsAt c head) : c.line < program.length := by
  have hle := (h.line_mem hcheck hfit hopen).2
  obtain ⟨hlt, _⟩ := List.getElem?_eq_some_iff.mp h.atClosing
  omega

/-- The line at the head opens the loop, or finds it open. -/
theorem countsAt_of_head (h : program.EndlessBlock head closing count) (hfit : program.LoopsFit c)
    (hline : c.line = head) (hmove : program.Move c c') : CountsAt c' head := by
  subst hline
  have hat := h.atHead
  cases hmove with
  | @enter count' hi hentry =>
    rw [hi] at hat
    cases hat
    exact ⟨0, List.mem_cons_self⟩
  | @pass count' hi hentry =>
    obtain ⟨loop, outer, hl, hhead⟩ := hfit.back hentry
    have hloop : loop ∈ c.loops := by simp [hl]
    obtain ⟨count', hrepeat, hnone, _⟩ := hfit.counted loop hloop
    rw [hhead, hat] at hrepeat
    cases hrepeat
    obtain ⟨passes, hpasses⟩ := Option.ne_none_iff_exists'.mp (mt hnone.mp (Option.some_ne_none _))
    refine ⟨passes, ?_⟩
    rw [← hhead, ← hpasses]
    exact hloop
  -- no other move is made at a `REPEAT`
  | straight hi hstraight => rw [hi] at hat; cases hat; cases hstraight
  | leave hi _ => rw [hi] at hat; cases hat
  | again hi hcloses _ => rw [hi] at hat; cases hat; cases hcloses
  | lastPass hi _ _ => rw [hi] at hat; cases hat
  | nextPass hi _ _ => rw [hi] at hat; cases hat
  | inside hi => rw [hi] at hat; cases hat
  | skip hi => rw [hi] at hat; cases hat

/-- **No move takes the loop off the stack.** -/
theorem countsAt_of_move (h : program.EndlessBlock head closing count)
    (hcheck : program.check = .ok ()) (htrack : program.OnTrack c) (hmove : program.Move c c')
    (hopen : CountsAt c head) : CountsAt c' head := by
  obtain ⟨passes, hloop⟩ := hopen
  cases hmove with
  | straight _ _ => exact ⟨passes, hloop⟩
  | enter _ _ => exact ⟨passes, List.mem_cons_of_mem _ hloop⟩
  | pass _ _ => exact ⟨passes, hloop⟩
  | @leave condition loop outer hi hl =>
    rw [hl] at hloop
    rcases List.mem_cons.mp hloop with rfl | hloop
    · -- the loop of an `UNTIL` is the one that it closes, and this one is closed by `ENDREPEAT`
      have hfirst : (⟨head, some passes⟩ : Loop) ∈ c.loops := by simp [hl]
      obtain ⟨own, count', _, hown, hrepeat, _⟩ :=
        exists_pairs_of_closesLoop hcheck (htrack.fit.isOpen hi (by simp) hfirst) hi rfl
      obtain ⟨first, outer', hl', hhead⟩ :=
        htrack.full.exists_first hcheck htrack.fit hi rfl hown hrepeat
      rw [hl] at hl'
      cases hl'
      rw [← hhead] at hown
      rw [hown.unique hcheck h.pairs, h.atClosing] at hi
      cases hi
    · exact ⟨passes, hloop⟩
  | again _ _ _ => exact ⟨passes, hloop⟩
  | @lastPass head' passes' outer hi hl hlast =>
    rw [hl] at hloop
    rcases List.mem_cons.mp hloop with heq | hloop
    · cases heq
      -- its last pass, which there is not
      rw [h.isLastPass_eq_false] at hlast
      cases hlast
    · exact ⟨passes, hloop⟩
  | @nextPass head' passes' outer hi hl hlast =>
    rw [hl] at hloop
    rcases List.mem_cons.mp hloop with heq | hloop
    · cases heq
      exact ⟨passes + 1, List.mem_cons_self⟩
    · exact ⟨passes, List.mem_cons_of_mem _ hloop⟩
  | inside _ => exact ⟨passes, hloop⟩
  | skip _ => exact ⟨passes, hloop⟩

end EndlessBlock

/-! ## 3. The lines that a run shows -/

/-- A screen is one event, also if there is no listing. -/
theorem display_events (session : Session) (active : Option Int) (clear : Bool) :
    (session.perform (Control.display active clear)).events = [.displayed active] := by
  unfold Control.display
  rw [Session.perform_get_bind]
  cases Listing.listing session.controller.program active with
  | ok listing => rfl
  | error fault => rfl

theorem shown_of_onBox {α : Type} {x : ControlM α} (hx : OnBox x) (session : Session) :
    (session.perform x).shown = [] := by
  refine List.filterMap_eq_nil_iff.mpr fun e he => ?_
  have hunseen := hx.unseen session e he
  cases e with
  | displayed active => cases hunseen
  | _ => rfl

/-- A turn shows its line, and no other. -/
theorem shown_turn (program : Program) (session : Session) (readings : Nat) (c : Cursor) :
    (session.perform (program.turn readings c)).shown = [some (c.line : Int)] := by
  have hscreen := display_events session (some c.line) true
  have hline := shown_of_onBox (program.execute_onBox readings c) session
  rw [turn, Session.perform_bind, Report.andThen]
  cases (session.perform (Control.display (some c.line) true)).result with
  | error fault => simp [Report.shown, hscreen, Event.shown?]
  | ok _ =>
    rw [display_session]
    simp only [Report.shown] at hline
    simp [Report.shown, Report.after, hscreen, hline, Event.shown?]

/-- The lines shown are that of the first turn and those of the rest. -/
theorem shown_runFrom_succ (session : Session) (readings screens : Nat) (c : Cursor) :
    (session.perform (program.runFrom readings (screens + 1) c)).shown = some (c.line : Int) ::
      match (session.perform (program.turn readings c)).result with
      | .ok c' => ((session.perform (program.turn readings c)).session.perform
          (program.resume readings screens c')).shown
      | .error _ => [] := by
  have hturn := program.shown_turn session readings c
  simp only [Report.shown] at hturn
  rw [runFrom_succ, Session.perform_bind, Report.andThen]
  cases (session.perform (program.turn readings c)).result with
  | error fault => exact hturn
  | ok c' => simp [Report.shown, Report.after, hturn]

/-- Below the last line only a screen without an active line comes. -/
theorem not_mem_shown_resume (hend : ¬ c.line < program.length) (session : Session)
    (readings screens line : Nat) :
    some (line : Int) ∉ (session.perform (program.resume readings screens c)).shown := by
  rw [resume, if_neg hend]
  split
  · exact List.not_mem_nil
  · simp [Report.shown, display_events, Event.shown?]

/-! ## 4. Runs that do not end -/

/-- However many screens the run may show from here on, it does not come to its end. -/
def NeverEnds (program : Program) (readings : Nat) (session : Session) (c : Cursor) : Prop :=
  ∀ screens, (session.perform (program.runFrom readings screens c)).result ≠ .ok ()

namespace NeverEnds

/-- If a turn stops the run, or leads to a line from which it does not end, it does not end. -/
theorem of_turn (h : ∀ c', (session.perform (program.turn readings c)).result = .ok c' →
      c'.line < program.length ∧
        program.NeverEnds readings (session.perform (program.turn readings c)).session c') :
    program.NeverEnds readings session c := by
  intro screens hok
  cases screens with
  | zero => cases hok
  | succ screens =>
    rw [runFrom_succ] at hok
    obtain ⟨c', hturn, hok⟩ := Session.perform_bind_ok.mp hok
    obtain ⟨hlt, hnever⟩ := h c' hturn
    rw [resume, if_pos hlt] at hok
    exact hnever screens hok

/-- A run that every move keeps among the lines of the program does not end. -/
theorem of_invariant {Inv : Cursor → Prop}
    (hmove : ∀ c c', Inv c → program.Move c c' → Inv c' ∧ c'.line < program.length)
    (hc : Inv c) : program.NeverEnds readings session c := by
  intro screens
  induction screens generalizing session c with
  | zero => nofun
  | succ screens ih =>
    intro hok
    rw [runFrom_succ] at hok
    obtain ⟨c', hturn, hok⟩ := Session.perform_bind_ok.mp hok
    obtain ⟨hinv, hlt⟩ := hmove c c' hc (turn_move hturn)
    rw [resume, if_pos hlt] at hok
    exact ih hinv hok

end NeverEnds

/-- The screen is one of a line in the block. -/
def ShowsBlock (head closing : Nat) (active : Option Int) : Prop :=
  ∃ line : Nat, active = some (line : Int) ∧ head ≤ line ∧ line ≤ closing

namespace EndlessBlock

variable {head closing : Nat} {count : Number}

/-- What holds of the cursor once the loop is entered. -/
def Inside (program : Program) (head : Nat) (c : Cursor) : Prop :=
  program.OnTrack c ∧ CountsAt c head

theorem inside_of_move (h : program.EndlessBlock head closing count) (hflat : program.FlatIfs)
    (hcheck : program.check = .ok ()) (hc : Inside program head c) (hmove : program.Move c c') :
    Inside program head c' ∧ c'.line < program.length := by
  have htrack := hc.1.move hflat hcheck hmove
  have hopen := h.countsAt_of_move hcheck hc.1 hmove hc.2
  exact ⟨⟨htrack, hopen⟩, h.line_lt hcheck htrack.fit hopen⟩

theorem inside_of_head (h : program.EndlessBlock head closing count) (hflat : program.FlatIfs)
    (hcheck : program.check = .ok ()) (htrack : program.OnTrack c) (hline : c.line = head)
    (hmove : program.Move c c') : Inside program head c' ∧ c'.line < program.length := by
  have htrack' := htrack.move hflat hcheck hmove
  have hopen := h.countsAt_of_head htrack.fit hline hmove
  exact ⟨⟨htrack', hopen⟩, h.line_lt hcheck htrack'.fit hopen⟩

theorem neverEnds_of_inside (h : program.EndlessBlock head closing count) (hflat : program.FlatIfs)
    (hcheck : program.check = .ok ()) (hc : Inside program head c) :
    program.NeverEnds readings session c :=
  .of_invariant (fun _ _ hinside hmove => h.inside_of_move hflat hcheck hinside hmove) hc

/-- From inside the block only lines of the block are shown. -/
theorem shown_of_inside (h : program.EndlessBlock head closing count) (hflat : program.FlatIfs)
    (hcheck : program.check = .ok ()) (screens : Nat) (hc : Inside program head c) :
    ∀ active ∈ (session.perform (program.runFrom readings screens c)).shown,
      ShowsBlock head closing active := by
  induction screens generalizing session c with
  | zero => exact fun _ hmem => absurd hmem List.not_mem_nil
  | succ screens ih =>
    intro active hmem
    rw [shown_runFrom_succ] at hmem
    rcases List.mem_cons.mp hmem with rfl | hmem
    · exact ⟨c.line, rfl, h.line_mem hcheck hc.1.fit hc.2⟩
    · cases hturn : (session.perform (program.turn readings c)).result with
      | error fault =>
        rw [hturn] at hmem
        exact absurd hmem List.not_mem_nil
      | ok c' =>
        obtain ⟨hinside, hlt⟩ := h.inside_of_move hflat hcheck hc (turn_move hturn)
        rw [hturn] at hmem
        dsimp only at hmem
        rw [resume, if_pos hlt] at hmem
        exact ih hinside active hmem

/-- Once the head is shown, only lines of the block are shown, and the run does not end. -/
theorem runFrom_of_shown (h : program.EndlessBlock head closing count) (hflat : program.FlatIfs)
    (hcheck : program.check = .ok ()) {screens : Nat} (htrack : program.OnTrack c)
    {before later : List (Option Int)}
    (hshown : (session.perform (program.runFrom readings screens c)).shown =
      before ++ some (head : Int) :: later) :
    (∀ active ∈ later, ShowsBlock head closing active) ∧
      program.NeverEnds readings session c := by
  induction screens generalizing session c before with
  | zero => exact absurd hshown (by simp [Report.shown, runFrom, Session.perform_throw])
  | succ screens ih =>
    rw [shown_runFrom_succ] at hshown
    cases before with
    | nil =>
      -- the head is the line of this turn
      obtain ⟨hhead, hlater⟩ := List.cons.inj hshown
      have hline : c.line = head := by simpa using hhead
      refine ⟨?_, .of_turn fun c' hturn => ?_⟩
      · intro active hmem
        rw [← hlater] at hmem
        cases hturn : (session.perform (program.turn readings c)).result with
        | error fault =>
          rw [hturn] at hmem
          exact absurd hmem List.not_mem_nil
        | ok c' =>
          obtain ⟨hinside, hlt⟩ := h.inside_of_head hflat hcheck htrack hline (turn_move hturn)
          rw [hturn] at hmem
          dsimp only at hmem
          rw [resume, if_pos hlt] at hmem
          exact h.shown_of_inside hflat hcheck screens hinside active hmem
      · obtain ⟨hinside, hlt⟩ := h.inside_of_head hflat hcheck htrack hline (turn_move hturn)
        exact ⟨hlt, h.neverEnds_of_inside hflat hcheck hinside⟩
    | cons first before =>
      -- the head comes later, so the turn leads to a line of the program
      rw [List.cons_append] at hshown
      obtain ⟨_, hlater⟩ := List.cons.inj hshown
      cases hturn : (session.perform (program.turn readings c)).result with
      | error fault =>
        rw [hturn] at hlater
        exact absurd hlater (by simp)
      | ok c' =>
        rw [hturn] at hlater
        dsimp only at hlater
        by_cases hlt : c'.line < program.length
        · rw [resume, if_pos hlt] at hlater
          obtain ⟨hblock, hnever⟩ := ih (htrack.move hflat hcheck (turn_move hturn)) hlater
          refine ⟨hblock, .of_turn fun c'' hturn' => ?_⟩
          rw [hturn] at hturn'
          cases hturn'
          exact ⟨hlt, hnever⟩
        · have hmem : some (head : Int) ∈ before ++ some (head : Int) :: later := by simp
          rw [← hlater] at hmem
          exact absurd hmem (not_mem_shown_resume hlt _ readings screens head)

end EndlessBlock

/-- **A counted loop whose count cannot be reached is never left.** In an accepted program where no
`IF` stands inside another, let a block from `REPEAT` to `ENDREPEAT` have a number that is no
positive whole number. Whatever the port answers, once a run has shown the `REPEAT` as the line to
execute, all lines that it shows later are in the block. So the run does not end, however many
screens it may show. -/
theorem endless_block_is_never_left {start : Session}
    (hprogram : start.controller.program = program) (hcheck : program.check = .ok ())
    (hflat : program.FlatIfs) {head closing : Nat} {count : Number}
    (hblock : program.EndlessBlock head closing count) {screens : Nat}
    {before later : List (Option Int)}
    (hshown : (start.run screens).shown = before ++ some (head : Int) :: later) :
    (∀ active ∈ later, ∃ line : Nat, active = some (line : Int) ∧ head ≤ line ∧ line ≤ closing) ∧
    ∀ screens', (start.run screens').result ≠ .ok () := by
  subst hprogram
  have hempty : start.controller.program.isEmpty = false := by
    obtain ⟨hlt, _⟩ := List.getElem?_eq_some_iff.mp hblock.atHead
    rw [List.isEmpty_eq_false_iff, ← List.length_pos_iff]
    omega
  have hrun : ∀ screens, start.run screens = start.perform
      (start.controller.program.runFrom start.bench.readings screens {}) := by
    intro screens
    rw [Session.run_eq hcheck, hempty, if_neg Bool.false_ne_true]
  rw [hrun] at hshown
  obtain ⟨hlater, hnever⟩ := hblock.runFrom_of_shown hflat hcheck (.init hcheck) hshown
  refine ⟨hlater, fun screens' => ?_⟩
  rw [hrun]
  exact hnever screens'

/-- A loop of two and a half passes, with an `IF` and a loop of two passes inside. -/
def halfPass : Program :=
  [.setOutput (some "start") (some 1) none, .repeatStart (some 2.5), .ifStart ⟨some true, none⟩,
    .setOutput (some "lamp") (some 2) none, .ifEnd, .repeatStart (some 2), .repeatEnd, .repeatEnd,
    .setOutput (some "stop") (some 0) none]

/-- Two passes of the endless block and the beginning of a third: the loop inside it is left after
two passes each time. -/
theorem halfPass_is_never_left :
    halfPass.check = .ok () ∧ halfPass.FlatIfs ∧ halfPass.EndlessBlock 1 7 2.5 ∧
    ((Session.answering halfPass [0, 0x80, 0, 0]).run 20).shown =
      [some 0] ++ some 1 :: [2, 3, 4, 5, 6, 5, 6, 7, 1, 2, 4, 5, 6, 5, 6, 7, 1, 2].map some ∧
    ∀ screens, ((Session.answering halfPass [0, 0x80, 0, 0]).run screens).result ≠ .ok () := by
  have hif : ∀ line condition, halfPass[line]? = some (.ifStart condition) → line = 2 := by
    intro line condition hi
    match line, hi with
    | 2, _ => rfl
    | 0, hi | 1, hi | 3, hi | 4, hi | 5, hi | 6, hi | 7, hi | 8, hi => cases hi
    | _ + 9, hi => cases hi
  have hflat : halfPass.FlatIfs := by
    intro line own m condition condition' hi _ hlt _ hi'
    have := hif line condition hi
    have := hif m condition' hi'
    omega
  have hvalue : (2.5 : Number).toRat? = some (5 / 2) := by
    decide +kernel
  have hblock : halfPass.EndlessBlock 1 7 2.5 := by
    refine ⟨rfl, ⟨_, _, rfl, rfl, rfl, rfl⟩, rfl, fun n _ hn => ?_⟩
    rw [hvalue] at hn
    have htwice : (5 : ℚ) = ((2 * n : Nat) : ℚ) := by
      rw [Nat.cast_mul, ← Option.some.inj hn]
      norm_num
    have : 5 = 2 * n := by exact_mod_cast htwice
    omega
  have hshown : ((Session.answering halfPass [0, 0x80, 0, 0]).run 20).shown =
      [some 0] ++ some 1 :: [2, 3, 4, 5, 6, 5, 6, 7, 1, 2, 4, 5, 6, 5, 6, 7, 1, 2].map some := by
    decide +kernel
  exact ⟨rfl, hflat, hblock, hshown, (endless_block_is_never_left rfl rfl hflat hblock hshown).2⟩

end Program

end LineControl

import LineControl.Proofs.Box
import LineControl.Proofs.Grammar
import LineControl.Proofs.Listable
import LineControl.Proofs.LoopStack
import LineControl.Proofs.Meaning

/-!
# One program after another

An accepted program that stands inside a longer one runs there as it does alone: nothing inside it
looks beyond its own lines. `execute_below` says this of one line, as an equation between actions,
and `resume_below` of all lines up to the last. Two programs in a row then run one after the other
(`run_append`).

One thing does look at the whole program, and that is the listing. It needs a label on every line
and a value on none that is too long to be written down, so a line that cannot be listed stops a run
at its first screen, wherever the line stands. That is what `run_append` asks of the two programs,
and its last clause says that nothing less would do: if the second cannot be listed and the first
can, the first is not even begun (`run_append_needs_labels`). If the first cannot be listed, it does
not matter whether the second can.

## Moving a program

A program that starts further down has its lines, the heads of its loops and the numbers in its
screens moved by the same amount, which is `below` for cursors, events and reports. A line does not
read these numbers, it only compares them with each other. Two things could still go wrong. The
search for an `ENDIF` might run past the end of the program, and a closing line might find a loop of
the program around it; `nextEnd_below` and `LoopsFit` exclude them, and both need that the program
is accepted by itself.

## What is compared

Reports are compared by `Agrees`, which leaves out the text on the screen. The text is the listing
of the whole program and cannot be the same. The screens themselves are in the events, with the
active line of each. A run of the longer program also allows a `COUNT` a different number of
readings, which makes no difference by `perform_resume_readings`.
-/

set_option autoImplicit false

namespace LineControl

/-! ## 1. Places in a longer program

`program <+: whole.drop start` says that the lines of `program` stand in `whole` from the line
`start` on. -/

/-- The loop, where its program starts at the given line of a longer one. -/
def Loop.below (start : Nat) (loop : Loop) : Loop :=
  { loop with head := start + loop.head }

/-- The cursor, where its program starts at the given line of a longer one. -/
def Cursor.below (start : Nat) (c : Cursor) : Cursor where
  line := start + c.line
  previous := c.previous.map (start + ·)
  loops := c.loops.map (Loop.below start)

/-- The event, where its program starts at the given line of a longer one: the active lines have
other numbers. -/
def Event.below (start : Nat) : Event → Event
  | .displayed (some line) => .displayed (some (start + line))
  | e => e

theorem Cursor.below_zero (c : Cursor) : c.below 0 = c := by
  have hloop : Loop.below 0 = id := by
    funext loop
    simp [Loop.below]
  simp [below, hloop]

theorem Event.below_zero (e : Event) : e.below 0 = e := by
  cases e with
  | displayed active => cases active <;> simp [below]
  | _ => rfl

/-- Line numbers occur in the screens only. -/
theorem Event.below_of_not_isDisplay {e : Event} (h : e.isDisplay = false) (start : Nat) :
    e.below start = e := by
  cases e with
  | displayed active => cases h
  | _ => rfl

/-- Whether a line was reached from above does not depend on where the program starts. -/
theorem Cursor.isEntry_below (start : Nat) (c : Cursor) : (c.below start).isEntry = c.isEntry := by
  obtain ⟨line, previous, loops⟩ := c
  cases previous with
  | none => rfl
  | some previous =>
    simp only [isEntry, below, Option.map_some, Option.all_some]
    exact decide_eq_decide.mpr (Nat.add_lt_add_iff_left)

theorem Cursor.next_below (start : Nat) (c : Cursor) :
    (c.below start).next = c.next.below start := rfl

namespace Program

variable {whole program : Program} {start line readings screens : Nat} {c : Cursor}

theorem getElem?_below (hat : program <+: whole.drop start) {i : Instruction}
    (hi : program[line]? = some i) : whole[start + line]? = some i := by
  obtain ⟨rest, hrest⟩ := hat
  rw [← List.getElem?_drop, ← hrest,
    List.getElem?_append_left (List.getElem?_eq_some_iff.mp hi).1]
  exact hi

theorem length_below (hat : program <+: whole.drop start) (hlt : line < program.length) :
    start + line < whole.length := by
  have hi := getElem?_below hat (List.getElem?_eq_getElem hlt)
  exact (List.getElem?_eq_some_iff.mp hi).1

/-- The next `ENDIF` is the same as alone, if there is one in the program. -/
theorem nextEnd_below (hat : program <+: whole.drop start) {stop : Nat} (hlt : line < stop)
    (hstop : program[stop]? = some .ifEnd) :
    whole.nextEnd (start + line) = start + program.nextEnd line := by
  obtain ⟨hbelow, _, hend, hfirst⟩ := nextEnd_spec hlt hstop
  obtain ⟨hbelow', hle, hend', _⟩ :=
    nextEnd_spec (show start + line < start + program.nextEnd line by omega)
      (getElem?_below hat hend)
  -- an earlier one in the longer program would be an earlier one in the program itself
  obtain ⟨found, hfound⟩ : ∃ found, whole.nextEnd (start + line) = start + found :=
    ⟨whole.nextEnd (start + line) - start, by omega⟩
  rw [hfound] at hbelow' hle hend' ⊢
  rcases Nat.lt_or_ge found (program.nextEnd line) with hshort | hge
  · obtain ⟨hlast, _⟩ := List.getElem?_eq_some_iff.mp hend
    have hinside := List.getElem?_eq_getElem (show found < program.length by omega)
    rw [getElem?_below hat hinside] at hend'
    exact absurd (hinside.trans hend') (hfirst found (by omega) hshort)
  · omega

/-- The count of a loop is at its head, which has moved along. -/
theorem isLastPass_below (hat : program <+: whole.drop start) {head passes : Nat} {i : Instruction}
    (hi : program[head]? = some i) :
    whole.isLastPass (start + head) passes = program.isLastPass head passes := by
  rw [isLastPass, isLastPass, getElem?_below hat hi, hi]

/-! ## 2. A line does the same inside a longer program

Of all that a line uses, only three things are looked up in the program: the line itself, the count
at the head of a loop, and the next `ENDIF`. -/

theorem leave_below (c : Cursor) :
    (c.below start).leave = (do
      let c' ← c.leave
      return c'.below start) := by
  obtain ⟨line, previous, loops⟩ := c
  cases loops with
  | nil => rfl
  | cons loop outer => rfl

theorem again_below (c : Cursor) :
    (c.below start).again = (do
      let c' ← c.again
      return c'.below start) := by
  obtain ⟨line, previous, loops⟩ := c
  cases loops with
  | nil => rfl
  | cons loop outer => rfl

/-- The end of a pass looks at the head of the innermost open loop. That head is a line of the
program, since the open loops fit. -/
theorem endPass_below (hat : program <+: whole.drop start) (hfit : program.LoopsFit c) :
    whole.endPass (c.below start) = (do
      let c' ← program.endPass c
      return c'.below start) := by
  obtain ⟨line, previous, loops⟩ := c
  cases loops with
  | nil => rfl
  | cons loop outer =>
    obtain ⟨head, passes⟩ := loop
    cases passes with
    | none => rfl
    | some passes =>
      obtain ⟨count, hrepeat, _⟩ := hfit.counted ⟨head, some passes⟩ List.mem_cons_self
      show (if whole.isLastPass (start + head) (passes + 1) then _ else _) = _
      rw [isLastPass_below hat hrepeat]
      unfold endPass
      dsimp only
      cases program.isLastPass head (passes + 1) with
      | true => rfl
      | false => rfl

/-- **A line of an accepted program does the same inside a longer program.** -/
theorem execute_below (hat : program <+: whole.drop start) (hcheck : program.check = .ok ())
    (hfit : program.LoopsFit c) (hlt : c.line < program.length) :
    whole.execute readings (c.below start) = (do
      let c' ← program.execute readings c
      return c'.below start) := by
  have hi := List.getElem?_eq_getElem hlt
  have hi' : whole[(c.below start).line]? = _ := getElem?_below hat hi
  revert hi hi'
  generalize program[c.line] = i
  intro hi hi'
  unfold execute
  rw [hi, hi']
  cases i with
  | setOutput label pattern wait => simp only [bind_assoc, pure_bind, Cursor.next_below]
  | repeatStart count =>
    dsimp only
    rw [Cursor.isEntry_below]
    cases c.isEntry with
    | true => rfl
    | false => rfl
  | repeatUntil condition =>
    simp only [bind_assoc]
    refine bind_congr fun met => ?_
    cases met with
    | true => exact leave_below c
    | false => exact again_below c
  | repeatEnd => exact endPass_below hat hfit
  | repeatForever => exact again_below c
  | ifStart condition =>
    -- the own `ENDIF` is a line of the program, so the search ends before what comes below
    obtain ⟨own, hown⟩ := exists_pairs_of_opens hcheck hi rfl
    have hskip := nextEnd_below hat (hown.lt hcheck) (hown.getElem?_own hcheck hi)
    simp only [bind_assoc]
    refine bind_congr fun met => ?_
    cases met with
    | true => rfl
    | false =>
      show pure ((c.below start).jump (whole.nextEnd (start + c.line))) = _
      rw [hskip]
      rfl
  | ifEnd => rfl
  | count condition limit => simp only [bind_assoc, pure_bind, Cursor.next_below]
  | plain label condition pattern value => rfl
  | plainEnd label condition => rfl

/-! ## 3. Crossing a program

A run ends with a screen that shows no line. Inside a longer program that screen is not shown, so
the run up to there is given a name of its own. -/

/-- Takes turns until the run is below the last line, and gives the screens left and the cursor
there. -/
def cross (program : Program) (readings : Nat) : Nat → Cursor → ControlM (Nat × Cursor)
  | 0, c => if c.line < program.length then throw .stepLimit else pure (0, c)
  | screens + 1, c =>
    if c.line < program.length then do
      let c' ← program.turn readings c
      program.cross readings screens c'
    else pure (screens + 1, c)

theorem cross_zero (hlt : c.line < program.length) :
    program.cross readings 0 c = throw .stepLimit := if_pos hlt

theorem cross_succ (hlt : c.line < program.length) :
    program.cross readings (screens + 1) c =
      program.turn readings c >>= program.cross readings screens := if_pos hlt

theorem cross_end (hend : program.length ≤ c.line) :
    program.cross readings screens c = pure (screens, c) := by
  cases screens <;> exact if_neg (Nat.not_lt.mpr hend)

/-- Crossing a program opens no port. -/
theorem writesLeft_cross_le (program : Program) (session : Session) (readings screens : Nat)
    (c : Cursor) :
    (session.perform (program.cross readings screens c)).session.writesLeft ≤
      session.writesLeft := by
  induction screens generalizing session c with
  | zero =>
    unfold cross
    split
    · exact Nat.le_refl _
    · exact Nat.le_refl _
  | succ screens ih =>
    by_cases hlt : c.line < program.length
    · have hturn := writesLeft_turn_le program session readings c
      rw [cross_succ hlt, Session.perform_bind, Report.andThen]
      cases (session.perform (program.turn readings c)).result with
      | error fault => exact hturn
      | ok c' => exact Nat.le_trans (ih _ c') hturn
    · rw [cross_end (Nat.not_lt.mp hlt)]
      exact Nat.le_refl _

/-- A run is the program crossed, and one more screen. -/
theorem resume_eq_cross :
    program.resume readings screens c = (do
      let crossed ← program.cross readings screens c
      let _ ← Control.screen none crossed.1) := by
  induction screens generalizing c with
  | zero =>
    by_cases hlt : c.line < program.length
    · rw [resume, if_pos hlt, cross_zero hlt]
      rfl
    · rw [resume_end (Nat.not_lt.mp hlt), cross_end (Nat.not_lt.mp hlt), pure_bind]
  | succ screens ih =>
    by_cases hlt : c.line < program.length
    · rw [resume, if_pos hlt, runFrom_succ, cross_succ hlt, bind_assoc]
      exact bind_congr fun c' => ih
    · rw [resume_end (Nat.not_lt.mp hlt), cross_end (Nat.not_lt.mp hlt), pure_bind]

/-! ## 4. The listing of a program -/

variable {session : Session}

/-- A screen of a program that can be listed is one event. -/
theorem perform_display (h : session.controller.program.isListable = true) (active : Option Int) :
    ∃ text, session.perform (Control.display active true) =
      ⟨.ok (), [.displayed active], text, session⟩ := by
  unfold Control.display
  rw [Session.perform_get_bind, Listing.listing_of_isListable h]
  exact ⟨_, rfl⟩

/-- A screen of a program that cannot be listed is the same event, and then the fault. -/
theorem perform_display_unlisted {fault : ListingFault}
    (h : session.controller.program.listingFault? = some fault) (active : Option Int) :
    ∃ text, session.perform (Control.display active true) =
      ⟨.error (.listing fault), [.displayed active], text, session⟩ := by
  unfold Control.display
  rw [Session.perform_get_bind, Listing.listing_eq_error_iff.mpr h]
  exact ⟨_, rfl⟩

end Program

/-! ## 5. Reports from inside a longer program

What is left of a report when the text on the screen is forgotten, and how it changes when the
program is moved. -/

namespace Report

variable {α β : Type}

/-- The reports differ at most in the text on the screen. -/
structure Agrees (report report' : Report α) : Prop where
  result : report.result = report'.result
  events : report.events = report'.events
  session : report.session = report'.session

/-- The report, where the program starts at the given line of a longer one. -/
def below (report : Report α) (start : Nat) (whole : Program) : Report α :=
  { report with
    events := report.events.map (Event.below start)
    session := report.session.holding whole }

theorem Agrees.trans {first second third : Report α} (h : first.Agrees second)
    (h' : second.Agrees third) : first.Agrees third :=
  ⟨h.result.trans h'.result, h.events.trans h'.events, h.session.trans h'.session⟩

theorem Agrees.after {report report' : Report α} (h : report.Agrees report') (events : List Event)
    (output output' : String) :
    (report.after events output).Agrees (report'.after events output') :=
  ⟨h.result, congrArg (events ++ ·) h.events, h.session⟩

theorem after_andThen (report : Report α) (f : α → ControlM β) (events : List Event)
    (output : String) :
    (report.after events output).andThen f = (report.andThen f).after events output := by
  obtain ⟨result, events', output', session⟩ := report
  cases result with
  | ok a => simp [andThen, after, String.append_assoc]
  | error fault => rfl

theorem below_after (report : Report α) (start : Nat) (whole : Program) (events : List Event)
    (output : String) :
    (report.after events output).below start whole =
      (report.below start whole).after (events.map (Event.below start)) output := by
  simp [below, after]

theorem below_zero (report : Report α) (whole : Program) :
    report.below 0 whole = report.holding whole := by
  have hsame : Event.below 0 = id := funext Event.below_zero
  rw [below, hsame, List.map_id, holding]

/-- What is done on the box has no line numbers in it. -/
theorem below_of_onBox {x : ControlM α} (hx : OnBox x) (session : Session) (start : Nat)
    (whole : Program) :
    (session.perform x).below start whole = (session.perform x).holding whole := by
  have hsame : (session.perform x).events.map (Event.below start) = (session.perform x).events := by
    refine (List.map_congr_left fun e he => ?_).trans (List.map_id _)
    exact Event.below_of_not_isDisplay (hx.unseen session e he) start
  rw [below, hsame, holding]

end Report

namespace Program

variable {whole program : Program} {start readings screens : Nat} {c : Cursor} {session : Session}

/-- A turn of a listable program is one screen, and the line. -/
theorem perform_turn {held : Program} (hlist : held.isListable = true) (program : Program)
    (readings : Nat) (session : Session) (c : Cursor) :
    ∃ text, (session.holding held).perform (program.turn readings c) =
      ((session.perform (program.execute readings c)).holding held).after
        [.displayed (some c.line)] text := by
  have hheld : (session.holding held).controller.program.isListable = true := hlist
  obtain ⟨text, hshown⟩ := perform_display hheld (some c.line)
  refine ⟨text, ?_⟩
  rw [turn, Session.perform_bind, hshown]
  exact congrArg (Report.after · _ _) ((program.execute_onBox readings c).holding session held)

/-- **A run crosses a program inside a longer one as it does alone**, and goes on below it. -/
theorem resume_below (hat : program <+: whole.drop start) (hcheck : program.check = .ok ())
    (hlist : program.isListable = true) (hlist' : whole.isListable = true)
    (hfit : program.LoopsFit c) :
    ((session.holding whole).perform (whole.resume readings screens (c.below start))).Agrees
      ((((session.holding program).perform (program.cross readings screens c)).below start
        whole).andThen fun crossed => whole.resume readings crossed.1 (crossed.2.below start)) := by
  induction screens generalizing session c with
  | zero =>
    by_cases hlt : c.line < program.length
    · have hlt' : (c.below start).line < whole.length := length_below hat hlt
      rw [cross_zero hlt, resume, if_pos hlt']
      exact ⟨rfl, rfl, rfl⟩
    · rw [cross_end (Nat.not_lt.mp hlt), Session.perform_pure]
      exact ⟨rfl, rfl, rfl⟩
  | succ screens ih =>
    by_cases hlt : c.line < program.length
    · have hlt' : (c.below start).line < whole.length := length_below hat hlt
      obtain ⟨text, hturn⟩ := perform_turn hlist program readings session c
      obtain ⟨text', hturn'⟩ := perform_turn hlist' whole readings session (c.below start)
      have hbelow := Report.below_of_onBox (program.execute_onBox readings c) session start whole
      rw [cross_succ hlt, resume, if_pos hlt', runFrom_succ, Session.perform_bind,
        Session.perform_bind, hturn, hturn', execute_below hat hcheck hfit hlt,
        Session.perform_bind, Report.after_andThen, Report.after_andThen, Report.below_after,
        Report.after_andThen]
      refine Report.Agrees.after ?_ [.displayed (some (start + c.line))] text' text
      have hfit' : ∀ c', (session.perform (program.execute readings c)).result = .ok c' →
          program.LoopsFit c' := fun c' hline => hfit.move hcheck (execute_ok hline)
      -- how the line came to its report no longer matters
      generalize session.perform (program.execute readings c) = line at hbelow hfit' ⊢
      obtain ⟨result, events, output, later⟩ := line
      have hevents : events.map (Event.below start) = events := congrArg Report.events hbelow
      cases result with
      | error fault => exact ⟨rfl, hevents.symm, rfl⟩
      | ok c' =>
        show Report.Agrees (Report.after _ (events ++ []) _) (Report.andThen (Report.below
          (Report.after _ events output) start whole) _)
        rw [Report.below_after, Report.after_andThen, hevents, List.append_nil]
        exact (ih (hfit' c' rfl)).after events _ _
    · rw [cross_end (Nat.not_lt.mp hlt), Session.perform_pure]
      exact ⟨rfl, rfl, rfl⟩

/-! ## 6. Where a run leaves a program

The line below the last is the only one outside the program that a run can come to. No loop is open
there, so what comes below starts afresh. -/

theorem CountsFit.head_lt {loop : Loop} (h : program.CountsFit loop) :
    loop.head < program.length := by
  obtain ⟨count, hrepeat, _⟩ := h
  exact (List.getElem?_eq_some_iff.mp hrepeat).1

namespace LoopsFit

/-- No move goes further than the line below the last one. -/
theorem line_le_of_move (hcheck : program.check = .ok ()) (hfit : program.LoopsFit c)
    (hlt : c.line < program.length) {c' : Cursor} (hmove : program.Move c c') :
    c'.line ≤ program.length := by
  have hup : ∀ {loop : Loop} {outer : List Loop}, c.loops = loop :: outer →
      loop.head ≤ program.length := by
    intro loop outer hl
    exact Nat.le_of_lt (hfit.counted loop (by simp [hl])).head_lt
  cases hmove with
  | straight _ _ => exact hlt
  | enter _ _ => exact hlt
  | pass _ _ => exact hlt
  | leave _ _ => exact hlt
  | again _ _ hl => exact hup hl
  | lastPass _ _ _ => exact hlt
  | nextPass _ hl _ => exact hup hl
  | inside _ => exact hlt
  | skip hi =>
    obtain ⟨own, hown⟩ := exists_pairs_of_opens hcheck hi rfl
    obtain ⟨_, _, hend⟩ := nextEnd_bounds hcheck hi hown
    exact Nat.le_of_lt (List.getElem?_eq_some_iff.mp hend).1

/-- Below the last line no loop is open. -/
theorem loops_of_end (hcheck : program.check = .ok ()) (hfit : program.LoopsFit c)
    (hend : program.length ≤ c.line) : c.loops = [] := by
  refine List.eq_nil_iff_forall_not_mem.mpr fun loop hloop => ?_
  rcases hfit.around loop hloop with ⟨o, ho, _⟩ | ⟨hhead, _⟩
  · rw [openBefore_of_length_le hcheck hend] at ho
    exact List.not_mem_nil ho
  · have := (hfit.counted loop hloop).head_lt
    omega

/-- Below the last line one comes from above, for loops lead to their heads. -/
theorem isEntry_of_end (hcheck : program.check = .ok ()) (hfit : program.LoopsFit c)
    (hend : program.length ≤ c.line) : c.isEntry = true := by
  cases hentry : c.isEntry with
  | true => rfl
  | false =>
    obtain ⟨loop, outer, hl, _⟩ := hfit.back hentry
    rw [hfit.loops_of_end hcheck hend] at hl
    cases hl

end LoopsFit

/-- A program that is crossed is left just below its last line and still held, and each line took
one screen. -/
theorem cross_ok (hcheck : program.check = .ok ()) (hlist : program.isListable = true)
    (hfit : program.LoopsFit c) (hle : c.line ≤ program.length) {left : Nat} {c' : Cursor}
    (hcrossed : ((session.holding program).perform (program.cross readings screens c)).result =
      .ok (left, c')) :
    program.LoopsFit c' ∧ c'.line = program.length ∧
      ((session.holding program).perform
        (program.cross readings screens c)).session.controller.program = program ∧
      left + ((session.holding program).perform
        (program.cross readings screens c)).events.countP Event.isDisplay = screens := by
  induction screens generalizing session c with
  | zero =>
    by_cases hlt : c.line < program.length
    · rw [cross_zero hlt] at hcrossed
      cases hcrossed
    · rw [cross_end (Nat.not_lt.mp hlt)] at hcrossed ⊢
      cases hcrossed
      exact ⟨hfit, by omega, rfl, rfl⟩
  | succ screens ih =>
    by_cases hlt : c.line < program.length
    · obtain ⟨text, hturn⟩ := perform_turn hlist program readings session c
      rw [cross_succ hlt, Session.perform_bind, hturn, Report.after_andThen] at hcrossed ⊢
      have hunseen := (program.execute_onBox readings c).unseen session
      have hmove : ∀ c', (session.perform (program.execute readings c)).result = .ok c' →
          program.Move c c' := fun c' hline => execute_ok hline
      generalize session.perform (program.execute readings c) = line at hcrossed hunseen hmove ⊢
      obtain ⟨result, events, output, later⟩ := line
      cases result with
      | error fault => cases hcrossed
      | ok c₁ =>
        have hmove := hmove c₁ rfl
        obtain ⟨hfit', hline, hheld, hleft⟩ :=
          ih (hfit.move hcheck hmove) (hfit.line_le_of_move hcheck hlt hmove) hcrossed
        refine ⟨hfit', hline, hheld, ?_⟩
        -- the line shows nothing, so the screen before it is the only one of the turn
        have hnone : events.countP Event.isDisplay = 0 :=
          List.countP_eq_zero.mpr fun e he => by simp [hunseen e he]
        show left + List.countP Event.isDisplay ([.displayed (some c.line)] ++ (events ++
          ((later.holding program).perform (program.cross readings screens c₁)).events)) =
            screens + 1
        rw [List.countP_append, List.countP_append, hnone, ← Nat.add_assoc, Nat.zero_add,
          Nat.add_right_comm]
        exact congrArg (· + 1) hleft
    · rw [cross_end (Nat.not_lt.mp hlt)] at hcrossed ⊢
      cases hcrossed
      exact ⟨hfit, by omega, rfl, rfl⟩

/-! ## 7. Two programs in a row -/

/-- The last screen of a run, if there is one left. -/
theorem perform_lastScreen (hlist : session.controller.program.isListable = true) (left : Nat) :
    ∃ text, session.perform (do let _ ← Control.screen none left) =
      if left = 0 then ⟨.error .stepLimit, [], text, session⟩
      else ⟨.ok (), [.displayed none], text, session⟩ := by
  cases left with
  | zero => exact ⟨"", rfl⟩
  | succ left =>
    obtain ⟨text, hshown⟩ := perform_display hlist none
    have hscreen : (do let _ ← Control.screen none (left + 1)) = Control.display none true := by
      simp only [Control.screen, bind_assoc, pure_bind]
      exact bind_pure_unit
    rw [hscreen]
    exact ⟨text, hshown⟩

/-- **A program at the end of a longer one runs there as it does alone.** -/
theorem resume_below_last (hat : program <+: whole.drop start) (hcheck : program.check = .ok ())
    (hlist : program.isListable = true) (hlist' : whole.isListable = true)
    (hlast : whole.length = start + program.length) (hfit : program.LoopsFit c)
    (hle : c.line ≤ program.length) :
    ((session.holding whole).perform (whole.resume readings screens (c.below start))).Agrees
      (((session.holding program).perform (program.resume readings screens c)).below start
        whole) := by
  refine (resume_below hat hcheck hlist hlist' hfit).trans ?_
  rw [resume_eq_cross, Session.perform_bind]
  have hok := @cross_ok program readings screens c session hcheck hlist hfit hle
  generalize (session.holding program).perform (program.cross readings screens c) = crossed at hok ⊢
  obtain ⟨result, events, output, later⟩ := crossed
  cases result with
  | error fault => exact ⟨rfl, rfl, rfl⟩
  | ok crossed =>
    obtain ⟨left, c'⟩ := crossed
    obtain ⟨_, hline, hheld, _⟩ := hok rfl
    -- both runs are below their last line, and have one more screen to show
    have hend : whole.length ≤ (c'.below start).line := by
      show whole.length ≤ start + c'.line
      omega
    have hlater : later.controller.program.isListable = true := by
      rw [show later.controller.program = program from hheld]
      exact hlist
    have hlater' : (later.holding whole).controller.program.isListable = true := hlist'
    obtain ⟨text, hscreen⟩ := perform_lastScreen hlater left
    obtain ⟨text', hscreen'⟩ := perform_lastScreen hlater' left
    show Report.Agrees
      (((later.holding whole).perform (whole.resume readings left (c'.below start))).after _ _)
      (((later.perform (do let _ ← Control.screen none left)).after events output).below start
        whole)
    rw [resume_end hend, hscreen, hscreen', Report.below_after]
    refine Report.Agrees.after ?_ _ _ _
    split
    · exact ⟨rfl, rfl, rfl⟩
    · exact ⟨rfl, rfl, rfl⟩

theorem run_eq_resume (hcheck : program.check = .ok ()) (hne : program ≠ []) (session : Session)
    (screens : Nat) :
    (session.holding program).run screens =
      (session.holding program).perform (program.resume session.bench.readings screens {}) := by
  rw [Session.run_eq hcheck]
  have hempty : (session.holding program).controller.program.isEmpty = false :=
    List.isEmpty_eq_false_iff.mpr hne
  rw [hempty, resume, if_pos (List.length_pos_iff.mpr hne)]
  rfl

variable {first second : Program}

/-- Two accepted programs are accepted in a row, for one sequence of the grammar after another is a
sequence. -/
theorem check_append (hcheck : first.check = .ok ()) (hcheck' : second.check = .ok ()) :
    check (first ++ second) = .ok () :=
  Grammar.check_of_lines ((lines_of_check hcheck).append (lines_of_check hcheck'))
    ((countsHaveValues_of_check hcheck).append (countsHaveValues_of_check hcheck'))

/-- A program without a listing stops at its first screen. -/
theorem run_unlisted (hcheck : program.check = .ok ()) (hne : program ≠ []) {fault : ListingFault}
    (hlist : program.listingFault? = some fault) (session : Session) (screens : Nat) :
    ((session.holding program).run screens).Agrees
      ⟨.error (if screens = 0 then .stepLimit else .listing fault),
        if screens = 0 then [] else [.displayed (some 0)], "", session.holding program⟩ := by
  rw [run_eq_resume hcheck hne, resume, if_pos (List.length_pos_iff.mpr hne)]
  cases screens with
  | zero => exact ⟨rfl, rfl, rfl⟩
  | succ screens =>
    have hheld : (session.holding program).controller.program.listingFault? = some fault := hlist
    obtain ⟨text, hshown⟩ := perform_display_unlisted hheld (some 0)
    have hturn : (session.holding program).perform (program.turn session.bench.readings {}) =
        ⟨.error (.listing fault), [.displayed (some 0)], text, session.holding program⟩ := by
      rw [turn, Session.perform_bind]
      exact congrArg (Report.andThen · _) hshown
    rw [runFrom_succ, Session.perform_bind, hturn]
    exact ⟨rfl, rfl, rfl⟩

/-- A run of two programs in a row, told by runs of each alone. -/
structure RunsInRow (first second : Program) (session : Session) (screens : Nat) : Prop where
  /-- If the first program stops with a fault, so do the two, at the same place. -/
  stopped : ∀ fault, ((session.holding first).run screens).result = .error fault →
    ((session.holding (first ++ second)).run screens).Agrees
      (((session.holding first).run screens).holding (first ++ second))
  /-- If it ends, its last screen is left out, and the second program runs on the session it has
  left, with the screens that are left. -/
  ended : ((session.holding first).run screens).result = .ok () →
    ∃ shown, ((session.holding first).run screens).events = shown ++ [.displayed none] ∧
      ((session.holding (first ++ second)).run screens).Agrees
        ((((((session.holding first).run screens).session.holding second).run
          (screens - shown.countP Event.isDisplay)).below first.length (first ++ second)).after
            shown "")

theorem run_eq_cross (hcheck : first.check = .ok ()) (hfirst : first ≠ []) (session : Session)
    (screens : Nat) :
    (session.holding first).run screens = ((session.holding first).perform
      (first.cross session.bench.readings screens {})).andThen
        (fun crossed => do let _ ← Control.screen none crossed.1) := by
  rw [run_eq_resume hcheck hfirst, resume_eq_cross, Session.perform_bind]

/-- A run of two programs crosses the first as if that were alone. -/
theorem run_append_agrees (hcheck : first.check = .ok ()) (hcheck' : second.check = .ok ())
    (hfirst : first ≠ []) (hlist : first.isListable = true)
    (hwhole : isListable (first ++ second) = true) (session : Session) (screens : Nat) :
    ((session.holding (first ++ second)).run screens).Agrees
      ((((session.holding first).perform
        (first.cross session.bench.readings screens {})).holding (first ++ second)).andThen
          fun crossed => resume (first ++ second) session.bench.readings crossed.1 crossed.2) := by
  have hne : first ++ second ≠ [] := List.append_ne_nil_of_left_ne_nil hfirst second
  have hcross := @resume_below (first ++ second) first 0 session.bench.readings screens {} session
    (List.prefix_append first second) hcheck hlist hwhole .init
  simp only [Cursor.below_zero, Report.below_zero] at hcross
  rw [run_eq_resume (check_append hcheck hcheck') hne]
  exact hcross

/-- A run that has come to the second of two programs, on what it has left so far. -/
theorem perform_second (hsecond : second ≠ []) (hcheck : second.check = .ok ())
    (hlist : second.isListable = true) (hlist' : isListable (first ++ second) = true)
    {later : Session} {left : Nat} (hwrites : later.writesLeft ≤ readings)
    (hentry : c.isEntry = true) (hline : c.line = first.length) (hloops : c.loops = []) :
    ((later.holding (first ++ second)).perform (resume (first ++ second) readings left c)).Agrees
      (((later.holding second).run left).below first.length (first ++ second)) := by
  have hat : second <+: (first ++ second).drop first.length :=
    ⟨[], by rw [List.append_nil, List.drop_left]⟩
  have hstart : ({ line := c.line, loops := c.loops } : Cursor) = Cursor.below first.length {} := by
    rw [hline, hloops]
    rfl
  have hbound : (later.holding second).writesLeft ≤ later.bench.readings :=
    Nat.le_add_right later.bench.wire.writes.length later.bench.socket.wire.writes.length
  rw [resume_of_isEntry hentry, hstart, run_eq_resume hcheck hsecond,
    perform_resume_readings left {} hbound hwrites]
  exact resume_below_last hat hcheck hlist hlist' List.length_append .init (Nat.zero_le _)

section Crossed

variable {left : Nat} {c' : Cursor} {events : List Event} {output : String} {later : Session}

/-- What is known of the first program once that is crossed from its first line on. -/
theorem crossed_ok (hcheck : first.check = .ok ()) (hlist : first.isListable = true)
    (hcrossed : (session.holding first).perform (first.cross session.bench.readings screens {}) =
      ⟨.ok (left, c'), events, output, later⟩) :
    first.LoopsFit c' ∧ c'.line = first.length ∧ later.controller.program = first ∧
      left + events.countP Event.isDisplay = screens := by
  have hok := @cross_ok first session.bench.readings screens {} session hcheck hlist .init
    (Nat.zero_le _)
  rw [hcrossed] at hok
  exact hok rfl

/-- How a run of the first program ends once that is crossed. -/
theorem run_of_crossed (hcheck : first.check = .ok ()) (hfirst : first ≠ [])
    (hlist : first.isListable = true)
    (hcrossed : (session.holding first).perform (first.cross session.bench.readings screens {}) =
      ⟨.ok (left, c'), events, output, later⟩) :
    ∃ text, (session.holding first).run screens =
      if left = 0 then ⟨.error .stepLimit, events, text, later⟩
      else ⟨.ok (), events ++ [.displayed none], text, later⟩ := by
  obtain ⟨_, _, hheld, _⟩ := crossed_ok hcheck hlist hcrossed
  have hlater : later.controller.program.isListable = true := by
    rw [hheld]
    exact hlist
  obtain ⟨text, hscreen⟩ := perform_lastScreen hlater left
  refine ⟨output ++ text, ?_⟩
  have hrun : (session.holding first).run screens =
      (later.perform (do let _ ← Control.screen none left)).after events output := by
    rw [run_eq_cross hcheck hfirst, hcrossed]
    rfl
  rw [hrun, hscreen]
  split
  · rw [Report.after, List.append_nil]
  · rfl

/-- How a run of the two goes on once the first is crossed: the second runs on what is left, if a
screen is left for it. -/
theorem run_append_of_crossed (hfirst : first ≠ []) (hsecond : second ≠ [])
    (hcheck : first.check = .ok ()) (hcheck' : second.check = .ok ())
    (hlist : first.isListable = true) (hlist' : second.isListable = true)
    (hcrossed : (session.holding first).perform (first.cross session.bench.readings screens {}) =
      ⟨.ok (left, c'), events, output, later⟩) :
    ((session.holding (first ++ second)).run screens).Agrees
      (if left = 0 then ⟨.error .stepLimit, events, output, later.holding (first ++ second)⟩
      else (((later.holding second).run left).below first.length (first ++ second)).after
        events "") := by
  have hwhole : isListable (first ++ second) = true := by
    rw [isListable_append, hlist, hlist']
    rfl
  obtain ⟨hfit, hline, _, _⟩ := crossed_ok hcheck hlist hcrossed
  have hcross := run_append_agrees hcheck hcheck' hfirst hlist hwhole session screens
  have hwrites := writesLeft_cross_le first (session.holding first) session.bench.readings screens {}
  rw [hcrossed] at hcross hwrites
  have hcross : ((session.holding (first ++ second)).run screens).Agrees
      (((later.holding (first ++ second)).perform
        (resume (first ++ second) session.bench.readings left c')).after events output) := hcross
  by_cases hnone : left = 0
  · -- the screens end with the last line of the first program
    have hlt : c'.line < (first ++ second).length := by
      have := List.length_pos_iff.mpr hsecond
      rw [List.length_append]
      omega
    rw [hnone, resume, if_pos hlt] at hcross
    rw [if_pos hnone]
    exact hcross.trans ⟨rfl, List.append_nil events, rfl⟩
  · have hend : first.length ≤ c'.line := Nat.le_of_eq hline.symm
    have hreadings : later.writesLeft ≤ session.bench.readings :=
      Nat.le_trans hwrites (Nat.le_add_right session.bench.wire.writes.length _)
    rw [if_neg hnone]
    exact hcross.trans ((perform_second hsecond hcheck' hlist' hwhole hreadings
      (hfit.isEntry_of_end hcheck hend) hline (hfit.loops_of_end hcheck hend)).after
        events output "")

end Crossed

/-- If all lines can be listed, the two run in a row. The first is crossed in both runs alike, so
all depends on how that ends. -/
theorem runsInRow_of_isListable (hfirst : first ≠ []) (hsecond : second ≠ [])
    (hcheck : first.check = .ok ()) (hcheck' : second.check = .ok ())
    (hlist : first.isListable = true) (hlist' : second.isListable = true) (session : Session)
    (screens : Nat) : RunsInRow first second session screens := by
  cases hcrossed : (session.holding first).perform
    (first.cross session.bench.readings screens {}) with
  | mk result events output later =>
  cases result with
  | error fault =>
    have hwhole : isListable (first ++ second) = true := by
      rw [isListable_append, hlist, hlist']
      rfl
    have hupper := run_eq_cross hcheck hfirst session screens
    have hboth := run_append_agrees hcheck hcheck' hfirst hlist hwhole session screens
    rw [hcrossed] at hupper hboth
    refine ⟨fun _ _ => ?_, fun hended => ?_⟩
    · rw [hupper]
      exact hboth
    · rw [hupper] at hended
      cases hended
  | ok crossed =>
    obtain ⟨left, c'⟩ := crossed
    obtain ⟨text, hupper⟩ := run_of_crossed hcheck hfirst hlist hcrossed
    have hboth := run_append_of_crossed hfirst hsecond hcheck hcheck' hlist hlist' hcrossed
    by_cases hnone : left = 0
    · rw [if_pos hnone] at hupper hboth
      refine ⟨fun _ _ => ?_, fun hended => ?_⟩
      · rw [hupper]
        exact hboth.trans ⟨rfl, rfl, rfl⟩
      · rw [hupper] at hended
        cases hended
    · rw [if_neg hnone] at hupper hboth
      refine ⟨fun _ herr => ?_, fun _ => ⟨events, ?_, ?_⟩⟩
      · rw [hupper] at herr
        cases herr
      · rw [hupper]
      · obtain ⟨_, _, _, hleft⟩ := crossed_ok hcheck hlist hcrossed
        have hscreens : screens - events.countP Event.isDisplay = left := by omega
        rw [hscreens, hupper]
        exact hboth

/-- **Two accepted programs in a row.** They are accepted together, and run one after the other: the
second on what the first has left, with its lines counted on, and only if the first has ended. The
listing is the one thing that they share. If every line of the first program can be listed and some
line of the second cannot, they stop at the first screen, with the fault of that line. -/
theorem run_append (hfirst : first ≠ []) (hsecond : second ≠ []) (hcheck : first.check = .ok ())
    (hcheck' : second.check = .ok ()) (session : Session) (screens : Nat) :
    check (first ++ second) = .ok () ∧
    ((first.isListable = true → second.isListable = true) →
      RunsInRow first second session screens) ∧
    (∀ fault, first.isListable = true → second.listingFault? = some fault → 0 < screens →
      ((session.holding (first ++ second)).run screens).result = .error (.listing fault) ∧
      ((session.holding (first ++ second)).run screens).events = [.displayed (some 0)]) := by
  have hwhole := check_append hcheck hcheck'
  have hne : first ++ second ≠ [] := List.append_ne_nil_of_left_ne_nil hfirst second
  refine ⟨hwhole, fun hlisted => ?_, fun fault hlist hfault hscreens => ?_⟩
  · cases hlist : first.isListable with
    | true => exact runsInRow_of_isListable hfirst hsecond hcheck hcheck' hlist (hlisted hlist) _ _
    | false =>
      -- neither has a listing, and the fault is that of the upper one, so both stop alike
      obtain ⟨fault, hfault⟩ := exists_listingFault? hlist
      have hfault' : listingFault? (first ++ second) = some fault := by
        rw [listingFault?_append, hfault, Option.some_or]
      have hupper := run_unlisted hcheck hfirst hfault session screens
      have hboth := run_unlisted hwhole hne hfault' session screens
      refine ⟨fun _ _ => hboth.trans ⟨hupper.result.symm, hupper.events.symm, ?_⟩, fun hended => ?_⟩
      · show (session.holding first).holding (first ++ second) = _
        exact congrArg (Session.holding · _) hupper.session.symm
      · cases hupper.result.symm.trans hended
  · have hfault' : listingFault? (first ++ second) = some fault := by
      rw [listingFault?_append, listingFault?_eq_none_iff.mpr hlist, hfault, Option.none_or]
    have hboth := run_unlisted hwhole hne hfault' session screens
    rw [if_neg (Nat.ne_of_gt hscreens), if_neg (Nat.ne_of_gt hscreens)] at hboth
    exact ⟨hboth.result, hboth.events⟩

/-- A counted loop around an `IF`. -/
def countedIf : Program :=
  [.repeatStart (some 2), .ifStart ⟨some true, none⟩, .ifEnd, .repeatEnd]

/-- A loop with an output, left upon the other input. -/
def outputUntil : Program :=
  [.repeatStart none, .setOutput (some "motor") (some 5) (some 0.5), .repeatUntil ⟨none, some true⟩]

/-- Four lines and three: the second program has its lines counted from the fifth. -/
theorem countedIf_then_outputUntil :
    countedIf ≠ [] ∧ outputUntil ≠ [] ∧ countedIf.check = .ok () ∧ outputUntil.check = .ok () ∧
    RunsInRow countedIf outputUntil (Session.answering [] [0x80, 0, 0, 0x40]) 20 ∧
    ((Session.answering (countedIf ++ outputUntil) [0x80, 0, 0, 0x40]).run 20).events =
      [.displayed (some 0), .displayed (some 1), .wrote (some 0) true, .read (some 0x80),
        .displayed (some 2), .displayed (some 3),
        .displayed (some 0), .displayed (some 1), .wrote (some 0) true, .read (some 0),
        .displayed (some 2), .displayed (some 3),
        .displayed (some 4), .displayed (some 5), .wrote (some 5) true, .timeoutSet none,
        .read (some 0), .slept 0.5, .displayed (some 6), .wrote (some 5) true, .read (some 0x40),
        .displayed none] := by
  have hfirst : countedIf ≠ [] := nofun
  have hsecond : outputUntil ≠ [] := nofun
  have hrow := (run_append hfirst hsecond rfl rfl
    (Session.answering [] [0x80, 0, 0, 0x40]) 20).2.1 (fun _ => rfl)
  exact ⟨hfirst, hsecond, rfl, rfl, hrow, rfl⟩

/-- A labelled output line ends when it runs alone. Above an output line without a label it is not
even executed. -/
theorem run_append_needs_labels :
    check [.setOutput (some "motor") (some 1) none] = .ok () ∧
    check [.setOutput none (some 2) none] = .ok () ∧
    ((Session.answering [.setOutput (some "motor") (some 1) none] [0, 0]).run 9).result = .ok () ∧
    ((Session.answering [.setOutput (some "motor") (some 1) none, .setOutput none (some 2) none]
      [0, 0]).run 9).events = [.displayed (some 0)] ∧
    ¬ RunsInRow [.setOutput (some "motor") (some 1) none] [.setOutput none (some 2) none]
      (Session.answering [] [0, 0]) 9 := by
  refine ⟨rfl, rfl, rfl, rfl, fun hrow => ?_⟩
  obtain ⟨shown, hshown, hagrees⟩ := hrow.ended rfl
  -- the line alone makes five events before its last screen, and the two together make one
  have hsix : 6 = (shown ++ [Event.displayed none]).length := congrArg List.length hshown
  have hone : 1 = (shown ++ _).length := congrArg List.length hagrees.events
  rw [List.length_append] at hsix hone
  simp only [List.length_singleton] at hsix
  omega

end Program

end LineControl

import LineControl.Proofs.Faults

/-!
# The turns of a run

A run is a sequence of turns: each shows the listing and executes a line. `Program.Reaches` says
which sessions and cursors a run comes to, turn by turn, and the theorems about `Session.run` at the
end of this file tie it to the run with a bounded number of screens, in both directions.

What a turn can do to the cursor is said once, in `Program.Move`, one constructor for each way that
a line can go on. It leaves out the readings, so it holds whatever the port answers; every invariant
of the cursor is proved from it alone, by `Reaches.induction`. The price is that `Move` is not a
function of the cursor. Where the answers matter, as for an `IF`, the turn itself is looked at again
(`turn_if`).

## Bounded and unbounded runs

A run may go on forever, so `Session.run` has a bound on its screens and stops with `stepLimit`
there. `Reaches` has no bound. A place that is reached after `turns` turns is come to in every run
with more screens than that, and what such a run does afterwards is `perform_runFrom`. Conversely a
run that stops with any fault but those of a screen has come to the line that raised it
(`exists_reaches_of_run_error`). So "in every run, whenever ..." is a statement about `Reaches`, and
the bound does not occur in it.

The faults of a screen are excluded in the converse because they need not come from a line: the
bound may be met, and the listing is shown once more after the last line.
-/

set_option autoImplicit false

namespace LineControl

/-- Whether the line has the line below it as its only successor. -/
def Instruction.isStraight : Instruction → Bool
  | .setOutput .. | .ifEnd | .count .. => true
  | _ => false

/-- Whether the line ends a pass of a loop. -/
def Instruction.closesLoop : Instruction → Bool
  | .repeatUntil _ | .repeatEnd | .repeatForever => true
  | _ => false

theorem Instruction.ne_repeatStart_of_closesLoop {i : Instruction} (h : i.closesLoop = true)
    (count : Option Number) : i ≠ .repeatStart count := by
  rintro rfl
  cases h

/-- A loop is entered from above, and a jump comes from above if it goes down. -/
theorem Cursor.isEntry_jump (c : Cursor) (line : Nat) :
    (c.jump line).isEntry = decide (c.line < line) := rfl

theorem Cursor.isEntry_next (c : Cursor) : c.next.isEntry = true := by
  rw [next, isEntry_jump]
  simp

theorem Cursor.isEntry_withLoops (c : Cursor) (loops : List Loop) :
    ({ c with loops := loops } : Cursor).isEntry = c.isEntry := rfl

namespace Program

/-- One turn of a run: the listing with the line active, and then the line itself. -/
def turn (program : Program) (readings : Nat) (c : Cursor) : ControlM Cursor := do
  Control.display (some c.line) true
  program.execute readings c

/-- Goes on at the cursor with the screens that are left. Below the last line the listing is shown
once more, and the run is over. -/
def resume (program : Program) (readings screens : Nat) (c : Cursor) : ControlM Unit :=
  if c.line < program.length then program.runFrom readings screens c
  else if screens = 0 then throw .stepLimit
  else Control.display none true

theorem runFrom_succ (program : Program) (readings screens : Nat) (c : Cursor) :
    program.runFrom readings (screens + 1) c =
      program.turn readings c >>= program.resume readings screens := by
  rw [runFrom, turn, bind_assoc]
  rfl

/-! ## 1. What a turn does to the cursor

The names of the moves are those of what happens to the loops. A line that fails makes no move. -/

/-- The moves of a cursor from one line to the next, by the line it stands on. -/
inductive Move (program : Program) (c : Cursor) : Cursor → Prop where
  | straight {i : Instruction} : program[c.line]? = some i → i.isStraight = true →
      Move program c c.next
  /-- A loop is reached from above: it is opened. -/
  | enter {count : Option Number} : program[c.line]? = some (.repeatStart count) →
      c.isEntry = true →
      Move program c { c.next with loops := ⟨c.line, count.map fun _ => 0⟩ :: c.loops }
  /-- A loop is reached from below: it is open already. -/
  | pass {count : Option Number} : program[c.line]? = some (.repeatStart count) →
      c.isEntry = false → Move program c c.next
  /-- `UNTIL` with the condition met. -/
  | leave {condition : Condition} {loop : Loop} {outer : List Loop} :
      program[c.line]? = some (.repeatUntil condition) → c.loops = loop :: outer →
      Move program c { c.next with loops := outer }
  /-- `UNTIL` with the condition not met, or `FOREVER`. -/
  | again {i : Instruction} {loop : Loop} {outer : List Loop} :
      program[c.line]? = some i → i.closesLoop = true → c.loops = loop :: outer →
      Move program c (c.jump loop.head)
  /-- `ENDREPEAT` after the last pass. -/
  | lastPass {head passes : Nat} {outer : List Loop} :
      program[c.line]? = some .repeatEnd → c.loops = ⟨head, some passes⟩ :: outer →
      program.isLastPass head (passes + 1) = true →
      Move program c { c.next with loops := outer }
  /-- `ENDREPEAT` after any other pass. -/
  | nextPass {head passes : Nat} {outer : List Loop} :
      program[c.line]? = some .repeatEnd → c.loops = ⟨head, some passes⟩ :: outer →
      program.isLastPass head (passes + 1) = false →
      Move program c { c.jump head with loops := ⟨head, some (passes + 1)⟩ :: outer }
  /-- `IF` with the condition met. -/
  | inside {condition : Condition} : program[c.line]? = some (.ifStart condition) →
      Move program c c.next
  /-- `IF` with the condition not met. -/
  | skip {condition : Condition} : program[c.line]? = some (.ifStart condition) →
      Move program c (c.jump (program.nextEnd c.line))

variable {program : Program} {readings : Nat} {c c' : Cursor} {session : Session}

theorem leave_ok (h : (session.perform c.leave).result = .ok c') :
    ∃ loop outer, c.loops = loop :: outer ∧ c' = { c.next with loops := outer } := by
  unfold Cursor.leave at h
  cases hl : c.loops with
  | nil => rw [hl] at h; cases h
  | cons loop outer =>
    rw [hl] at h
    cases h
    exact ⟨loop, outer, rfl, rfl⟩

theorem again_ok (h : (session.perform c.again).result = .ok c') :
    ∃ loop outer, c.loops = loop :: outer ∧ c' = c.jump loop.head := by
  unfold Cursor.again at h
  cases hl : c.loops with
  | nil => rw [hl] at h; cases h
  | cons loop outer =>
    rw [hl] at h
    cases h
    exact ⟨loop, outer, rfl, rfl⟩

/-- The end of a pass leaves a counted loop after its last pass, and else goes back with one more
pass counted. -/
theorem endPass_ok (h : (session.perform (program.endPass c)).result = .ok c') :
    ∃ head passes outer, c.loops = ⟨head, some passes⟩ :: outer ∧
      c' = if program.isLastPass head (passes + 1) then { c.next with loops := outer }
        else { c.jump head with loops := ⟨head, some (passes + 1)⟩ :: outer } := by
  unfold endPass at h
  cases hl : c.loops with
  | nil => rw [hl] at h; cases h
  | cons loop outer =>
    obtain ⟨head, passes⟩ := loop
    rw [hl] at h
    cases passes with
    | none => cases h
    | some passes =>
      refine ⟨head, passes, outer, rfl, ?_⟩
      dsimp only at h
      split at h <;> cases h
      · rw [if_pos ‹_›]; rfl
      · rw [if_neg ‹_›]; rfl

/-- A line that is executed without a fault makes one of the moves. -/
theorem execute_ok (h : (session.perform (program.execute readings c)).result = .ok c') :
    program.Move c c' := by
  -- one case for each kind of line; every later proof about the cursor splits `Move` instead
  unfold execute at h
  cases hi : program[c.line]? with
  | none => rw [hi] at h; cases h
  | some i =>
    rw [hi] at h
    cases i with
    | setOutput label pattern wait =>
      obtain ⟨_, _, h⟩ := Session.perform_bind_ok.mp h
      cases h
      exact .straight hi rfl
    | repeatStart count =>
      dsimp only at h
      split at h <;> cases h
      · exact .enter hi ‹_›
      · exact .pass hi (Bool.eq_false_iff.mpr ‹_›)
    | repeatUntil condition =>
      obtain ⟨met, _, h⟩ := Session.perform_bind_ok.mp h
      cases met with
      | true =>
        obtain ⟨loop, outer, hl, rfl⟩ := leave_ok h
        exact .leave hi hl
      | false =>
        obtain ⟨loop, outer, hl, rfl⟩ := again_ok h
        exact .again hi rfl hl
    | repeatEnd =>
      obtain ⟨head, passes, outer, hl, rfl⟩ := endPass_ok h
      split
      · exact .lastPass hi hl ‹_›
      · exact .nextPass hi hl (Bool.eq_false_iff.mpr ‹_›)
    | repeatForever =>
      obtain ⟨loop, outer, hl, rfl⟩ := again_ok h
      exact .again hi rfl hl
    | ifStart condition =>
      obtain ⟨met, _, h⟩ := Session.perform_bind_ok.mp h
      cases met with
      | true => cases h; exact .inside hi
      | false => cases h; exact .skip hi
    | ifEnd => cases h; exact .straight hi rfl
    | count condition limit =>
      obtain ⟨_, _, h⟩ := Session.perform_bind_ok.mp h
      cases h
      exact .straight hi rfl
    | plain label condition pattern value => cases h
    | plainEnd label condition => cases h

/-! ## 2. The report of a turn -/

theorem display_session (session : Session) (active : Option Int) (clear : Bool) :
    (session.perform (Control.display active clear)).session = session := by
  unfold Control.display
  rw [Session.perform_get_bind]
  cases Listing.listing session.controller.program active with
  | ok listing => rfl
  | error fault => rfl

theorem turn_eq_ok_iff :
    (session.perform (program.turn readings c)).result = .ok c' ↔
      (session.perform (Control.display (some c.line) true)).result = .ok () ∧
        (session.perform (program.execute readings c)).result = .ok c' := by
  rw [turn, Session.perform_bind_ok, display_session]
  constructor
  · rintro ⟨⟨⟩, hshown, h⟩
    exact ⟨hshown, h⟩
  · rintro ⟨hshown, h⟩
    exact ⟨(), hshown, h⟩

/-- A turn stops with the fault of its screen, or with that of its line. -/
theorem turn_eq_error_iff {fault : Fault} :
    (session.perform (program.turn readings c)).result = .error fault ↔
      (session.perform (Control.display (some c.line) true)).result = .error fault ∨
        (session.perform (Control.display (some c.line) true)).result = .ok () ∧
          (session.perform (program.execute readings c)).result = .error fault := by
  rw [turn, Session.perform_bind_error, display_session]
  constructor
  · rintro (h | ⟨⟨⟩, hshown, h⟩)
    · exact .inl h
    · exact .inr ⟨hshown, h⟩
  · rintro (h | ⟨hshown, h⟩)
    · exact .inl h
    · exact .inr ⟨(), hshown, h⟩

/-- A turn leaves the session as its line does. -/
theorem turn_session (h : (session.perform (program.turn readings c)).result = .ok c') :
    (session.perform (program.turn readings c)).session =
      (session.perform (program.execute readings c)).session := by
  obtain ⟨hshown, _⟩ := turn_eq_ok_iff.mp h
  rw [turn, Session.perform_bind, Report.andThen, hshown]
  show ((session.perform (Control.display (some c.line) true)).session.perform _).session = _
  rw [display_session]

theorem turn_move (h : (session.perform (program.turn readings c)).result = .ok c') :
    program.Move c c' :=
  execute_ok (turn_eq_ok_iff.mp h).2

/-- An `IF` that is executed goes on inside if its condition is met, and else at the next
`ENDIF`. -/
theorem turn_if {condition : Condition} {met : Bool}
    (hi : program[c.line]? = some (.ifStart condition))
    (hshown : (session.perform (Control.display (some c.line) true)).result = .ok ())
    (hmet : (session.perform (Control.checkInputs condition)).result = .ok met) :
    (session.perform (program.turn readings c)).result =
      .ok (if met then c.next else c.jump (program.nextEnd c.line)) := by
  refine turn_eq_ok_iff.mpr ⟨hshown, ?_⟩
  unfold execute
  rw [hi]
  refine Session.perform_bind_ok.mpr ⟨met, hmet, ?_⟩
  cases met with
  | true => rfl
  | false => rfl

/-- Conversely, an `IF` that was executed has read its inputs. -/
theorem exists_met_of_turn {condition : Condition}
    (hi : program[c.line]? = some (.ifStart condition))
    (h : (session.perform (program.turn readings c)).result = .ok c') :
    ∃ met, (session.perform (Control.checkInputs condition)).result = .ok met ∧
      c' = if met then c.next else c.jump (program.nextEnd c.line) := by
  obtain ⟨hshown, hexecute⟩ := turn_eq_ok_iff.mp h
  unfold execute at hexecute
  rw [hi] at hexecute
  obtain ⟨met, hmet, _⟩ := Session.perform_bind_ok.mp hexecute
  rw [turn_if hi hshown hmet] at h
  exact ⟨met, hmet, (Except.ok.inj h).symm⟩

/-! ## 3. The places a run comes to

A place is a session and a cursor. The session is there because what the port has left to answer
decides how the run goes on. -/

/-- A run of the program that starts on `start` stands, after so many turns, on a session and at a
cursor, with a line to execute next. -/
inductive Reaches (program : Program) (readings : Nat) (start : Session) :
    Nat → Session → Cursor → Prop where
  | start : program ≠ [] → Reaches program readings start 0 start {}
  | turn {turns : Nat} {session : Session} {c c' : Cursor} :
      Reaches program readings start turns session c →
      (session.perform (program.turn readings c)).result = .ok c' →
      c'.line < program.length →
      Reaches program readings start (turns + 1)
        (session.perform (program.turn readings c)).session c'

namespace Reaches

variable {start : Session} {turns : Nat}

theorem line_lt (h : program.Reaches readings start turns session c) :
    c.line < program.length := by
  cases h with
  | start hne => exact List.length_pos_iff.mpr hne
  | turn _ _ hlt => exact hlt

/-- What holds at the start and is kept by every move holds wherever a run comes to. -/
theorem induction {Inv : Cursor → Prop} (h : program.Reaches readings start turns session c)
    (hinit : Inv {})
    (hmove : ∀ c c', Inv c → c.line < program.length → program.Move c c' → Inv c') : Inv c := by
  induction h with
  | start _ => exact hinit
  | turn hbefore hturn _ ih => exact hmove _ _ ih hbefore.line_lt (turn_move hturn)

theorem clock_eq (h : program.Reaches readings start turns session c) :
    session.bench.clock = start.bench.clock := by
  induction h with
  | start _ => rfl
  | turn _ _ _ ih => exact (Session.clock_perform _ _).trans ih

/-- After some turns, the rest of a run is a run from the place it has come to. -/
theorem perform_runFrom (h : program.Reaches readings start turns session c) :
    ∀ screens, ∃ events output,
      start.perform (program.runFrom readings (turns + screens) {}) =
        (session.perform (program.runFrom readings screens c)).after events output := by
  induction h with
  | start _ =>
    intro screens
    exact ⟨[], "", by simp [Report.after]⟩
  | @turn turns session c c' _ hturn hlt ih =>
    intro screens
    -- the last turn takes the first of the screens that the hypothesis leaves
    obtain ⟨events, output, heq⟩ := ih (screens + 1)
    have hrest : session.perform (program.runFrom readings (screens + 1) c) =
        ((session.perform (program.turn readings c)).session.perform
          (program.runFrom readings screens c')).after
            (session.perform (program.turn readings c)).events
            (session.perform (program.turn readings c)).output := by
      rw [runFrom_succ, Session.perform_bind, Report.andThen, hturn]
      dsimp only
      rw [resume, if_pos hlt]
    rw [Nat.add_right_comm, Nat.add_assoc, heq, hrest]
    exact ⟨events ++ (session.perform (program.turn readings c)).events,
      output ++ (session.perform (program.turn readings c)).output, by
        simp [Report.after, List.append_assoc, String.append_assoc]⟩

/-- A fault that is not one of a screen is that of a line which the run came to and executed. -/
theorem exists_fault {fault : Fault} (hscreen : fault ∉ screenFaults) :
    ∀ {screens turns : Nat} {session : Session} {c : Cursor},
      program.Reaches readings start turns session c →
      (session.perform (program.runFrom readings screens c)).result = .error fault →
      ∃ turns' session' c', program.Reaches readings start turns' session' c' ∧
        turns' < turns + screens ∧
        (session'.perform (program.turn readings c')).result = .error fault := by
  intro screens
  induction screens with
  | zero =>
    intro turns session c _ herr
    cases herr
    exact absurd List.mem_cons_self hscreen
  | succ screens ih =>
    intro turns session c h herr
    rw [runFrom_succ] at herr
    rcases Session.perform_bind_error.mp herr with herr | ⟨c', hturn, herr⟩
    · exact ⟨turns, session, c, h, by omega, herr⟩
    · unfold resume at herr
      -- a line is next, the screens are used up, or the last screen is shown
      split at herr
      · obtain ⟨turns', session', c'', h', hlt, herr'⟩ := ih (h.turn hturn ‹_›) herr
        exact ⟨turns', session', c'', h', by omega, herr'⟩
      · split at herr
        · cases herr
          exact absurd List.mem_cons_self hscreen
        · have hunlisted := Control.display_faults _ _ _ _ herr
          exact absurd (List.mem_cons_of_mem _ hunlisted) hscreen

end Reaches

end Program

/-- The bound on the readings of one `COUNT` in a run on the bench. -/
def Bench.readings (bench : Bench) : Nat :=
  (bench.limits 0).readings

/-- A run of an accepted program is a run from its first line, if it has one. -/
theorem Session.run_eq {session : Session} (hcheck : session.controller.program.check = .ok ())
    (screens : Nat) :
    session.run screens = session.perform (if session.controller.program.isEmpty then pure ()
      else session.controller.program.runFrom session.bench.readings screens {}) := by
  unfold Session.run Control.run Control.check
  rw [bind_assoc, Session.perform_get_bind, hcheck, pure_bind, Session.perform_get_bind]
  rfl

/-- A run of a program that is not accepted asks for nothing. -/
theorem Session.run_of_check_error {session : Session} {refusal : NestingFault}
    (hcheck : session.controller.program.check = .error refusal) (screens : Nat) :
    session.run screens = ⟨.error (.nesting refusal), [], "", session⟩ := by
  unfold Session.run Control.run Control.check
  rw [bind_assoc, Session.perform_get_bind, hcheck]
  rfl

/-- A fault of a run that is not one of a screen is that of a line which the run came to. -/
theorem Program.exists_reaches_of_run_error {session : Session} {screens : Nat} {fault : Fault}
    (hcheck : session.controller.program.check = .ok ())
    (hscreen : fault ∉ screenFaults)
    (herr : (session.run screens).result = .error fault) :
    ∃ turns now c,
      session.controller.program.Reaches session.bench.readings session turns now c ∧
      (now.perform
        (session.controller.program.turn session.bench.readings c)).result = .error fault := by
  rw [Session.run_eq hcheck] at herr
  split at herr
  · cases herr
  · rename_i hempty
    have hne : session.controller.program ≠ [] := by simpa using hempty
    obtain ⟨turns, now, c, hreach, _, herr⟩ := Reaches.exists_fault hscreen (.start hne) herr
    exact ⟨turns, now, c, hreach, herr⟩

/-- Such a fault is one of the faults of a line of the program. -/
theorem Program.exists_line_of_run_error {session : Session} {screens : Nat} {fault : Fault}
    (hcheck : session.controller.program.check = .ok ())
    (hscreen : fault ∉ screenFaults)
    (herr : (session.run screens).result = .error fault) :
    ∃ i ∈ session.controller.program, fault ∈ i.faults := by
  obtain ⟨turns, now, c, hreach, herr⟩ := exists_reaches_of_run_error hcheck hscreen herr
  have hi := List.getElem?_eq_getElem hreach.line_lt
  rcases turn_eq_error_iff.mp herr with hshown | ⟨_, herr⟩
  · have hunlisted := Control.display_faults _ _ _ _ hshown
    exact absurd (List.mem_cons_of_mem _ hunlisted) hscreen
  · exact ⟨_, List.mem_of_getElem? hi, execute_faults hi now fault herr⟩

/-- **A run stops at the clock only for a time that the clock refuses**, and some output of the
program waits for that time. -/
theorem Program.exists_wait_of_run_error {session : Session} {screens : Nat} {refusal : ClockFault}
    (herr : (session.run screens).result = .error (.clock refusal)) :
    ∃ label pattern wait, .setOutput label pattern wait ∈ session.controller.program ∧
      session.bench.clock (wait.getD 1) = .error refusal := by
  cases hcheck : session.controller.program.check with
  | error refusal =>
    rw [Session.run_of_check_error hcheck] at herr
    cases herr
  | ok accepted =>
    have hscreen : .clock refusal ∉ screenFaults := by simp [screenFaults, listingFaults]
    obtain ⟨turns, now, c, hreach, herr⟩ := exists_reaches_of_run_error hcheck hscreen herr
    have hi := List.getElem?_eq_getElem hreach.line_lt
    rcases turn_eq_error_iff.mp herr with hshown | ⟨_, herr⟩
    · have hunlisted := Control.display_faults _ _ _ _ hshown
      exact absurd (List.mem_cons_of_mem _ hunlisted) hscreen
    · obtain ⟨label, pattern, wait, hline, hclock⟩ := execute_clock hi herr
      rw [hline] at hi
      rw [hreach.clock_eq] at hclock
      exact ⟨label, pattern, wait, List.mem_of_getElem? hi, hclock⟩

/-- A connected session with the outputs off, whose port answers with the given bytes and refuses
after them. -/
def Session.answering (program : Program) (answers : List UInt8) : Session where
  controller := { program := program, connected := true, latch := some 0 }
  bench := { wire := ⟨answers.map fun _ => .taken, answers.map .byte⟩ }

theorem Session.program_answering (program : Program) (answers : List UInt8) :
    (Session.answering program answers).controller.program = program := rfl

end LineControl

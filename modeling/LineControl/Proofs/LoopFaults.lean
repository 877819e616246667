import LineControl.Proofs.LoopStack

/-!
# When a run loses its loops

The check lets pass some programs whose runs stop at a closing line because there is no loop for it
to act on. This file says exactly when that happens, and how a run gets there: the closing line is
paired with no `REPEAT`, or an earlier `IF` of the run was false and went on inside a loop that it
stands above. A program with neither kind of line never loses its loops.

The other way round, as long as no `IF` has gone on inside a loop, the open loops are all the loops
around the line (`LoopsFull`).

## The parts of `run_loopFault_iff`

Its first clause is about one line and is exact: a run ends in a fault of the loops if and only if
it comes to a closing line that lacks one. The second traces this back to the program and to an
earlier turn of the same run, and the third draws the conclusion for programs in which neither can
happen; it asks nothing of the inputs, so it can be checked on the lines alone. Having skipped into
a loop does not mean that the run will stop. The closing line may find a loop further out, and then
ends a pass of that one without any fault.

Faults of other kinds are not ruled out. A port may fail at any line, and which faults a line can
end in besides is in `Proofs.Faults`.
-/

set_option autoImplicit false

namespace LineControl

/-- The closing line finds no loop to end a pass of: none is open, or it counts passes and the
innermost open loop does not. -/
def Cursor.LacksLoop (c : Cursor) (i : Instruction) : Prop :=
  c.loops = [] ∨ i = .repeatEnd ∧ ∃ head outer, c.loops = ⟨head, none⟩ :: outer

/-- The closing line gets to act on the open loops: the listing is shown, and the reading that an
`UNTIL` makes is answered. -/
def Session.ActsOnLoops (session : Session) (c : Cursor) (i : Instruction) : Prop :=
  (session.perform (Control.display (some c.line) true)).result = .ok () ∧
    ∀ condition, i = .repeatUntil condition →
      ∃ met, (session.perform (Control.checkInputs condition)).result = .ok met

namespace Program

open Nesting

variable {program : Program} {readings turns : Nat} {c c' : Cursor} {start session : Session}

/-! ## 1. The faults of one line

A fault of the loops is told from all others by the lists of faults, so the lines that close no loop
need no case of their own. -/

theorem leave_eq_error_iff {fault : Fault} :
    (session.perform c.leave).result = .error fault ↔ c.loops = [] ∧ fault = .noLoopToLeave := by
  unfold Cursor.leave
  cases c.loops with
  | nil => simp [Session.perform_throw, eq_comm]
  | cons loop outer => simp [Session.perform_pure]

theorem again_eq_error_iff {fault : Fault} :
    (session.perform c.again).result = .error fault ↔ c.loops = [] ∧ fault = .noLoopToRepeat := by
  unfold Cursor.again
  cases c.loops with
  | nil => simp [Session.perform_throw, eq_comm]
  | cons loop outer => simp [Session.perform_pure]

/-- An `ENDREPEAT` lacks a loop, or has one that does not count. -/
theorem endPass_eq_error_iff {fault : Fault} :
    (session.perform (program.endPass c)).result = .error fault ↔
      c.loops = [] ∧ fault = .noLoopToRepeat ∨
        (∃ head outer, c.loops = ⟨head, none⟩ :: outer) ∧ fault = .noPassCount := by
  unfold endPass
  cases hl : c.loops with
  | nil =>
    constructor
    · intro h
      cases h
      exact .inl ⟨rfl, rfl⟩
    · rintro (⟨_, rfl⟩ | ⟨⟨head, outer, hcons⟩, _⟩)
      · rfl
      · cases hcons
  | cons loop outer =>
    obtain ⟨head, passes⟩ := loop
    cases passes with
    | none =>
      constructor
      · intro h
        cases h
        exact .inr ⟨⟨head, outer, rfl⟩, rfl⟩
      · rintro (⟨hnil, _⟩ | ⟨_, rfl⟩)
        · cases hnil
        · rfl
    | some passes =>
      -- there is a loop and it is counted, so both ways to go on succeed
      dsimp only
      split
      · simp [leave_eq_error_iff]
      · simp [again_eq_error_iff]

/-- The faults of a line that ends no pass. -/
def lineFaults : List Fault :=
  [.unknownInstruction, .noCondition, .noChangeLimit, .stepLimit, .unsupportedCount] ++
    patternFaults ++ portFaults ++ clockFaults

theorem not_mem_lineFaults {fault : Fault} (h : fault ∈ loopFaults) : fault ∉ lineFaults := by
  revert fault
  decide

theorem not_mem_screenFaults {fault : Fault} (h : fault ∈ loopFaults) : fault ∉ screenFaults := by
  revert fault
  decide

/-- A line that closes no loop has none of the faults of the loops. -/
theorem faults_subset_lineFaults {i : Instruction} (hcloses : i.closesLoop = false) :
    i.faults ⊆ lineFaults := by
  have hport : portFaults ⊆ lineFaults := by decide
  have hpattern : patternFaults ⊆ lineFaults := by decide
  cases i with
  | setOutput label pattern wait =>
    have hclock : clockFaults ⊆ lineFaults := by decide
    refine List.append_subset.mpr ⟨List.append_subset.mpr ⟨?_, hport⟩, hclock⟩
    exact List.Subset.trans (byteFaults_subset pattern) hpattern
  | ifStart condition =>
    have hcondition : [Fault.noCondition] ⊆ lineFaults := by decide
    exact List.append_subset.mpr
      ⟨List.Subset.trans (conditionFaults_subset condition) hcondition, hport⟩
  | count condition limit =>
    cases limit with
    | none => exact List.cons_subset.mpr ⟨by decide, hport⟩
    | some limit =>
      exact List.cons_subset.mpr ⟨by decide, List.cons_subset.mpr ⟨by decide, hport⟩⟩
  | repeatStart count => exact List.nil_subset _
  | ifEnd => exact List.nil_subset _
  | plain label condition pattern value => exact List.cons_subset.mpr ⟨by decide, List.nil_subset _⟩
  | plainEnd label condition => exact List.cons_subset.mpr ⟨by decide, List.nil_subset _⟩
  | repeatUntil condition => cases hcloses
  | repeatEnd => cases hcloses
  | repeatForever => cases hcloses

theorem noSuchLine_not_mem_faults (i : Instruction) : Fault.noSuchLine ∉ i.faults := by
  cases hcloses : i.closesLoop with
  | false =>
    intro h
    exact not_mem_lineFaults (by decide) (faults_subset_lineFaults hcloses h)
  | true =>
    cases i with
    | repeatUntil condition =>
      have hcondition : Fault.noSuchLine ∉ conditionFaults condition := by
        intro h
        cases List.mem_singleton.mp (conditionFaults_subset condition h)
      simp [Instruction.faults, hcondition, portFaults]
    | repeatEnd => decide
    | repeatForever => decide
    | _ => cases hcloses

/-- `UNTIL` comes to the loops once its inputs are read, and stops there exactly if none is open. -/
theorem execute_until_loopFault_iff {condition : Condition}
    (hi : program[c.line]? = some (.repeatUntil condition)) :
    (∃ fault ∈ loopFaults, (session.perform (program.execute readings c)).result = .error fault) ↔
      (∃ met, (session.perform (Control.checkInputs condition)).result = .ok met) ∧
        c.loops = [] := by
  unfold execute
  rw [hi]
  constructor
  · rintro ⟨fault, hfault, herr⟩
    rcases Session.perform_bind_error.mp herr with herr | ⟨met, hmet, herr⟩
    · have hbox := Control.checkInputs_faults condition session fault herr
      -- these are the faults of an IF with the same condition
      have hline : (Instruction.ifStart condition).faults ⊆ lineFaults :=
        faults_subset_lineFaults rfl
      exact absurd (hline hbox) (not_mem_lineFaults hfault)
    · refine ⟨⟨met, hmet⟩, ?_⟩
      cases met with
      | true => exact (leave_eq_error_iff.mp herr).1
      | false => exact (again_eq_error_iff.mp herr).1
  · rintro ⟨⟨met, hmet⟩, hnil⟩
    cases met with
    | true =>
      exact ⟨.noLoopToLeave, by decide,
        Session.perform_bind_error.mpr (.inr ⟨_, hmet, leave_eq_error_iff.mpr ⟨hnil, rfl⟩⟩)⟩
    | false =>
      exact ⟨.noLoopToRepeat, by decide,
        Session.perform_bind_error.mpr (.inr ⟨_, hmet, again_eq_error_iff.mpr ⟨hnil, rfl⟩⟩)⟩

/-- A line stops with a fault of the loops exactly if it is a closing line that lacks a loop. -/
theorem execute_loopFault_iff {i : Instruction} (hi : program[c.line]? = some i) :
    (∃ fault ∈ loopFaults, (session.perform (program.execute readings c)).result = .error fault) ↔
      i.closesLoop = true ∧ (∀ condition, i = .repeatUntil condition →
        ∃ met, (session.perform (Control.checkInputs condition)).result = .ok met) ∧
      c.LacksLoop i := by
  cases hcloses : i.closesLoop with
  | false =>
    simp only [Bool.false_eq_true, false_and, iff_false, not_exists, not_and]
    intro fault hfault herr
    exact not_mem_lineFaults hfault
      (faults_subset_lineFaults hcloses (execute_faults hi session fault herr))
  | true =>
    cases i with
    | repeatUntil condition =>
      rw [execute_until_loopFault_iff hi]
      constructor
      · rintro ⟨hread, hnil⟩
        refine ⟨rfl, ?_, .inl hnil⟩
        rintro _ ⟨rfl⟩
        exact hread
      · rintro ⟨_, hread, hnil | ⟨heq, _⟩⟩
        · exact ⟨hread condition rfl, hnil⟩
        · cases heq
    | repeatEnd =>
      unfold execute
      rw [hi]
      constructor
      · rintro ⟨fault, _, herr⟩
        refine ⟨rfl, nofun, ?_⟩
        rcases endPass_eq_error_iff.mp herr with ⟨hnil, _⟩ | ⟨huncounted, _⟩
        · exact .inl hnil
        · exact .inr ⟨rfl, huncounted⟩
      · rintro ⟨_, _, hnil | ⟨_, huncounted⟩⟩
        · exact ⟨.noLoopToRepeat, by decide, endPass_eq_error_iff.mpr (.inl ⟨hnil, rfl⟩)⟩
        · exact ⟨.noPassCount, by decide, endPass_eq_error_iff.mpr (.inr ⟨huncounted, rfl⟩)⟩
    | repeatForever =>
      unfold execute
      rw [hi]
      constructor
      · rintro ⟨fault, _, herr⟩
        exact ⟨rfl, nofun, .inl (again_eq_error_iff.mp herr).1⟩
      · rintro ⟨_, _, hnil | ⟨heq, _⟩⟩
        · exact ⟨.noLoopToRepeat, by decide, again_eq_error_iff.mpr ⟨hnil, rfl⟩⟩
        · cases heq
    | _ => cases hcloses

theorem execute_ne_noSuchLine {i : Instruction} (hi : program[c.line]? = some i) :
    (session.perform (program.execute readings c)).result ≠ .error .noSuchLine := by
  intro herr
  exact noSuchLine_not_mem_faults i (execute_faults hi session _ herr)

/-- The same for a turn: the screen has to be shown first. -/
theorem turn_loopFault_iff {i : Instruction} (hi : program[c.line]? = some i) :
    (∃ fault ∈ loopFaults, (session.perform (program.turn readings c)).result = .error fault) ↔
      i.closesLoop = true ∧ session.ActsOnLoops c i ∧ c.LacksLoop i := by
  constructor
  · rintro ⟨fault, hfault, herr⟩
    rcases turn_eq_error_iff.mp herr with herr | ⟨hshown, herr⟩
    · have hunlisted := Control.display_faults _ _ _ _ herr
      exact absurd (List.mem_cons_of_mem _ hunlisted) (not_mem_screenFaults hfault)
    · obtain ⟨hcloses, hread, hlacks⟩ := (execute_loopFault_iff hi).mp ⟨fault, hfault, herr⟩
      exact ⟨hcloses, ⟨hshown, hread⟩, hlacks⟩
  · rintro ⟨hcloses, ⟨hshown, hread⟩, hlacks⟩
    obtain ⟨fault, hfault, herr⟩ : ∃ fault ∈ loopFaults,
        (session.perform (program.execute readings c)).result = .error fault :=
      (execute_loopFault_iff hi).mpr ⟨hcloses, hread, hlacks⟩
    exact ⟨fault, hfault, turn_eq_error_iff.mpr (.inr ⟨hshown, herr⟩)⟩

/-! ## 2. As long as no loop is skipped into, all loops around are open

`LoopsFull` is the converse of `LoopsFit.around`. It is kept by every move but one, and that one is
the skip of a false `IF` into a loop. -/

/-- A false `IF` on the line goes on inside a loop that starts below the line. -/
def SkipsInto (program : Program) (line : Nat) : Prop :=
  ∃ head count, program[head]? = some (.repeatStart count) ∧ line < head ∧
    program.IsOpen head (program.nextEnd line)

/-- Within the first turns of the run, a false `IF` has gone on inside a loop. -/
def SkippedInto (program : Program) (readings : Nat) (start : Session) (turns : Nat) : Prop :=
  ∃ turns' session c condition, turns' < turns ∧
    program.Reaches readings start turns' session c ∧
    program[c.line]? = some (.ifStart condition) ∧
    (session.perform (Control.checkInputs condition)).result = .ok false ∧
    program.SkipsInto c.line

/-- Every loop around the line is open. -/
def LoopsFull (program : Program) (c : Cursor) : Prop :=
  ∀ head count, program[head]? = some (.repeatStart count) → program.IsOpen head c.line →
    ∃ loop ∈ c.loops, loop.head = head

/-- A closing line that is reached with something open is paired with a `REPEAT` that it fits. -/
theorem exists_pairs_of_closesLoop (hcheck : program.check = .ok ()) {i : Instruction}
    {line head : Nat} (hopen : program.IsOpen head line) (hi : program[line]? = some i)
    (hcloses : i.closesLoop = true) :
    ∃ own count, head ≤ own ∧ program.Pairs own line ∧
      program[own]? = some (.repeatStart count) ∧ (i = .repeatEnd → count ≠ none) := by
  have hclosing : i.isClosing = true := by
    cases i <;> first | rfl | cases hcloses
  obtain ⟨own, j, kind, hle, hpairs, hj, hopens, hfits⟩ :=
    exists_pairs_of_isClosing hcheck hopen hi hclosing
  have hnot : i.closes .conditional = false := by
    cases i <;> first | rfl | cases hcloses
  have hloop : kind ≠ .conditional := by
    rintro rfl
    rw [hnot] at hfits
    cases hfits
  cases j with
  | repeatStart count =>
    refine ⟨own, count, hle, hpairs, hj, ?_⟩
    rintro rfl rfl
    cases hopens
    cases hfits
  | ifStart condition => exact absurd (Option.some.inj hopens).symm hloop
  | _ => cases hopens

/-- At a closing line with all loops open, the innermost open loop is its own. -/
theorem LoopsFull.exists_first (hcheck : program.check = .ok ()) (hfull : program.LoopsFull c)
    (hfit : program.LoopsFit c) {i : Instruction} (hi : program[c.line]? = some i)
    (hcloses : i.closesLoop = true) {own : Nat} {count : Option Number}
    (hpairs : program.Pairs own c.line) (hrepeat : program[own]? = some (.repeatStart count)) :
    ∃ first outer, c.loops = first :: outer ∧ first.head = own := by
  have hnot := Instruction.ne_repeatStart_of_closesLoop hcloses
  obtain ⟨loop, hloop, hhead⟩ := hfull own count hrepeat (hpairs.isOpen hcheck)
  cases hl : c.loops with
  | nil =>
    rw [hl] at hloop
    cases hloop
  | cons first outer =>
    refine ⟨first, outer, rfl, ?_⟩
    -- no open loop is further in than the one the line closes, and the stack is sorted
    have hfirst : first ∈ c.loops := by simp [hl]
    obtain ⟨own', _, hle, hpairs', _, _⟩ :=
      exists_pairs_of_closesLoop hcheck (hfit.isOpen hi hnot hfirst) hi hcloses
    obtain rfl := hpairs.head_unique hpairs'
    have hsorted := hfit.sorted
    rw [hl, List.map_cons, List.pairwise_cons] at hsorted
    rw [hl] at hloop
    rcases List.mem_cons.mp hloop with rfl | hloop
    · exact hhead
    · have := hsorted.1 _ (List.mem_map_of_mem hloop)
      omega

/-- What is open below a line is open before it, unless it is the line itself that opens it. -/
theorem IsOpen.of_succ (hcheck : program.check = .ok ()) {head line : Nat}
    (h : program.IsOpen head (line + 1)) (hne : head ≠ line) : program.IsOpen head line := by
  have hlt := h.lt hcheck
  exact h.of_le hcheck (by omega) (Nat.le_succ line)

/-- If all loops around are open, a closing line leaves its own, and those further out are all there
still. -/
theorem LoopsFull.leave (hcheck : program.check = .ok ()) (hfull : program.LoopsFull c)
    (hfit : program.LoopsFit c) {i : Instruction} (hi : program[c.line]? = some i)
    (hcloses : i.closesLoop = true) {loop : Loop} {outer : List Loop}
    (hl : c.loops = loop :: outer) : program.LoopsFull { c.next with loops := outer } := by
  have hnot := Instruction.ne_repeatStart_of_closesLoop hcloses
  have hloop : loop ∈ c.loops := by simp [hl]
  obtain ⟨own, count, _, hpairs, hrepeat, _⟩ :=
    exists_pairs_of_closesLoop hcheck (hfit.isOpen hi hnot hloop) hi hcloses
  obtain ⟨first, outer', hl', hfirst⟩ := hfull.exists_first hcheck hfit hi hcloses hpairs hrepeat
  rw [hl] at hl'
  cases hl'
  intro head count' hrepeat' hopen'
  have hne : head ≠ c.line := ne_of_getElem? hrepeat' hi (hnot count').symm
  obtain ⟨found, hfound, hhead⟩ := hfull head count' hrepeat' (hopen'.of_succ hcheck hne)
  refine ⟨found, ?_, hhead⟩
  rw [hl] at hfound
  rcases List.mem_cons.mp hfound with rfl | hfound
  · -- its block ends with the line, so it is not open below
    have hafter := ((hpairs.isOpen_iff hcheck).mp (by rw [← hfirst, hhead]; exact hopen')).2
    have hbelow : ({ c.next with loops := outer } : Cursor).line = c.line + 1 := rfl
    omega
  · exact hfound

/-- Every move but a skip into a loop keeps all loops around open. -/
theorem LoopsFull.move (hcheck : program.check = .ok ()) (hfull : program.LoopsFull c)
    (hfit : program.LoopsFit c) (hmove : program.Move c c')
    (hskip : (∃ condition, program[c.line]? = some (.ifStart condition)) →
      c' = c.jump (program.nextEnd c.line) → ¬ program.SkipsInto c.line) :
    program.LoopsFull c' := by
  -- down one line without opening a loop, and up to the head of the innermost open one
  have hdown : ∀ {i : Instruction}, program[c.line]? = some i →
      (∀ count, i ≠ .repeatStart count) → program.LoopsFull c.next := by
    intro i hi hnot head count hrepeat hopen
    have hne : head ≠ c.line := ne_of_getElem? hrepeat hi (hnot count).symm
    exact hfull head count hrepeat (hopen.of_succ hcheck hne)
  have hup : ∀ {i : Instruction} {loop : Loop} {outer : List Loop} {passes : Option Nat},
      program[c.line]? = some i → (∀ count, i ≠ .repeatStart count) → c.loops = loop :: outer →
      program.LoopsFull { c.jump loop.head with loops := ⟨loop.head, passes⟩ :: outer } := by
    intro i loop outer passes hi hnot hl head count hrepeat hopen
    have hloop : loop ∈ c.loops := by simp [hl]
    obtain ⟨found, hfound, hhead⟩ :=
      hfull head count hrepeat (IsOpen.of_inner hcheck hopen (hfit.isOpen hi hnot hloop))
    rw [hl] at hfound
    rcases List.mem_cons.mp hfound with rfl | hfound
    · exact ⟨_, List.mem_cons_self, hhead⟩
    · exact ⟨found, List.mem_cons_of_mem _ hfound, hhead⟩
  cases hmove with
  | @straight i hi hstraight =>
    refine hdown hi ?_
    rintro count rfl
    cases hstraight
  | @enter count hi hentry =>
    intro head count' hrepeat hopen
    rcases Nat.decEq head c.line with hne | rfl
    · obtain ⟨loop, hloop, hhead⟩ := hfull head count' hrepeat (hopen.of_succ hcheck hne)
      exact ⟨loop, List.mem_cons_of_mem _ hloop, hhead⟩
    · exact ⟨_, List.mem_cons_self, rfl⟩
  | @pass count hi hentry =>
    intro head count' hrepeat hopen
    rcases Nat.decEq head c.line with hne | rfl
    · exact hfull head count' hrepeat (hopen.of_succ hcheck hne)
    · obtain ⟨first, outer, hl, hfirst⟩ := hfit.back hentry
      exact ⟨first, by simp [Cursor.next, Cursor.jump, hl], hfirst⟩
  | leave hi hl => exact hfull.leave hcheck hfit hi rfl hl
  | @again i loop outer hi hcloses hl =>
    have hjump : ({ c.jump loop.head with loops := ⟨loop.head, loop.passes⟩ :: outer } : Cursor) =
        c.jump loop.head := by
      simp [Cursor.jump, hl]
    rw [← hjump]
    exact hup hi (Instruction.ne_repeatStart_of_closesLoop hcloses) hl
  | lastPass hi hl _ => exact hfull.leave hcheck hfit hi rfl hl
  | nextPass hi hl _ => exact hup hi (by simp) hl
  | inside hi => exact hdown hi (by simp)
  | skip hi =>
    obtain ⟨own, hown⟩ := exists_pairs_of_opens hcheck hi rfl
    obtain ⟨hlt, _, _⟩ := nextEnd_bounds hcheck hi hown
    intro head count hrepeat hopen
    rcases Nat.lt_or_ge c.line head with hbelow | habove
    · exact absurd ⟨head, count, hrepeat, hbelow, hopen⟩ (hskip ⟨_, hi⟩ rfl)
    · have hne : head ≠ c.line := ne_of_getElem? hrepeat hi (by simp)
      exact hfull head count hrepeat (hopen.of_le hcheck (by omega) (Nat.le_of_lt hlt))

/-- Wherever a run comes to, all loops around are open, unless it has skipped into a loop before. -/
theorem Reaches.loopsFull_or (hcheck : program.check = .ok ())
    (h : program.Reaches readings start turns session c) :
    program.LoopsFull c ∨ program.SkippedInto readings start turns := by
  induction h with
  | start hne =>
    left
    intro head count _ hopen
    exact absurd (hopen.lt hcheck) (Nat.not_lt_zero _)
  | @turn turns session c c' hbefore hturn _ ih =>
    rcases ih with hfull | ⟨turns', session', c₁, condition, hlt, hskipped⟩
    · by_cases hinto : (∃ condition, program[c.line]? = some (.ifStart condition) ∧
          (session.perform (Control.checkInputs condition)).result = .ok false) ∧
          program.SkipsInto c.line
      · obtain ⟨⟨condition, hi, hfalse⟩, hinto⟩ := hinto
        exact .inr ⟨turns, session, c, condition, Nat.lt_succ_self _, hbefore, hi, hfalse, hinto⟩
      · refine .inl (hfull.move hcheck (hbefore.loopsFit hcheck) (turn_move hturn) ?_)
        rintro ⟨condition, hi⟩ hjump hsome
        obtain ⟨met, hmet, heq⟩ := exists_met_of_turn hi hturn
        cases met with
        | false => exact hinto ⟨⟨condition, hi, hmet⟩, hsome⟩
        | true =>
          -- the condition was met, so the run went on just below, where no loop starts in between
          obtain ⟨head, _, _, hbelow, hopen⟩ := hsome
          have hline : c.line + 1 = program.nextEnd c.line :=
            congrArg Cursor.line (heq.symm.trans hjump)
          have := hopen.lt hcheck
          omega
    · exact .inr ⟨turns', session', c₁, condition, Nat.lt_succ_of_lt hlt, hskipped⟩

/-! ## 3. Runs -/

/-- At a closing line that closes nothing, no loop is open at all: what is open around it would be
closed by it. -/
theorem LoopsFit.loops_eq_nil (hcheck : program.check = .ok ()) (hfit : program.LoopsFit c)
    {i : Instruction} (hi : program[c.line]? = some i) (hcloses : i.closesLoop = true)
    (hlone : ∀ head, ¬ program.Pairs head c.line) : c.loops = [] := by
  cases hl : c.loops with
  | nil => rfl
  | cons loop outer =>
    have hnot := Instruction.ne_repeatStart_of_closesLoop hcloses
    have hloop : loop ∈ c.loops := by simp [hl]
    obtain ⟨own, _, _, hpairs, _⟩ :=
      exists_pairs_of_closesLoop hcheck (hfit.isOpen hi hnot hloop) hi hcloses
    exact absurd hpairs (hlone own)

/-- A paired closing line lacks no loop as long as the run has not skipped into one. -/
theorem LoopsFull.not_lacksLoop (hcheck : program.check = .ok ()) (hfull : program.LoopsFull c)
    (hfit : program.LoopsFit c) {i : Instruction} (hi : program[c.line]? = some i)
    (hcloses : i.closesLoop = true) {head : Nat} (hpairs : program.Pairs head c.line) :
    ¬ c.LacksLoop i := by
  obtain ⟨own, count, _, hown, hrepeat, hcount⟩ :=
    exists_pairs_of_closesLoop hcheck (hpairs.isOpen hcheck) hi hcloses
  obtain ⟨first, outer, hl, rfl⟩ := hfull.exists_first hcheck hfit hi hcloses hown hrepeat
  rintro (hnil | ⟨rfl, head', outer', hl'⟩)
  · rw [hl] at hnil
    cases hnil
  · rw [hl] at hl'
    cases hl'
    obtain ⟨count', hrepeat', hnone, _⟩ := hfit.counted ⟨head', none⟩ (by simp [hl])
    rw [hrepeat] at hrepeat'
    cases hrepeat'
    exact hcount rfl (hnone.mp rfl)

/-- A fault of a line that a run comes to is the fault of the run. -/
theorem Reaches.exists_run_eq_error {fault : Fault}
    (hcheck : start.controller.program.check = .ok ())
    (h : start.controller.program.Reaches start.bench.readings start turns session c)
    (herr : (session.perform
      (start.controller.program.turn start.bench.readings c)).result = .error fault) :
    (start.run (turns + 1)).result = .error fault := by
  have hempty : start.controller.program.isEmpty = false := by
    rw [List.isEmpty_eq_false_iff, ← List.length_pos_iff]
    exact Nat.lt_of_le_of_lt (Nat.zero_le _) h.line_lt
  obtain ⟨events, output, heq⟩ := h.perform_runFrom 1
  rw [Session.run_eq hcheck, hempty, if_neg Bool.false_ne_true, heq]
  show (session.perform (start.controller.program.runFrom start.bench.readings 1 c)).result = _
  rw [runFrom_succ]
  exact Session.perform_bind_error.mpr (.inl herr)

/-- A fault of the loops is that of a line which the run came to: no screen raises one. -/
theorem exists_reaches_of_loopFault {screens : Nat} {fault : Fault}
    (hcheck : start.controller.program.check = .ok ()) (hfault : fault ∈ loopFaults)
    (herr : (start.run screens).result = .error fault) :
    ∃ turns session c,
      start.controller.program.Reaches start.bench.readings start turns session c ∧
      (session.perform
        (start.controller.program.turn start.bench.readings c)).result = .error fault :=
  exists_reaches_of_run_error hcheck (not_mem_screenFaults hfault) herr

/-- A run that stops with a fault of the loops came to a closing line that lacks a loop. -/
theorem exists_lacksLoop_of_loopFault {screens : Nat} {fault : Fault}
    (hcheck : start.controller.program.check = .ok ()) (hfault : fault ∈ loopFaults)
    (herr : (start.run screens).result = .error fault) :
    ∃ turns now c i,
      start.controller.program.Reaches start.bench.readings start turns now c ∧
      start.controller.program[c.line]? = some i ∧ i.closesLoop = true ∧
      now.ActsOnLoops c i ∧ c.LacksLoop i := by
  obtain ⟨turns, now, c, hreach, herr⟩ := exists_reaches_of_loopFault hcheck hfault herr
  have hi := List.getElem?_eq_getElem hreach.line_lt
  exact ⟨turns, now, c, _, hreach, hi, (turn_loopFault_iff hi).mp ⟨fault, hfault, herr⟩⟩

/-- If a closing line lacks a loop, it has no partner or the run has skipped into a loop before. -/
theorem Reaches.cause_of_lacksLoop (hcheck : program.check = .ok ())
    (hreach : program.Reaches readings start turns session c) {i : Instruction}
    (hi : program[c.line]? = some i) (hcloses : i.closesLoop = true) (hlacks : c.LacksLoop i) :
    (∀ head, ¬ program.Pairs head c.line) ∨ program.SkippedInto readings start turns := by
  rcases hreach.loopsFull_or hcheck with hfull | hskipped
  · left
    intro head hpairs
    exact hfull.not_lacksLoop hcheck (hreach.loopsFit hcheck) hi hcloses hpairs hlacks
  · exact .inr hskipped

/-- **When a run loses its loops.** A run of an accepted program ends in a fault of the loops if and
only if it comes to a closing line, acts on it, and finds no loop for it. A closing line that is
paired with no `REPEAT` never finds one; any other does, unless an earlier `IF` of the run was false
and went on inside a loop below it. So a program all of whose closing lines are paired, and none of
whose `IF`s can go on inside a loop, never ends in such a fault. No run comes to a line that does
not exist. -/
theorem run_loopFault_iff (hprogram : session.controller.program = program)
    (hcheck : program.check = .ok ()) :
    ((∃ screens, ∃ fault ∈ loopFaults, (session.run screens).result = .error fault) ↔
      ∃ turns now c i, program.Reaches session.bench.readings session turns now c ∧
        program[c.line]? = some i ∧ i.closesLoop = true ∧ now.ActsOnLoops c i ∧ c.LacksLoop i) ∧
    (∀ turns now c i, program.Reaches session.bench.readings session turns now c →
      program[c.line]? = some i → i.closesLoop = true →
      ((∀ head, ¬ program.Pairs head c.line) → c.LacksLoop i) ∧
      (c.LacksLoop i → (∀ head, ¬ program.Pairs head c.line) ∨
        program.SkippedInto session.bench.readings session turns)) ∧
    ((∀ line i, program[line]? = some i → i.closesLoop = true → ∃ head, program.Pairs head line) →
      (∀ line condition, program[line]? = some (.ifStart condition) → ¬ program.SkipsInto line) →
      ∀ screens fault, (session.run screens).result = .error fault → fault ∉ loopFaults) ∧
    ∀ screens, (session.run screens).result ≠ .error .noSuchLine := by
  subst hprogram
  refine ⟨⟨?_, ?_⟩, ?_, ?_, ?_⟩
  · rintro ⟨screens, fault, hfault, herr⟩
    exact exists_lacksLoop_of_loopFault hcheck hfault herr
  · rintro ⟨turns, now, c, i, hreach, hi, hline⟩
    obtain ⟨fault, hfault, herr⟩ := (turn_loopFault_iff hi).mpr hline
    exact ⟨turns + 1, fault, hfault, hreach.exists_run_eq_error hcheck herr⟩
  · intro turns now c i hreach hi hcloses
    refine ⟨fun hlone => .inl ?_, hreach.cause_of_lacksLoop hcheck hi hcloses⟩
    exact (hreach.loopsFit hcheck).loops_eq_nil hcheck hi hcloses hlone
  · intro hpaired hskips screens fault herr hfault
    obtain ⟨turns, now, c, i, hreach, hi, hcloses, _, hlacks⟩ :=
      exists_lacksLoop_of_loopFault hcheck hfault herr
    rcases hreach.cause_of_lacksLoop hcheck hi hcloses hlacks with hlone | hskipped
    · obtain ⟨head, hpairs⟩ := hpaired c.line i hi hcloses
      exact hlone head hpairs
    · obtain ⟨_, _, c', condition, _, _, hi', _, hinto⟩ := hskipped
      exact hskips c'.line condition hi' hinto
  · intro screens herr
    obtain ⟨turns, now, c, hreach, herr⟩ :=
      exists_reaches_of_loopFault hcheck (by decide) herr
    rcases turn_eq_error_iff.mp herr with hshown | ⟨_, herr⟩
    · exact absurd (Control.display_faults _ _ _ _ hshown) (by decide)
    · exact execute_ne_noSuchLine (List.getElem?_eq_getElem hreach.line_lt) herr

/-- An `IF` that goes on, if it is false, inside a loop that was not entered. -/
def ifIntoLoop : Program :=
  [.ifStart ⟨some true, none⟩, .repeatStart (some 1), .ifStart ⟨some true, none⟩, .ifEnd,
    .repeatEnd, .ifEnd]

/-- An `IF` with nothing but its own `ENDIF` to go on at. -/
def ifInLoop : Program :=
  [.repeatStart (some 2), .ifStart ⟨some true, none⟩, .ifEnd, .repeatEnd]

/-- The run of the one ends in a fault of the loops, and that of the other never does. -/
theorem loopFault_ifIntoLoop_not_ifInLoop :
    (∃ screens, ∃ fault ∈ loopFaults,
      ((Session.answering ifIntoLoop [0]).run screens).result = .error fault) ∧
    ∀ screens fault, ((Session.answering ifInLoop [0x80, 0]).run screens).result = .error fault →
      fault ∉ loopFaults := by
  constructor
  · have hif : ifIntoLoop.Reaches 1 (.answering ifIntoLoop [0]) 1 (.answering ifIntoLoop [])
        ⟨3, some 0, []⟩ :=
      .turn (.start (List.cons_ne_nil _ _)) rfl (by decide)
    have hend : ifIntoLoop.Reaches 1 (.answering ifIntoLoop [0]) 2 (.answering ifIntoLoop [])
        ⟨4, some 3, []⟩ :=
      .turn hif rfl (by decide)
    exact (run_loopFault_iff rfl rfl).1.mpr
      ⟨2, _, _, .repeatEnd, hend, rfl, rfl, ⟨rfl, nofun⟩, .inl rfl⟩
  · refine (run_loopFault_iff rfl rfl).2.2.1 ?_ ?_
    · intro line i hi hcloses
      match line, hi with
      | 0, hi | 1, hi | 2, hi => cases hi; cases hcloses
      | 3, _ => exact ⟨0, _, _, rfl, rfl, rfl, rfl⟩
      | _ + 4, hi => cases hi
    · rintro line condition hi ⟨head, count, hhead, hlt, _⟩
      -- the only loop stands above the only `IF`
      match head, hhead with
      | 0, _ => cases hlt
      | 1, hhead | 2, hhead | 3, hhead => cases hhead
      | _ + 4, hhead => cases hhead

/-- The program is accepted with all its structures closed, and yet its run stops at the `ENDREPEAT`
of the loop that was not entered. So does that of a closing line with nothing to close. -/
theorem run_stops_without_loop :
    ifIntoLoop.check = .ok () ∧
    ((Session.answering ifIntoLoop [0]).run 9).result = .error .noLoopToRepeat ∧
    check [.repeatForever] = .ok () ∧
    ((Session.answering [.repeatForever] []).run 9).result = .error .noLoopToRepeat :=
  ⟨rfl, rfl, rfl, rfl⟩

end Program

end LineControl

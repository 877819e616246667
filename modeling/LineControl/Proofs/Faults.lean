import LineControl.Proofs.Play

/-!
# What stops an action on the box

One statement for each action of the controller that a run is made of: the faults it can end in.
The lists are upper bounds over all sessions, whatever the port answers. They are what tells a fault
of the box from a fault of the loops (`loopFaults`), which only closing lines can raise, and from a
fault of a screen (`screenFaults`), which no line raises.

For a line, the list depends on what stands in it (`Instruction.faults`): a pattern that is a byte
and a condition that asks for something have no faults of their own. So what a program can stop with
is seen from its lines.

## The clock

The time that an output waits for is left out of this. Whether it is refused is up to the clock, so
every output has all the faults of a clock in its list, and `setOutputs_clock` says that they occur
only if the clock of the session refuses that time. It is a property of the same kind as `FaultsIn`
with the session in it (`ClockFaultsAt`), and closed under sequences because no action changes the
clock.

## What is left out

Nothing is said here about when a fault does occur, except for conditions (`holds?_eq_none_iff`).
The faults of the box are up to the box, and those of the loops depend on how the run came to the
line; the latter are the subject of `Proofs.LoopFaults`. Connecting and loading are no parts of a
run and have no lists.
-/

set_option autoImplicit false

namespace LineControl

/-- The faults of a port, on the way to it or back. -/
def portFaults : List Fault :=
  [.notConnected, .writeRefused, .nothingToRepeat, .shortWrite, .readRefused]

/-- The faults of a clock that does not wait. -/
def clockFaults : List Fault :=
  [.clock .negative, .clock .notANumber, .clock .tooLong, .clock .outOfRange, .clock .endsTooLate]

/-- The faults of a program that has no listing. -/
def listingFaults : List Fault :=
  [.listing .noLabel, .listing .longValue]

/-- The faults of a screen: it is one too many, or there is nothing to show. -/
def screenFaults : List Fault :=
  .stepLimit :: listingFaults

/-- The faults of a pattern that is no byte. -/
def patternFaults : List Fault :=
  [.noPattern, .patternNegative, .patternTooLarge]

/-- The faults of one pattern: none, if it is a byte. -/
def byteFaults : Option Int → List Fault
  | none => [.noPattern]
  | some pattern =>
    if pattern < 0 then [.patternNegative] else if 255 < pattern then [.patternTooLarge] else []

/-- The faults of a condition: none, if it asks for something. -/
def conditionFaults (c : Condition) : List Fault :=
  if c.isReal then [] else [.noCondition]

theorem clock_mem_clockFaults (fault : ClockFault) : .clock fault ∈ clockFaults := by
  cases fault <;> decide

theorem listing_mem_listingFaults (fault : ListingFault) : .listing fault ∈ listingFaults := by
  cases fault <;> decide

/-- The faults of one pattern are among those of any. -/
theorem byteFaults_subset (pattern : Option Int) : byteFaults pattern ⊆ patternFaults := by
  cases pattern with
  | none => decide
  | some pattern =>
    unfold byteFaults
    dsimp only
    split
    · decide
    · split
      · decide
      · exact List.nil_subset _

theorem conditionFaults_subset (c : Condition) : conditionFaults c ⊆ [.noCondition] := by
  unfold conditionFaults
  split
  · exact List.nil_subset _
  · exact List.Subset.refl _

/-- The faults of a run that has lost track of its loops or of its lines. -/
def loopFaults : List Fault :=
  [.noSuchLine, .noLoopToLeave, .noLoopToRepeat, .noPassCount]

/-- The faults that a line can end in, by what stands in it. -/
def Instruction.faults : Instruction → List Fault
  | .setOutput _ pattern _ => byteFaults pattern ++ portFaults ++ clockFaults
  | .repeatStart _ | .ifEnd => []
  | .repeatUntil c => conditionFaults c ++ portFaults ++ [.noLoopToLeave, .noLoopToRepeat]
  | .repeatEnd => [.noLoopToRepeat, .noPassCount]
  | .repeatForever => [.noLoopToRepeat]
  | .ifStart c => conditionFaults c ++ portFaults
  | .count _ none => .noChangeLimit :: portFaults
  | .count _ (some _) => .stepLimit :: .unsupportedCount :: portFaults
  | .plain .. | .plainEnd .. => [.unknownInstruction]

/-- If the action stops at the clock, the clock at hand refuses the given time. -/
def ClockFaultsAt {α : Type} (seconds : Number) (x : ControlM α) : Prop :=
  ∀ (session : Session) (refusal : ClockFault),
    (session.perform x).result = .error (.clock refusal) →
      session.bench.clock seconds = .error refusal

namespace ClockFaultsAt

variable {α β : Type} {seconds : Number}

theorem of_faultsIn {faults : List Fault} {x : ControlM α} (h : FaultsIn faults x)
    (hother : ∀ refusal, .clock refusal ∉ faults) : ClockFaultsAt seconds x :=
  fun session refusal herr => absurd (h session _ herr) (hother refusal)

theorem pause (seconds : Number) : ClockFaultsAt seconds (Control.pause seconds) := by
  intro session refusal herr
  rw [Session.perform_pause] at herr
  cases hclock : session.bench.clock seconds with
  | ok _ =>
    rw [hclock] at herr
    cases herr
  | error fault =>
    rw [hclock] at herr
    cases herr
    rfl

/-- No action changes the clock, so the clock that the second one meets is the one at hand. -/
theorem bind {x : ControlM α} {f : α → ControlM β} (hx : ClockFaultsAt seconds x)
    (hf : ∀ a, ClockFaultsAt seconds (f a)) : ClockFaultsAt seconds (x >>= f) := by
  intro session refusal herr
  rcases Session.perform_bind_error.mp herr with h | ⟨a, _, h⟩
  · exact hx session refusal h
  · rw [← session.clock_perform x]
    exact hf a _ refusal h

end ClockFaultsAt

namespace Control

theorem display_faults (active : Option Int) (clear : Bool) :
    FaultsIn listingFaults (display active clear) := by
  unfold display
  refine .bind .get fun controller => ?_
  cases Listing.listing controller.program active with
  | ok listing => exact .request _
  | error fault => exact .bind (.request _) fun _ => .throw (listing_mem_listingFaults fault)

/-- A pattern fails only if it is no byte, and with the fault that says why. -/
theorem outputByte_faults (pattern : Option Int) :
    FaultsIn (byteFaults pattern) (outputByte pattern) := by
  cases pattern with
  | none => exact .throw (by simp [byteFaults])
  | some pattern =>
    unfold outputByte byteFaults
    dsimp only
    split
    · exact .throw (by simp)
    · split
      · exact .throw (by simp)
      · exact .pure _

theorem transmit_faults (purpose : Purpose) (byte : Option UInt8) :
    FaultsIn portFaults (transmit purpose byte) := by
  unfold transmit
  refine .bind .get fun controller => ?_
  cases controller.connected with
  | false => exact .throw (by simp [portFaults])
  | true =>
    refine .bind (.request (.write purpose byte)) fun answer => ?_
    cases (answer : WriteAnswer) with
    | refused => exact .throw (by simp [portFaults])
    | short => cases byte <;> exact .throw (by simp [portFaults])
    | taken =>
      cases byte with
      | none => exact .throw (by simp [portFaults])
      | some b => exact .pure _

theorem receive_faults : FaultsIn portFaults receive := by
  unfold receive
  refine .bind (.request .read) fun answer => ?_
  cases answer with
  | byte b => exact .pure _
  | nothing => exact .pure _
  | refused => exact .throw (by simp [portFaults])

theorem pause_faults (seconds : Number) : FaultsIn clockFaults (pause seconds) := by
  unfold pause
  refine .bind (.request (.sleep seconds)) fun answer => ?_
  cases (answer : Except ClockFault Unit) with
  | ok _ => exact .pure _
  | error fault => exact .throw (clock_mem_clockFaults fault)

/-- Setting the outputs fails for its pattern, at the port or at the clock, in this order. -/
theorem setOutputs_faults (pattern : Option Int) (wait timeout : Option Number) :
    FaultsIn (byteFaults pattern ++ portFaults ++ clockFaults)
      (setOutputs pattern wait timeout) := by
  have hbyte : byteFaults pattern ⊆ byteFaults pattern ++ portFaults ++ clockFaults := by simp
  have hport : portFaults ⊆ byteFaults pattern ++ portFaults ++ clockFaults := by simp
  unfold setOutputs
  refine .bind ((outputByte_faults pattern).mono hbyte) fun byte => ?_
  refine .bind ((transmit_faults _ _).mono hport) fun _ => ?_
  refine .bind (.modify _) fun _ => .bind (.request _) fun _ => ?_
  refine .bind (receive_faults.mono hport) fun _ => ?_
  exact (pause_faults _).mono (List.subset_append_right _ _)

/-- It stops at the clock only if the clock refuses the time, which is a second if none is given. -/
theorem setOutputs_clock (pattern : Option Int) (wait timeout : Option Number) :
    ClockFaultsAt (wait.getD 1) (setOutputs pattern wait timeout) := by
  have hpattern (refusal : ClockFault) : .clock refusal ∉ byteFaults pattern := fun hmem =>
    absurd (byteFaults_subset pattern hmem) (by simp [patternFaults])
  have hport (refusal : ClockFault) : .clock refusal ∉ portFaults := by simp [portFaults]
  have hnone (refusal : ClockFault) : Fault.clock refusal ∉ [] := List.not_mem_nil
  unfold setOutputs
  refine .bind (.of_faultsIn (outputByte_faults pattern) hpattern) fun byte => ?_
  refine .bind (.of_faultsIn (transmit_faults _ _) hport) fun _ => ?_
  refine .bind (.of_faultsIn (.modify _) hnone) fun _ => ?_
  refine .bind (.of_faultsIn (.request _) hnone) fun _ => ?_
  exact .bind (.of_faultsIn receive_faults hport) fun _ => .pause _

theorem readInputs_faults : FaultsIn portFaults readInputs := by
  unfold readInputs
  refine .bind .get fun controller => ?_
  refine .bind (transmit_faults _ _) fun _ => ?_
  exact .bind receive_faults fun _ => .pure _

theorem holds?_eq_none_iff {c : Condition} {inputs : Inputs} :
    c.holds? inputs = none ↔ c.isReal = false := by
  obtain ⟨in7, in6⟩ := c
  cases in7 <;> cases in6 <;> simp [Condition.holds?, Condition.isReal]

theorem checkInputs_faults (c : Condition) :
    FaultsIn (conditionFaults c ++ portFaults) (checkInputs c) := by
  unfold checkInputs
  refine .bind (readInputs_faults.mono (List.subset_append_right _ _)) fun inputs => ?_
  cases hholds : c.holds? inputs with
  | some holds => exact .pure _
  | none =>
    rw [conditionFaults, holds?_eq_none_iff.mp hholds]
    exact .throw (by simp)

/-- By induction on the readings that are left: the limit is met when none is. -/
theorem awaitChanges_faults (c : Condition) (limit : Number) (readings : Nat) :
    ∀ (last : Inputs) (changes : Nat),
      FaultsIn (.stepLimit :: .unsupportedCount :: portFaults)
        (awaitChanges c limit readings last changes) := by
  induction readings with
  | zero =>
    intro last changes
    unfold awaitChanges
    split
    · exact .throw (by simp)
    · exact .pure _
  | succ readings ih =>
    intro last changes
    unfold awaitChanges
    split
    · refine .bind (readInputs_faults.mono ?_) fun now => ?_
      · intro fault hf
        simp [hf]
      · cases c.watched? with
        | none => exact .throw (by simp)
        | some watched => exact ih _ _
    · exact .pure _

theorem countChanges_faults (readings : Nat) (c : Condition) (limit : Option Number) :
    FaultsIn (Instruction.count c limit).faults (countChanges readings c limit) := by
  unfold countChanges
  cases limit with
  | none =>
    refine .bind (readInputs_faults.mono (List.subset_cons_self _ _)) fun first => ?_
    exact .throw (by simp [Instruction.faults])
  | some limit =>
    refine .bind (readInputs_faults.mono ?_) fun first => ?_
    · intro fault hf
      simp [Instruction.faults, hf]
    · exact awaitChanges_faults c limit readings first 0

end Control

namespace Cursor

theorem leave_faults (c : Cursor) : FaultsIn [.noLoopToLeave] c.leave := by
  unfold leave
  split
  · exact .throw (by simp)
  · exact .pure _

theorem again_faults (c : Cursor) : FaultsIn [.noLoopToRepeat] c.again := by
  unfold again
  split
  · exact .throw (by simp)
  · exact .pure _

end Cursor

namespace Program

variable {program : Program} {readings : Nat} {c : Cursor}

/-- The end of a pass fails only if there is no loop or no count of passes. -/
theorem endPass_faults (program : Program) (c : Cursor) :
    FaultsIn [.noLoopToRepeat, .noPassCount] (program.endPass c) := by
  unfold endPass
  split
  · exact .throw (by simp)
  · exact .throw (by simp)
  · -- a loop is open, so it can be left and repeated
    dsimp only
    split
    · exact .pure _
    · exact .pure _

/-- A line stops only with one of its faults. -/
theorem execute_faults {i : Instruction} (hi : program[c.line]? = some i) :
    FaultsIn i.faults (program.execute readings c) := by
  unfold execute
  rw [hi]
  cases i with
  | setOutput label pattern wait =>
    exact .bind (Control.setOutputs_faults pattern wait none) fun _ => .pure _
  | repeatStart count =>
    dsimp only
    split
    · exact .pure _
    · exact .pure _
  | repeatUntil condition =>
    refine .bind ((Control.checkInputs_faults condition).mono ?_) fun met => ?_
    · exact List.subset_append_left _ _
    · cases met with
      | true => exact c.leave_faults.mono (by simp [Instruction.faults])
      | false => exact c.again_faults.mono (by simp [Instruction.faults])
  | repeatEnd => exact program.endPass_faults c
  | repeatForever => exact c.again_faults
  | ifStart condition =>
    refine .bind (Control.checkInputs_faults condition) fun met => ?_
    cases met with
    | true => exact .pure _
    | false => exact .pure _
  | ifEnd => exact .pure _
  | count condition limit =>
    exact .bind (Control.countChanges_faults readings condition limit) fun _ => .pure _
  | plain label condition pattern value => exact .throw (by simp [Instruction.faults])
  | plainEnd label condition => exact .throw (by simp [Instruction.faults])

/-- Only outputs wait. -/
theorem exists_setOutput_of_clock_mem {i : Instruction} {refusal : ClockFault}
    (h : .clock refusal ∈ i.faults) : ∃ label pattern wait, i = .setOutput label pattern wait := by
  have hcondition (c : Condition) : .clock refusal ∉ conditionFaults c := fun hmem =>
    absurd (conditionFaults_subset c hmem) (by simp)
  cases i with
  | setOutput label pattern wait => exact ⟨label, pattern, wait, rfl⟩
  | count condition limit => cases limit <;> simp [Instruction.faults, portFaults] at h
  | _ => simp [Instruction.faults, portFaults, hcondition] at h

/-- A line stops at the clock only if it is an output whose time the clock refuses. -/
theorem execute_clock {session : Session} {i : Instruction} (hi : program[c.line]? = some i)
    {refusal : ClockFault}
    (h : (session.perform (program.execute readings c)).result = .error (.clock refusal)) :
    ∃ label pattern wait, i = .setOutput label pattern wait ∧
      session.bench.clock (wait.getD 1) = .error refusal := by
  -- the list of faults leaves outputs alone; the clock itself is asked in `setOutputs_clock`
  obtain ⟨label, pattern, wait, rfl⟩ :=
    exists_setOutput_of_clock_mem (execute_faults hi session _ h)
  refine ⟨label, pattern, wait, rfl, ?_⟩
  unfold execute at h
  rw [hi] at h
  rcases Session.perform_bind_error.mp h with h | ⟨_, _, h⟩
  · exact Control.setOutputs_clock pattern wait none session refusal h
  · cases h

end Program

end LineControl

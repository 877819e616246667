import LineControl.Proofs.LoopFaults
import LineControl.Proofs.RecordText
import LineControl.Proofs.Sequence
import LineControl.Proofs.Slots

/-!
# Runs of loaded programs

A line that comes from a file is made by one of the two loaders, and neither makes every line that
there could be. `Instruction.IsFileLine` says which lines they make: one that can be listed and run,
with a pattern that is a byte. Together with the faults that a line can end in, this tells how a run
of a loaded program can stop.

The loaders do not look at the time that an output waits for. Any number may stand there, also one
that the clock of the system refuses. So a run of a loaded program may stop at the clock, and
`loaded_lines_fit` says that this is the only way for a number in it to be too large. The witness
against more is a record whose output waits for ten thousand million seconds: it is loaded, it is
accepted, its byte is sent, and then the clock of a system stops the run (`long_wait_stops_run`). A
patient clock would have waited. Which times a clock of a system takes is in `Control.Clock`; the
statements here are about any clock.

The loaders look at the conditions of `UNTIL` and `COUNT`, but not at that of `IF`. A record has no
way to write a condition that asks for nothing, an image has: a pattern with bits 1 and 0 set. An
`IF` with such a pattern is loaded, and the run stops there once the inputs are read
(`loaded_if_stops_run`).

## What is left out

Loading says nothing about structures. A loaded program may be refused by the check, and then its
run does nothing; the statements about runs include that case. They also include programs that a
failed load leaves behind, because nothing is asked of the load but that the file exists.
-/

set_option autoImplicit false

namespace LineControl

/-! ## 1. The lines of files -/

/-- Whether the line is of one of the eight kinds that have a meaning. -/
def Instruction.isConcrete : Instruction → Bool
  | .plain .. | .plainEnd .. => false
  | _ => true

/-- The line is one that a file can hold. -/
def Instruction.IsFileLine : Instruction → Prop
  | .setOutput label pattern value =>
    label.isSome = true ∧ (∃ n : Int, pattern = some n ∧ 0 ≤ n ∧ n ≤ 255) ∧
      value.all Number.isPrintable = true
  | .repeatUntil c => c.isReal = true
  | .count c value => c.isReal = true ∧ value.all Number.isPrintable = true
  | .repeatStart value => value.all Number.isPrintable = true
  | .repeatEnd | .repeatForever | .ifStart _ | .ifEnd => True
  | .plain .. | .plainEnd .. => False

/-- The faults of a line that is not fit to be executed: its pattern is no byte, it is none of the
lines with a meaning, or it counts up to a value that it does not have. -/
def unfitFaults : List Fault :=
  .unknownInstruction :: .noChangeLimit :: patternFaults

/-- The faults of a line that is fit to be executed. They are those of the port, of the clock, of
the loops around the line, and of a `COUNT` that goes on for too long or watches both inputs. -/
def fitFaults : List Fault :=
  [.noLoopToLeave, .noLoopToRepeat, .noPassCount, .stepLimit, .unsupportedCount] ++ portFaults ++
    clockFaults

theorem byteFaults_of_byte {n : Int} (hlow : 0 ≤ n) (hhigh : n ≤ 255) :
    byteFaults (some n) = [] := by
  have hnonneg : ¬ n < 0 := by omega
  have hbyte : ¬ 255 < n := by omega
  simp [byteFaults, hnonneg, hbyte]

theorem conditionFaults_of_isReal {c : Condition} (h : c.isReal = true) :
    conditionFaults c = [] := by
  simp [conditionFaults, h]

theorem Condition.eq_any_of_not_isReal {c : Condition} (h : c.isReal = false) : c = .any := by
  obtain ⟨in7, in6⟩ := c
  cases in7 <;> cases in6 <;> first | rfl | cases h

namespace Instruction.IsFileLine

variable {i : Instruction}

/-- A line of a file has a label, and a value that was read can be written down. -/
theorem isListable (h : i.IsFileLine) : i.isListable = true := by
  cases i with
  | setOutput label pattern value => exact Bool.and_eq_true_iff.mpr ⟨h.1, h.2.2⟩
  | repeatStart value => exact h
  | count condition value => exact h.2
  | plain label condition pattern value => exact h.elim
  | plainEnd label condition => exact h.elim
  | _ => rfl

theorem isConcrete (h : i.IsFileLine) : i.isConcrete = true := by
  cases i with
  | plain label condition pattern value => exact h.elim
  | plainEnd label condition => exact h.elim
  | _ => rfl

/-- Such a line is fit to be executed, unless it is an `IF` without a condition or a `COUNT` without
a value. -/
theorem fault_cases (h : i.IsFileLine) {fault : Fault} (hfault : fault ∈ i.faults) :
    fault ∈ fitFaults ∨ (fault = .noCondition ∧ i = .ifStart .any) ∨
      (fault = .noChangeLimit ∧ ∃ c, i = .count c none) := by
  have hport : portFaults ⊆ fitFaults := by decide
  cases i with
  | setOutput label pattern value =>
    obtain ⟨_, ⟨n, rfl, hlow, hhigh⟩, _⟩ := h
    rw [Instruction.faults, byteFaults_of_byte hlow hhigh] at hfault
    exact .inl ((by decide : [] ++ portFaults ++ clockFaults ⊆ fitFaults) hfault)
  | repeatStart count => cases hfault
  | repeatUntil condition =>
    rw [Instruction.faults, conditionFaults_of_isReal h] at hfault
    exact .inl ((by decide : [] ++ portFaults ++ _ ⊆ fitFaults) hfault)
  | repeatEnd => exact .inl ((by decide : [Fault.noLoopToRepeat, .noPassCount] ⊆ fitFaults) hfault)
  | repeatForever => exact .inl ((by decide : [Fault.noLoopToRepeat] ⊆ fitFaults) hfault)
  | ifStart condition =>
    -- an `IF` is the only line of a file whose condition may ask for nothing
    cases hreal : condition.isReal with
    | true =>
      rw [Instruction.faults, conditionFaults_of_isReal hreal] at hfault
      exact .inl (hport hfault)
    | false =>
      rcases List.mem_append.mp hfault with hlacks | hfault
      · have hlacks := List.mem_singleton.mp (conditionFaults_subset condition hlacks)
        exact .inr (.inl ⟨hlacks, by rw [Condition.eq_any_of_not_isReal hreal]⟩)
      · exact .inl (hport hfault)
  | ifEnd => cases hfault
  | count condition value =>
    cases value with
    | none =>
      rcases List.mem_cons.mp hfault with hlacks | hfault
      · exact .inr (.inr ⟨hlacks, condition, rfl⟩)
      · exact .inl (hport hfault)
    | some value =>
      exact .inl ((by decide : .stepLimit :: .unsupportedCount :: portFaults ⊆ fitFaults) hfault)
  | plain label condition pattern value => exact h.elim
  | plainEnd label condition => exact h.elim

end Instruction.IsFileLine

/-! ## 2. What the loaders make

Each loader is taken through the same steps: what a label and its data can stand for, what a slot or
a record can, and what a file can. -/

namespace Commodore

/-- A line made from a slot is one of a file, and an `IF` has the condition in its pattern. -/
theorem isFileLine_of_instruction {label : String} {pattern : UInt8} {value : Option Number}
    (hvalue : value.all Number.isPrintable = true)
    {i : Instruction} (h : instruction label pattern value = .ok i) :
    i.IsFileLine ∧ ∀ c, i = .ifStart c → c = asked pattern := by
  rcases instruction_ok h with hmem | ⟨hreal, hmem⟩
  · simp only [List.mem_cons, List.not_mem_nil, or_false] at hmem
    rcases hmem with rfl | rfl | rfl | rfl | rfl | rfl
    · exact ⟨hvalue, nofun⟩
    · exact ⟨trivial, nofun⟩
    · exact ⟨trivial, nofun⟩
    · refine ⟨trivial, ?_⟩
      rintro c ⟨rfl⟩
      rfl
    · exact ⟨trivial, nofun⟩
    · have hlt := pattern.toNat_lt
      exact ⟨⟨rfl, ⟨_, rfl, by omega, by omega⟩, hvalue⟩, nofun⟩
  · simp only [List.mem_cons, List.not_mem_nil, or_false] at hmem
    rcases hmem with rfl | rfl
    · exact ⟨hreal, nofun⟩
    · exact ⟨⟨hreal, hvalue⟩, nofun⟩

/-- A line that is loaded from an image is that of the slot with its number. -/
theorem decodeAt_of_load {bytes : List UInt8} {line : Nat} {i : Instruction}
    (h : (load bytes).program[line]? = some i) :
    isImage bytes = true ∧ decodeAt bytes line = .ok i := by
  cases himage : isImage bytes with
  | false =>
    rw [load_of_not_isImage himage] at h
    cases h
  | true =>
    refine ⟨rfl, ?_⟩
    unfold load at h
    dsimp only at h
    split at h
    · have hread := Loading.getElem?_of_ofLines h
      rw [List.getElem?_map, Option.map_eq_some_iff] at hread
      obtain ⟨index, hindex, hline⟩ := hread
      obtain ⟨_, rfl⟩ := List.getElem?_eq_some_iff.mp hindex
      rw [List.getElem_range] at hline
      exact hline
    · cases h

end Commodore

namespace Apple

/-- Every condition that can be written in a record asks for something. -/
theorem isReal_of_condition {bits : Int} {c : Condition} (h : condition bits = .ok c) :
    c.isReal = true := by
  unfold condition at h
  split at h
  · rename_i hbits
    rw [List.contains_iff_mem] at hbits
    cases h
    revert bits
    decide
  · cases h

theorem isFileLine_of_conditionLine {label : String} {bits : Int} {value : Option Number}
    (hvalue : value.all Number.isPrintable = true) {i : Instruction}
    (h : conditionLine label bits value = .ok i) :
    i.IsFileLine ∧ ∀ c, i = .ifStart c → c.isReal = true := by
  unfold conditionLine at h
  split at h
  · obtain ⟨c, hc, h⟩ := LoadFault.bind_ok h
    obtain ⟨hreal, rfl⟩ := Instruction.isReal_of_built h
    exact ⟨hreal, nofun⟩
  · obtain ⟨c, hc, h⟩ := LoadFault.bind_ok h
    cases h
    refine ⟨trivial, ?_⟩
    rintro c ⟨rfl⟩
    exact isReal_of_condition hc
  · obtain ⟨c, hc, h⟩ := LoadFault.bind_ok h
    obtain ⟨hreal, rfl⟩ := Instruction.isReal_of_built h
    exact ⟨⟨hreal, hvalue⟩, nofun⟩
  · cases h

theorem isFileLine_of_keywordLine {label : String} {bits : Int} {value : Option Number}
    (hvalue : value.all Number.isPrintable = true) {i : Instruction}
    (h : keywordLine label bits value = .ok i) :
    i.IsFileLine ∧ ∀ c, i = .ifStart c → c.isReal = true := by
  unfold keywordLine at h
  split at h
  · cases h
  · split at h
    case h_1 =>
      cases h
      exact ⟨hvalue, nofun⟩
    case h_5 => cases h
    all_goals
      cases h
      exact ⟨trivial, nofun⟩

/-- A line made from a record is one of a file, and an `IF` asks for something. -/
theorem isFileLine_of_instruction {label : String} {type bits : Int} {value : Option Number}
    (hvalue : value.all Number.isPrintable = true) {i : Instruction}
    (h : instruction label type bits value = .ok i) :
    i.IsFileLine ∧ ∀ c, i = .ifStart c → c.isReal = true := by
  unfold instruction at h
  split at h
  · split at h
    · rename_i hbyte
      cases h
      exact ⟨⟨rfl, ⟨bits, rfl, hbyte.1, by omega⟩, hvalue⟩, nofun⟩
    · cases h
  · split at h
    · exact isFileLine_of_conditionLine hvalue h
    · split at h
      · exact isFileLine_of_keywordLine hvalue h
      · cases h

/-- The value in a view was read, so it can be written down. -/
theorem isPrintable_of_read {labelLength : Int} {cs : List Char} {view : View}
    (h : View.read labelLength cs = .ok view) : view.value.all Number.isPrintable = true := by
  unfold View.read at h
  split at h
  · cases h
  · dsimp only at h
    split at h
    · cases h
      exact Number.isPrintable_ofField? _
    · cases h

theorem isFileLine_of_decode {r : Record} {i : Instruction} (h : r.decode = .ok i) :
    i.IsFileLine ∧ ∀ c, i = .ifStart c → c.isReal = true := by
  obtain ⟨labelLength, -, h⟩ := LoadFault.bind_ok h
  obtain ⟨view, hview, h⟩ := LoadFault.bind_ok h
  obtain ⟨type, -, h⟩ := LoadFault.bind_ok h
  obtain ⟨bits, -, h⟩ := LoadFault.bind_ok h
  exact isFileLine_of_instruction (isPrintable_of_read hview) h

/-- A line that is loaded from a record text is that of a record. -/
theorem exists_record_of_load {bytes : List UInt8} {line : Nat} {i : Instruction}
    (h : (load bytes).program[line]? = some i) : ∃ r : Record, r.decode = .ok i := by
  unfold load at h
  split at h
  · cases h
  · unfold ofLines at h
    split at h
    · cases h
    · split at h
      · cases h
      · split at h
        · have hread := Loading.getElem?_of_ofLines h
          rw [List.getElem?_map, Option.map_eq_some_iff] at hread
          obtain ⟨r, _, hr⟩ := hread
          exact ⟨r, hr⟩
        · cases h

end Apple

namespace Format

/-- A file is read as an image, or else as a record text or not at all. -/
theorem load_cases (format : Format) (bytes : List UInt8) :
    (format ≠ .apple ∧ Commodore.isImage bytes = true) ∧
      format.load bytes = Commodore.load bytes ∨
    ¬ (format ≠ .apple ∧ Commodore.isImage bytes = true) ∧
      (format.load bytes = Apple.load bytes ∨ format.load bytes = .failed .imageLayout) := by
  rcases load_detect bytes with ⟨himage, hdetect, -⟩ | ⟨himage, hdetect, hcommodore⟩
  · cases format with
    | detect => exact .inl ⟨⟨nofun, himage⟩, hdetect⟩
    | commodore => exact .inl ⟨⟨nofun, himage⟩, rfl⟩
    | apple => exact .inr ⟨fun h => h.1 rfl, .inl rfl⟩
  · refine .inr ⟨fun h => ?_, ?_⟩
    · rw [himage] at h
      cases h.2
    · cases format with
      | detect => exact .inl hdetect
      | commodore => exact .inr hcommodore
      | apple => exact .inl rfl

/-- A loaded `IF` lacks a condition exactly if it comes from an image and bits 1 and 0 of its
pattern are set. All loaded lines are lines of files. -/
theorem isFileLine_of_load {format : Format} {bytes : List UInt8} {line : Nat} {i : Instruction}
    (h : (format.load bytes).program[line]? = some i) :
    i.IsFileLine ∧ ∀ c, i = .ifStart c → (c.isReal = false ↔
      (format ≠ .apple ∧ Commodore.isImage bytes = true) ∧
      ((Commodore.table bytes).getD line Commodore.freeMark).toNat.testBit 0 = true ∧
      ((Commodore.table bytes).getD line Commodore.freeMark).toNat.testBit 1 = true) := by
  rcases format.load_cases bytes with ⟨himage, hload⟩ | ⟨hother, hload | hload⟩
  · rw [hload] at h
    obtain ⟨_, _, _, _, hline⟩ := Commodore.decodeSlot_ok (Commodore.decodeAt_of_load h).2
    obtain ⟨hfile, hif⟩ :=
      Commodore.isFileLine_of_instruction (Number.isPrintable_ofField? _) hline
    refine ⟨hfile, fun c hc => ?_⟩
    rw [hif c hc, ← Bool.not_eq_true, Commodore.isReal_asked, not_not, and_iff_right himage]
  · rw [hload] at h
    obtain ⟨r, hr⟩ := Apple.exists_record_of_load h
    obtain ⟨hfile, hif⟩ := Apple.isFileLine_of_decode hr
    refine ⟨hfile, fun c hc => ?_⟩
    rw [hif c hc]
    simp [hother]
  · rw [hload] at h
    cases h

theorem isFileLine_of_mem {format : Format} {bytes : List UInt8} {i : Instruction}
    (h : i ∈ (format.load bytes).program) : i.IsFileLine := by
  obtain ⟨line, hline⟩ := List.mem_iff_getElem?.mp h
  exact (isFileLine_of_load hline).1

end Format

/-! ## 3. Runs of file lines -/

namespace Program

variable {program : Program} {readings : Nat} {c : Cursor} {session : Session}

theorem isListable_of_isFileLine (h : ∀ i ∈ program, i.IsFileLine) :
    program.isListable = true := by
  rw [isListable, List.all_eq_true]
  intro i hi
  exact (h i hi).isListable

/-- A run of lines from a file never stops at a line that is not fit to be executed. -/
theorem not_mem_unfitFaults_of_run (hlines : ∀ i ∈ session.controller.program, i.IsFileLine)
    {screens : Nat} {fault : Fault} (herr : (session.run screens).result = .error fault) :
    fault ∉ unfitFaults := by
  cases hcheck : session.controller.program.check with
  | error refusal =>
    rw [Session.run_of_check_error hcheck] at herr
    cases herr
    simp [unfitFaults, patternFaults]
  | ok accepted =>
    have hfit : ∀ fault ∈ fitFaults, fault ∉ unfitFaults := by decide
    have hshown : ∀ fault ∈ screenFaults, fault ∉ unfitFaults := by decide
    by_cases hscreen : fault ∈ screenFaults
    · exact hshown fault hscreen
    · obtain ⟨i, hi, hfault⟩ := exists_line_of_run_error hcheck hscreen herr
      rcases (hlines i hi).fault_cases hfault with hfault | ⟨rfl, _⟩ | ⟨_, condition, rfl⟩
      · exact hfit fault hfault
      · decide
      · -- the check has seen to it that there is no such line
        exact absurd hi (countsHaveValues_of_check hcheck condition)

/-- At an `IF` that asks for nothing the inputs are read, and the answer is of no use. -/
theorem execute_noCondition_iff (hi : program[c.line]? = some (.ifStart .any)) :
    (session.perform (program.execute readings c)).result = .error .noCondition ↔
      ∃ inputs, (session.perform Control.readInputs).result = .ok inputs := by
  unfold execute
  rw [hi]
  constructor
  · intro herr
    rcases Session.perform_bind_error.mp herr with herr | ⟨met, _, herr⟩
    · rcases Session.perform_bind_error.mp herr with herr | ⟨inputs, hread, _⟩
      · exact absurd (Control.readInputs_faults session _ herr) (by decide)
      · exact ⟨inputs, hread⟩
    · cases met with
      | true => cases herr
      | false => cases herr
  · rintro ⟨inputs, hread⟩
    have hcheck : (session.perform (Control.checkInputs .any)).result = .error .noCondition :=
      Session.perform_bind_error.mpr (.inr ⟨inputs, hread, rfl⟩)
    exact Session.perform_bind_error.mpr (.inl hcheck)

/-- A run of lines from a file stops for a missing condition exactly if it comes to an `IF` that
asks for nothing and gets the inputs there. -/
theorem run_noCondition_iff (hlines : ∀ i ∈ session.controller.program, i.IsFileLine) :
    (∃ screens, (session.run screens).result = .error .noCondition) ↔
      session.controller.program.check = .ok () ∧ ∃ turns now c,
        session.controller.program.Reaches session.bench.readings session turns now c ∧
        session.controller.program[c.line]? = some (.ifStart .any) ∧
        ∃ inputs, (now.perform Control.readInputs).result = .ok inputs := by
  constructor
  · rintro ⟨screens, herr⟩
    cases hcheck : session.controller.program.check with
    | error refusal =>
      rw [Session.run_of_check_error hcheck] at herr
      cases herr
    | ok accepted =>
      obtain ⟨turns, now, c, hreach, herr⟩ := exists_reaches_of_run_error hcheck (by decide) herr
      have hi := List.getElem?_eq_getElem hreach.line_lt
      rcases turn_eq_error_iff.mp herr with hlabel | ⟨_, herr⟩
      · exact absurd (Control.display_faults _ _ _ _ hlabel) (by decide)
      · have hfault := execute_faults hi now _ herr
        rcases (hlines _ (List.mem_of_getElem? hi)).fault_cases hfault with
          hfault | ⟨_, hif⟩ | ⟨hfault, _⟩
        · exact absurd hfault (by decide)
        · rw [hif] at hi
          exact ⟨rfl, turns, now, c, hreach, hi, (execute_noCondition_iff hi).mp herr⟩
        · cases hfault
  · rintro ⟨hcheck, turns, now, c, hreach, hi, hread⟩
    -- the screen does not stop the run first, since lines of files can be listed
    have hlist : now.controller.program.isListable = true := by
      rw [hreach.program_eq]
      exact isListable_of_isFileLine hlines
    obtain ⟨text, hshown⟩ := perform_display hlist (some c.line)
    refine ⟨turns + 1, hreach.exists_run_eq_error hcheck ?_⟩
    refine turn_eq_error_iff.mpr (.inr ⟨?_, (execute_noCondition_iff hi).mpr hread⟩)
    rw [hshown]

end Program

/-! ## 4. Runs of loaded programs -/

/-- The session with another clock. -/
def Session.withClock (session : Session) (clock : Clock) : Session :=
  { session with bench := { session.bench with clock := clock } }

theorem Session.program_of_load {session : Session} {file : String} {bytes : List UInt8}
    (hfile : session.bench.files file = some bytes) (format : Format) :
    (session.perform (Control.load file (some format))).session.controller.program =
      (format.load bytes).program := by
  rw [Session.perform_load hfile]
  rfl

theorem Session.isFileLine_of_load {session : Session} {file : String} {bytes : List UInt8}
    (hfile : session.bench.files file = some bytes) (format : Format) :
    ∀ i ∈ (session.perform (Control.load file (some format))).session.controller.program,
      i.IsFileLine := by
  rw [Session.program_of_load hfile]
  intro i hi
  exact Format.isFileLine_of_mem hi

/-- Whether a number did not fit where it was to go: a pattern into a byte, or a time into the word
of a clock. -/
def Fault.isOverflow : Fault → Bool
  | .patternNegative | .patternTooLarge | .clock .tooLong | .clock .outOfRange => true
  | _ => false

/-- Where every pattern is a byte, only a time can be too large. -/
theorem Fault.exists_clock_of_isOverflow {fault : Fault} (hfit : fault ∉ unfitFaults)
    (h : fault.isOverflow = true) : ∃ refusal, fault = .clock refusal := by
  unfold isOverflow at h
  split at h
  · exact absurd (by decide) hfit
  · exact absurd (by decide) hfit
  · exact ⟨_, rfl⟩
  · exact ⟨_, rfl⟩
  · cases h

/-- **Loaded programs can be executed line by line.** Whatever is loaded from a file, every line of
it is of a kind with a meaning, and every pattern is a byte. So no run of it stops at a line that is
not fit to be executed. A number in it can be too large only for the clock, and the run stops at the
clock only if that refuses the time of an output. If some `COUNT` has no value, the program is
refused before anything is executed. This also holds for the lines that a load leaves behind when it
fails. -/
theorem loaded_lines_fit {session : Session} {file : String} {bytes : List UInt8}
    (hfile : session.bench.files file = some bytes) (format : Format) :
    let loaded := (session.perform (Control.load file (some format))).session.controller.program
    (∀ i ∈ loaded, i.isConcrete = true ∧
      ∀ label pattern wait, i = .setOutput label pattern wait →
        ∃ n : Int, pattern = some n ∧ 0 ≤ n ∧ n ≤ 255) ∧
    ∀ now : Session, now.controller.program = loaded → ∀ screens,
      (∀ fault, (now.run screens).result = .error fault → fault ∉ unfitFaults ∧
        (fault.isOverflow = true → ∃ refusal, fault = .clock refusal) ∧
        ∀ refusal, fault = .clock refusal → ∃ label pattern wait,
          .setOutput label pattern wait ∈ loaded ∧
          now.bench.clock (wait.getD 1) = .error refusal) ∧
      ((∃ condition, .count condition none ∈ loaded) →
        ∃ refusal, now.run screens = ⟨.error (.nesting refusal), [], "", now⟩) := by
  intro loaded
  have hlines : ∀ i ∈ loaded, i.IsFileLine := Session.isFileLine_of_load hfile format
  refine ⟨?_, ?_⟩
  · intro i hi
    refine ⟨(hlines i hi).isConcrete, ?_⟩
    rintro label pattern wait rfl
    exact (hlines _ hi).2.1
  · intro now hnow screens
    refine ⟨?_, ?_⟩
    · intro fault herr
      rw [← hnow] at hlines ⊢
      -- of the faults of overflow, those of a pattern are unfit, and those of a clock are left
      have hfit := Program.not_mem_unfitFaults_of_run hlines herr
      refine ⟨hfit, Fault.exists_clock_of_isOverflow hfit, ?_⟩
      rintro refusal rfl
      exact Program.exists_wait_of_run_error herr
    · rintro ⟨condition, hmem⟩
      rw [← hnow] at hmem
      cases hcheck : now.controller.program.check with
      | error refusal => exact ⟨refusal, Session.run_of_check_error hcheck screens⟩
      | ok accepted => exact absurd hmem (Program.countsHaveValues_of_check hcheck condition)

/-- The image with the given labels and patterns, without values. -/
def Commodore.labelled (lines : List (List Char × UInt8)) : List UInt8 :=
  (lines.flatMap fun line =>
      line.1.map Char.toUInt8 ++ List.replicate (slotSize - line.1.length) 0) ++
    List.replicate (tableStart - lines.length * slotSize) 0 ++ lines.map Prod.snd ++
    List.replicate (slotCount + 1 - lines.length) freeMark

/-- Starts a motor and waits for changes of input 7, but does not say for how many. -/
def uncountedMotor : List UInt8 :=
  Commodore.labelled [(['m', 'o', 't', 'o', 'r'], 5), (['C', 'O', 'U', 'N', 'T'], 0x81)]

/-- With a value for `COUNT` the run stops only when the port refuses, and without one it does not
start. -/
theorem lines_fit_of_motors :
    let session (bytes : List UInt8) : Session := ({} : Session).withFiles fun _ => some bytes
    let counted := ((session (Commodore.image Commodore.motorUntilPressed)).perform
      (Control.load "motor" (some .commodore))).session.controller.program
    let uncounted := ((session uncountedMotor).perform
      (Control.load "motor" (some .commodore))).session.controller.program
    ((Session.answering counted [0]).run 3).result = .error .writeRefused ∧
    Fault.writeRefused ∉ unfitFaults ∧
    .count ⟨some true, none⟩ none ∈ uncounted ∧
    ∃ refusal, (Session.answering uncounted [0]).run 3 =
      ⟨.error (.nesting refusal), [], "", Session.answering uncounted [0]⟩ := by
  intro session counted uncounted
  have hfile (bytes : List UInt8) : (session bytes).bench.files "motor" = some bytes := rfl
  have hcounted : counted = [.setOutput (some "motor") (some 5) none,
      .count ⟨some true, none⟩ (some 3), .setOutput (some "motor") (some 0) (some 0.5)] := by
    have hload := Commodore.load_image (by decide : Commodore.motorUntilPressed.length ≤ _)
    refine (Session.program_of_load (hfile _) .commodore).trans ?_
    rw [Format.load, hload]
    decide +kernel
  have huncounted : uncounted = [.setOutput (some "motor") (some 5) none,
      .count ⟨some true, none⟩ none] := by
    refine (Session.program_of_load (hfile _) .commodore).trans ?_
    decide +kernel
  have hrun : ((Session.answering counted [0]).run 3).result = .error .writeRefused := by
    rw [hcounted]
    rfl
  have hmem : .count ⟨some true, none⟩ none ∈ uncounted := by
    rw [huncounted]
    simp
  obtain ⟨-, hfits⟩ := loaded_lines_fit (hfile (Commodore.image _)) .commodore
  obtain ⟨-, hrefused⟩ := loaded_lines_fit (hfile uncountedMotor) .commodore
  refine ⟨hrun, ?_, hmem, ?_⟩
  · exact ((hfits _ (Session.program_answering counted [0]) 3).1 _ hrun).1
  · exact (hrefused _ (Session.program_answering uncounted [0]) 3).2 ⟨_, hmem⟩

/-- One record: an output that waits for more than three hundred years. -/
def longWaitText : List Char :=
  "1\n5\n;motor     ~AsHHHHHHHHHHHHHHHHHt~@10000000000\n0\n1\n".toList

/-- The file is loaded and its program accepted, but on the clock of a system the run stops: the
time is too long. Its byte was sent, and the answer taken. -/
theorem long_wait_stops_run :
    let bytes := longWaitText.flatMap String.utf8EncodeChar
    let session := ({} : Session).withFiles fun _ => some bytes
    let program : Program := [.setOutput (some "motor") (some 1) (some 10000000000)]
    session.perform (Control.load "wait" (some .apple)) =
      ⟨.ok (), [], "", session.holding program⟩ ∧
    program.check = .ok () ∧ (Fault.clock .tooLong).isOverflow = true ∧
    ∀ now, let report := ((Session.answering program [0]).withClock (.system now)).run 2
      report.result = .error (.clock .tooLong) ∧
      report.events =
        [.displayed (some 0), .wrote (some 1) true, .timeoutSet none, .read (some 0)] := by
  intro bytes session program
  have hfile : session.bench.files "wait" = some bytes := rfl
  have hload : (Apple.load bytes).program = program ∧ (Apple.load bytes).fault = none := by
    decide +kernel
  refine ⟨?_, rfl, rfl, fun now => ⟨rfl, rfl⟩⟩
  rw [Session.perform_load hfile, Format.load, hload.1, Loading.result, hload.2]

/-- **An `IF` is the only loaded line that may ask for nothing.** The conditions of loaded `UNTIL`s
and `COUNT`s ask for something, and so do those of `IF`s, unless the file is read as an image and
bits 1 and 0 of the line's pattern are set. A run of the loaded program stops for a missing
condition if and only if the program is accepted and the run comes to such an `IF` and gets the
inputs there. -/
theorem loaded_conditions {session : Session} {file : String} {bytes : List UInt8}
    (hfile : session.bench.files file = some bytes) (format : Format) :
    let loaded := (session.perform (Control.load file (some format))).session.controller.program
    (∀ condition, .repeatUntil condition ∈ loaded → condition.isReal = true) ∧
    (∀ condition value, .count condition value ∈ loaded → condition.isReal = true) ∧
    (∀ line condition, loaded[line]? = some (.ifStart condition) → (condition.isReal = false ↔
      (format ≠ .apple ∧ Commodore.isImage bytes = true) ∧
      ((Commodore.table bytes).getD line Commodore.freeMark).toNat.testBit 0 = true ∧
      ((Commodore.table bytes).getD line Commodore.freeMark).toNat.testBit 1 = true)) ∧
    ∀ now : Session, now.controller.program = loaded →
      ((∃ screens, (now.run screens).result = .error .noCondition) ↔
        loaded.check = .ok () ∧ ∃ turns reached c,
          loaded.Reaches now.bench.readings now turns reached c ∧
          loaded[c.line]? = some (.ifStart .any) ∧
          ∃ inputs, (reached.perform Control.readInputs).result = .ok inputs) := by
  intro loaded
  have hlines : ∀ i ∈ loaded, i.IsFileLine := Session.isFileLine_of_load hfile format
  refine ⟨?_, ?_, ?_, ?_⟩
  · intro condition hmem
    exact hlines _ hmem
  · intro condition value hmem
    exact (hlines _ hmem).1
  · intro line condition hline
    rw [show loaded = _ from Session.program_of_load hfile format] at hline
    exact (Format.isFileLine_of_load hline).2 condition rfl
  · intro now hnow
    rw [← hnow] at hlines ⊢
    exact Program.run_noCondition_iff hlines

/-- An `IF` with a pattern that asks for nothing, and an `UNTIL` with one that asks for input 7. -/
def ifOfAnyReading : List UInt8 :=
  Commodore.labelled [(['I', 'F'], 0x83), (['E', 'N', 'D', 'I', 'F'], 0),
    (['R', 'E', 'P', 'E', 'A', 'T'], 0), (['U', 'N', 'T', 'I', 'L'], 0x81)]

/-- Its `UNTIL` asks for input 7 and its `IF` for nothing, so a run of it stops at the `IF`. -/
theorem conditions_of_ifOfAnyReading :
    let session := ({} : Session).withFiles fun _ => some ifOfAnyReading
    let loaded :=
      (session.perform (Control.load "if" (some .commodore))).session.controller.program
    .repeatUntil ⟨some true, none⟩ ∈ loaded ∧ loaded[0]? = some (.ifStart .any) ∧
    (Condition.mk (some true) none).isReal = true ∧
    ((Commodore.table ifOfAnyReading).getD 0 Commodore.freeMark).toNat.testBit 0 = true ∧
    ∃ screens, ((Session.answering loaded [0]).run screens).result = .error .noCondition := by
  intro session loaded
  have hfile : session.bench.files "if" = some ifOfAnyReading := rfl
  have hloaded : loaded = [.ifStart .any, .ifEnd, .repeatStart none,
      .repeatUntil ⟨some true, none⟩] := by
    refine (Session.program_of_load hfile .commodore).trans ?_
    decide +kernel
  have hmem : .repeatUntil ⟨some true, none⟩ ∈ loaded := by
    rw [hloaded]
    simp
  have hif : loaded[0]? = some (.ifStart .any) := by
    rw [hloaded]
    rfl
  have hread (program : Program) :
      ((Session.answering program [0]).perform Control.readInputs).result =
        .ok ⟨false, false⟩ := rfl
  obtain ⟨huntil, -, hpattern, hrun⟩ := loaded_conditions hfile .commodore
  refine ⟨hmem, hif, huntil _ hmem, ((hpattern 0 .any hif).mp rfl).2.1, ?_⟩
  refine (hrun _ (Session.program_answering loaded [0])).mpr
    ⟨?_, 0, _, {}, .start ?_, hif, _, hread loaded⟩
  · show loaded.check = .ok ()
    rw [hloaded]
    rfl
  · show loaded ≠ []
    rw [hloaded]
    exact List.cons_ne_nil _ _

/-- The file is loaded, and the run stops at its first line. -/
theorem loaded_if_stops_run :
    let session := ({} : Session).withFiles fun _ => some ifOfAnyReading
    let program : Program :=
      [.ifStart .any, .ifEnd, .repeatStart none, .repeatUntil ⟨some true, none⟩]
    session.perform (Control.load "if" (some .commodore)) =
      ⟨.ok (), [], "", session.holding program⟩ ∧
    program.check = .ok () ∧
    ((Session.answering program [0]).run 1).result = .error .noCondition := by
  intro session program
  have hfile : session.bench.files "if" = some ifOfAnyReading := rfl
  have hload : Commodore.load ifOfAnyReading = ⟨program, none⟩ := by
    rw [Commodore.load_eq_iff]
    decide +kernel
  refine ⟨?_, rfl, rfl⟩
  rw [Session.perform_load hfile, Format.load, hload]
  rfl

end LineControl

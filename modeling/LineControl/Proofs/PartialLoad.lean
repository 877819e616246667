import LineControl.Proofs.Loaded

/-!
# What a load leaves behind

A file is looked at as a whole before anything is read from it: an image for its layout, a record
text for its characters, its first line and the number of its lines. Then it falls into parts, slots
or records, each of which is a line or a fault by itself (`ReadInParts`). The parts are read in
order, and the first fault ends the load. What was read before it stays
(`load_leaves_lines_before_fault`), and nothing stays of the program held before.

`ReadInParts` is the description of both formats that the statement is about. It does not say what a
part is decoded to, only which bytes and lines it is decoded from, and a part does not depend on the
others. So "the lines before the fault" are lines that the file would have given without it.

There may be no parts, in a text of no records or an image with no slot in use, and then no line
can fail: the file loads as the empty program. A load without a format, or of a file that there is
not, changes nothing at all. These are the only failures that leave the old program.
-/

set_option autoImplicit false

namespace LineControl

/-! ## 1. Lines up to the first fault

Loads of both formats end in a list of lines, some of which may be faults. What is taken of such a
list does not depend on where it comes from. -/

/-- Either all lines are taken, or those before the first fault. -/
theorem Loading.ofLines_cases (lines : List (Except LoadFault Instruction)) :
    lines = (ofLines lines).program.map .ok ∧ (ofLines lines).fault = none ∨
      ∃ fault rest, lines = (ofLines lines).program.map .ok ++ .error fault :: rest ∧
        (ofLines lines).fault = some fault := by
  induction lines with
  | nil => exact .inl ⟨rfl, rfl⟩
  | cons x rest ih =>
    cases x with
    | error fault => exact .inr ⟨fault, rest, rfl, rfl⟩
    | ok i =>
      rcases ih with ⟨hlines, hfault⟩ | ⟨fault, later, hlines, hfault⟩
      · exact .inl ⟨congrArg (.ok i :: ·) hlines, hfault⟩
      · exact .inr ⟨fault, later, congrArg (.ok i :: ·) hlines, hfault⟩

/-- The first fault has a place, and the lines before it are taken. -/
theorem Loading.ofLines_range (count : Nat) (part : Nat → Except LoadFault Instruction) :
    let loading := ofLines ((List.range count).map part)
    loading.fault = none ∧ (List.range count).map part = loading.program.map .ok ∨
      ∃ k < count, ∃ fault, part k = .error fault ∧ loading.fault = some fault ∧
        (List.range k).map part = loading.program.map .ok := by
  intro loading
  rcases ofLines_cases ((List.range count).map part) with
    ⟨hlines, hfault⟩ | ⟨fault, rest, hlines, hfault⟩
  · exact .inl ⟨hfault, hlines⟩
  · have hlength := congrArg List.length hlines
    simp only [List.length_map, List.length_range, List.length_append, List.length_cons] at hlength
    -- the number of lines taken is the place of the fault
    have hlt : loading.program.length < count := by
      show (ofLines _).program.length < count
      omega
    refine .inr ⟨loading.program.length, hlt, fault, ?_, hfault, ?_⟩
    · have hat := congrArg (·[loading.program.length]?) hlines
      simpa [loading, hlt] using hat
    · have htake := congrArg (List.take loading.program.length) hlines
      rw [← List.map_take, List.take_range, Nat.min_eq_left (Nat.le_of_lt hlt)] at htake
      rw [htake, List.take_left' (List.length_map _)]

/-! ## 2. The parts of a file

The second half of the section is the converse: a file that does not fall into parts is refused as a
whole, with no line taken. -/

namespace Apple

/-- The record with the given number in the lines below the first one. -/
def recordAt (lines : List (List Char)) (index : Nat) : Record where
  labelLength := lines.getD (4 * index) []
  view := lines.getD (4 * index + 1) []
  type := lines.getD (4 * index + 2) []
  bits := lines.getD (4 * index + 3) []

/-- The records in a row of lines by their numbers, four lines each. -/
theorem records_eq_map {lines : List (List Char)} {count : Nat} (h : lines.length = 4 * count) :
    records lines = (List.range count).map (recordAt lines) := by
  induction count generalizing lines with
  | zero =>
    rw [List.eq_nil_of_length_eq_zero h]
    rfl
  | succ count ih =>
    match lines, h with
    | labelLength :: view :: type :: bits :: rest, h =>
      have hrest : rest.length = 4 * count := by
        simp only [List.length_cons] at h
        omega
      rw [records, ih hrest, List.range_succ_eq_map, List.map_cons, List.map_map]
      rfl

end Apple

/-- A file of the format falls into `count` parts, of which each is a line or a fault by itself. -/
inductive ReadInParts (bytes : List UInt8) :
    Format → (count : Nat) → (part : Nat → Except LoadFault Instruction) → Prop where
  /-- The slots of an image, as many as are in use, if those after them are zero. -/
  | slots {format : Format} (asked : format ≠ .apple) (layout : Commodore.isImage bytes = true)
      (zeros : (Commodore.slice ((Commodore.usedSlots bytes).length * Commodore.slotSize)
        Commodore.reservedStart bytes).all (· == 0) = true) :
      ReadInParts bytes format (Commodore.usedSlots bytes).length (Commodore.decodeAt bytes)
  /-- The records of a text, as many as its first line says, if there are lines for them. -/
  | records {format : Format} {text first : List Char} {rest : List (List Char)} {count : Nat}
      (asked : format = .apple ∨ format = .detect ∧ Commodore.isImage bytes = false)
      (decoded : Text.Utf8.decode bytes = .ok text)
      (lines : (Text.lines text).map Text.trimEnd = first :: rest)
      (counted : Apple.wholeNumber first = .ok count) (enough : rest.length = 4 * count) :
      ReadInParts bytes format count fun index => (Apple.recordAt rest index).decode

theorem Commodore.load_slots {bytes : List UInt8} (layout : isImage bytes = true)
    (zeros :
      (slice ((usedSlots bytes).length * slotSize) reservedStart bytes).all (· == 0) = true) :
    load bytes = .ofLines ((List.range (usedSlots bytes).length).map (decodeAt bytes)) := by
  rw [load, layout, usedCount_eq_length (isImage_iff.mp layout).1, zeros]
  rfl

/-- A record text falls into parts, or fails before the first line. -/
theorem Apple.load_records (bytes : List UInt8) :
    (∃ text first rest, ∃ count : Nat, Text.Utf8.decode bytes = .ok text ∧
      (Text.lines text).map Text.trimEnd = first :: rest ∧ wholeNumber first = .ok count ∧
      rest.length = 4 * count) ∨ ∃ fault, load bytes = .failed fault := by
  unfold load
  cases hdecode : Text.Utf8.decode bytes with
  | error fault => exact .inr ⟨_, rfl⟩
  | ok text =>
    dsimp only
    cases hlines : (Text.lines text).map Text.trimEnd with
    | nil => exact .inr ⟨_, rfl⟩
    | cons first rest =>
      rw [ofLines]
      cases hcount : wholeNumber first with
      | error fault => exact .inr ⟨_, rfl⟩
      | ok count =>
        dsimp only
        split
        · rename_i hlength
          obtain ⟨count, rfl⟩ := Int.eq_ofNat_of_zero_le (show 0 ≤ count by omega)
          exact .inl ⟨text, first, rest, count, rfl, hlines, hcount, by omega⟩
        · exact .inr ⟨_, rfl⟩

namespace ReadInParts

variable {bytes : List UInt8} {format : Format} {count : Nat}
  {part : Nat → Except LoadFault Instruction}

/-- The parts are read in their order. -/
theorem load_eq (h : ReadInParts bytes format count part) :
    format.load bytes = .ofLines ((List.range count).map part) := by
  cases h with
  | slots asked layout zeros =>
    rw [← Commodore.load_slots layout zeros]
    cases format with
    | detect => exact if_pos layout
    | commodore => rfl
    | apple => exact absurd rfl asked
  | @records text first rest _ asked decoded lines counted enough =>
    have hload : format.load bytes = Apple.load bytes := by
      rcases asked with rfl | ⟨rfl, himage⟩
      · rfl
      · rw [Format.load, himage]
        rfl
    have hlength : (rest.length : Int) = count * 4 := by omega
    rw [hload, Apple.load, decoded]
    dsimp only
    rw [lines, Apple.ofLines, counted]
    dsimp only
    rw [if_pos hlength, Apple.records_eq_map enough, List.map_map]
    rfl

/-- A file that does not fall into parts fails before the first line. -/
theorem exists_failed (h : ∀ count part, ¬ ReadInParts bytes format count part) :
    ∃ fault, format.load bytes = .failed fault := by
  -- first each of the two loaders, then the formats that choose between them
  have himage (asked : format ≠ .apple) : ∃ fault, Commodore.load bytes = .failed fault := by
    unfold Commodore.load
    dsimp only
    split
    · rename_i hchecked
      rw [Bool.and_eq_true] at hchecked
      rw [Commodore.usedCount_eq_length (Commodore.isImage_iff.mp hchecked.1).1] at hchecked
      exact absurd (.slots asked hchecked.1 hchecked.2) (h _ _)
    · exact ⟨_, rfl⟩
  have htext (asked : format = .apple ∨ format = .detect ∧ Commodore.isImage bytes = false) :
      ∃ fault, Apple.load bytes = .failed fault := by
    rcases Apple.load_records bytes with
      ⟨text, first, rest, count, decoded, lines, counted, enough⟩ | hfailed
    · exact absurd (.records asked decoded lines counted enough) (h _ _)
    · exact hfailed
  cases format with
  | detect =>
    rcases Format.load_detect bytes with ⟨_, hdetect, -⟩ | ⟨hnone, hdetect, -⟩
    · rw [hdetect]
      exact himage nofun
    · rw [hdetect]
      exact htext (.inr ⟨rfl, hnone⟩)
  | commodore => exact himage nofun
  | apple => exact htext (.inl rfl)

end ReadInParts

/-! ## 3. Loading into a session -/

/-- **A load leaves the lines before the first fault, and nothing of the old program.** With no
known format, or with no such file, a load fails and leaves the session as it was.

In any other case its result and the program that it leaves are given by the format and the bytes of
the file alone, whatever the session; and of the session only the program changes, so neither the
connection nor the byte in the latch. If the file falls into parts, then either each of them is a
line, and all the lines are left, or the load fails with the fault of the first part that is none,
and the lines before it are left. If it does not fall into parts, the load fails and leaves no
lines. -/
theorem load_leaves_lines_before_fault (file : String) :
    (∀ session : Session, session.perform (Control.load file none) =
      ⟨.error (.load .unknownFormat), [], "", session⟩) ∧
    (∀ (session : Session) (format : Format), session.bench.files file = none →
      session.perform (Control.load file (some format)) =
        ⟨.error (.load .noSuchFile), [], "", session⟩) ∧
    ∀ (format : Format) (bytes : List UInt8), ∃ result program,
      (∀ session : Session, session.bench.files file = some bytes →
        session.perform (Control.load file (some format)) =
          ⟨result, [], "", session.holding program⟩) ∧
      (∀ count part, ReadInParts bytes format count part →
        result = .ok () ∧ (List.range count).map part = program.map .ok ∨
        ∃ k < count, ∃ fault, part k = .error fault ∧ result = .error (.load fault) ∧
          (List.range k).map part = program.map .ok) ∧
      ((∀ count part, ¬ ReadInParts bytes format count part) →
        (∃ fault, result = .error (.load fault)) ∧ program = []) := by
  refine ⟨fun _ => rfl, fun session format hfile => ?_, fun format bytes => ?_⟩
  · have hfetch : session.perform (Control.request (.fetch file)) =
        ⟨.ok none, [], "", session⟩ := by
      rw [← hfile]
      rfl
    unfold Control.load
    dsimp only
    rw [Session.perform_bind, hfetch]
    rfl
  · refine ⟨(format.load bytes).result, (format.load bytes).program, ?_, ?_, ?_⟩
    · intro session hfile
      exact Session.perform_load hfile format
    · intro count part hparts
      rw [hparts.load_eq]
      rcases Loading.ofLines_range count part with
        ⟨hfault, hlines⟩ | ⟨k, hk, fault, hpart, hfault, hlines⟩
      · exact .inl ⟨Loading.result_eq_ok_iff.mpr hfault, hlines⟩
      · refine .inr ⟨k, hk, fault, hpart, ?_, hlines⟩
        rw [Loading.result, hfault]
    · intro hnone
      obtain ⟨fault, hfailed⟩ := ReadInParts.exists_failed hnone
      rw [hfailed]
      exact ⟨⟨fault, rfl⟩, rfl⟩

/-- Starts a motor, and waits until nothing is asked for. -/
def motorUntilAnything : List UInt8 :=
  Commodore.labelled [(['m', 'o', 't', 'o', 'r'], 5), (['U', 'N', 'T', 'I', 'L'], 0x83)]

/-- The line of the motor takes the place of the program held before. -/
theorem load_leaves_motor :
    let session := (Session.answering [.repeatStart none, .repeatForever] [0]).withFiles fun _ =>
      some motorUntilAnything
    session.perform (Control.load "motor" (some .commodore)) =
      ⟨.error (.load (.build .noCondition)), [], "",
        session.holding [.setOutput (some "motor") (some 5) none]⟩ := by
  intro session
  obtain ⟨result, program, hperform, hparts, -⟩ :=
    (load_leaves_lines_before_fault "motor").2.2 .commodore motorUntilAnything
  have hslots : ReadInParts motorUntilAnything .commodore
      (Commodore.usedSlots motorUntilAnything).length (Commodore.decodeAt motorUntilAnything) :=
    .slots nofun (by decide +kernel) (by decide +kernel)
  have hcount : (Commodore.usedSlots motorUntilAnything).length = 2 := by decide +kernel
  have hmotor : Commodore.decodeAt motorUntilAnything 0 =
      .ok (.setOutput (some "motor") (some 5) none) := by decide +kernel
  have huntil : Commodore.decodeAt motorUntilAnything 1 = .error (.build .noCondition) := by
    decide +kernel
  rw [hcount] at hslots
  rw [hperform session rfl]
  rcases hparts _ _ hslots with ⟨-, hlines⟩ | ⟨k, hk, fault, hpart, rfl, hlines⟩
  · have hall : ∀ x ∈ (List.range 2).map (Commodore.decodeAt motorUntilAnything),
        ∃ i, x = .ok i := by
      rw [hlines]
      simp
    obtain ⟨i, hi⟩ := hall _ (List.mem_map_of_mem (List.mem_range.mpr Nat.one_lt_two))
    rw [huntil] at hi
    cases hi
  · obtain rfl | rfl : k = 0 ∨ k = 1 := by omega
    · rw [hmotor] at hpart
      cases hpart
    · rw [huntil] at hpart
      cases hpart
      have hlines' : program.map (Except.ok (ε := LoadFault)) =
          [.setOutput (some "motor") (some 5) none].map .ok := by
        rw [← hlines, List.map_singleton, ← hmotor]
        rfl
      have hprogram : program = [.setOutput (some "motor") (some 5) none] :=
        List.map_injective_iff.mpr (fun _ _ => Except.ok.inj) hlines'
      rw [hprogram]

end LineControl

import LineControl.Proofs.Box

/-!
# Detection of the format

Without a format asked for, bytes that look like an image are read as one and all others as a
record text. No bytes can be read as both: an image ends with FF, and that byte is in no text
(`decode_of_mem_ff`). So detection never misses a file that one of the two formats would load, and
`detect_agrees` needs nothing about what the formats do with the bytes that they accept.

## Loads

The first section is about loads of any format. A `Loading` is a program and perhaps a fault, and
the controller takes the program of both, so `perform_load` says in one equation what a load leaves:
nothing but the program has changed. A load from lines stops at the first line that cannot be read,
and the lines before it stay; what follows from that for the program of a failed load is in
`Proofs.PartialLoad`.

Whether there is a file is not a question of formats. All statements here are about a file that
exists, with any bytes at all in it.
-/

set_option autoImplicit false

namespace LineControl

/-! ## 1. Loading a file -/

/-- How the controller ends a load. -/
def Loading.result (loading : Loading) : Except Fault Unit :=
  match loading.fault with
  | none => .ok ()
  | some fault => .error (.load fault)

theorem Loading.result_eq_ok_iff {loading : Loading} :
    loading.result = .ok () ↔ loading.fault = none := by
  unfold result
  cases loading.fault <;> simp

theorem Loading.ofLines_map_ok (program : Program) :
    ofLines (program.map .ok) = ⟨program, none⟩ := by
  induction program with
  | nil => rfl
  | cons i rest ih => rw [List.map_cons, ofLines, ih]

/-- All lines are taken exactly if none of them is a fault. -/
theorem Loading.fault_ofLines_eq_none_iff {lines : List (Except LoadFault Instruction)} :
    (ofLines lines).fault = none ↔ ∀ x ∈ lines, ∃ i, x = .ok i := by
  induction lines with
  | nil => simp [ofLines]
  | cons x rest ih =>
    cases x with
    | error fault => simp [ofLines, failed]
    | ok i => simp [ofLines, ih]

/-- A load takes just the given lines if and only if these are what was read. -/
theorem Loading.ofLines_eq_iff {lines : List (Except LoadFault Instruction)} {program : Program} :
    ofLines lines = ⟨program, none⟩ ↔ lines = program.map .ok := by
  constructor
  · intro h
    induction lines generalizing program with
    | nil =>
      cases h
      rfl
    | cons x rest ih =>
      cases x with
      | error fault => cases h
      | ok i =>
        rw [ofLines, mk.injEq] at h
        obtain ⟨rfl, hfault⟩ := h
        have hrest : ofLines rest = ⟨(ofLines rest).program, none⟩ := by rw [← hfault]
        rw [List.map_cons, ← ih hrest]
  · rintro rfl
    exact ofLines_map_ok program

/-- A line of the program is the line read at that place. -/
theorem Loading.getElem?_of_ofLines {lines : List (Except LoadFault Instruction)} {line : Nat}
    {i : Instruction} (h : (ofLines lines).program[line]? = some i) :
    lines[line]? = some (.ok i) := by
  induction lines generalizing line with
  | nil => cases h
  | cons x rest ih =>
    cases x with
    | error fault => cases h
    | ok j =>
      cases line with
      | zero =>
        cases h
        rfl
      | succ line => exact ih h

/-- What is read from two parts in turn is read from each of them. -/
theorem LoadFault.bind_ok {α β : Type} {x : Except LoadFault α} {f : α → Except LoadFault β} {b : β}
    (h : x >>= f = .ok b) : ∃ a, x = .ok a ∧ f a = .ok b := by
  cases x with
  | error fault => cases h
  | ok a => exact ⟨a, rfl, h⟩

/-- `UNTIL` and `COUNT` are only made with a condition that asks for something. -/
theorem Instruction.isReal_of_built {c : Condition} {line i : Instruction}
    (h : (if c.isReal then Except.ok line else Except.error BuildFault.noCondition).mapError
      LoadFault.build = .ok i) : c.isReal = true ∧ i = line := by
  cases hreal : c.isReal with
  | false =>
    rw [hreal] at h
    cases h
  | true =>
    rw [hreal] at h
    cases h
    exact ⟨rfl, rfl⟩

/-- Loading a file that exists replaces the program and nothing else. -/
theorem Session.perform_load {session : Session} {file : String} {bytes : List UInt8}
    (hfile : session.bench.files file = some bytes) (format : Format) :
    session.perform (Control.load file (some format)) =
      ⟨(format.load bytes).result, [], "", session.holding (format.load bytes).program⟩ := by
  have hfetch : session.perform (Control.request (.fetch file)) =
      ⟨.ok (some bytes), [], "", session⟩ := by
    rw [← hfile]
    rfl
  unfold Control.load
  dsimp only
  rw [Session.perform_bind, hfetch, Report.andThen]
  dsimp only
  unfold Loading.result
  cases hfault : (format.load bytes).fault with
  | none => rfl
  | some fault => rfl

/-! ## 2. A byte that is in no text

The induction on the bytes has to allow for a character that is not finished, with a bound on the
byte expected next. That bound holds after every lead and after every byte that goes on. -/

namespace Text.Utf8

/-- After a lead, no byte above BF is expected next. -/
theorem high_le_of_start {b : UInt8} {u : Unfinished} (h : start b = .lead u) : u.high ≤ 0xBF := by
  unfold start at h
  dsimp only at h
  split at h
  · cases h
  split at h
  · cases h
  split at h
  · cases h
    exact UInt8.le_refl _
  split at h
  · cases h
    dsimp only
    split <;> decide
  split at h
  · cases h
    dsimp only
    split <;> decide
  · cases h

/-- No byte of a character is FF: it starts none, and it goes on with none. -/
theorem decodeFrom_of_mem_ff (bytes : List UInt8) (hmem : 0xFF ∈ bytes)
    (unfinished : Option Unfinished) (hhigh : ∀ u, unfinished = some u → u.high ≤ 0xBF)
    (place : Place) : ∃ fault, decodeFrom unfinished place bytes = .error fault := by
  induction bytes generalizing unfinished place with
  | nil => cases hmem
  | cons b rest ih =>
    have hlater : b ≠ 0xFF → 0xFF ∈ rest := by
      intro hne
      rcases List.mem_cons.mp hmem with heq | hrest
      · exact absurd heq.symm hne
      · exact hrest
    -- a character that is complete is followed by a rest with FF in it
    have hnext : ∀ place, b ≠ 0xFF → ∀ c : Char,
        ∃ fault, (decodeFrom none place rest).map (c :: ·) = .error fault := by
      intro place hne c
      obtain ⟨fault, hfault⟩ := ih (hlater hne) none nofun place
      exact ⟨fault, by rw [hfault]; rfl⟩
    cases unfinished with
    | none =>
      rw [decodeFrom]
      cases hstart : start b with
      | char c =>
        refine hnext _ ?_ c
        rintro rfl
        cases hstart
      | lead u =>
        refine ih (hlater ?_) (some u) ?_ _
        · rintro rfl
          cases hstart
        · rintro _ ⟨rfl⟩
          exact high_le_of_start hstart
      | invalid => exact ⟨_, rfl⟩
    | some u =>
      rw [decodeFrom]
      split
      · rename_i hrange
        rw [Bool.and_eq_true, decide_eq_true_eq, decide_eq_true_eq] at hrange
        have hne : b ≠ 0xFF := by
          rintro rfl
          exact absurd (UInt8.le_trans hrange.2 (hhigh u rfl)) (by decide)
        dsimp only
        split
        · exact hnext _ hne _
        · refine ih (hlater hne) _ ?_ _
          rintro _ ⟨rfl⟩
          exact UInt8.le_refl _
      · split
        · exact ⟨_, rfl⟩
        · exact ⟨_, rfl⟩

/-- **No text has the byte FF in it.** -/
theorem decode_of_mem_ff {bytes : List UInt8} (hmem : 0xFF ∈ bytes) :
    ∃ fault, decode bytes = .error fault :=
  decodeFrom_of_mem_ff bytes hmem none nofun {}

end Text.Utf8

/-! ## 3. The two formats and detection -/

namespace Commodore

theorem isImage_iff {bytes : List UInt8} : isImage bytes = true ↔ bytes.length = imageSize ∧
    (slice reservedStart tableStart bytes).all (· == 0) = true ∧
    bytes.getLast? = some freeMark := by
  rw [isImage, Bool.and_eq_true, Bool.and_eq_true, beq_iff_eq, beq_iff_eq, and_assoc]

/-- The last byte of an image marks a free slot, and is FF. -/
theorem freeMark_mem_of_isImage {bytes : List UInt8} (h : isImage bytes = true) :
    freeMark ∈ bytes :=
  List.mem_of_getLast? (isImage_iff.mp h).2.2

theorem load_of_not_isImage {bytes : List UInt8} (h : isImage bytes = false) :
    load bytes = .failed .imageLayout := by
  rw [load, h]
  rfl

end Commodore

theorem Apple.load_of_isImage {bytes : List UInt8} (h : Commodore.isImage bytes = true) :
    ∃ fault, load bytes = .failed (.notUtf8 fault) := by
  obtain ⟨fault, hfault⟩ := Text.Utf8.decode_of_mem_ff (Commodore.freeMark_mem_of_isImage h)
  exact ⟨fault, by rw [load, hfault]⟩

namespace Format

/-- Detection is a choice between the two formats, and the one that is not chosen fails. -/
theorem load_detect (bytes : List UInt8) :
    (Commodore.isImage bytes = true ∧ detect.load bytes = commodore.load bytes ∧
      ∃ fault, apple.load bytes = .failed (.notUtf8 fault)) ∨
    (Commodore.isImage bytes = false ∧ detect.load bytes = apple.load bytes ∧
      commodore.load bytes = .failed .imageLayout) := by
  cases himage : Commodore.isImage bytes with
  | true => exact .inl ⟨rfl, if_pos himage, Apple.load_of_isImage himage⟩
  | false =>
    refine .inr ⟨rfl, if_neg ?_, Commodore.load_of_not_isImage himage⟩
    rw [himage]
    exact Bool.false_ne_true

/-- **Detection agrees with the formats.** At most one of the two loads a given file. A load with
detection succeeds if and only if one of the two does, and leaves what that one leaves. Every file
that detection takes for an image is refused as a text that is not UTF-8. -/
theorem detect_agrees {session : Session} {file : String} {bytes : List UInt8}
    (hfile : session.bench.files file = some bytes) :
    ¬ ((session.perform (Control.load file (some commodore))).result = .ok () ∧
      (session.perform (Control.load file (some apple))).result = .ok ()) ∧
    ((session.perform (Control.load file (some detect))).result = .ok () ↔
      (session.perform (Control.load file (some commodore))).result = .ok () ∨
        (session.perform (Control.load file (some apple))).result = .ok ()) ∧
    (∀ format, (session.perform (Control.load file (some format))).result = .ok () →
      session.perform (Control.load file (some detect)) =
        session.perform (Control.load file (some format))) ∧
    (Commodore.isImage bytes = true →
      session.perform (Control.load file (some detect)) =
        session.perform (Control.load file (some commodore)) ∧
      ∃ fault, (session.perform (Control.load file (some apple))).result =
        .error (.load (.notUtf8 fault))) := by
  have hfailed : ∀ fault, (Loading.failed fault).result ≠ .ok () := nofun
  simp only [Session.perform_load hfile]
  -- an image is no text, and what is no image is loaded as a text or not at all
  rcases load_detect bytes with ⟨himage, hdetect, fault, happle⟩ | ⟨himage, hdetect, hcommodore⟩
  · rw [hdetect, happle]
    refine ⟨fun h => hfailed _ h.2, ⟨.inl, fun h => h.resolve_right (hfailed _)⟩, ?_, ?_⟩
    · intro format hok
      cases format with
      | detect => rw [hdetect]
      | commodore => rfl
      | apple =>
        rw [happle] at hok
        exact absurd hok (hfailed _)
    · exact fun _ => ⟨rfl, fault, rfl⟩
  · rw [hdetect, hcommodore]
    refine ⟨fun h => hfailed _ h.1, ⟨.inr, fun h => h.resolve_left (hfailed _)⟩, ?_, ?_⟩
    · intro format hok
      cases format with
      | detect => rw [hdetect]
      | commodore =>
        rw [hcommodore] at hok
        exact absurd hok (hfailed _)
      | apple => rfl
    · intro himage'
      rw [himage] at himage'
      cases himage'

/-- The image of one line, an output with the label `motor`. -/
def motorImage : List UInt8 :=
  "motor".toUTF8.toList ++ List.replicate (Commodore.tableStart - 5) 0 ++ [5] ++
    List.replicate 40 Commodore.freeMark

/-- The image is loaded as its line, and as a record text it is refused. -/
theorem detect_agrees_on_motorImage :
    let session := ({} : Session).withFiles fun _ => some motorImage
    session.bench.files "motor" = some motorImage ∧ Commodore.isImage motorImage = true ∧
    session.perform (Control.load "motor" (some commodore)) =
      ⟨.ok (), [], "", session.holding [.setOutput (some "motor") (some 5) none]⟩ ∧
    session.perform (Control.load "motor" (some detect)) =
      session.perform (Control.load "motor" (some commodore)) ∧
    ∃ fault, (session.perform (Control.load "motor" (some apple))).result =
      .error (.load (.notUtf8 fault)) := by
  intro session
  have hfile : session.bench.files "motor" = some motorImage := rfl
  have himage : Commodore.isImage motorImage = true := by decide +kernel
  have hload : (Commodore.load motorImage).program = [.setOutput (some "motor") (some 5) none] ∧
      (Commodore.load motorImage).fault = none := by decide +kernel
  obtain ⟨-, -, -, hagrees⟩ := detect_agrees hfile
  refine ⟨hfile, himage, ?_, hagrees himage⟩
  rw [Session.perform_load hfile, Format.load, hload.1, Loading.result, hload.2]

end Format

end LineControl

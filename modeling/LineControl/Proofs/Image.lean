import Mathlib.Logic.ExistsUnique
import LineControl.Proofs.Detection

/-!
# Images and their entries

An entry is what one slot of an image is made from: a label, a value text and a pattern. The proofs
of its fields say what the loader asks for, so every list of at most forty entries has an image,
and the image loads as one line per entry (`load_image`). The other way round, a file that loads and
has no free slot before a used one is the image of one list of entries (`exists_entries_of_load`,
`image_injective`). Together,

    the file loads and is free at its end  ↔  ∃! entries, at most forty, image entries = bytes.

## What makes it one list

Writing an entry loses nothing because a field may not end with the byte that fills it up
(`Field.unpadded`), and reading a field takes away just these. A label or value with such a byte at
its end is not excluded by the loader; it is no field here, since the loader would read it as the
shorter one. Bytes beyond ASCII are refused in both.

`Entry.asks` is the one promise that has nothing to do with layout: an `UNTIL` or a `COUNT` that
asks for no input is refused by the loader. An `IF` may ask for nothing and is loaded, see
`Proofs.Loaded`.

A file with a free slot before a used one may load as well, and then as something else than its
table says. Such files are the subject of `Proofs.Slots`.

## Parts of a file

A file is cut by places (`slice`), an image is put together by appending. Section 4 has what is
needed of the two, so that in section 5 every part of an image is found by adding up lengths.
-/

set_option autoImplicit false

namespace LineControl.Commodore

/-! ## 1. Fields and entries -/

/-- The text of a label or a value that has room for `size` bytes. -/
@[ext]
structure Field (size : Nat) where
  bytes : List UInt8
  fits : bytes.length ≤ size := by decide
  ascii : bytes.all (· < 0x80) = true := by decide
  unpadded : bytes.getLast? ≠ some 0 := by decide

namespace Field

variable {size : Nat}

/-- The characters of the field. -/
def chars (f : Field size) : List Char :=
  f.bytes.map fun b => Char.ofNat b.toNat

/-- The characters as a string. -/
def text (f : Field size) : String :=
  String.ofList f.chars

/-- The bytes in the file. -/
def padded (f : Field size) : List UInt8 :=
  f.bytes ++ List.replicate (size - f.bytes.length) 0

@[simp]
theorem length_padded (f : Field size) : f.padded.length = size := by
  have hfits := f.fits
  simp only [padded, List.length_append, List.length_replicate]
  omega

end Field

/-- Bits 7 and 6 of a pattern are readings, unless bits 1 and 0 say that any will do. -/
def asked (pattern : UInt8) : Condition where
  in7 := if pattern.toNat.testBit 1 then none else some (pattern.toNat.testBit 7)
  in6 := if pattern.toNat.testBit 0 then none else some (pattern.toNat.testBit 6)

/-- An entry whose slot can be told from a free one and whose line can be built. -/
@[ext]
structure Entry where
  label : Field labelSize
  value : Field (slotSize - labelSize)
  pattern : UInt8
  used : pattern ≠ freeMark := by decide
  asks : label.text = "UNTIL" ∨ label.text = "COUNT" →
    ¬ (pattern.toNat.testBit 0 = true ∧ pattern.toNat.testBit 1 = true) := by decide +kernel

namespace Entry

/-- The bytes of the entry's slot. -/
def slot (e : Entry) : List UInt8 :=
  e.label.padded ++ e.value.padded

/-- The number in the value, if it is one. -/
def number (e : Entry) : Option Number :=
  Number.ofField? e.value.chars

/-- The line that the entry stands for. -/
def line (e : Entry) : Instruction :=
  match e.label.text with
  | "REPEAT" => .repeatStart e.number
  | "UNTIL" => .repeatUntil (asked e.pattern)
  | "ENDREPEAT" => .repeatEnd
  | "FOREVER" => .repeatForever
  | "IF" => .ifStart (asked e.pattern)
  | "ENDIF" => .ifEnd
  | "COUNT" => .count (asked e.pattern) e.number
  | label => .setOutput (some label) (some e.pattern.toNat) e.number

@[simp]
theorem length_slot (e : Entry) : e.slot.length = slotSize := by
  rw [slot, List.length_append, Field.length_padded, Field.length_padded]
  rfl

end Entry

/-- The file that holds the entries: their slots, zeros up to the table, their patterns, and free
marks for the slots left over and at the end. -/
def image (entries : List Entry) : List UInt8 :=
  entries.flatMap Entry.slot ++ List.replicate (tableStart - entries.length * slotSize) 0 ++
    (entries.map Entry.pattern ++ List.replicate (slotCount - entries.length) freeMark) ++
    [freeMark]

/-- No slot in use comes after a free one. -/
def FreeAtEnd (bytes : List UInt8) : Prop :=
  ∃ patterns free, table bytes = patterns ++ List.replicate free freeMark ∧ freeMark ∉ patterns

/-! ## 2. Reading a field -/

theorem dropEndWhile_append_replicate {l : List UInt8} (hlast : l.getLast? ≠ some 0) (n : Nat) :
    Text.dropEndWhile (· == 0) (l ++ List.replicate n 0) = l := by
  unfold Text.dropEndWhile
  rw [List.reverse_append, List.reverse_replicate, List.dropWhile_append_of_pos (by simp)]
  rw [← List.head?_reverse] at hlast
  cases hrev : l.reverse with
  | nil => simpa using hrev.symm
  | cons b rest =>
    have hb : (b == 0) = false := by
      rw [hrev] at hlast
      simpa using hlast
    rw [List.dropWhile_cons_of_neg (by simp [hb]), ← hrev, List.reverse_reverse]

/-- Only zeros are taken away from the end of a field, and no zero is left there. -/
theorem dropEndWhile_spec (bytes : List UInt8) :
    (Text.dropEndWhile (· == 0) bytes).getLast? ≠ some 0 ∧
    ∃ n, bytes = Text.dropEndWhile (· == 0) bytes ++ List.replicate n 0 := by
  unfold Text.dropEndWhile
  constructor
  · intro hlast
    rw [List.getLast?_reverse] at hlast
    have hhead := List.head?_dropWhile_not (· == (0 : UInt8)) bytes.reverse
    rw [hlast] at hhead
    simp at hhead
  · refine ⟨(bytes.reverse.takeWhile (· == 0)).length, ?_⟩
    have hzeros : bytes.reverse.takeWhile (· == 0) =
        List.replicate (bytes.reverse.takeWhile (· == 0)).length 0 := by
      refine List.eq_replicate_of_mem fun b hb => ?_
      simpa using List.all_eq_true.mp List.all_takeWhile b hb
    calc bytes
        = (bytes.reverse.takeWhile (· == 0) ++ bytes.reverse.dropWhile (· == 0)).reverse := by
          rw [List.takeWhile_append_dropWhile, List.reverse_reverse]
      _ = (bytes.reverse.dropWhile (· == 0)).reverse ++
            (bytes.reverse.takeWhile (· == 0)).reverse := List.reverse_append
      _ = _ := by rw [hzeros, List.reverse_replicate, List.length_replicate]

namespace Field

variable {size : Nat}

/-- A field is got back from its bytes in the file, because it does not end with a zero. -/
theorem padded_injective {f g : Field size} (h : f.padded = g.padded) : f = g := by
  apply Field.ext
  rw [← dropEndWhile_append_replicate f.unpadded (size - f.bytes.length),
    ← dropEndWhile_append_replicate g.unpadded (size - g.bytes.length)]
  exact congrArg _ h

/-- The bytes of a field are read as its characters. -/
theorem field_padded (f : Field size) : field f.padded = .ok f.chars := by
  have hnone : f.bytes.findIdx? (0x80 ≤ ·) = none := by
    rw [List.findIdx?_eq_none_iff]
    intro b hb
    simpa using List.all_eq_true.mp f.ascii b hb
  unfold field padded
  rw [dropEndWhile_append_replicate f.unpadded]
  dsimp only
  rw [hnone]
  rfl

/-- What is read as a field is one. -/
theorem exists_of_field_ok {bytes : List UInt8} {chars : List Char} (hlen : bytes.length = size)
    (h : field bytes = .ok chars) : ∃ f : Field size, f.padded = bytes ∧ f.chars = chars := by
  obtain ⟨hlast, n, hbytes⟩ := dropEndWhile_spec bytes
  unfold field at h
  dsimp only at h
  split at h
  · cases h
  · rename_i hnone
    rw [List.findIdx?_eq_none_iff] at hnone
    have hsize := congrArg List.length hbytes
    rw [List.length_append, List.length_replicate, hlen] at hsize
    refine ⟨⟨Text.dropEndWhile (· == 0) bytes, ?_, ?_, hlast⟩, ?_, ?_⟩
    · omega
    · rw [List.all_eq_true]
      intro b hb
      simpa using hnone b hb
    · unfold padded
      rw [show size - (Text.dropEndWhile (· == 0) bytes).length = n by omega]
      exact hbytes.symm
    · cases h
      rfl

end Field

/-! ## 3. Reading a slot -/

theorem testBit_natCast (n i : Nat) : testBit n i = n.testBit i := by
  unfold testBit
  rw [Nat.testBit_eq_decide_div_mod_eq, Int.shiftRight_eq_div_pow, Bool.eq_iff_iff, beq_iff_eq,
    decide_eq_true_iff]
  norm_cast

theorem condition_toNat (pattern : UInt8) : condition pattern.toNat = asked pattern := by
  unfold condition asked
  simp only [testBit_natCast]

/-- A pattern asks for something unless both of its low bits are set. -/
theorem isReal_asked {pattern : UInt8} : (asked pattern).isReal = true ↔
    ¬ (pattern.toNat.testBit 0 = true ∧ pattern.toNat.testBit 1 = true) := by
  unfold asked Condition.isReal
  cases pattern.toNat.testBit 0 <;> cases pattern.toNat.testBit 1 <;> simp

/-- An entry's label, pattern and number stand for its line: one case for each keyword, and one for
all other labels. -/
theorem instruction_eq_line (e : Entry) :
    instruction e.label.text e.pattern e.number = .ok e.line := by
  -- the label is looked up on both sides; the line is kept apart, so that one is split at a time
  generalize hline : e.line = line
  unfold instruction
  dsimp only
  rw [condition_toNat]
  split
  case h_2 hlabel =>
    have hreal : (asked e.pattern).isReal = true := isReal_asked.mpr (e.asks (.inl hlabel))
    rw [← hline, Entry.line, hlabel, Instruction.mkUntil, if_pos hreal]
    rfl
  case h_7 hlabel =>
    have hreal : (asked e.pattern).isReal = true := isReal_asked.mpr (e.asks (.inr hlabel))
    rw [← hline, Entry.line, hlabel, Instruction.mkCount, if_pos hreal]
    rfl
  case h_8 =>
    rw [← hline, Entry.line]
    split
    case h_8 => rfl
    all_goals contradiction
  all_goals
    rename_i hlabel
    rw [← hline, Entry.line, hlabel]
    rfl

/-- Conversely, an `UNTIL` or a `COUNT` that was built asks for something. -/
theorem asks_of_instruction_ok {label : String} {pattern : UInt8} {value : Option Number}
    {line : Instruction} (h : instruction label pattern value = .ok line) :
    label = "UNTIL" ∨ label = "COUNT" →
      ¬ (pattern.toNat.testBit 0 = true ∧ pattern.toNat.testBit 1 = true) := by
  intro hlabel
  rw [← isReal_asked, ← condition_toNat, ← Bool.not_eq_false]
  intro hreal
  have hfault : instruction label pattern value = .error (.build .noCondition) := by
    rcases hlabel with rfl | rfl
    · show (Instruction.mkUntil _).mapError _ = _
      rw [Instruction.mkUntil, hreal]
      rfl
    · show (Instruction.mkCount _ _).mapError _ = _
      rw [Instruction.mkCount, hreal]
      rfl
  rw [hfault] at h
  cases h

/-- What a label, a pattern and a value can stand for. -/
theorem instruction_ok {label : String} {pattern : UInt8} {value : Option Number}
    {line : Instruction} (h : instruction label pattern value = .ok line) :
    line ∈ [.repeatStart value, .repeatEnd, .repeatForever, .ifStart (asked pattern), .ifEnd,
      .setOutput (some label) (some pattern.toNat) value] ∨
    (asked pattern).isReal = true ∧
      line ∈ [.repeatUntil (asked pattern), .count (asked pattern) value] := by
  unfold instruction at h
  dsimp only at h
  rw [condition_toNat] at h
  split at h
  case h_2 =>
    obtain ⟨hreal, rfl⟩ := Instruction.isReal_of_built h
    exact .inr ⟨hreal, by simp⟩
  case h_7 =>
    obtain ⟨hreal, rfl⟩ := Instruction.isReal_of_built h
    exact .inr ⟨hreal, by simp⟩
  all_goals
    cases h
    exact .inl (by simp)

/-- The line in a slot is that of a label and a value. -/
theorem decodeSlot_ok {bytes : List UInt8} {pattern : UInt8} {line : Instruction}
    (h : decodeSlot bytes pattern = .ok line) :
    ∃ label value, field (bytes.take labelSize) = .ok label ∧
      field (bytes.drop labelSize) = .ok value ∧
      instruction (String.ofList label) pattern (Number.ofField? value) = .ok line := by
  obtain ⟨label, hlabel, h⟩ := LoadFault.bind_ok h
  obtain ⟨value, hvalue, h⟩ := LoadFault.bind_ok h
  exact ⟨label, value, hlabel, hvalue, h⟩

namespace Entry

theorem take_slot (e : Entry) : e.slot.take labelSize = e.label.padded :=
  List.take_left' e.label.length_padded

theorem drop_slot (e : Entry) : e.slot.drop labelSize = e.value.padded :=
  List.drop_left' e.label.length_padded

/-- Slot and pattern determine the entry. -/
theorem ext_slot {e e' : Entry} (hslot : e.slot = e'.slot) (hpattern : e.pattern = e'.pattern) :
    e = e' := by
  apply Entry.ext _ _ hpattern
  · apply Field.padded_injective
    rw [← take_slot, hslot, take_slot]
  · apply Field.padded_injective
    rw [← drop_slot, hslot, drop_slot]

theorem decodeSlot_slot (e : Entry) : decodeSlot e.slot e.pattern = .ok e.line := by
  unfold decodeSlot
  rw [take_slot, drop_slot, Field.field_padded, Field.field_padded]
  exact instruction_eq_line e

/-- A slot that is decoded is that of an entry, if it is in use. -/
theorem exists_of_decodeSlot_ok {bytes : List UInt8} {pattern : UInt8} {line : Instruction}
    (hlen : bytes.length = slotSize) (hused : pattern ≠ freeMark)
    (h : decodeSlot bytes pattern = .ok line) :
    ∃ e : Entry, e.slot = bytes ∧ e.pattern = pattern := by
  obtain ⟨label, value, hlabel, hvalue, hline⟩ := decodeSlot_ok h
  obtain ⟨f, hf, rfl⟩ := Field.exists_of_field_ok (by rw [List.length_take, hlen]) hlabel
  obtain ⟨g, hg, -⟩ := Field.exists_of_field_ok (by rw [List.length_drop, hlen]) hvalue
  refine ⟨⟨f, g, pattern, hused, asks_of_instruction_ok hline⟩, ?_, rfl⟩
  show f.padded ++ g.padded = bytes
  rw [hf, hg, List.take_append_drop]

end Entry

/-! ## 4. Parts of a file

A part of a file is given by where it starts and stops. These lemmas turn places into lengths of
what comes before, and are used for images and for files that might be one. -/

theorem slice_append {a b c : List UInt8} {start stop : Nat} (hstart : a.length = start)
    (hstop : start + b.length = stop) : slice start stop (a ++ b ++ c) = b := by
  unfold slice
  rw [List.take_left' (by rw [List.length_append, hstart, hstop]), List.drop_left' hstart]

theorem take_append_slice {start stop : Nat} (h : start ≤ stop) (bytes : List UInt8) :
    bytes.take start ++ slice start stop bytes = bytes.take stop := by
  unfold slice
  conv => lhs; arg 1; rw [← Nat.min_eq_left h, ← List.take_take]
  rw [List.take_append_drop]

theorem length_slice {start stop : Nat} {bytes : List UInt8} (h : stop ≤ bytes.length) :
    (slice start stop bytes).length = stop - start := by
  unfold slice
  rw [List.length_drop, List.length_take, Nat.min_eq_left h]

theorem slice_eq_replicate {start stop : Nat} {bytes : List UInt8} (h : stop ≤ bytes.length)
    (hzero : (slice start stop bytes).all (· == 0) = true) :
    slice start stop bytes = List.replicate (stop - start) 0 := by
  rw [← length_slice h]
  refine List.eq_replicate_of_mem fun b hb => ?_
  simpa using List.all_eq_true.mp hzero b hb

theorem length_table {bytes : List UInt8} (h : bytes.length = imageSize) :
    (table bytes).length = slotCount := by
  rw [table, length_slice (by rw [h]; decide)]
  rfl

theorem length_slot {bytes : List UInt8} (h : bytes.length = imageSize) {i : Nat}
    (hi : i < slotCount) : (slot bytes i).length = slotSize := by
  have hstop : (i + 1) * slotSize ≤ slotCount * slotSize := Nat.mul_le_mul_right slotSize hi
  have hslots : slotCount * slotSize ≤ bytes.length := by
    rw [h]
    decide
  rw [slot, length_slice (Nat.le_trans hstop hslots), Nat.succ_mul, Nat.add_sub_cancel_left]

/-! ## 5. The image of a list of entries -/

section Image

variable {entries : List Entry}

theorem length_slots (entries : List Entry) :
    (entries.flatMap Entry.slot).length = entries.length * slotSize := by
  induction entries with
  | nil => simp
  | cons e rest ih =>
    rw [List.flatMap_cons, List.length_append, ih, e.length_slot, List.length_cons, Nat.succ_mul,
      Nat.add_comm]

/-- The slots and the zeros after them end where the table starts. -/
theorem length_front (h : entries.length ≤ slotCount) :
    (entries.flatMap Entry.slot ++
      List.replicate (tableStart - entries.length * slotSize) (0 : UInt8)).length = tableStart := by
  rw [List.length_append, length_slots, List.length_replicate]
  simp only [slotCount, slotSize, tableStart] at *
  omega

theorem length_patterns (h : entries.length ≤ slotCount) :
    (entries.map Entry.pattern ++
      List.replicate (slotCount - entries.length) freeMark).length = slotCount := by
  rw [List.length_append, List.length_map, List.length_replicate]
  omega

theorem length_image (h : entries.length ≤ slotCount) : (image entries).length = imageSize := by
  rw [image, List.length_append, List.length_append, length_front h, length_patterns h]
  rfl

/-- The table of an image has the patterns of its entries, and free marks after them. -/
theorem table_image (h : entries.length ≤ slotCount) :
    table (image entries) =
      entries.map Entry.pattern ++ List.replicate (slotCount - entries.length) freeMark :=
  slice_append (length_front h) (by rw [length_patterns h]; rfl)

theorem freeMark_not_mem_patterns (entries : List Entry) :
    freeMark ∉ entries.map Entry.pattern := by
  intro hmem
  obtain ⟨e, -, he⟩ := List.mem_map.mp hmem
  exact e.used he

theorem freeAtEnd_image (h : entries.length ≤ slotCount) : FreeAtEnd (image entries) :=
  ⟨_, _, table_image h, freeMark_not_mem_patterns entries⟩

theorem usedCount_eq {bytes patterns : List UInt8} {free : Nat}
    (htable : table bytes = patterns ++ List.replicate free freeMark) (hused : freeMark ∉ patterns)
    (hcount : patterns.length + free = slotCount) : usedCount bytes = patterns.length := by
  rw [usedCount, htable, List.count_append, List.count_eq_zero.mpr hused, List.count_replicate_self]
  omega

theorem getD_table {bytes patterns rest : List UInt8} (htable : table bytes = patterns ++ rest)
    (i : Nat) (hi : i < patterns.length) : (table bytes).getD i freeMark = patterns[i] := by
  rw [htable, List.getD_eq_getElem?_getD, List.getElem?_append_left hi, List.getElem?_eq_getElem hi]
  rfl

theorem usedCount_image (h : entries.length ≤ slotCount) :
    usedCount (image entries) = entries.length := by
  rw [usedCount_eq (table_image h) (freeMark_not_mem_patterns entries), List.length_map]
  rw [List.length_map]
  omega

theorem slot_image (entries : List Entry) (i : Nat) (hi : i < entries.length) :
    slot (image entries) i = entries[i].slot := by
  have hsplit : entries.flatMap Entry.slot = (entries.take i).flatMap Entry.slot ++
      entries[i].slot ++ (entries.drop (i + 1)).flatMap Entry.slot := by
    rw [List.append_assoc, ← List.flatMap_cons, ← List.drop_eq_getElem_cons hi,
      ← List.flatMap_append, List.take_append_drop]
  unfold slot image
  rw [hsplit]
  -- the slots before it, the slot, and all that follows
  simp only [List.append_assoc]
  rw [← List.append_assoc]
  apply slice_append
  · rw [length_slots, List.length_take, Nat.min_eq_left (Nat.le_of_lt hi)]
  · rw [entries[i].length_slot, Nat.succ_mul]

theorem getD_table_image (h : entries.length ≤ slotCount) (i : Nat) (hi : i < entries.length) :
    (table (image entries)).getD i freeMark = entries[i].pattern := by
  have hmap : i < (entries.map Entry.pattern).length := by rwa [List.length_map]
  rw [getD_table (table_image h) i hmap, List.getElem_map]

theorem length_slots_le (h : entries.length ≤ slotCount) :
    entries.length * slotSize ≤ reservedStart :=
  Nat.mul_le_mul_right slotSize h

/-- Between the slots of an image and its table there are zeros. -/
theorem slice_zeros (entries : List Entry) {start stop : Nat}
    (hstart : entries.length * slotSize ≤ start) (hle : start ≤ stop) (hstop : stop ≤ tableStart) :
    (slice start stop (image entries)).all (· == 0) = true := by
  have hsplit : List.replicate (tableStart - entries.length * slotSize) (0 : UInt8) =
      List.replicate (start - entries.length * slotSize) 0 ++ List.replicate (stop - start) 0 ++
        List.replicate (tableStart - stop) 0 := by
    rw [List.replicate_append_replicate, List.replicate_append_replicate]
    congr 1
    omega
  unfold image
  rw [hsplit]
  simp only [List.append_assoc]
  rw [← List.append_assoc, ← List.append_assoc, slice_append]
  · simp
  · rw [List.length_append, length_slots, List.length_replicate]
    omega
  · rw [List.length_replicate]
    omega

theorem isImage_image (h : entries.length ≤ slotCount) : isImage (image entries) = true := by
  have hzero : (slice reservedStart tableStart (image entries)).all (· == 0) = true :=
    slice_zeros entries (length_slots_le h) (by decide) (Nat.le_refl _)
  exact isImage_iff.mpr ⟨length_image h, hzero, List.getLast?_concat⟩

end Image

/-! ## 6. Loading an image -/

/-- **An image loads as the lines of its entries.** -/
theorem load_image {entries : List Entry} (h : entries.length ≤ slotCount) :
    load (image entries) = ⟨entries.map Entry.line, none⟩ := by
  have hlines : ((List.range entries.length).map fun i =>
      decodeSlot (slot (image entries) i) ((table (image entries)).getD i freeMark)) =
      (entries.map Entry.line).map .ok := by
    apply List.ext_getElem
    · simp
    · intro i hi _
      rw [List.length_map, List.length_range] at hi
      simp only [List.getElem_map, List.getElem_range]
      rw [slot_image entries i hi, getD_table_image h i hi, Entry.decodeSlot_slot]
  unfold load
  dsimp only
  rw [usedCount_image h, isImage_image h,
    slice_zeros entries (Nat.le_refl _) (length_slots_le h) (by decide), hlines,
    Loading.ofLines_map_ok]
  rfl

theorem perform_load_image {session : Session} {file : String} {entries : List Entry}
    (hfile : session.bench.files file = some (image entries)) (hlen : entries.length ≤ slotCount)
    {format : Format} (hformat : format ≠ .apple) :
    session.perform (Control.load file (some format)) =
      ⟨.ok (), [], "", session.holding (entries.map Entry.line)⟩ := by
  have hload : format.load (image entries) = ⟨entries.map Entry.line, none⟩ := by
    cases format with
    | detect => exact (if_pos (isImage_image hlen)).trans (load_image hlen)
    | commodore => exact load_image hlen
    | apple => exact absurd rfl hformat
  rw [Session.perform_load hfile, hload]
  rfl

/-- **An image has one list of entries.** -/
theorem image_injective {entries entries' : List Entry} (h : entries.length ≤ slotCount)
    (h' : entries'.length ≤ slotCount) (heq : image entries = image entries') :
    entries = entries' := by
  have hlen : entries.length = entries'.length := by
    rw [← usedCount_image h, heq, usedCount_image h']
  apply List.ext_getElem hlen
  intro i hi hi'
  apply Entry.ext_slot
  · rw [← slot_image entries i hi, heq, slot_image entries' i hi']
  · rw [← getD_table_image h i hi, heq, getD_table_image h' i hi']

/-! ## 7. Finding the entries of a file

The loader has checked each part of the file, but not that they make up the whole.
`eq_append_of_isImage` puts the parts together, and then every slot in use gives an entry. -/

/-- What the loader has checked when it is done. -/
theorem checked_of_load {bytes : List UInt8} (h : (load bytes).fault = none) :
    isImage bytes = true ∧
    (slice (usedCount bytes * slotSize) reservedStart bytes).all (· == 0) = true ∧
    ∀ i < usedCount bytes,
      ∃ line, decodeSlot (slot bytes i) ((table bytes).getD i freeMark) = .ok line := by
  unfold load at h
  dsimp only at h
  split at h
  case isFalse => cases h
  case isTrue hlayout =>
    rw [Bool.and_eq_true] at hlayout
    refine ⟨hlayout.1, hlayout.2, fun i hi => ?_⟩
    exact Loading.fault_ofLines_eq_none_iff.mp h _ (List.mem_map_of_mem (List.mem_range.mpr hi))

/-- An image whose slots are zero from the one with number `n` on. -/
theorem eq_append_of_isImage {bytes : List UInt8} (h : isImage bytes = true) {n : Nat}
    (hn : n ≤ slotCount)
    (hunused : (slice (n * slotSize) reservedStart bytes).all (· == 0) = true) :
    bytes = bytes.take (n * slotSize) ++ List.replicate (tableStart - n * slotSize) 0 ++
      table bytes ++ [freeMark] := by
  obtain ⟨hlen, hreserved, hlast⟩ := isImage_iff.mp h
  have hslots : n * slotSize ≤ reservedStart := Nat.mul_le_mul_right slotSize hn
  have hzeros : List.replicate (tableStart - n * slotSize) (0 : UInt8) =
      slice (n * slotSize) reservedStart bytes ++ slice reservedStart tableStart bytes := by
    rw [slice_eq_replicate (by rw [hlen]; decide) hunused,
      slice_eq_replicate (by rw [hlen]; decide) hreserved, List.replicate_append_replicate]
    congr 1
    simp only [reservedStart, tableStart] at *
    omega
  obtain ⟨front, hfront⟩ := List.getLast?_eq_some_iff.mp hlast
  have htake : bytes.take (imageSize - 1) = front := by
    rw [hfront, List.length_append] at hlen
    rw [hfront]
    exact List.take_left' (Nat.eq_sub_of_add_eq hlen)
  rw [hzeros, ← List.append_assoc, take_append_slice hslots, take_append_slice (by decide), table,
    take_append_slice (by decide), htake]
  exact hfront

/-- The first `n` slots and patterns of a file come from `n` entries, by induction on `n`. -/
theorem exists_entries_of_slots {bytes patterns : List UInt8}
    (h : ∀ i (hi : i < patterns.length), ∃ e : Entry, e.slot = slot bytes i ∧
      e.pattern = patterns[i]) (n : Nat) (hn : n ≤ patterns.length) :
    ∃ entries : List Entry, entries.map Entry.pattern = patterns.take n ∧
      entries.flatMap Entry.slot = bytes.take (n * slotSize) := by
  induction n with
  | zero => exact ⟨[], by simp⟩
  | succ n ih =>
    obtain ⟨entries, hpatterns, hslots⟩ := ih (Nat.le_of_succ_le hn)
    obtain ⟨e, hslot, hpattern⟩ := h n hn
    refine ⟨entries ++ [e], ?_, ?_⟩
    · rw [List.map_append, hpatterns, List.map_singleton, hpattern, List.take_append_getElem]
    · rw [List.flatMap_append, hslots, List.flatMap_singleton, hslot, slot]
      exact take_append_slice (Nat.mul_le_mul_right _ (Nat.le_succ n)) bytes

/-- **A file that loads is an image of entries**, if its free slots are at its end. -/
theorem exists_entries_of_load {bytes : List UInt8} (hload : (load bytes).fault = none)
    (hfree : FreeAtEnd bytes) :
    ∃ entries : List Entry, entries.length ≤ slotCount ∧ image entries = bytes := by
  obtain ⟨patterns, free, htable, hused⟩ := hfree
  obtain ⟨himage, hunused, hdecode⟩ := checked_of_load hload
  have hlen : bytes.length = imageSize := (isImage_iff.mp himage).1
  have hcount : patterns.length + free = slotCount := by
    rw [← length_table hlen, htable, List.length_append, List.length_replicate]
  have hle : patterns.length ≤ slotCount := by omega
  rw [usedCount_eq htable hused hcount] at hunused hdecode
  -- every slot in use was decoded, so each is the slot of an entry
  have hentry : ∀ i (hi : i < patterns.length), ∃ e : Entry, e.slot = slot bytes i ∧
      e.pattern = patterns[i] := by
    intro i hi
    obtain ⟨line, hline⟩ := hdecode i hi
    rw [getD_table htable i hi] at hline
    have hpattern : patterns[i] ≠ freeMark := by
      intro hmark
      rw [← hmark] at hused
      exact hused (List.getElem_mem hi)
    exact Entry.exists_of_decodeSlot_ok (length_slot hlen (Nat.lt_of_lt_of_le hi hle)) hpattern
      hline
  obtain ⟨entries, hpatterns, hslots⟩ :=
    exists_entries_of_slots hentry patterns.length (Nat.le_refl _)
  rw [List.take_length] at hpatterns
  have hnumber : entries.length = patterns.length := by rw [← hpatterns, List.length_map]
  refine ⟨entries, by omega, ?_⟩
  rw [image, hslots, hpatterns, hnumber, show slotCount - patterns.length = free by omega, ← htable]
  exact (eq_append_of_isImage himage hle hunused).symm

/-- **Images and lists of entries are the same.** The image of at most forty entries has 762 bytes
and loads, detected or asked for, as one line per entry. A file loads as an image and has no slot in
use after a free one if and only if it is the image of exactly one such list. -/
theorem loads_iff_image {session : Session} {file : String} {bytes : List UInt8}
    (hfile : session.bench.files file = some bytes) :
    (∀ entries : List Entry, entries.length ≤ slotCount → image entries = bytes →
      bytes.length = imageSize ∧
      ∀ format, format ≠ Format.apple → session.perform (Control.load file (some format)) =
        ⟨.ok (), [], "", session.holding (entries.map Entry.line)⟩) ∧
    ((session.perform (Control.load file (some .commodore))).result = .ok () ∧ FreeAtEnd bytes ↔
      ∃! entries : List Entry, entries.length ≤ slotCount ∧ image entries = bytes) := by
  refine ⟨?_, ?_, ?_⟩
  · rintro entries hlen rfl
    exact ⟨length_image hlen, fun format => perform_load_image hfile hlen⟩
  · rintro ⟨hok, hfree⟩
    rw [Session.perform_load hfile, Loading.result_eq_ok_iff] at hok
    obtain ⟨entries, hlen, himage⟩ := exists_entries_of_load hok hfree
    refine ⟨entries, ⟨hlen, himage⟩, ?_⟩
    rintro entries' ⟨hlen', himage'⟩
    exact image_injective hlen' hlen (himage'.trans himage.symm)
  · rintro ⟨entries, ⟨hlen, rfl⟩, -⟩
    constructor
    · have hformat : Format.commodore ≠ .apple := nofun
      rw [perform_load_image hfile hlen hformat]
    · exact freeAtEnd_image hlen

/-- Starts a motor, waits for three changes of input 7, and stops the motor for half a second. -/
def motorUntilPressed : List Entry :=
  let ascii (cs : List Char) := cs.map Char.toUInt8
  [{ label := { bytes := ascii ['m', 'o', 't', 'o', 'r'] }
     value := { bytes := [] }
     pattern := 5 },
   { label := { bytes := ascii ['C', 'O', 'U', 'N', 'T'] }
     value := { bytes := ascii ['3'] }
     pattern := 0x81 },
   { label := { bytes := ascii ['m', 'o', 't', 'o', 'r'] }
     value := { bytes := ascii ['0', ',', '5'] }
     pattern := 0 }]

/-- The three entries are loaded from their image and are the only ones with this image. -/
theorem loads_motorUntilPressed :
    let session := ({} : Session).withFiles fun _ => some (image motorUntilPressed)
    session.bench.files "motor" = some (image motorUntilPressed) ∧
    motorUntilPressed.length ≤ slotCount ∧
    session.perform (Control.load "motor" (some .detect)) =
      ⟨.ok (), [], "", session.holding [.setOutput (some "motor") (some 5) none,
        .count ⟨some true, none⟩ (some 3), .setOutput (some "motor") (some 0) (some 0.5)]⟩ ∧
    FreeAtEnd (image motorUntilPressed) ∧
    ∃! entries : List Entry,
      entries.length ≤ slotCount ∧ image entries = image motorUntilPressed := by
  intro session
  have hfile : session.bench.files "motor" = some (image motorUntilPressed) := rfl
  have hlen : motorUntilPressed.length ≤ slotCount := by decide
  have hlines : motorUntilPressed.map Entry.line = [.setOutput (some "motor") (some 5) none,
      .count ⟨some true, none⟩ (some 3), .setOutput (some "motor") (some 0) (some 0.5)] := by
    decide +kernel
  have hfree : FreeAtEnd (image motorUntilPressed) := freeAtEnd_image hlen
  obtain ⟨hloads, hiff⟩ := loads_iff_image hfile
  obtain ⟨-, hload⟩ := hloads motorUntilPressed hlen rfl
  have hok : (session.perform (Control.load "motor" (some .commodore))).result = .ok () := by
    rw [hload .commodore nofun]
  refine ⟨hfile, hlen, ?_, hfree, hiff.mp ⟨hok, hfree⟩⟩
  rw [hload .detect nofun, hlines]

end LineControl.Commodore

import Mathlib.Data.List.Range
import Mathlib.Data.List.Sort
import LineControl.Proofs.Image

/-!
# The slots that are read

The table of an image marks the free slots, but the loader only counts the marks: it reads as many
slots as there are other entries, from the first slot on, each with the table's entry for that slot.
These are the slots in use exactly if no slot in use comes after a free one (`freeAtEnd_iff`).

The zeros after the slots that are read do not make up for a gap. A slot in use behind them is an
empty line with a pattern of its own, and no free slot in front can be read as that line, since its
pattern is the mark (`freeAtEnd_of_sameLines`). So a gap is never read as the table says: not only
are other slots read, the program is another one.

## The argument about gaps

It is not enough that two lists of slots differ, for different slots may hold equal lines. Suppose
that the lines agreed, one by one, although slot `j` is read and marked as free. Then the line of
`j` is that of a later slot, which is that of a still later one, and so on until a slot is reached
that the loader does not read (`exists_beyond`). There the bytes are zero, so the line is an output
with that slot's pattern; but an output in `j` would have the mark for a pattern.
-/

set_option autoImplicit false

namespace LineControl.Commodore

/-- The line in a slot, with the pattern that the table has for it. -/
def decodeAt (bytes : List UInt8) (index : Nat) : Except LoadFault Instruction :=
  decodeSlot (slot bytes index) ((table bytes).getD index freeMark)

/-- The slots that the table does not mark as free, in their order. -/
def usedSlots (bytes : List UInt8) : List Nat :=
  (List.range slotCount).filter fun index => (table bytes).getD index freeMark != freeMark

/-! ## 1. The slots in use

The table is looked at as a function of the slot. That the marks come last and that the slots in use
come first are the same thing said of the two. -/

section UsedSlots

variable {bytes : List UInt8}

theorem mem_usedSlots {index : Nat} :
    index ∈ usedSlots bytes ↔ index < slotCount ∧ (table bytes).getD index freeMark ≠ freeMark := by
  simp [usedSlots]

theorem pairwise_usedSlots (bytes : List UInt8) : (usedSlots bytes).Pairwise (· < ·) :=
  List.pairwise_lt_range.filter _

theorem table_eq_map (h : bytes.length = imageSize) :
    table bytes = (List.range slotCount).map fun index => (table bytes).getD index freeMark := by
  apply List.ext_getElem
  · rw [length_table h, List.length_map, List.length_range]
  · intro i hi _
    simp [List.getElem?_eq_getElem hi]

theorem usedCount_eq_length (h : bytes.length = imageSize) :
    usedCount bytes = (usedSlots bytes).length := by
  have hused : (table bytes).countP (· != freeMark) = (usedSlots bytes).length := by
    rw [table_eq_map h, List.countP_map, List.countP_eq_length_filter]
    rfl
  have hsum := List.length_eq_countP_add_countP (· == freeMark) (l := table bytes)
  rw [length_table h] at hsum
  rw [usedCount, ← hused, hsum, List.count, Nat.add_sub_cancel_left]
  exact List.countP_congr fun b _ => by simp

/-- If the free slots are at the end, the slots in use are the first ones. -/
theorem FreeAtEnd.usedSlots_eq (h : bytes.length = imageSize) (hfree : FreeAtEnd bytes) :
    usedSlots bytes = List.range (usedSlots bytes).length := by
  obtain ⟨patterns, free, htable, hused⟩ := hfree
  have hlen : patterns.length + free = slotCount := by
    rw [← length_table h, htable, List.length_append, List.length_replicate]
  have hfront : ∀ i ∈ List.range patterns.length,
      ((table bytes).getD i freeMark != freeMark) = true := by
    intro i hi
    rw [List.mem_range] at hi
    rw [getD_table htable i hi, bne_iff_ne]
    intro hmark
    exact hused (hmark ▸ List.getElem_mem hi)
  have hback : ∀ i ∈ (List.range free).map (patterns.length + ·),
      ¬ ((table bytes).getD i freeMark != freeMark) = true := by
    intro i hi
    obtain ⟨j, hj, rfl⟩ := List.mem_map.mp hi
    rw [htable, List.getD_eq_getElem?_getD, List.getElem?_append_right (Nat.le_add_right _ _),
      Nat.add_sub_cancel_left, List.getElem?_replicate_of_lt (List.mem_range.mp hj)]
    simp
  have hslots : usedSlots bytes = List.range patterns.length := by
    rw [usedSlots, ← hlen, List.range_add, List.filter_append, List.filter_eq_self.mpr hfront,
      List.filter_eq_nil_iff.mpr hback, List.append_nil]
  rw [hslots, List.length_range]

/-- If the slots in use are the first ones, the table is cut behind them. -/
theorem freeAtEnd_of_usedSlots (h : bytes.length = imageSize)
    (hslots : usedSlots bytes = List.range (usedSlots bytes).length) : FreeAtEnd bytes := by
  have hused : ∀ i < slotCount, ((table bytes).getD i freeMark ≠ freeMark ↔
      i < (usedSlots bytes).length) := by
    intro i hi
    rw [← List.mem_range, ← hslots, mem_usedSlots, and_iff_right hi]
  have hentry : ∀ i (hi : i < (table bytes).length),
      (table bytes)[i] = freeMark ↔ (usedSlots bytes).length ≤ i := by
    intro i hi
    have := hused i (by rwa [length_table h] at hi)
    rw [List.getD_eq_getElem?_getD, List.getElem?_eq_getElem hi, Option.getD_some] at this
    rw [← Nat.not_lt, ← this, not_not]
  refine ⟨(table bytes).take (usedSlots bytes).length,
    ((table bytes).drop (usedSlots bytes).length).length, ?_, ?_⟩
  · have hback : (table bytes).drop (usedSlots bytes).length =
        List.replicate ((table bytes).drop (usedSlots bytes).length).length freeMark := by
      refine List.eq_replicate_of_mem fun b hb => ?_
      obtain ⟨i, hi, rfl⟩ := List.mem_iff_getElem.mp hb
      rw [List.getElem_drop]
      exact (hentry _ _).mpr (Nat.le_add_right _ _)
    rw [← hback, List.take_append_drop]
  · intro hmem
    obtain ⟨i, hi, hmark⟩ := List.mem_iff_getElem.mp hmem
    rw [List.length_take, Nat.lt_min] at hi
    rw [List.getElem_take, hentry i hi.2] at hmark
    omega

/-- The free slots are at the end exactly if the slots in use are the first ones. -/
theorem freeAtEnd_iff (h : bytes.length = imageSize) :
    FreeAtEnd bytes ↔ usedSlots bytes = List.range (usedSlots bytes).length :=
  ⟨FreeAtEnd.usedSlots_eq h, freeAtEnd_of_usedSlots h⟩

end UsedSlots

/-! ## 2. Lines of empty slots and of free slots -/

theorem mem_slice {start stop : Nat} {bytes : List UInt8} {b : UInt8} :
    b ∈ slice start stop bytes ↔ ∃ i, start ≤ i ∧ i < stop ∧ bytes[i]? = some b := by
  unfold slice
  rw [List.mem_iff_getElem?]
  simp only [List.getElem?_drop, List.getElem?_take]
  constructor
  · rintro ⟨i, hi⟩
    split at hi
    · exact ⟨start + i, Nat.le_add_right _ _, ‹_›, hi⟩
    · cases hi
  · rintro ⟨i, hstart, hstop, hi⟩
    refine ⟨i - start, ?_⟩
    rw [Nat.add_sub_cancel' hstart, if_pos hstop, hi]

/-- A slot of zeros with a pattern is an entry, without a label and a value. -/
theorem exists_blank_entry {pattern : UInt8} (used : pattern ≠ freeMark) :
    ∃ e : Entry, e.pattern = pattern ∧ e.slot = List.replicate slotSize 0 ∧
      e.line = .setOutput (some "") (some pattern.toNat) none := by
  have hlabel : ¬ (("" : String) = "UNTIL" ∨ ("" : String) = "COUNT") := by decide +kernel
  exact ⟨{ label := { bytes := [] }, value := { bytes := [] }, pattern := pattern, used := used
           asks := fun h => absurd h hlabel }, rfl, rfl, rfl⟩

/-- A slot in use behind those that are read is an empty line. -/
theorem decodeAt_of_zeros {bytes : List UInt8} (h : bytes.length = imageSize) {n index : Nat}
    (hzeros : (slice (n * slotSize) reservedStart bytes).all (· == 0) = true)
    (hn : n ≤ index) (hused : index ∈ usedSlots bytes) :
    decodeAt bytes index =
      .ok (.setOutput (some "") (some ((table bytes).getD index freeMark).toNat) none) := by
  obtain ⟨hindex, hpattern⟩ := mem_usedSlots.mp hused
  obtain ⟨e, hentry, hslot, hline⟩ := exists_blank_entry hpattern
  have hfirst : n * slotSize ≤ index * slotSize := Nat.mul_le_mul_right _ hn
  have hlast : (index + 1) * slotSize ≤ reservedStart := Nat.mul_le_mul_right slotSize hindex
  have hzero : ∀ b ∈ slot bytes index, b = 0 := by
    intro b hb
    obtain ⟨i, hstart, hstop, hi⟩ := mem_slice.mp hb
    have hmem : b ∈ slice (n * slotSize) reservedStart bytes :=
      mem_slice.mpr ⟨i, Nat.le_trans hfirst hstart, Nat.lt_of_lt_of_le hstop hlast, hi⟩
    simpa using List.all_eq_true.mp hzeros b hmem
  rw [decodeAt, List.eq_replicate_of_mem hzero, length_slot h hindex, ← hslot, ← hentry,
    e.decodeSlot_slot, hline, hentry]

theorem pattern_of_instruction {label : String} {pattern : UInt8} {value : Option Number}
    {label' : Option String} {bits : Option Int} {value' : Option Number}
    (h : instruction label pattern value = .ok (.setOutput label' bits value')) :
    bits = some (pattern.toNat : Int) := by
  rcases instruction_ok h with hmem | ⟨-, hmem⟩
  · simp only [List.mem_cons, List.not_mem_nil, reduceCtorEq, Instruction.setOutput.injEq, false_or,
      or_false] at hmem
    exact hmem.2.1
  · simp at hmem

theorem pattern_of_decodeSlot {bytes : List UInt8} {pattern : UInt8} {label : Option String}
    {bits : Option Int} {value : Option Number}
    (h : decodeSlot bytes pattern = .ok (.setOutput label bits value)) :
    bits = some (pattern.toNat : Int) := by
  obtain ⟨label, value, -, -, hline⟩ := decodeSlot_ok h
  exact pattern_of_instruction hline

/-! ## 3. A gap is never read as the table says -/

/-- If a list of increasing numbers leaves out `j`, and a function takes the same values on it as on
the numbers below its length, then `j` has the value of a number that is not below the length. The
list sends every number from `j` on to a greater one, so this is found by going on from `j`. -/
theorem exists_beyond {α : Type} {f : Nat → α} {l : List Nat} (hlt : l.Pairwise (· < ·))
    (hmap : l.map f = (List.range l.length).map f) (j : Nat) (hj : j < l.length) (hgap : j < l[j]) :
    ∃ m ∈ l, l.length ≤ m ∧ f j = f m := by
  have hvalue : f l[j] = f j := by
    have := congrArg (·[j]?) hmap
    simpa [hj] using this
  by_cases hnext : l[j] < l.length
  · have hgap' : l[j] < l[l[j]] := List.pairwise_iff_getElem.mp hlt j l[j] hj hnext hgap
    obtain ⟨m, hm, hbeyond, heq⟩ := exists_beyond hlt hmap l[j] hnext hgap'
    exact ⟨m, hm, hbeyond, hvalue.symm.trans heq⟩
  · exact ⟨l[j], List.getElem_mem hj, Nat.le_of_not_lt hnext, hvalue.symm⟩
termination_by l.length - j

theorem le_getElem_of_pairwise {l : List Nat} (hlt : l.Pairwise (· < ·)) (j : Nat)
    (hj : j < l.length) : j ≤ l[j] := by
  induction j with
  | zero => exact Nat.zero_le _
  | succ j ih =>
    have hstep : l[j] < l[j + 1] :=
      List.pairwise_iff_getElem.mp hlt j (j + 1) _ hj (Nat.lt_succ_self j)
    exact Nat.lt_of_le_of_lt (ih _) hstep

/-- **If the lines that are read are those of the slots in use, there is no gap.** -/
theorem freeAtEnd_of_sameLines {bytes : List UInt8} (h : bytes.length = imageSize)
    (hzeros : (slice ((usedSlots bytes).length * slotSize) reservedStart bytes).all (· == 0) = true)
    (hsame : (usedSlots bytes).map (decodeAt bytes) =
      (List.range (usedSlots bytes).length).map (decodeAt bytes)) : FreeAtEnd bytes := by
  have hlt := pairwise_usedSlots bytes
  have hread : ∀ j < (usedSlots bytes).length, j ∈ usedSlots bytes := by
    intro j hj
    by_contra hnot
    have hgap : j < (usedSlots bytes)[j] := by
      refine Nat.lt_of_le_of_ne (le_getElem_of_pairwise hlt j hj) ?_
      intro heq
      exact hnot (List.mem_of_getElem heq.symm)
    have hslot : j < slotCount :=
      Nat.lt_trans hgap (mem_usedSlots.mp (List.getElem_mem hj)).1
    have hfree : (table bytes).getD j freeMark = freeMark := by
      by_contra hused
      exact hnot (mem_usedSlots.mpr ⟨hslot, hused⟩)
    obtain ⟨m, hm, hbeyond, hline⟩ := exists_beyond hlt hsame j hj hgap
    -- slot `j` would be read as the empty line of slot `m`, but with the mark for its pattern
    rw [decodeAt_of_zeros h hzeros hbeyond hm, decodeAt, hfree] at hline
    have hmark := pattern_of_decodeSlot hline
    have hpattern := (mem_usedSlots.mp hm).2
    apply hpattern
    exact UInt8.toNat_inj.mp (Int.ofNat_inj.mp (Option.some.inj hmark))
  have hperm : (List.range (usedSlots bytes).length).Perm (usedSlots bytes) := by
    have hsub : List.range (usedSlots bytes).length ⊆ usedSlots bytes :=
      fun j hj => hread j (List.mem_range.mp hj)
    refine (List.subperm_of_subset List.nodup_range hsub).perm_of_length_le ?_
    rw [List.length_range]
  rw [freeAtEnd_iff h]
  exact (hperm.eq_of_pairwise (fun _ _ _ _ hab hba => absurd hba (Nat.lt_asymm hab))
    List.pairwise_lt_range hlt).symm

/-! ## 4. Loading -/

/-- A file is loaded as the lines of its first slots, as many as there are in use, if it is laid out
as an image, its other slots are zero, and each of those slots holds a line. -/
theorem load_eq_iff {bytes : List UInt8} {program : Program} :
    load bytes = ⟨program, none⟩ ↔ isImage bytes = true ∧
      (slice ((usedSlots bytes).length * slotSize) reservedStart bytes).all (· == 0) = true ∧
      (List.range (usedSlots bytes).length).map (decodeAt bytes) = program.map .ok := by
  cases himage : isImage bytes with
  | false =>
    rw [load_of_not_isImage himage]
    simp [Loading.failed]
  | true =>
    rw [load, himage, usedCount_eq_length (isImage_iff.mp himage).1, Bool.true_and]
    split
    · rename_i hzeros
      rw [Loading.ofLines_eq_iff, and_iff_right hzeros, and_iff_right rfl]
      rfl
    · rename_i hzeros
      simp [Loading.failed, hzeros]

/-- The same without the program: when a file is loaded. -/
theorem load_fault_eq_none_iff {bytes : List UInt8} :
    (load bytes).fault = none ↔ isImage bytes = true ∧
      (slice ((usedSlots bytes).length * slotSize) reservedStart bytes).all (· == 0) = true ∧
      ∀ index < (usedSlots bytes).length, ∃ line, decodeAt bytes index = .ok line := by
  cases himage : isImage bytes with
  | false =>
    rw [load_of_not_isImage himage]
    simp [Loading.failed]
  | true =>
    rw [load, himage, usedCount_eq_length (isImage_iff.mp himage).1, Bool.true_and]
    split
    · rename_i hzeros
      rw [Loading.fault_ofLines_eq_none_iff, and_iff_right rfl, and_iff_right hzeros,
        List.forall_mem_map]
      simp only [List.mem_range]
      rfl
    · rename_i hzeros
      simp [Loading.failed, hzeros]

/-- **As many slots are read as are in use, from the first one on.** A file is loaded exactly if it
is laid out as an image, the slots after as many as are in use are zero, and each slot before them
holds a line; the program is then made of these lines, in order. They are the lines of the slots in
use, in order, exactly if no slot in use comes after a free one. -/
theorem loads_first_slots {session : Session} {file : String} {bytes : List UInt8}
    (hfile : session.bench.files file = some bytes) :
    ((session.perform (Control.load file (some .commodore))).result = .ok () ↔
      isImage bytes = true ∧
      (slice ((usedSlots bytes).length * slotSize) reservedStart bytes).all (· == 0) = true ∧
      ∀ index < (usedSlots bytes).length, ∃ line, decodeAt bytes index = .ok line) ∧
    ((∃ fault, (session.perform (Control.load file (some .commodore))).result = .error fault) ∨
      ∃ program,
        session.perform (Control.load file (some .commodore)) =
          ⟨.ok (), [], "", session.holding program⟩ ∧
        (List.range (usedSlots bytes).length).map (decodeAt bytes) = program.map .ok ∧
        ((usedSlots bytes).map (decodeAt bytes) = program.map .ok ↔ FreeAtEnd bytes)) := by
  rw [Session.perform_load hfile, Loading.result_eq_ok_iff]
  refine ⟨load_fault_eq_none_iff, ?_⟩
  cases hfault : (load bytes).fault with
  | some fault =>
    left
    refine ⟨.load fault, ?_⟩
    show (load bytes).result = _
    rw [Loading.result, hfault]
  | none =>
    right
    have hload : load bytes = ⟨(load bytes).program, none⟩ := by rw [← hfault]
    obtain ⟨himage, hzeros, hlines⟩ := load_eq_iff.mp hload
    have hsize := (isImage_iff.mp himage).1
    refine ⟨(load bytes).program, ?_, hlines, ?_, ?_⟩
    · show Report.mk (load bytes).result [] "" (session.holding (load bytes).program) = _
      rw [Loading.result, hfault]
    · intro hused
      exact freeAtEnd_of_sameLines hsize hzeros (hused.trans hlines.symm)
    · intro hfree
      rw [(freeAtEnd_iff hsize).mp hfree]
      exact hlines

/-- An image whose first slot has a label, but is marked as free; the second slot is in use. -/
def gapped : List UInt8 :=
  [0x41] ++ List.replicate (tableStart - 1) 0 ++ [freeMark, 1] ++ List.replicate 39 freeMark

/-- The free slot in front of a gap is read in place of the slot in use. -/
theorem gapped_loads_free_slot :
    let session := ({} : Session).withFiles fun _ => some gapped
    gapped.length = imageSize ∧
    session.perform (Control.load "gapped" (some .commodore)) =
      ⟨.ok (), [], "", session.holding [.setOutput (some "A") (some 0xFF) none]⟩ ∧
    usedSlots gapped = [1] ∧
    (usedSlots gapped).map (decodeAt gapped) = [.ok (.setOutput (some "") (some 1) none)] ∧
    (usedSlots gapped).map (decodeAt gapped) ≠ [.ok (.setOutput (some "A") (some 0xFF) none)] := by
  intro session
  have hfile : session.bench.files "gapped" = some gapped := rfl
  have hload : load gapped = ⟨[.setOutput (some "A") (some 0xFF) none], none⟩ := by
    rw [load_eq_iff]
    decide +kernel
  have hslots : usedSlots gapped = [1] := by decide +kernel
  have hlines : (usedSlots gapped).map (decodeAt gapped) =
      [.ok (.setOutput (some "") (some 1) none)] := by decide +kernel
  refine ⟨by decide +kernel, ?_, hslots, hlines, ?_⟩
  · rw [Session.perform_load hfile]
    show Report.mk (load gapped).result [] "" (session.holding (load gapped).program) = _
    rw [hload]
    rfl
  · rw [hlines]
    decide

/-- The image with a gap is loaded, as another program than that of its slots in use. -/
theorem gapped_not_freeAtEnd :
    let session := ({} : Session).withFiles fun _ => some gapped
    session.bench.files "gapped" = some gapped ∧
    (session.perform (Control.load "gapped" (some .commodore))).result = .ok () ∧
    ¬ FreeAtEnd gapped := by
  intro session
  have hfile : session.bench.files "gapped" = some gapped := rfl
  have hlayout : isImage gapped = true ∧
      (slice ((usedSlots gapped).length * slotSize) reservedStart gapped).all (· == 0) = true ∧
      ∀ index < (usedSlots gapped).length, decodeAt gapped index =
        .ok (.setOutput (some "A") (some 0xFF) none) := by decide +kernel
  obtain ⟨haccept, hreport⟩ := loads_first_slots hfile
  have hok := haccept.mpr ⟨hlayout.1, hlayout.2.1, fun i hi => ⟨_, hlayout.2.2 i hi⟩⟩
  refine ⟨hfile, hok, ?_⟩
  rcases hreport with ⟨fault, hfault⟩ | ⟨program, -, hread, hiff⟩
  · rw [hok] at hfault
    cases hfault
  · intro hfree
    -- the two lists of lines would be the same
    have hsame := (hiff.mpr hfree).trans hread.symm
    revert hsame
    decide +kernel

end LineControl.Commodore

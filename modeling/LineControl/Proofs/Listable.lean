import Mathlib.Data.Nat.Digits.Lemmas
import LineControl.Listing
import LineControl.Proofs.WholeNumbers

/-!
# Programs that can be listed

There are two reasons for a line not to be listed: it has no label, or its value has more digits
than are written down. A program has a listing exactly if all its lines can be listed. If not, the
first line that cannot says why (`listing_eq`); which line is to be active plays no part in it.

    listing program active = match program.listingFault? with
      | none => .ok (header ++ rows active 0 (program.map columnsOf) ++ footer)
      | some fault => .error fault

A run shows the listing at every turn, so the same question decides whether a program can be run at
all: a program that cannot be listed stops at its first screen, before its first line is executed.
`isListable` and `listingFault?` are what the statements about runs have for it.

Numerals are read up to the same number of digits, so a value that was read from a file can be
listed (`Number.isPrintable_ofField?`). Only a program that is built line by line can have a value
that is too long. Decimal numbers always have a text, for that has at most seventeen digits and an
exponent.

The number of a row is written down as well. It is taken to be short enough: a program would need
more than `10 ^ 4299` lines for it to be too long.
-/

set_option autoImplicit false

namespace LineControl

/-! ## 1. Numbers that can be written down -/

/-- The whole numbers that can be written down are those below a bound. -/
theorem Number.isPrintable_int_iff {n : Int} :
    (Number.int n).isPrintable = true ↔ n.natAbs < 10 ^ Numeral.maxDigits := by
  rw [isPrintable, decide_eq_true_eq, Binary64.decimalLength,
    Nat.length_toDigits_le_iff (by decide) (by decide)]

namespace Numeral

variable {cs : List Char} {ds : List Nat} {m : Nat} {n : Int}

/-- The values in a row of digits are digits, in whatever script they were written. -/
theorem DigitRow.lt_ten (h : DigitRow cs ds) : ∀ d ∈ ds, d < 10 := by
  have hdigit {c : Char} {d : Nat} (hc : Text.IsDigitOf c d) : d < 10 := by
    obtain ⟨_, _, hd, _⟩ := hc
    exact hd
  induction h with
  | last hc => exact List.forall_mem_singleton.mpr (hdigit hc)
  | next hc _ ih => exact List.forall_mem_cons.mpr ⟨hdigit hc, ih⟩
  | joined hc _ ih => exact List.forall_mem_cons.mpr ⟨hdigit hc, ih⟩

/-- A row that is not too long has a value below the bound. Leading zeros count as digits, so the
converse fails. -/
theorem IsRowOf.lt_pow (h : IsRowOf cs m) : m < 10 ^ maxDigits := by
  obtain ⟨ds, hrow, hfew, rfl⟩ := h
  have hlt : Nat.ofDigits 10 ds.reverse < 10 ^ ds.reverse.length :=
    Nat.ofDigits_lt_base_pow_length (by decide) fun d hd => hrow.lt_ten d (List.mem_reverse.mp hd)
  -- the row may have fewer digits than the bound
  refine Nat.lt_of_lt_of_le hlt (Nat.pow_le_pow_right (by decide) ?_)
  rw [List.length_reverse]
  exact hfew

/-- A number that has a numeral can be written down. -/
theorem Denotes.isPrintable (h : Denotes cs n) : (Number.int n).isPrintable = true := by
  rw [Number.isPrintable_int_iff]
  cases h with
  | unsigned hrow => exact hrow.lt_pow
  | plus hrow => exact hrow.lt_pow
  | minus hrow =>
    rw [Int.natAbs_neg, Int.natAbs_natCast]
    exact hrow.lt_pow

end Numeral

namespace Number

/-- What is read as a value can be written down again. -/
theorem isPrintable_ofField? (cs : List Char) : (ofField? cs).all isPrintable = true := by
  rw [Option.all_eq_true]
  intro v h
  cases v with
  | real x => rfl
  | int n =>
    rw [ofField?_eq_int_iff_integer, Numeral.integer_eq_ok_iff] at h
    obtain ⟨_, _, _, _, _, _, hdenotes⟩ := h
    exact hdenotes.isPrintable

/-- A minus is written but does not count as a digit. -/
theorem decimalLength_natAbs_le (n : Int) :
    Binary64.decimalLength n.natAbs ≤ (toString n).toList.length := by
  cases n with
  | ofNat m =>
    rw [Int.ofNat_eq_natCast, toList_toString_natCast]
    exact Nat.le_refl _
  | negSucc m =>
    rw [toList_toString_negSucc]
    exact Nat.le_succ _

theorem isPrintable_of_length {v : Number} (h : v.text.length ≤ Numeral.maxDigits) :
    v.isPrintable = true := by
  cases v with
  | real x => rfl
  | int n =>
    rw [isPrintable, decide_eq_true_eq]
    rw [← String.length_toList] at h
    exact Nat.le_trans (decimalLength_natAbs_le n) h

end Number

/-! ## 2. Lines that can be listed

The value cell may fail, so the text of a line is made in two steps. Here the two are one: what
stands in the columns is given by a total function, and whether the line has a text by a test. -/

/-- Whether the line can be listed: it has a label, and its value is not too long. -/
def Instruction.isListable (i : Instruction) : Bool :=
  i.label.isSome && i.value.all Number.isPrintable

/-- What keeps the line from being listed, if something does. A missing label is found first. -/
def Instruction.listingFault (i : Instruction) : ListingFault :=
  if i.label.isSome then .longValue else .noLabel

namespace Listing

/-- What stands in the value cell. -/
def valueField : Option Number → String
  | none => "     "
  | some v => padRight 5 v.text

/-- The columns of a line; a line without a label counts as one with an empty label. -/
def columnsOf (i : Instruction) : String :=
  columns (i.label.getD "") i (valueField i.value)

theorem valueCell_eq (value : Option Number) :
    valueCell value = if value.all Number.isPrintable then .ok (valueField value)
      else .error .longValue := by
  cases value with
  | none => rfl
  | some v => rfl

/-- The text of a line that can be listed is made of its columns. -/
theorem instructionText_eq (i : Instruction) :
    instructionText i = if i.isListable then .ok (columnsOf i) else .error i.listingFault := by
  unfold instructionText Instruction.isListable Instruction.listingFault columnsOf
  rw [valueCell_eq]
  cases i.label with
  | none => rfl
  | some label => cases i.value.all Number.isPrintable <;> rfl

end Listing

/-! ## 3. Programs that can be listed

The lines are asked from top to bottom, so of several faults the first is reported. Nothing is shown
of the lines above it. -/

namespace Program

/-- Whether every line can be listed. -/
def isListable (program : Program) : Bool :=
  program.all Instruction.isListable

/-- What keeps the program from being listed: the fault of the first line that cannot be. -/
def listingFault? (program : Program) : Option ListingFault :=
  (program.find? (!·.isListable)).map Instruction.listingFault

variable {program : Program}

theorem listingFault?_eq_none_iff : program.listingFault? = none ↔ program.isListable = true := by
  rw [listingFault?, Option.map_eq_none_iff, List.find?_eq_none, isListable, List.all_eq_true]
  simp

theorem listingFault?_cons (i : Instruction) (rest : Program) :
    listingFault? (i :: rest) =
      if i.isListable then rest.listingFault? else some i.listingFault := by
  rw [listingFault?, List.find?_cons]
  cases i.isListable with
  | true => rfl
  | false => rfl

theorem exists_listingFault? (h : program.isListable = false) :
    ∃ fault, program.listingFault? = some fault := by
  cases hfault : program.listingFault? with
  | some fault => exact ⟨fault, rfl⟩
  | none =>
    rw [listingFault?_eq_none_iff.mp hfault] at h
    cases h

theorem isListable_append (first second : Program) :
    isListable (first ++ second) = (first.isListable && second.isListable) :=
  List.all_append

/-- Of two programs the upper one is asked first. -/
theorem listingFault?_append (first second : Program) :
    listingFault? (first ++ second) = first.listingFault?.or second.listingFault? := by
  rw [listingFault?, List.find?_append]
  cases hfind : first.find? (!·.isListable) with
  | none => simp [listingFault?, hfind]
  | some i => simp [listingFault?, hfind]

end Program

namespace Listing

theorem texts_cons (i : Instruction) (rest : Program) :
    texts (i :: rest) = (instructionText i).bind fun text => (texts rest).map (text :: ·) := by
  rw [texts, List.mapM_cons]
  rfl

/-- The texts of all lines, or the fault of the first line without one. -/
theorem texts_eq (program : Program) :
    texts program = match program.listingFault? with
      | none => .ok (program.map columnsOf)
      | some fault => .error fault := by
  induction program with
  | nil => rfl
  | cons i rest ih =>
    rw [texts_cons, ih, instructionText_eq, Program.listingFault?_cons]
    cases i.isListable with
    | false => rfl
    | true =>
      cases Program.listingFault? rest with
      | none => rfl
      | some fault => rfl

/-- A program is listed row by row, or the first line that cannot be listed says why not. -/
theorem listing_eq (program : Program) (active : Option Int) :
    listing program active = match program.listingFault? with
      | none => .ok (header ++ rows active 0 (program.map columnsOf) ++ footer)
      | some fault => .error fault := by
  rw [listing, texts_eq]
  cases program.listingFault? with
  | none => rfl
  | some fault => rfl

theorem listing_of_isListable {program : Program} (h : program.isListable = true)
    (active : Option Int) :
    listing program active = .ok (header ++ rows active 0 (program.map columnsOf) ++ footer) := by
  rw [listing_eq, Program.listingFault?_eq_none_iff.mpr h]

theorem listing_eq_error_iff {program : Program} {active : Option Int} {fault : ListingFault} :
    listing program active = .error fault ↔ program.listingFault? = some fault := by
  rw [listing_eq]
  cases program.listingFault? with
  | none => simp
  | some fault' => simp

end Listing

end LineControl

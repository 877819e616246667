import Mathlib.Data.Nat.Digits.Defs
import LineControl.Proofs.Words

/-!
# The numerals of whole numbers

Which texts stand for a whole number, and for which one. `Numeral.DigitRow` is the grammar of a row
of digits, of any script and with an underscore only between two of them, and `Numeral.Denotes` puts
a sign before a row that is not too long. Both say nothing of how a text is read.

A value is the whole number `n` exactly if what is left of its text after trimming denotes `n` and
no separator is in the text:

    ofField? cs = some (.int n)  ↔  SeparatorFree cs ∧ Denotes (trim cs) n

(`ofField?_eq_int_iff`). The separators matter because trimming takes them away and reading a
numeral does not, so a numeral behind one is not a value (`separated_numeral_is_no_value`).

## How the grammar meets the reader

Reading cuts a row at its underscores and asks of every group that it has a digit; the grammar goes
from left to right and asks of every underscore that a digit follows. Section 3 gives the first the
recursion of the second: `digits?_last`, `digits?_next` and `digits?_joined` are one equation for
each constructor of `DigitRow`, and after these `groups` is not mentioned any more. Section 4 does
the rest of the reading, whose parts are spans: blanks, a sign, as many digits as there are, blanks.
The two descriptions agree because the classes of characters do not overlap.

## What is left out

Values with a point or a comma are decimal numbers and have no grammar here. Nor is it said which
fault a text that is no numeral is refused with, since a value that cannot be read is no value and
the fault is dropped.
-/

set_option autoImplicit false

namespace LineControl

/-! ## 1. Digits and separators -/

namespace Text

/-- The character is the digit `d` of some script: it comes `d` places after the zero. -/
def IsDigitOf (c : Char) (d : Nat) : Prop :=
  ∃ base ∈ digitZeros, d < 10 ∧ c.toNat = base + d

/-- One of the four separators, which are blanks but may not surround a numeral. -/
def isSeparator (c : Char) : Bool :=
  0x1C ≤ c.toNat && c.toNat ≤ 0x1F

/-- No character of the text is a separator. -/
def SeparatorFree (cs : List Char) : Prop :=
  ∀ c ∈ cs, isSeparator c = false

variable {c : Char} {d : Nat} {cs before after : List Char}

/-- The digits of two scripts have no character in common. -/
theorem digitZeros_apart :
    ∀ base ∈ digitZeros, ∀ base' ∈ digitZeros, base' ≤ base ∨ base + 10 ≤ base' := by
  decide +kernel

/-- A character has a digit value exactly if it is that digit of some script. The table is searched
from the front, so this needs that no range comes twice. -/
theorem digit?_eq_some_iff : digit? c = some d ↔ IsDigitOf c d := by
  rw [digit?, Option.map_eq_some_iff]
  constructor
  · rintro ⟨base, hfind, rfl⟩
    have hrange := List.find?_some hfind
    simp only [Bool.and_eq_true, decide_eq_true_eq] at hrange
    exact ⟨base, List.mem_of_find?_eq_some hfind, by omega, by omega⟩
  · rintro ⟨base, hbase, hd, hc⟩
    cases hfind : digitZeros.find? fun base => base ≤ c.toNat && c.toNat < base + 10 with
    | none =>
      have hnone := List.find?_eq_none.mp hfind base hbase
      simp only [Bool.and_eq_true, decide_eq_true_eq] at hnone
      omega
    | some base' =>
      have hrange := List.find?_some hfind
      simp only [Bool.and_eq_true, decide_eq_true_eq] at hrange
      -- the range that was found is that of the digit, for two different ones are apart
      have hbase' := List.mem_of_find?_eq_some hfind
      have hle := digitZeros_apart base hbase base' hbase'
      have hge := digitZeros_apart base' hbase' base hbase
      exact ⟨base', rfl, by omega⟩

theorem IsDigitOf.isDigit_eq (h : IsDigitOf c d) : isDigit c = true := by
  rw [isDigit, digit?_eq_some_iff.mpr h]
  rfl

theorem isBlank_eq_or : isBlank c = (isNumericBlank c || isSeparator c) :=
  rfl

theorem IsDigitOf.isBlank_eq (h : IsDigitOf c d) : isBlank c = false := by
  have hnumeric : isNumericBlank c = false := by
    by_contra hblank
    rw [Bool.not_eq_false] at hblank
    have hpart := Numeral.isPart_of_isNumericBlank hblank
    rw [h.isDigit_eq] at hpart
    cases hpart
  have hseparator : isSeparator c = false := by
    obtain ⟨base, hbase, -, hc⟩ := h
    have hlow : ∀ base ∈ digitZeros, 0x30 ≤ base := by decide
    have := hlow base hbase
    simp [isSeparator]
    omega
  rw [isBlank_eq_or, hnumeric, hseparator]
  rfl

theorem isSeparator_of_isNumericBlank (h : isNumericBlank c = true) : isSeparator c = false := by
  simp [isNumericBlank] at h
  simp [isSeparator]
  omega

theorem isSeparator_of_not_isBlank (h : isBlank c = false) : isSeparator c = false := by
  rw [isBlank_eq_or, Bool.or_eq_false_iff] at h
  exact h.2

end Text

open Text

/-! ## 2. The grammar -/

namespace Numeral

/-- A row of digits and their values. An underscore stands only between two digits. -/
inductive DigitRow : List Char → List Nat → Prop where
  | last {c : Char} {d : Nat} : IsDigitOf c d → DigitRow [c] [d]
  | next {c : Char} {d : Nat} {cs : List Char} {ds : List Nat} :
      IsDigitOf c d → DigitRow cs ds → DigitRow (c :: cs) (d :: ds)
  | joined {c : Char} {d : Nat} {cs : List Char} {ds : List Nat} :
      IsDigitOf c d → DigitRow cs ds → DigitRow (c :: '_' :: cs) (d :: ds)

/-- The text is a row of at most 4300 digits, with the value `m` in base ten. -/
def IsRowOf (cs : List Char) (m : Nat) : Prop :=
  ∃ ds, DigitRow cs ds ∧ ds.length ≤ 4300 ∧ m = Nat.ofDigits 10 ds.reverse

/-- The text is a numeral of the whole number: a row of digits, with or without a sign. -/
inductive Denotes : List Char → Int → Prop where
  | unsigned {cs : List Char} {m : Nat} : IsRowOf cs m → Denotes cs m
  | plus {cs : List Char} {m : Nat} : IsRowOf cs m → Denotes ('+' :: cs) m
  | minus {cs : List Char} {m : Nat} : IsRowOf cs m → Denotes ('-' :: cs) (-m)

variable {c : Char} {cs : List Char} {d m : Nat} {ds : List Nat} {n : Int}

/-- What holds of every digit and of the underscore holds throughout a row. -/
theorem DigitRow.forall_mem {p : Char → Prop} (hdigit : ∀ c d, IsDigitOf c d → p c)
    (hunderscore : p '_') (h : DigitRow cs ds) : ∀ c ∈ cs, p c := by
  induction h with
  | last hc => simpa using hdigit _ _ hc
  | next hc _ ih => simpa using ⟨hdigit _ _ hc, ih⟩
  | joined hc _ ih => simpa using ⟨hdigit _ _ hc, hunderscore, ih⟩

theorem DigitRow.exists_cons (h : DigitRow cs ds) :
    ∃ c d rest, IsDigitOf c d ∧ cs = c :: rest := by
  cases h with
  | last hc => exact ⟨_, _, _, hc, rfl⟩
  | next hc _ => exact ⟨_, _, _, hc, rfl⟩
  | joined hc _ => exact ⟨_, _, _, hc, rfl⟩

theorem IsRowOf.isPart (h : IsRowOf cs m) : ∀ c ∈ cs, (isDigit c || c == '_') = true := by
  obtain ⟨ds, hds, -, -⟩ := h
  refine hds.forall_mem (fun c d hc => ?_) rfl
  rw [hc.isDigit_eq]
  rfl

theorem ne_underscore (h : IsDigitOf c d) : c ≠ '_' := by
  rintro rfl
  exact absurd h.isDigit_eq (by decide)

/-- Every character of a numeral is a digit, an underscore or a sign. -/
theorem Denotes.forall_mem {p : Char → Prop} (hdigit : ∀ c d, IsDigitOf c d → p c)
    (hmarks : ∀ c ∈ ['_', '+', '-'], p c) (h : Denotes cs n) : ∀ c ∈ cs, p c := by
  have hall {row : List Char} {m : Nat} (hrowOf : IsRowOf row m) : ∀ c ∈ row, p c := by
    obtain ⟨ds, hds, -, -⟩ := hrowOf
    exact hds.forall_mem hdigit (hmarks '_' (by simp))
  cases h with
  | unsigned hrowOf => exact hall hrowOf
  | plus hrowOf => simpa using ⟨hmarks '+' (by simp), hall hrowOf⟩
  | minus hrowOf => simpa using ⟨hmarks '-' (by simp), hall hrowOf⟩

/-- A numeral is a word, so trimming stops at it from both sides. -/
theorem Denotes.isWord (h : Denotes cs n) : IsWord cs := by
  refine ⟨?_, h.forall_mem (fun c d hc => hc.isBlank_eq) (by simp [isBlank, isNumericBlank])⟩
  cases h with
  | unsigned hrowOf =>
    obtain ⟨ds, hds, -, -⟩ := hrowOf
    obtain ⟨c, d, rest, -, rfl⟩ := hds.exists_cons
    exact List.cons_ne_nil c rest
  | plus _ => exact List.cons_ne_nil _ _
  | minus _ => exact List.cons_ne_nil _ _

/-! ## 3. Reading a row of digits -/

theorem groups_eq_cons (cs : List Char) : ∃ group later, groups cs = group :: later := by
  cases cs with
  | nil => exact ⟨[], [], rfl⟩
  | cons c rest =>
    rw [groups]
    split
    · exact ⟨[], groups rest, rfl⟩
    · split
      · exact ⟨[c], [], rfl⟩
      · exact ⟨_, _, rfl⟩

theorem groups_cons {group : List Char} {later : List (List Char)} (hc : c ≠ '_')
    (h : groups cs = group :: later) : groups (c :: cs) = (c :: group) :: later := by
  rw [groups, if_neg (by simpa using hc), h]

theorem digits?_underscore (cs : List Char) : digits? ('_' :: cs) = none := by
  simp [digits?, groups]

theorem digits?_last (hc : c ≠ '_') : digits? [c] = (digit? c).map ([·]) := by
  simp [digits?, groups, hc]
  cases digit? c <;> rfl

/-- One more digit in the groups of a text is one more digit in its row. -/
theorem digits?_of_groups {rest : List Char}
    (hempty : (groups cs).any (·.isEmpty) = (groups rest).any (·.isEmpty))
    (hflatten : (groups cs).flatten = c :: (groups rest).flatten) :
    digits? cs = (digit? c).bind fun d => (digits? rest).map (d :: ·) := by
  unfold digits?
  dsimp only
  rw [hempty, hflatten, List.mapM_cons]
  split
  · cases digit? c <;> rfl
  · cases digit? c with
    | none => rfl
    | some d => cases (groups rest).flatten.mapM digit? <;> rfl

theorem digits?_next {c' : Char} (hc : c ≠ '_') (hc' : c' ≠ '_') :
    digits? (c :: c' :: cs) = (digit? c).bind fun d => (digits? (c' :: cs)).map (d :: ·) := by
  obtain ⟨group, later, hgroups⟩ := groups_eq_cons cs
  have hrest := groups_cons hc' hgroups
  apply digits?_of_groups
  · simp [groups_cons hc hrest, hrest]
  · simp [groups_cons hc hrest, hrest]

theorem digits?_joined (hc : c ≠ '_') :
    digits? (c :: '_' :: cs) = (digit? c).bind fun d => (digits? cs).map (d :: ·) := by
  have hrest : groups ('_' :: cs) = [] :: groups cs := by simp [groups]
  apply digits?_of_groups
  · simp [groups_cons hc hrest]
  · simp [groups_cons hc hrest]

/-- What is read as digits is a row of the grammar. The recursion skips one or two characters, so it
is not that of the list. -/
theorem digitRow_of_digits? : ∀ {cs : List Char} {ds : List Nat},
    digits? cs = some ds → DigitRow cs ds
  | [], _, h => by simp [digits?, groups] at h
  | [c], ds, h => by
    by_cases hc : c = '_'
    · rw [hc, digits?_underscore] at h
      cases h
    rw [digits?_last hc, Option.map_eq_some_iff] at h
    obtain ⟨d, hd, rfl⟩ := h
    exact .last (digit?_eq_some_iff.mp hd)
  | c :: c' :: cs, ds, h => by
    -- the second character says whether an underscore joins the first digit to the rest
    by_cases hc : c = '_'
    · rw [hc, digits?_underscore] at h
      cases h
    by_cases hc' : c' = '_'
    · rw [hc', digits?_joined hc, Option.bind_eq_some_iff] at h
      obtain ⟨d, hd, h⟩ := h
      obtain ⟨rest, hrest, rfl⟩ := Option.map_eq_some_iff.mp h
      rw [hc']
      exact .joined (digit?_eq_some_iff.mp hd) (digitRow_of_digits? hrest)
    · rw [digits?_next hc hc', Option.bind_eq_some_iff] at h
      obtain ⟨d, hd, h⟩ := h
      obtain ⟨rest, hrest, rfl⟩ := Option.map_eq_some_iff.mp h
      exact .next (digit?_eq_some_iff.mp hd) (digitRow_of_digits? hrest)

/-- A row of the grammar is read as its digits. -/
theorem digits?_of_digitRow (h : DigitRow cs ds) : digits? cs = some ds := by
  induction h with
  | last hc =>
    rw [digits?_last (ne_underscore hc), digit?_eq_some_iff.mpr hc]
    rfl
  | next hc hrow ih =>
    obtain ⟨c', d', rest, hc', rfl⟩ := hrow.exists_cons
    rw [digits?_next (ne_underscore hc) (ne_underscore hc'), digit?_eq_some_iff.mpr hc, ih]
    rfl
  | joined hc _ ih =>
    rw [digits?_joined (ne_underscore hc), digit?_eq_some_iff.mpr hc, ih]
    rfl

/-- Cutting a text at its underscores reads exactly the rows of digits. -/
theorem digits?_eq_some_iff : digits? cs = some ds ↔ DigitRow cs ds :=
  ⟨digitRow_of_digits?, digits?_of_digitRow⟩

/-- The value of a row in base ten, in the terms of the library: its digits are counted from the
last. -/
theorem decimalValue_eq_ofDigits (ds : List Nat) :
    decimalValue ds = Nat.ofDigits 10 ds.reverse := by
  rw [Nat.ofDigits_eq_foldr, List.foldr_reverse, decimalValue]
  congr 1
  funext value digit
  exact Nat.add_comm _ _

/-! ## 4. Reading a numeral

First as the reader does it, by spans that each go on for as long as they can; then as the grammar
has it, with blanks, a numeral and blanks in a row. -/

theorem sign_cases (cs : List Char) :
    cs = '+' :: (sign cs).2 ∧ (sign cs).1 = false ∨ cs = '-' :: (sign cs).2 ∧ (sign cs).1 = true ∨
      sign cs = (false, cs) := by
  unfold sign
  split
  · exact .inl ⟨rfl, rfl⟩
  · exact .inr (.inl ⟨rfl, rfl⟩)
  · exact .inr (.inr rfl)

theorem IsRowOf.sign_eq (h : IsRowOf cs m) : sign cs = (false, cs) := by
  apply sign_of_head?
  · intro hhead
    exact absurd (h.isPart _ (List.mem_of_head? hhead)) (by decide)
  · intro hhead
    exact absurd (h.isPart _ (List.mem_of_head? hhead)) (by decide)

/-- A numeral is taken apart into its sign and the row after it. -/
theorem Denotes.exists_row (h : Denotes cs n) :
    ∃ m, IsRowOf (sign cs).2 m ∧ n = if (sign cs).1 then -(m : Int) else m := by
  cases h with
  | @unsigned _ m hrowOf =>
    rw [hrowOf.sign_eq]
    exact ⟨m, hrowOf, rfl⟩
  | @plus _ m hrowOf => exact ⟨m, hrowOf, rfl⟩
  | @minus _ m hrowOf => exact ⟨m, hrowOf, rfl⟩

/-- Conversely, a row of digits makes a numeral with the sign before it. -/
theorem exists_denotes {signed row after : List Char} (hbody : (sign signed).2 = row ++ after)
    (hrowOf : IsRowOf row m) : ∃ numeral, signed = numeral ++ after ∧
      Denotes numeral (if (sign signed).1 then -(m : Int) else m) := by
  rcases sign_cases signed with ⟨hsigned, hsign⟩ | ⟨hsigned, hsign⟩ | hsign
  · rw [hsign]
    refine ⟨'+' :: row, ?_, .plus hrowOf⟩
    rw [hsigned, hbody]
    rfl
  · rw [hsign]
    refine ⟨'-' :: row, ?_, .minus hrowOf⟩
    rw [hsigned, hbody]
    rfl
  · rw [hsign] at hbody ⊢
    exact ⟨row, hbody, .unsigned hrowOf⟩

/-- A text is read as a sign, a row of digits that goes on for as long as it can, and blanks. -/
theorem integer_eq_ok_iff_spans : integer cs = .ok n ↔
    let body := (sign (cs.dropWhile isNumericBlank)).2
    ∃ m, IsRowOf (body.takeWhile fun c => isDigit c || c == '_') m ∧
      (∀ c ∈ body.dropWhile fun c => isDigit c || c == '_', isNumericBlank c = true) ∧
      n = if (sign (cs.dropWhile isNumericBlank)).1 then -(m : Int) else m := by
  unfold integer
  generalize sign (cs.dropWhile isNumericBlank) = signed
  obtain ⟨negative, body⟩ := signed
  dsimp only
  -- faults in the order in which they are found: the digits, how many, what follows them
  cases hrow : digits? (body.takeWhile fun c => isDigit c || c == '_') with
  | none =>
    constructor
    · intro h
      cases h
    · rintro ⟨m, ⟨ds, hds, -, -⟩, -, -⟩
      rw [digits?_eq_some_iff.mpr hds] at hrow
      cases hrow
  | some ds =>
    have hds := digits?_eq_some_iff.mp hrow
    dsimp only
    constructor
    · intro h
      split at h
      · cases h
      rename_i hfew
      split at h
      · cases h
      rename_i hblanks
      rw [Bool.not_eq_true, Bool.not_eq_false', List.all_eq_true] at hblanks
      refine ⟨decimalValue ds, ⟨ds, hds, ?_, decimalValue_eq_ofDigits ds⟩, hblanks, ?_⟩
      · exact Nat.not_lt.mp hfew
      · exact (Except.ok.inj h).symm
    · rintro ⟨m, ⟨ds', hds', hfew, rfl⟩, hblanks, rfl⟩
      rw [digits?_eq_some_iff.mpr hds', Option.some.injEq] at hrow
      have hshort : ¬ maxDigits < ds'.length := Nat.not_lt.mpr hfew
      rw [← hrow, if_neg hshort, List.all_eq_true.mpr hblanks, decimalValue_eq_ofDigits]
      rfl

theorem dropWhile_before_word {before after : List Char}
    (hbefore : ∀ c ∈ before, isNumericBlank c = true) (h : IsWord cs) :
    (before ++ cs ++ after).dropWhile isNumericBlank = cs ++ after := by
  obtain ⟨c, rest, rfl⟩ := List.exists_cons_of_ne_nil h.ne_nil
  have hc : isNumericBlank c = false := by
    have hblank := h.blankFree c List.mem_cons_self
    rw [isBlank_eq_or, Bool.or_eq_false_iff] at hblank
    exact hblank.1
  rw [List.append_assoc, List.dropWhile_append_of_pos hbefore, List.cons_append,
    List.dropWhile_cons_of_neg (by simp [hc])]

/-- A text is read as a whole number exactly if it is a numeral of it with blanks around. -/
theorem integer_eq_ok_iff : integer cs = .ok n ↔ ∃ before numeral after,
    cs = before ++ numeral ++ after ∧ (∀ c ∈ before, isNumericBlank c = true) ∧
      (∀ c ∈ after, isNumericBlank c = true) ∧ Denotes numeral n := by
  rw [integer_eq_ok_iff_spans]
  constructor
  · rintro ⟨m, hrowOf, hafter, rfl⟩
    obtain ⟨numeral, hsigned, hdenotes⟩ :=
      exists_denotes List.takeWhile_append_dropWhile.symm hrowOf
    refine ⟨cs.takeWhile isNumericBlank, numeral, _, ?_, ?_, hafter, hdenotes⟩
    · rw [List.append_assoc, ← hsigned, List.takeWhile_append_dropWhile]
    · exact fun c hc => List.mem_takeWhile_imp hc
  · rintro ⟨before, numeral, after, rfl, hbefore, hafter, hdenotes⟩
    obtain ⟨m, hrowOf, rfl⟩ := hdenotes.exists_row
    -- no blank goes on with a row of digits, so the row ends where the blanks begin
    have hstop : ∀ c ∈ after, (isDigit c || c == '_') = false :=
      fun c hc => isPart_of_isNumericBlank (hafter c hc)
    rw [dropWhile_before_word hbefore hdenotes.isWord, sign_append hafter]
    refine ⟨m, ?_, ?_, rfl⟩
    · rwa [(span_append hstop).1, List.takeWhile_eq_self_iff.mpr hrowOf.isPart]
    · rwa [(span_append hstop).2, List.dropWhile_eq_nil_iff.mpr hrowOf.isPart]

/-! ## 5. Decimal texts -/

theorem isRowOf_toDigits (hfew : (Nat.toDigits 10 m).length ≤ 4300) :
    IsRowOf (Nat.toDigits 10 m) m := by
  have hdigit : ∀ c ∈ Nat.toDigits 10 m, c.isDigit = true :=
    fun c hc => Nat.isDigit_of_mem_toDigits (by decide) (by decide) hc
  refine ⟨_, digits?_eq_some_iff.mp (digits?_of_isDigit hdigit Nat.toDigits_ne_nil), ?_, ?_⟩
  · rwa [List.length_map]
  · rw [← decimalValue_eq_ofDigits, decimalValue_toDigits]

/-- The decimal text of a whole number is a numeral of it, unless it has too many digits. -/
theorem denotes_toString (hfew : (Nat.toDigits 10 n.natAbs).length ≤ 4300) :
    Denotes (toString n).toList n := by
  cases n with
  | ofNat m =>
    rw [Int.ofNat_eq_natCast, Number.toList_toString_natCast]
    exact .unsigned (isRowOf_toDigits hfew)
  | negSucc m =>
    rw [Number.toList_toString_negSucc]
    exact .minus (isRowOf_toDigits hfew)

end Numeral

/-! ## 6. Whole numbers as values -/

namespace Number

open Numeral

variable {cs before after : List Char} {n : Int}

/-- Nothing but blanks, digits, underscores and signs is in a text that is read. -/
theorem not_mem_of_integer (h : integer cs = .ok n) {c : Char} (hblank : isNumericBlank c = false)
    (hdigit : isDigit c = false) (hmark : c ∉ ['_', '+', '-']) : c ∉ cs := by
  obtain ⟨before, numeral, after, rfl, hbefore, hafter, hdenotes⟩ := integer_eq_ok_iff.mp h
  have hnumeral : c ∉ numeral := by
    intro hc
    refine hdenotes.forall_mem (p := fun c' => c' ≠ c) ?_ ?_ c hc rfl
    · rintro c' d hc' rfl
      rw [hc'.isDigit_eq] at hdigit
      cases hdigit
    · rintro c' hc' rfl
      exact hmark hc'
  simp [hnumeral, not_mem_blanks hbefore hblank, not_mem_blanks hafter hblank]

/-- A text with a point or a comma is never read as a whole number, and need not be: it is no
numeral of one. -/
theorem ofField?_eq_int_iff_integer : ofField? cs = some (.int n) ↔ integer cs = .ok n := by
  unfold ofField?
  constructor
  · intro h
    split at h
    · simp at h
    · cases hinteger : integer cs with
      | ok m =>
        rw [hinteger] at h
        cases h
        rfl
      | error fault =>
        rw [hinteger] at h
        cases h
  · intro h
    have hpoint : '.' ∉ cs := not_mem_of_integer h rfl (by decide) (by decide)
    have hcomma : ',' ∉ cs := not_mem_of_integer h rfl (by decide) (by decide)
    simp [hpoint, hcomma, h]

theorem isNumericBlank_of_separatorFree {c : Char} (hblank : isBlank c = true)
    (hfree : SeparatorFree cs) (hc : c ∈ cs) : isNumericBlank c = true := by
  rwa [isBlank_eq_or, hfree c hc, Bool.or_false] at hblank

/-- Trimming finds the numeral, if nothing but the blanks that may surround it is trimmed. -/
theorem ofField?_eq_int_iff :
    ofField? cs = some (.int n) ↔ SeparatorFree cs ∧ Denotes (trim cs) n := by
  rw [ofField?_eq_int_iff_integer, integer_eq_ok_iff]
  constructor
  · rintro ⟨before, numeral, after, rfl, hbefore, hafter, hdenotes⟩
    have hword := hdenotes.isWord
    have htrim : trim (before ++ numeral ++ after) = numeral := by
      apply trim_surrounded
      · exact fun c hc => isBlank_of_isNumericBlank (hbefore c hc)
      · exact fun c hc => isBlank_of_isNumericBlank (hafter c hc)
      · exact fun c hc => hword.blankFree c (List.mem_of_head? hc)
      · exact fun c hc => hword.blankFree c (List.mem_of_getLast? hc)
    rw [htrim]
    refine ⟨?_, hdenotes⟩
    intro c hc
    rw [List.mem_append, List.mem_append] at hc
    rcases hc with (hc | hc) | hc
    · exact isSeparator_of_isNumericBlank (hbefore c hc)
    · exact isSeparator_of_not_isBlank (hword.blankFree c hc)
    · exact isSeparator_of_isNumericBlank (hafter c hc)
  · rintro ⟨hfree, hdenotes⟩
    obtain ⟨before, after, hcs, hbefore, hafter⟩ := exists_blanks_around cs
    -- of the blanks that were trimmed none is a separator, so all of them may surround a numeral
    refine ⟨before, trim cs, after, hcs, ?_, ?_, hdenotes⟩
    · intro c hc
      exact isNumericBlank_of_separatorFree (hbefore c hc) hfree (by rw [hcs]; simp [hc])
    · intro c hc
      exact isNumericBlank_of_separatorFree (hafter c hc) hfree (by rw [hcs]; simp [hc])

/-- A decimal text is read back, with blanks around it. -/
theorem ofField?_toString (hfew : (Nat.toDigits 10 n.natAbs).length ≤ 4300)
    (hblank : ∀ c ∈ before ++ after, isBlank c = true) (hfree : SeparatorFree (before ++ after)) :
    ofField? (before ++ (toString n).toList ++ after) = some (.int n) := by
  have hnumeric : ∀ c ∈ before ++ after, isNumericBlank c = true :=
    fun c hc => isNumericBlank_of_separatorFree (hblank c hc) hfree hc
  rw [ofField?_eq_int_iff_integer, integer_eq_ok_iff]
  refine ⟨before, _, after, rfl, ?_, ?_, denotes_toString hfew⟩
  · exact fun c hc => hnumeric c (List.mem_append_left after hc)
  · exact fun c hc => hnumeric c (List.mem_append_right before hc)

/-- Which texts are whole numbers: those that, trimmed, are numerals, if no separator is in them.
Every decimal text that is not too long is one of them, whatever other blanks are around it. -/
theorem whole_iff_denotes :
    (∀ (cs : List Char) (n : Int),
      ofField? cs = some (.int n) ↔ SeparatorFree cs ∧ Denotes (trim cs) n) ∧
    ∀ (n : Int) (before after : List Char), (Nat.toDigits 10 n.natAbs).length ≤ 4300 →
      (∀ c ∈ before ++ after, isBlank c = true) → SeparatorFree (before ++ after) →
      ofField? (before ++ (toString n).toList ++ after) = some (.int n) := by
  constructor
  · intro cs n
    exact ofField?_eq_int_iff
  · intro n before after hfew hblank hfree
    exact ofField?_toString hfew hblank hfree

/-- A sign, an ASCII digit, an underscore and an Arabic-Indic digit. -/
theorem denotes_mixedScripts : Denotes ['+', '1', '_', '\u0663'] 13 := by
  have hone : IsDigitOf '1' 1 := ⟨0x30, by decide, by decide, rfl⟩
  have hthree : IsDigitOf '\u0663' 3 := ⟨0x660, by decide, by decide, rfl⟩
  exact .plus ⟨[1, 3], .joined hone (.last hthree), by decide, by decide⟩

/-- Digits of two scripts, and a decimal text between a tab and an ideographic space. -/
theorem whole_of_mixedScripts :
    SeparatorFree [' ', '+', '1', '_', '\u0663'] ∧
    Denotes (trim [' ', '+', '1', '_', '\u0663']) 13 ∧
    ofField? [' ', '+', '1', '_', '\u0663'] = some (.int 13) ∧
    (Nat.toDigits 10 (-305 : Int).natAbs).length ≤ 4300 ∧
    (∀ c ∈ ['\t'] ++ ['\u3000'], isBlank c = true) ∧ SeparatorFree (['\t'] ++ ['\u3000']) ∧
    ofField? ['\t', '-', '3', '0', '5', '\u3000'] = some (.int (-305)) := by
  have hfree : SeparatorFree [' ', '+', '1', '_', '\u0663'] := by
    simp [SeparatorFree, isSeparator]
  have hblank : ∀ c ∈ ['\t'] ++ ['\u3000'], isBlank c = true := by
    simp [isBlank, isNumericBlank]
  have hfree' : SeparatorFree (['\t'] ++ ['\u3000']) := by
    simp [SeparatorFree, isSeparator]
  have hfew : (Nat.toDigits 10 (-305 : Int).natAbs).length ≤ 4300 := by decide
  refine ⟨hfree, denotes_mixedScripts, ?_, hfew, hblank, hfree', ?_⟩
  · exact (whole_iff_denotes.1 _ _).mpr ⟨hfree, denotes_mixedScripts⟩
  · exact whole_iff_denotes.2 (-305) ['\t'] ['\u3000'] hfew hblank hfree'

/-- A numeral behind a separator is no value, although trimming takes the separator away. -/
theorem separated_numeral_is_no_value :
    Denotes (trim ['\x1f', '5']) 5 ∧ ofField? ['\x1f', '5'] = none := by
  have hfive : IsDigitOf '5' 5 := ⟨0x30, by decide, by decide, rfl⟩
  have hdenotes : Denotes ['5'] 5 := .unsigned ⟨[5], .last hfive, by decide, by decide⟩
  exact ⟨hdenotes, by decide⟩

end Number

end LineControl

import Mathlib.Data.List.TakeWhile
import LineControl.Number.Basic
import LineControl.Proofs.Spelling

/-!
# Numerals in a file

Two facts about the numerals of a record text, which the modules on files and on whole numbers
share.

The first is that writing and reading are inverse. A natural number is written with its decimal
digits and read back from them,

    integer (Nat.toDigits 10 n) = .ok n,

as long as these are at most `maxDigits` (`integer_toDigits`). The bound is not an artefact of the
statement: reading refuses a longer row of digits with a fault of its own, and so does writing, so
a number beyond it can be computed with but has no text.

The second is that blanks after a value do not matter (`ofField?_append`). It holds for the blanks
that may surround a numeral only. Trimming also takes away the four separators `0x1C` to `0x1F`,
reading a numeral does not, and a record shows the difference: its lines are trimmed at their ends
before they are read, so a value with a separator at its end is a number there, although its text
is none.

## What is left out

Nothing is said here about signs, underscores and the digits of other scripts, except as far as a
blank could be taken for one of them: which texts are whole numbers at all is the subject of
`Proofs.WholeNumbers`. Decimal numbers are only ever compared with each other. That `decimal?`
rounds correctly is not needed by any statement about a program, since a waiting time is passed on
as it was read.
-/

set_option autoImplicit false

namespace LineControl

open Text

/-! ## 1. Decimal digits

Decimal text has ASCII digits and no underscores, so it makes no use of most of what a numeral may
be. -/

namespace Text

theorem toNat_of_isDigit {c : Char} (h : c.isDigit = true) : 48 ≤ c.toNat ∧ c.toNat ≤ 57 := by
  simpa [Char.isDigit, UInt32.le_iff_toNat_le] using h

theorem digit?_of_isDigit {c : Char} (h : c.isDigit = true) : digit? c = some (c.toNat - 48) := by
  obtain ⟨hlow, hhigh⟩ := toNat_of_isDigit h
  have hzero : (digitZeros.find? fun base => base ≤ c.toNat && c.toNat < base + 10) = some 48 :=
    List.find?_cons_of_pos (by simp; omega)
  rw [digit?, hzero]
  rfl

theorem isBlank_of_isDigit {c : Char} (h : c.isDigit = true) : isBlank c = false := by
  obtain ⟨hlow, hhigh⟩ := toNat_of_isDigit h
  simp [isBlank, isNumericBlank]
  omega

theorem isBlank_of_isNumericBlank {c : Char} (h : isNumericBlank c = true) : isBlank c = true := by
  rw [isBlank, h]
  rfl

end Text

namespace Numeral

theorem groups_of_not_mem {cs : List Char} (h : '_' ∉ cs) : groups cs = [cs] := by
  induction cs with
  | nil => rfl
  | cons c rest ih =>
    rw [List.mem_cons, not_or] at h
    rw [groups, if_neg (by simpa using Ne.symm h.1), ih h.2]

theorem mapM_digit? {cs : List Char} (h : ∀ c ∈ cs, c.isDigit = true) :
    cs.mapM digit? = some (cs.map fun c => c.toNat - 48) := by
  induction cs with
  | nil => rfl
  | cons c rest ih =>
    have hrest := ih fun d hd => h d (List.mem_cons_of_mem c hd)
    rw [List.mapM_cons, digit?_of_isDigit (h c List.mem_cons_self), hrest]
    rfl

/-- A row of ASCII digits has no groups, so it is read digit by digit. -/
theorem digits?_of_isDigit {cs : List Char} (h : ∀ c ∈ cs, c.isDigit = true) (hne : cs ≠ []) :
    digits? cs = some (cs.map fun c => c.toNat - 48) := by
  have hgroups : groups cs = [cs] := groups_of_not_mem fun hmem => absurd (h _ hmem) (by decide)
  unfold digits?
  simp [hgroups, hne, mapM_digit? h]

theorem sign_of_head? {cs : List Char} (hplus : cs.head? ≠ some '+')
    (hminus : cs.head? ≠ some '-') :
    sign cs = (false, cs) := by
  unfold sign
  split
  · exact absurd rfl hplus
  · exact absurd rfl hminus
  · rfl

theorem decimalValue_toDigits (n : Nat) :
    decimalValue ((Nat.toDigits 10 n).map fun c => c.toNat - 48) = n := by
  rw [decimalValue, List.foldl_map]
  exact (Nat.ofDigitChars_eq_foldl).symm.trans Nat.ofDigitChars_ten_toDigits

/-- A row of ASCII digits is read as their decimal value, unless it is too long. There is nothing to
trim, no sign to take off and nothing left after the digits. -/
theorem integer_of_isDigit {cs : List Char} (h : ∀ c ∈ cs, c.isDigit = true) (hne : cs ≠ []) :
    integer cs =
      if maxDigits < cs.length then .error (.tooLong cs.length)
      else .ok (decimalValue (cs.map fun c => c.toNat - 48) : Int) := by
  -- a digit is neither a blank nor a sign, so nothing is skipped in front
  have hblank : cs.dropWhile isNumericBlank = cs := by
    rw [List.dropWhile_eq_self_iff]
    intro hpos hfirst
    have := isBlank_of_isDigit (h _ (List.getElem_mem hpos))
    rw [isBlank_of_isNumericBlank hfirst] at this
    cases this
  have hsign : sign cs = (false, cs) := by
    apply sign_of_head?
    · intro hhead
      exact absurd (h _ (List.mem_of_head? hhead)) (by decide)
    · intro hhead
      exact absurd (h _ (List.mem_of_head? hhead)) (by decide)
  have hpart : ∀ c ∈ cs, (isDigit c || c == '_') = true := by
    intro c hc
    rw [isDigit, digit?_of_isDigit (h c hc)]
    rfl
  unfold integer
  rw [hblank, hsign]
  dsimp only
  rw [List.takeWhile_eq_self_iff.mpr hpart, List.dropWhile_eq_nil_iff.mpr hpart,
    digits?_of_isDigit h hne]
  dsimp only
  rw [List.length_map]
  rfl

/-- The decimal digits of a number are read as the number, unless they are too many. -/
theorem integer_toDigits (n : Nat) :
    integer (Nat.toDigits 10 n) =
      if maxDigits < (Nat.toDigits 10 n).length then .error (.tooLong (Nat.toDigits 10 n).length)
      else .ok (n : Int) := by
  have hdigit : ∀ c ∈ Nat.toDigits 10 n, c.isDigit = true :=
    fun c hc => Nat.isDigit_of_mem_toDigits (by decide) (by decide) hc
  rw [integer_of_isDigit hdigit Nat.toDigits_ne_nil, decimalValue_toDigits]

/-! ## 2. Blanks after a numeral

Each part of a numeral is taken off the front of the text, and no blank can be taken for the next
part. The blanks are a finite set of code points, which is listed to be searched. -/

/-- The code points of the blanks that may surround a numeral. -/
def blankCodes : List Nat :=
  [0x09, 0x0A, 0x0B, 0x0C, 0x0D, 0x20, 0x85, 0xA0, 0x1680, 0x2000, 0x2001, 0x2002, 0x2003, 0x2004,
    0x2005, 0x2006, 0x2007, 0x2008, 0x2009, 0x200A, 0x2028, 0x2029, 0x202F, 0x205F, 0x3000]

theorem toNat_mem_blankCodes {c : Char} (h : isNumericBlank c = true) : c.toNat ∈ blankCodes := by
  simp only [isNumericBlank, Bool.or_eq_true, Bool.and_eq_true, decide_eq_true_eq, beq_iff_eq] at h
  simp only [blankCodes, List.mem_cons, List.not_mem_nil, or_false]
  omega

/-- No blank is part of a row of digits, in whatever script: the two tables do not meet. -/
theorem isPart_of_isNumericBlank {c : Char} (h : isNumericBlank c = true) :
    (isDigit c || c == '_') = false := by
  -- the ranges of digits are searched for each blank: a finite check, hence the list of codes
  have hnone : ∀ n ∈ blankCodes,
      (digitZeros.find? fun base => base ≤ n && n < base + 10) = none := by decide
  rw [Bool.or_eq_false_iff, isDigit, digit?, hnone _ (toNat_mem_blankCodes h)]
  refine ⟨rfl, beq_false_of_ne ?_⟩
  rintro rfl
  cases h

/-- What is taken from a text does not go past its end if nothing after it may be taken. -/
theorem span_append {p : Char → Bool} {l m : List Char} (hm : ∀ c ∈ m, p c = false) :
    (l ++ m).takeWhile p = l.takeWhile p ∧ (l ++ m).dropWhile p = l.dropWhile p ++ m := by
  induction l with
  | nil =>
    cases m with
    | nil => exact ⟨rfl, rfl⟩
    | cons c rest =>
      have hc := hm c List.mem_cons_self
      simp [hc]
  | cons c rest ih =>
    cases hc : p c with
    | true => simpa [hc] using ih
    | false => simp [hc]

section Blanks

variable {blanks : List Char} (hblanks : ∀ c ∈ blanks, isNumericBlank c = true) (cs : List Char)

include hblanks

/-- Blanks at the end of a text stay there when those at its start are taken away, unless the text
is blank. -/
theorem dropWhile_append_blanks : ∃ later, (∀ c ∈ later, isNumericBlank c = true) ∧
    (cs ++ blanks).dropWhile isNumericBlank = cs.dropWhile isNumericBlank ++ later := by
  rw [List.dropWhile_append]
  split
  · rename_i hempty
    rw [List.isEmpty_iff.mp hempty, List.dropWhile_eq_nil_iff.mpr hblanks]
    exact ⟨[], by simp, rfl⟩
  · exact ⟨blanks, hblanks, rfl⟩

/-- The sign of a text is not affected by blanks after it, even if it has nothing else. -/
theorem sign_append : sign (cs ++ blanks) = ((sign cs).1, (sign cs).2 ++ blanks) := by
  cases cs with
  | nil =>
    apply sign_of_head?
    · intro hhead
      exact absurd (hblanks _ (List.mem_of_head? hhead)) (by decide)
    · intro hhead
      exact absurd (hblanks _ (List.mem_of_head? hhead)) (by decide)
  | cons c rest =>
    by_cases hplus : c = '+'
    · rw [hplus]
      rfl
    by_cases hminus : c = '-'
    · rw [hminus]
      rfl
    · have hhead : ∀ more, sign (c :: more) = (false, c :: more) := by
        intro more
        apply sign_of_head?
        · simpa using hplus
        · simpa using hminus
      rw [List.cons_append, hhead, hhead]
      rfl

/-- Blanks after a whole number do not change its value. The fault may change, since it quotes the
text, so the two sides are compared as options. -/
theorem toOption_integer_append : (integer (cs ++ blanks)).toOption = (integer cs).toOption := by
  -- `later` is `blanks`, or empty if `cs` is blank and everything is dropped
  obtain ⟨later, hlater, hdrop⟩ := dropWhile_append_blanks hblanks cs
  have hstop : ∀ c ∈ later, (isDigit c || c == '_') = false :=
    fun c hc => isPart_of_isNumericBlank (hlater c hc)
  unfold integer
  rw [hdrop, sign_append hlater (cs.dropWhile isNumericBlank)]
  generalize sign (cs.dropWhile isNumericBlank) = signed
  obtain ⟨negative, body⟩ := signed
  dsimp only
  rw [(span_append hstop).1, (span_append hstop).2, List.all_append, List.all_eq_true.mpr hlater,
    Bool.and_true]
  cases digits? (body.takeWhile fun c => isDigit c || c == '_') with
  | none => rfl
  | some digits =>
    dsimp only
    split
    · rfl
    · split <;> rfl

theorem decimal?_append : decimal? (cs ++ blanks) = decimal? cs := by
  obtain ⟨later, hlater, hdrop⟩ := dropWhile_append_blanks hblanks cs
  unfold decimal?
  rw [hdrop, dropEndWhile_append hlater]

theorem not_mem_blanks {c : Char} (hc : isNumericBlank c = false) : c ∉ blanks := by
  intro hmem
  rw [hblanks c hmem] at hc
  cases hc

end Blanks

end Numeral

/-- Blanks after a value do not matter, if they may surround a numeral. -/
theorem Number.ofField?_append {cs blanks : List Char}
    (hblanks : ∀ c ∈ blanks, isNumericBlank c = true) : ofField? (cs ++ blanks) = ofField? cs := by
  have hpoint : '.' ∉ blanks := Numeral.not_mem_blanks hblanks rfl
  have hcomma : ',' ∉ blanks := Numeral.not_mem_blanks hblanks rfl
  have hmap : blanks.map (fun c => if c == ',' then '.' else c) = blanks := by
    refine (List.map_congr_left fun c hc => ?_).trans (List.map_id blanks)
    rw [if_neg]
    · rfl
    · rw [beq_iff_eq]
      rintro rfl
      exact hcomma hc
  have hvalue := Numeral.toOption_integer_append hblanks cs
  unfold ofField?
  simp only [List.contains_eq_mem, List.mem_append, hpoint, hcomma, or_false]
  split
  · rw [List.map_append, hmap, Numeral.decimal?_append hblanks _]
  · -- a fault may quote the blanks, but a value has none
    cases hlong : Numeral.integer (cs ++ blanks) with
    | ok n =>
      cases hshort : Numeral.integer cs with
      | ok m =>
        rw [hlong, hshort] at hvalue
        cases hvalue
        rfl
      | error fault =>
        rw [hlong, hshort] at hvalue
        cases hvalue
    | error fault =>
      cases hshort : Numeral.integer cs with
      | ok m =>
        rw [hlong, hshort] at hvalue
        cases hvalue
      | error fault => rfl

end LineControl

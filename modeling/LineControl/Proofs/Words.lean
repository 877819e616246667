import LineControl.Proofs.Numerals

/-!
# Numbers print as words

The text of a number is never empty and holds no blank, whole number or not (`Number.isWord_text`).
So it can be told from an empty cell of a listing and from the blanks that fill up its own, and it
ends no line.

The text of a decimal number is the shortest one that reads back, and which digits these are is of
no interest here: `isWord_layout` takes any digits and any place for the point. Hence nothing in
this module depends on how the digits are found, and no property of rounding is used.

That a decimal text reads back is not proved. What the listing shows of a decimal number is only
ever compared with another text; see `Proofs.Legible`, where two programs are told apart as far as
their texts differ.
-/

set_option autoImplicit false

namespace LineControl

namespace Text

/-- No character of the text is a blank. -/
def BlankFree (cs : List Char) : Prop :=
  ∀ c ∈ cs, isBlank c = false

variable {cs ds : List Char}

/-- The text is a word: there is something in it, but no blank. -/
structure IsWord (cs : List Char) : Prop where
  ne_nil : cs ≠ []
  blankFree : BlankFree cs

theorem blankFree_nil : BlankFree [] :=
  fun _ hc => absurd hc List.not_mem_nil

theorem BlankFree.append (h : BlankFree cs) (h' : BlankFree ds) : BlankFree (cs ++ ds) := by
  intro c hc
  rcases List.mem_append.mp hc with hc | hc
  · exact h c hc
  · exact h' c hc

theorem BlankFree.cons {c : Char} (hc : isBlank c = false) (h : BlankFree cs) :
    BlankFree (c :: cs) := by
  intro d hd
  rcases List.mem_cons.mp hd with rfl | hd
  · exact hc
  · exact h d hd

theorem BlankFree.mono (h : BlankFree cs) (hsub : ds ⊆ cs) : BlankFree ds :=
  fun c hc => h c (hsub hc)

theorem blankFree_replicate {c : Char} (hc : isBlank c = false) (n : Nat) :
    BlankFree (List.replicate n c) := by
  intro d hd
  rw [List.eq_of_mem_replicate hd]
  exact hc

theorem blankFree_toDigits (n : Nat) : BlankFree (Nat.toDigits 10 n) :=
  fun _ hc => isBlank_of_isDigit (Nat.isDigit_of_mem_toDigits (by decide) (by decide) hc)

theorem isWord_of_all (h : (!cs.isEmpty && cs.all fun c => !isBlank c) = true) : IsWord cs := by
  simp only [Bool.and_eq_true, List.all_eq_true, Bool.not_eq_true', List.isEmpty_eq_false_iff] at h
  exact ⟨h.1, h.2⟩

theorem IsWord.cons {c : Char} (hc : isBlank c = false) (h : IsWord cs) : IsWord (c :: cs) :=
  ⟨List.cons_ne_nil c cs, .cons hc h.blankFree⟩

theorem isWord_toDigits (n : Nat) : IsWord (Nat.toDigits 10 n) :=
  ⟨Nat.toDigits_ne_nil, blankFree_toDigits n⟩

end Text

open Text

namespace Binary64

/-- An exponent is written with its sign and at least two digits. -/
theorem blankFree_exponentText (e : Int) : BlankFree (exponentText e) := by
  unfold exponentText
  have hsign : isBlank (if e < 0 then '-' else '+') = false := by
    split <;> rfl
  exact .cons hsign ((blankFree_replicate rfl _).append (blankFree_toDigits _))

theorem blankFree_significant (c : Nat) (grid : Int) : BlankFree (significant c grid).1 := by
  apply (blankFree_toDigits c).mono
  intro d hd
  exact List.mem_reverse.mp ((List.dropWhile_sublist _).subset (List.mem_reverse.mp hd))

/-- Wherever the point goes, it stays a word: there is always a point or the mark of an exponent. -/
theorem isWord_layout {digits : List Char} (h : BlankFree digits) (point : Int) :
    IsWord (layout digits point) := by
  have htake (n : Nat) : BlankFree (digits.take n) := h.mono (List.take_subset n digits)
  have hdrop (n : Nat) : BlankFree (digits.drop n) := h.mono (List.drop_subset n digits)
  unfold layout
  split
  · split
    · refine ⟨by simp, ?_⟩
      exact (BlankFree.cons rfl (.cons rfl (blankFree_replicate rfl _))).append h
    · split
      · refine ⟨by simp, ?_⟩
        exact (h.append (blankFree_replicate rfl _)).append (.cons rfl (.cons rfl blankFree_nil))
      · exact ⟨by simp, (htake _).append (.cons rfl (hdrop _))⟩
  · refine ⟨by simp, .append (.append (htake 1) ?_) (.cons rfl (blankFree_exponentText _))⟩
    split
    · exact blankFree_nil
    · exact .cons rfl (hdrop 1)

/-- The text of a decimal number is a word, also if it is infinite or no number. -/
theorem isWord_text (x : Binary64) : IsWord x.text := by
  cases x with
  | nan => exact isWord_of_all rfl
  | infinite negative =>
    cases negative with
    | true => exact isWord_of_all rfl
    | false => exact isWord_of_all rfl
  | finite negative m e =>
    have hunsigned : IsWord (if m = 0 then "0.0".toList
        else layout (significant (shortest m e).1 (shortest m e).2).1
          (significant (shortest m e).1 (shortest m e).2).2) := by
      split
      · exact isWord_of_all rfl
      · exact isWord_layout (blankFree_significant _ _) _
    cases negative with
    | true => exact hunsigned.cons rfl
    | false => exact hunsigned

end Binary64

namespace Number

theorem toList_toString_natCast (n : Nat) : (toString (n : Int)).toList = Nat.toDigits 10 n :=
  Nat.toList_repr

theorem toList_toString_negSucc (n : Nat) :
    (toString (Int.negSucc n)).toList = '-' :: Nat.toDigits 10 (n + 1) := by
  have hsign : toString (Int.negSucc n) = "-" ++ (n + 1).repr := rfl
  rw [hsign, String.toList_append, Nat.toList_repr]
  rfl

/-- **The text of a number is a word.** It is so even for a whole number with too many digits, whose
text is never asked for. -/
theorem isWord_text (v : Number) : IsWord v.text.toList := by
  cases v with
  | real x =>
    rw [text, String.toList_ofList]
    exact x.isWord_text
  | int n =>
    rw [text]
    cases n with
    | ofNat n =>
      rw [Int.ofNat_eq_natCast, toList_toString_natCast]
      exact isWord_toDigits n
    | negSucc n =>
      rw [toList_toString_negSucc]
      exact (isWord_toDigits (n + 1)).cons rfl

end Number

end LineControl

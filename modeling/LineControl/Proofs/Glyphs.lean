import Mathlib.Data.List.Infix
import LineControl.File.Glyph

/-!
# Reading the glyphs of a view

The pairs of characters are replaced one kind after the other, each kind through the whole text.
That this reads a row of glyphs one by one,

    readGlyphs (glyphs.flatMap Glyph.pair) = glyphs.map Glyph.meaning,

is not plain. An `H` and two `I` hold two pairs that overlap, and what is put in for one pair might
make up another. Neither does harm: at the turn of each kind, its first character is in no other
glyph that is still there, so the first glyph of a row is read on its own (`readGlyphs_glyph`), and
two neighbours in the result that were not put in were neighbours before
(`neighbours_of_replacePair`). Hence a row of glyphs is read glyph by glyph, and no pair is left in
any text (`glyphs_read_one_by_one`).

The order of the kinds matters for the first half only. `HI` has its turn before `II`, and if it
were the other way round, `HI` followed by `II` would be read as an `H`, a blank and an `I`. The
second half holds for any order, since it only needs that no pair holds a character that is put in.

A text that is not a row of glyphs may be read in surprising ways, for which there is no better
description than the replacement itself; all that is said of it is that nothing readable remains.
-/

set_option autoImplicit false

namespace LineControl.Apple

/-! ## 1. Rows of glyphs -/

/-- The glyphs of a view. An empty cell is drawn in two ways. -/
inductive Glyph where
  | shaded
  | off
  | on
  | empty
  | emptyNext
deriving DecidableEq

namespace Glyph

/-- The two characters that draw the glyph. -/
def pair : Glyph → List Char
  | shaded => ['J', 'K']
  | off => ['L', 'M']
  | on => ['^', '_']
  | empty => ['H', 'I']
  | emptyNext => ['I', 'I']

/-- The character that the glyph stands for. -/
def meaning : Glyph → Char
  | shaded => 'X'
  | off => '0'
  | on => '1'
  | empty => ' '
  | emptyNext => ' '

end Glyph

variable {a b c d meaning : Char} {cs : List Char}

@[simp]
theorem replacePair_pair : replacePair a b meaning (a :: b :: cs) =
    meaning :: replacePair a b meaning cs := by
  simp [replacePair]

theorem replacePair_cons_of_ne (h : c ≠ a) :
    replacePair a b meaning (c :: cs) = c :: replacePair a b meaning cs := by
  cases cs with
  | nil => simp [replacePair]
  | cons d rest => simp [replacePair, h]

/-- The first glyph is read, whatever follows it. -/
theorem readGlyphs_glyph (g : Glyph) (cs : List Char) :
    readGlyphs (g.pair ++ cs) = g.meaning :: readGlyphs cs := by
  -- five turns for each glyph: one replaces the pair, the others pass its characters on
  cases g <;> simp [readGlyphs, glyphPairs, Glyph.pair, Glyph.meaning, replacePair_cons_of_ne]

theorem readGlyphs_flatMap_pair (glyphs : List Glyph) :
    readGlyphs (glyphs.flatMap Glyph.pair) = glyphs.map Glyph.meaning := by
  induction glyphs with
  | nil => rfl
  | cons g rest ih => rw [List.flatMap_cons, readGlyphs_glyph, ih, List.map_cons]

/-! ## 2. What is left of a text

Replacing is looked at through pairs of neighbours, since these are what it looks for. The three
cases of the induction are those of `replacePair`. -/

/-- A text without the pair is left as it is. -/
theorem replacePair_eq_self (h : ¬ [a, b] <:+: cs) : replacePair a b meaning cs = cs := by
  fun_induction replacePair a b meaning cs with
  | case1 x y rest hpair ih =>
    simp only [Bool.and_eq_true, beq_iff_eq] at hpair
    obtain ⟨rfl, rfl⟩ := hpair
    exact absurd ⟨[], rest, rfl⟩ h
  | case2 x y rest hpair ih =>
    rw [ih fun hrest => h (List.infix_cons hrest)]
  | case3 cs hshort => rfl

/-- A text keeps its first character, unless that is the one put in. -/
theorem head?_of_replacePair (h : (replacePair a b meaning cs).head? = some d)
    (hd : d ≠ meaning) : cs.head? = some d := by
  revert h
  fun_cases replacePair a b meaning cs with
  | case1 x y rest hpair =>
    intro h
    exact absurd (Option.some.inj h).symm hd
  | case2 x y rest hpair => exact id
  | case3 cs hshort => exact id

/-- Two neighbours that were not put in were neighbours before, and they are not the pair that was
replaced. -/
theorem neighbours_of_replacePair (hc : c ≠ meaning) (hd : d ≠ meaning)
    (h : [c, d] <:+: replacePair a b meaning cs) : [c, d] <:+: cs ∧ ¬ (c = a ∧ d = b) := by
  fun_induction replacePair a b meaning cs with
  | case1 x y rest hpair ih =>
    rcases List.infix_cons_iff.mp h with hfirst | hrest
    · exact absurd (List.cons_prefix_cons.mp hfirst).1 hc
    · obtain ⟨hin, hother⟩ := ih hrest
      exact ⟨List.infix_cons (List.infix_cons hin), hother⟩
  | case2 x y rest hpair ih =>
    rcases List.infix_cons_iff.mp h with hfirst | hrest
    · -- the second of the two is the head of what comes after, so it is `y`
      obtain ⟨rfl, hsecond⟩ := List.cons_prefix_cons.mp hfirst
      obtain ⟨more, hmore⟩ := hsecond
      have hhead := head?_of_replacePair (by rw [← hmore]; rfl) hd
      obtain rfl := Option.some.inj hhead
      exact ⟨⟨[], rest, rfl⟩, by simpa using hpair⟩
    · obtain ⟨hin, hother⟩ := ih hrest
      exact ⟨List.infix_cons hin, hother⟩
  | case3 cs hshort =>
    have hlength := h.length_le
    rcases cs with _ | ⟨x, _ | ⟨y, rest⟩⟩
    · simp at hlength
    · simp at hlength
    · exact absurd rfl (hshort x y rest)

/-- The same through all the turns of a table: by induction on the table, the last turn first. -/
theorem neighbours_of_foldl {table : List (Char × Char × Char)} (hc : ∀ t ∈ table, c ≠ t.2.2)
    (hd : ∀ t ∈ table, d ≠ t.2.2)
    (h : [c, d] <:+: table.foldl (fun cs (first, second, meaning) =>
      replacePair first second meaning cs) cs) :
    [c, d] <:+: cs ∧ ∀ t ∈ table, ¬ (c = t.1 ∧ d = t.2.1) := by
  induction table generalizing cs with
  | nil => exact ⟨h, by simp⟩
  | cons t rest ih =>
    rw [List.forall_mem_cons] at hc hd ⊢
    obtain ⟨hin, hothers⟩ := ih hc.2 hd.2 h
    obtain ⟨hin, hother⟩ := neighbours_of_replacePair hc.1 hd.1 hin
    exact ⟨hin, hother, hothers⟩

/-- No character that is put in belongs to a pair. -/
theorem meaning_not_in_pair : ∀ t ∈ glyphPairs, ∀ t' ∈ glyphPairs,
    t.1 ≠ t'.2.2 ∧ t.2.1 ≠ t'.2.2 := by
  simp [glyphPairs]

theorem Glyph.exists_mem_glyphPairs (g : Glyph) : ∃ t ∈ glyphPairs, g.pair = [t.1, t.2.1] := by
  cases g <;> simp [glyphPairs, pair]

/-- No glyph is left: its two characters would have been neighbours at the turn of their kind, which
leaves no such neighbours. -/
theorem pair_not_infix_readGlyphs (g : Glyph) (cs : List Char) :
    ¬ g.pair <:+: readGlyphs cs := by
  obtain ⟨t, ht, hpair⟩ := g.exists_mem_glyphPairs
  rw [hpair]
  intro h
  have hfirst : ∀ t' ∈ glyphPairs, t.1 ≠ t'.2.2 := fun t' ht' => (meaning_not_in_pair t ht t' ht').1
  have hsecond : ∀ t' ∈ glyphPairs, t.2.1 ≠ t'.2.2 :=
    fun t' ht' => (meaning_not_in_pair t ht t' ht').2
  exact (neighbours_of_foldl hfirst hsecond h).2 t ht ⟨rfl, rfl⟩

theorem readGlyphs_eq_self (h : ∀ g : Glyph, ¬ g.pair <:+: cs) : readGlyphs cs = cs := by
  simp only [readGlyphs, glyphPairs, List.foldl_cons, List.foldl_nil]
  rw [replacePair_eq_self (h .shaded), replacePair_eq_self (h .off), replacePair_eq_self (h .on),
    replacePair_eq_self (h .empty), replacePair_eq_self (h .emptyNext)]

/-- A row of glyphs is read glyph by glyph. Whatever the text, no glyph is left in it, so reading
it once more changes nothing. -/
theorem glyphs_read_one_by_one :
    (∀ glyphs : List Glyph, readGlyphs (glyphs.flatMap Glyph.pair) = glyphs.map Glyph.meaning) ∧
    ∀ cs : List Char, (∀ g : Glyph, ¬ g.pair <:+: readGlyphs cs) ∧
      readGlyphs (readGlyphs cs) = readGlyphs cs := by
  refine ⟨readGlyphs_flatMap_pair, fun cs => ?_⟩
  have hnone : ∀ g : Glyph, ¬ g.pair <:+: readGlyphs cs := fun g => pair_not_infix_readGlyphs g cs
  exact ⟨hnone, readGlyphs_eq_self hnone⟩

end LineControl.Apple

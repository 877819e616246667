import LineControl.Proofs.Table
import Mathlib.Data.List.Forall2

/-!
# What can be read off a listing

A label may hold bars and digits, and values and line numbers may be wider than their columns. Still
the listing says what it lists: lines are cut at their ends, since no label and no number holds one,
and a row is taken apart from left to right. Rows at the same place have the same number, all cells
between number and value have fixed widths, and what remains of a row is the value with its bar.

`Listing.LooksLike` is what two lines have in common that are listed alike, and the listings of two
programs agree exactly if their lines look alike one by one (`listing_eq_iff_looksLike`).

## What a listing does not show

Four things, and `LooksLike` names them. Spaces at the end of a label are taken for those that fill
up its column. The outputs have six columns, so the two high bits of a pattern are not shown, nor
whether it is a byte at all. Numbers that print the same look the same, which for whole numbers
means that they are equal. And the keyword of a line is shown by its label only: an output labelled
`REPEAT` without a pattern looks like a loop without a count.

A label of more than twelve characters is excluded on both sides. It pushes the cells to its right
out of their places, and two rows might then agree that should not. The statement is about listings
with no active line; with one, the same rows are shown with a marker and colours.
-/

set_option autoImplicit false

namespace LineControl.Listing

open Text

/-! ## 1. The lines of a text

A text is cut into lines in one way only, if no line holds a line end. -/

/-- The first line of a text is what stands before its first line end. -/
theorem line_of_append_eq {l l' rest rest' : List Char} (hl : '\n' ∉ l) (hl' : '\n' ∉ l')
    (h : l ++ '\n' :: rest = l' ++ '\n' :: rest') : l = l' ∧ rest = rest' := by
  induction l generalizing l' with
  | nil =>
    cases l' with
    | nil => exact ⟨rfl, (List.cons.inj h).2⟩
    | cons c l' =>
      obtain ⟨rfl, _⟩ := List.cons.inj h
      exact absurd List.mem_cons_self hl'
  | cons c l ih =>
    cases l' with
    | nil =>
      obtain ⟨rfl, _⟩ := List.cons.inj h
      exact absurd List.mem_cons_self hl
    | cons c' l' =>
      obtain ⟨rfl, htail⟩ := List.cons.inj h
      obtain ⟨rfl, hrest⟩ := ih (fun hmem => hl (List.mem_cons_of_mem c hmem))
        (fun hmem => hl' (List.mem_cons_of_mem c hmem)) htail
      exact ⟨rfl, hrest⟩

theorem flatMap_ended_eq_iff {ls ms : List (List Char)} (hl : ∀ l ∈ ls, '\n' ∉ l)
    (hm : ∀ m ∈ ms, '\n' ∉ m) : ls.flatMap ended = ms.flatMap ended ↔ ls = ms := by
  refine ⟨fun h => ?_, fun h => h ▸ rfl⟩
  induction ls generalizing ms with
  | nil =>
    cases ms with
    | nil => rfl
    | cons m ms => simp [ended] at h
  | cons l ls ih =>
    cases ms with
    | nil => simp [ended] at h
    | cons m ms =>
      rw [List.flatMap_cons, List.flatMap_cons, ended, ended, List.append_assoc,
        List.append_assoc] at h
      rw [List.forall_mem_cons] at hl hm
      obtain ⟨rfl, hrest⟩ := line_of_append_eq hl.1 hm.1 h
      rw [ih hl.2 hm.2 hrest]

/-- Without an active row the text is made of the lines one after another. -/
theorem Table.text_none (t : Table) :
    t.text none = (t.head ++ t.rows ++ [t.foot]).flatMap ended := by
  have hrows : (t.rows.mapIdx fun k row => shownRow (none == some (k : Int)) row) =
      t.rows.map ended := by
    apply List.ext_getElem?
    intro k
    simp [shownRow]
  rw [text, hrows, ← List.flatMap_def, List.flatMap_append, List.flatMap_append,
    List.flatMap_singleton]

/-! ## 2. The cells -/

/-- The label or value without the blanks that fill up its cell. -/
def unpadded (s : String) : List Char :=
  dropEndWhile (· == ' ') s.toList

theorem exists_unpadded (s : String) : ∃ n, s.toList = unpadded s ++ List.replicate n ' ' := by
  refine ⟨(takeEndWhile (· == ' ') s.toList).length, ?_⟩
  have hblanks : takeEndWhile (· == ' ') s.toList =
      List.replicate (takeEndWhile (· == ' ') s.toList).length ' ' := by
    apply List.eq_replicate_of_mem
    intro c hc
    rw [takeEndWhile, List.mem_reverse] at hc
    simpa using List.mem_takeWhile_imp hc
  rw [← hblanks, unpadded, dropEndWhile_append_takeEndWhile]

theorem dropEndWhile_padRight (width : Nat) (s : String) :
    dropEndWhile (· == ' ') (padRight width s).toList = unpadded s := by
  rw [toList_padRight, unpadded, dropEndWhile_append]
  intro c hc
  rw [List.eq_of_mem_replicate hc]
  rfl

/-- Texts that fit into a cell fill it alike exactly if they differ only in blanks at their ends. -/
theorem padRight_eq_iff {width : Nat} {a b : String} (ha : a.length ≤ width)
    (hb : b.length ≤ width) :
    (padRight width a).toList = (padRight width b).toList ↔ unpadded a = unpadded b := by
  have hpadded {s : String} (hs : s.length ≤ width) : (padRight width s).toList =
      unpadded s ++ List.replicate (width - (unpadded s).length) ' ' := by
    obtain ⟨n, hn⟩ := exists_unpadded s
    have hlength : s.length = (unpadded s).length + n := by
      rw [← String.length_toList, hn, List.length_append, List.length_replicate]
    rw [toList_padRight]
    nth_rewrite 1 [hn]
    rw [List.append_assoc, List.replicate_append_replicate]
    congr 2
    omega
  constructor
  · intro h
    rw [← dropEndWhile_padRight width a, ← dropEndWhile_padRight width b, h]
  · intro h
    rw [hpadded ha, hpadded hb, h]

theorem inputCell_eq_iff {a b : Option Bool} :
    (inputCell a).toList = (inputCell b).toList ↔ a = b := by
  refine ⟨fun h => ?_, fun h => h ▸ rfl⟩
  rcases a with _ | _ | _ <;> rcases b with _ | _ | _ <;>
    first | rfl | simp [inputCell, bitCell] at h

theorem bitDigit_inj {a b : Bool} : bitDigit a = bitDigit b ↔ a = b := by
  cases a <;> cases b <;> simp [bitDigit]

/-- The low six bits of a number, from its value modulo 64. -/
theorem emod_eq_iff_testBit (m n : Int) : m % 64 = n % 64 ↔
    ∀ i ∈ [5, 4, 3, 2, 1, 0], testBit m i = testBit n i := by
  have hbit (i : Nat) : testBit m i = testBit n i ↔ m >>> i % 2 = n >>> i % 2 := by
    simp only [testBit, Bool.beq_eq_decide_eq, decide_eq_decide]
    omega
  simp only [List.mem_cons, List.not_mem_nil, or_false, forall_eq_or_imp, forall_eq, hbit,
    Int.shiftRight_eq_div_pow, Int.natCast_pow, Int.cast_ofNat_Int, Int.reducePow, Int.pow_zero,
    Int.ediv_one]
  omega

/-- The cells of the outputs show the low six bits of a pattern, or that there is none. -/
theorem outputFields_eq_iff {p q : Option Int} :
    outputFields p = outputFields q ↔ p.map (· % 64) = q.map (· % 64) := by
  cases p with
  | none =>
    cases q with
    | none => simp
    | some q => simp [outputFields]
  | some p =>
    cases q with
    | none => simp [outputFields]
    | some q =>
      simp [outputFields, emod_eq_iff_testBit, bitDigit_inj]

theorem valueField_eq_padRight (x : Option Number) :
    valueField x = padRight 5 ((x.map Number.text).getD "") := by
  cases x with
  | none => rfl
  | some v => rfl

/-- The text of a number has no spaces, so filling up its cell can be undone. -/
theorem unpadded_text (v : Number) : unpadded v.text = v.text.toList := by
  apply dropEndWhile_eq_self
  intro c hc
  rw [beq_eq_false_iff_ne]
  rintro rfl
  have hblank := v.isWord_text.blankFree ' ' (List.mem_of_getLast? hc)
  cases hblank

/-- Values fill their cells alike only if they print alike. Since a number prints as a word, its
cell is not the blank one. -/
theorem valueField_eq_iff {x y : Option Number} :
    (valueField x).toList = (valueField y).toList ↔ x.map Number.text = y.map Number.text := by
  rw [valueField_eq_padRight, valueField_eq_padRight]
  refine ⟨fun h => ?_, fun h => by rw [h]⟩
  have htext := congrArg (dropEndWhile (· == ' ')) h
  rw [dropEndWhile_padRight, dropEndWhile_padRight] at htext
  cases x with
  | none =>
    cases y with
    | none => rfl
    | some w => exact absurd ((unpadded_text w).symm.trans htext.symm) w.isWord_text.ne_nil
  | some v =>
    cases y with
    | none => exact absurd ((unpadded_text v).symm.trans htext) v.isWord_text.ne_nil
    | some w =>
      have hsame : v.text.toList = w.text.toList := by
        rw [← unpadded_text v, ← unpadded_text w]
        exact htext
      rw [Option.map_some, Option.map_some, String.toList_inj.mp hsame]

/-! ## 3. The rows

Two rows at the same place begin with the same number, so no width is needed for it; and the value
comes last, so none is needed for that either. -/

/-- What two lines have in common that are listed alike. -/
structure LooksLike (i j : Instruction) : Prop where
  /-- The labels differ at most in spaces at their ends. -/
  label : i.label.map unpadded = j.label.map unpadded
  in7 : i.condition.in7 = j.condition.in7
  in6 : i.condition.in6 = j.condition.in6
  /-- The patterns have the same low six bits. -/
  pattern : i.pattern.map (· % 64) = j.pattern.map (· % 64)
  value : i.value.map Number.text = j.value.map Number.text

/-- Rows with the same number are equal only if their cells are: what has a fixed width peels off
from left to right. -/
theorem Cells.Fit.row_eq_iff {c d : Cells} (hc : c.Fit) (hd : d.Fit) (hnumber : c.number = d.number)
    {marker : Char} : c.row marker = d.row marker ↔
      c.label = d.label ∧ c.in7 = d.in7 ∧ c.in6 = d.in6 ∧ c.outputs = d.outputs ∧
        c.value = d.value := by
  rw [row, row, hnumber, List.append_left_inj, List.append_right_inj]
  constructor
  · intro h
    -- cell after cell from the left: equal widths cut the two rows at the same place
    simp only [List.append_assoc] at h
    obtain ⟨hlabel, hrest⟩ := List.append_inj h (hc.label.length.trans hd.label.length.symm)
    obtain ⟨hin7, hrest⟩ := List.append_inj (List.append_cancel_left hrest)
      (hc.in7.length.trans hd.in7.length.symm)
    obtain ⟨hin6, hrest⟩ := List.append_inj (List.append_cancel_left hrest)
      (hc.in6.length.trans hd.in6.length.symm)
    obtain ⟨houtputs, hrest⟩ := List.append_inj (List.append_cancel_left hrest)
      (hc.outputs.length.trans hd.outputs.length.symm)
    have hvalue := List.append_cancel_left (List.append_cancel_left hrest)
    exact ⟨hlabel, hin7, hin6, houtputs, hvalue⟩
  · rintro ⟨hlabel, hin7, hin6, houtputs, hvalue⟩
    rw [hlabel, hin7, hin6, houtputs, hvalue]

/-- Two lines at the same place have the same row exactly if they look alike. -/
theorem row_cellsOf_eq_iff {i j : Instruction} (hi : i.HasShortLabel) (hj : j.HasShortLabel)
    (k : Nat) {marker : Char} :
    (cellsOf k i).row marker = (cellsOf k j).row marker ↔ LooksLike i j := by
  rw [(fit_cellsOf hi k).row_eq_iff (fit_cellsOf hj k) rfl]
  obtain ⟨a, ha, hashort, _⟩ := hi
  obtain ⟨b, hb, hbshort, _⟩ := hj
  dsimp only [cellsOf]
  rw [ha, hb, Option.getD_some, Option.getD_some, padRight_eq_iff hashort hbshort,
    inputCell_eq_iff, inputCell_eq_iff, outputFields_eq_iff, valueField_eq_iff]
  constructor
  · rintro ⟨hlabel, hin7, hin6, hpattern, hvalue⟩
    refine ⟨?_, hin7, hin6, hpattern, hvalue⟩
    rw [ha, hb, Option.map_some, Option.map_some, hlabel]
  · rintro ⟨hlabel, hin7, hin6, hpattern, hvalue⟩
    rw [ha, hb, Option.map_some, Option.map_some, Option.some.injEq] at hlabel
    exact ⟨hlabel, hin7, hin6, hpattern, hvalue⟩

theorem mapIdx_eq_iff {p q : Program} {f : Nat → Instruction → List Char}
    {R : Instruction → Instruction → Prop}
    (h : ∀ k, ∀ i ∈ p, ∀ j ∈ q, (f k i = f k j ↔ R i j)) :
    p.mapIdx f = q.mapIdx f ↔ List.Forall₂ R p q := by
  induction p generalizing q f with
  | nil =>
    cases q with
    | nil => simp
    | cons j q => simp
  | cons i p ih =>
    cases q with
    | nil => simp
    | cons j q =>
      rw [List.mapIdx_cons, List.mapIdx_cons, List.cons.injEq, List.forall₂_cons,
        h 0 i List.mem_cons_self j List.mem_cons_self, ih]
      intro k i' hi' j' hj'
      exact h (k + 1) i' (List.mem_cons_of_mem i hi') j' (List.mem_cons_of_mem j hj')

/-! ## 4. The listing -/

variable {p q : Program}

theorem newline_not_mem_table (hp : ∀ i ∈ p, i.HasShortLabel) :
    ∀ line ∈ (table p).head ++ (table p).rows ++ [(table p).foot], '\n' ∉ line := by
  intro line hline
  rcases List.mem_append.mp hline with hline | hline
  · rcases List.mem_append.mp hline with hline | hline
    · exact headLines_oneLine line hline
    · rw [rows_table, List.mem_mapIdx] at hline
      obtain ⟨k, hk, rfl⟩ := hline
      rw [bareRow_columnsOf]
      exact (fit_cellsOf (hp _ (List.getElem_mem hk)) k).newline_not_mem_row (by decide)
  · rw [List.mem_singleton.mp hline]
    exact fills_footLine.oneLine

/-- The tables of two programs are shown alike exactly if their lines look alike one by one. -/
theorem text_table_eq_iff (hp : ∀ i ∈ p, i.HasShortLabel) (hq : ∀ i ∈ q, i.HasShortLabel) :
    (table p).text none = (table q).text none ↔ List.Forall₂ LooksLike p q := by
  rw [Table.text_none, Table.text_none,
    flatMap_ended_eq_iff (newline_not_mem_table hp) (newline_not_mem_table hq),
    head_table, head_table, foot_table, foot_table, List.append_left_inj, List.append_right_inj,
    rows_table, rows_table]
  apply mapIdx_eq_iff
  intro k i hi j hj
  rw [bareRow_columnsOf, bareRow_columnsOf]
  exact row_cellsOf_eq_iff (hp i hi) (hq j hj) k

theorem isListable_of_listing {program : Program} {active : Option Int} {text : String}
    (h : listing program active = .ok text) : program.isListable = true := by
  rw [← Program.listingFault?_eq_none_iff]
  rw [listing_eq] at h
  cases hfault : program.listingFault? with
  | none => rfl
  | some fault =>
    rw [hfault] at h
    cases h

/-- **The listing is faithful.** Two programs whose labels fit into their column have one listing
exactly if both can be listed, they have the same number of lines and, line by line, the same label
up to spaces at its end, the same conditions, no pattern or patterns with the same low six bits, and
no value or values that print the same. -/
theorem listing_eq_iff_looksLike (hp : ∀ i ∈ p, i.HasShortLabel) (hq : ∀ i ∈ q, i.HasShortLabel) :
    (∃ text, listing p none = .ok text ∧ listing q none = .ok text) ↔
      p.isListable = true ∧ q.isListable = true ∧ List.Forall₂ LooksLike p q := by
  rw [← text_table_eq_iff hp hq]
  constructor
  · rintro ⟨text, hlisting, hlisting'⟩
    have hlist := isListable_of_listing hlisting
    have hlist' := isListable_of_listing hlisting'
    rw [listing_eq_table hlist, Except.ok.injEq] at hlisting
    rw [listing_eq_table hlist', Except.ok.injEq] at hlisting'
    exact ⟨hlist, hlist', String.ofList_inj.mp (hlisting.trans hlisting'.symm)⟩
  · rintro ⟨hlist, hlist', hsame⟩
    refine ⟨_, listing_eq_table hlist none, ?_⟩
    rw [listing_eq_table hlist', hsame]

/-- A motor that runs until a button is pressed. -/
def motorUntilPressed : Program :=
  [.repeatStart none, .setOutput (some "motor") (some 1) (some 2), .repeatUntil ⟨some true, none⟩]

/-- The same as far as a listing shows it: the two high bits of a pattern have no column. -/
def motorAndMore : Program :=
  [.repeatStart none, .setOutput (some "motor  ") (some 193) (some 2),
    .repeatUntil ⟨some true, none⟩]

/-- Two programs that differ have one listing. -/
theorem motors_listed_alike :
    (∀ i ∈ motorUntilPressed, i.HasShortLabel) ∧ (∀ i ∈ motorAndMore, i.HasShortLabel) ∧
      motorUntilPressed ≠ motorAndMore ∧
      ∃ text, listing motorUntilPressed none = .ok text ∧ listing motorAndMore none = .ok text := by
  have hp : ∀ i ∈ motorUntilPressed, i.HasShortLabel := by decide
  have hq : ∀ i ∈ motorAndMore, i.HasShortLabel := by decide
  refine ⟨hp, hq, by decide, (listing_eq_iff_looksLike hp hq).mpr ⟨by decide, by decide, ?_⟩⟩
  refine .cons ⟨rfl, rfl, rfl, rfl, rfl⟩ (.cons ⟨?_, rfl, rfl, rfl, rfl⟩
    (.cons ⟨rfl, rfl, rfl, rfl, rfl⟩ .nil))
  decide

end LineControl.Listing

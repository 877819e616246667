import LineControl.Proofs.Listable

/-!
# The columns of the listing

The listing is put together from strings: a header, a text for each line, a footer. Here it is a
`Table`, lines of characters, and for every program whose lines can be listed

    listing program active = .ok (String.ofList ((table program).text active))

(`listing_eq_table`). The table does not depend on the active line. `Table.text` shows it with or
without one, and the two differ only in the marker of that row and in the colours around it. So a
property of the listing with any line active is one of a single list of rows, and neither colours
nor numbers of active lines occur in the rest of the theory.

A row in turn is made of `Cells`. Those between its number and its value have the widths of their
columns as long as the label fits (`Cells.Fit`); if number and value fit as well, all rows have the
same width and the same bars (`listing_aligned`).

## Where the hypotheses come from

A column is padded, never cut. A label of more than twelve characters, a value of more than five or
a line number of three digits pushes everything to its right out of line, and a line break in a
label ends the row. `listing_aligned` excludes these and nothing else. In particular a label may
hold bars of its own: the columns are places in a row, not what stands between two bars.

## What is left out

Widths are counted in characters. A terminal shows some characters in two places and some in none,
and nothing is said about these. Lines that cannot be listed, without a label or with a value that
has no text, are the subject of `Proofs.Listable`; what can be read off a listing that is not
aligned is that of `Proofs.Legible`.
-/

set_option autoImplicit false

namespace LineControl

/-! ## 1. The listing as a table -/

namespace Listing

/-- A table: the lines of its head, its rows with none of them active, and the line of its foot. -/
structure Table where
  head : List (List Char)
  rows : List (List Char)
  foot : List Char

/-- A line with its end. -/
def ended (line : List Char) : List Char :=
  line ++ ['\n']

/-- The row with the marker of the active line. -/
def marked (row : List Char) : List Char :=
  row.set 2 '>'

/-- A row as it is shown. The colours of an active row take in the end of its line. -/
def shownRow (active : Bool) (row : List Char) : List Char :=
  if active then activeColours.toList ++ ended (marked row) ++ plainColours.toList else ended row

/-- The text of the table with the given row active, rows counted from zero. -/
def Table.text (t : Table) (active : Option Int) : List Char :=
  t.head.flatMap ended ++
    (t.rows.mapIdx fun k row => shownRow (active == some (k : Int)) row).flatten ++ ended t.foot

/-- A row around the columns of a line. -/
def bareRow (number : Int) (text : String) : List Char :=
  ['│', ' ', ' ', ' '] ++ (padLeft 2 (toString number)).toList ++ [' ', '│', ' '] ++ text.toList ++
    [' ', '│']

/-- The lines of the head. -/
@[irreducible] def headLines : List (List Char) :=
  ["                      ┌ IN ───┬ OUT ──────────────────┐".toList,
    "        BRICK Lines   ├───┬───┼───┬───┬───┬───┬───┬───┤".toList,
    "                      │ 7 │ 6 │ 5 │ 4 │ 3 │ 2 │ 1 │ 0 │".toList,
    "┌─ # ──┬─ LABEL ──────┼───┼───┼───┼───┼───┼───┼───┼───┼───────┐".toList]

/-- The line of the foot. -/
@[irreducible] def footLine : List Char :=
  "└──────┴──────────────┴───┴───┴───┴───┴───┴───┴───┴───┴───────┘".toList

/-- The table of a program. -/
def table (program : Program) : Table where
  head := headLines
  rows := program.mapIdx fun k i => bareRow (k + 1) (columnsOf i)
  foot := footLine

/-- A row is shown as it stands, or with its marker and colours. -/
theorem toList_row (number : Int) (text : String) (active : Bool) :
    (row number text active).toList = shownRow active (bareRow number text) := by
  unfold row bareRow
  generalize padLeft 2 (toString number) = digits
  cases active with
  | false =>
    simp only [String.toList_append, shownRow, ended, Bool.false_eq_true, if_false]
    simp
  | true =>
    -- the colours are kept out of the way of `simp`, which would decode them
    simp only [String.toList_append, shownRow, ended, marked, if_true]
    generalize activeColours.toList = before
    generalize plainColours.toList = after
    simp

/-- The rows one after another, from the number `start` on. -/
theorem toList_rows (active : Option Int) (start : Nat) (texts : List String) :
    (rows active start texts).toList =
      (texts.mapIdx fun k text => shownRow (active == some ((start + k : Nat) : Int))
        (bareRow ((start + k : Nat) + 1) text)).flatten := by
  induction texts generalizing start with
  | nil => rfl
  | cons text rest ih =>
    have hnext (k : Nat) : start + 1 + k = start + (k + 1) := by omega
    rw [rows, String.toList_append, toList_row, ih, List.mapIdx_cons, List.flatten_cons]
    simp only [hnext, Nat.add_zero]

/-- For texts that are written out: nothing is decoded, so this is fast. -/
theorem toList_line {s line : String} {l : List Char} (hline : line = String.ofList l)
    (hs : s = String.ofList (l ++ ['\n'])) : s.toList = ended line.toList := by
  rw [hs, hline, String.toList_ofList, String.toList_ofList, ended]

theorem toList_lines {a b c d : String} {a' b' c' d' : List Char} (ha : a.toList = ended a')
    (hb : b.toList = ended b') (hc : c.toList = ended c') (hd : d.toList = ended d') :
    (a ++ b ++ c ++ d).toList = [a', b', c', d'].flatMap ended := by
  simp [ha, hb, hc, hd]

set_option maxRecDepth 2000 in
theorem toList_header : header.toList = headLines.flatMap ended := by
  unfold header headLines
  exact toList_lines (toList_line rfl rfl) (toList_line rfl rfl) (toList_line rfl rfl)
    (toList_line rfl rfl)

set_option maxRecDepth 2000 in
theorem toList_footer : footer.toList = ended footLine := by
  unfold footer footLine
  exact toList_line rfl rfl

theorem toList_framed {head body foot : String} {h b f : List Char} (hhead : head.toList = h)
    (hbody : body.toList = b) (hfoot : foot.toList = f) :
    (head ++ body ++ foot).toList = h ++ b ++ f := by
  rw [String.toList_append, String.toList_append, hhead, hbody, hfoot]

/-- The three fields of the table, for rewriting without unfolding `table`, whose head and foot are
long. -/
theorem head_table (program : Program) : (table program).head = headLines := rfl

theorem foot_table (program : Program) : (table program).foot = footLine := rfl

theorem rows_table (program : Program) :
    (table program).rows = program.mapIdx fun k i => bareRow (k + 1) (columnsOf i) := rfl

/-- The listing of a program is its table, if all lines can be listed. -/
theorem listing_eq_table {program : Program} (h : program.isListable = true)
    (active : Option Int) :
    listing program active = .ok (String.ofList ((table program).text active)) := by
  have hrows : (rows active 0 (program.map columnsOf)).toList =
      ((table program).rows.mapIdx fun k row =>
        shownRow (active == some (k : Int)) row).flatten := by
    rw [toList_rows]
    apply congrArg List.flatten
    apply List.ext_getElem?
    intro k
    simp [rows_table, Option.map_map, Function.comp_def]
  rw [listing_of_isListable h, Except.ok.injEq, ← String.toList_inj, String.toList_ofList,
    Table.text, head_table, foot_table]
  exact toList_framed toList_header hrows toList_footer

/-! ## 2. The widths of the cells

Texts that are written out in the program are compared by computation, and the others, labels and
numbers, by the widths they are filled up to. -/

/-- The text has the width and stands on one line. -/
structure Fills (width : Nat) (cs : List Char) : Prop where
  length : cs.length = width
  oneLine : '\n' ∉ cs

/-- The width of a text as a computation. -/
theorem fills_of_contains {width : Nat} {cs : List Char}
    (h : (cs.length == width && !cs.contains '\n') = true) : Fills width cs := by
  simp only [Bool.and_eq_true, beq_iff_eq, Bool.not_eq_true', List.contains_eq_mem,
    decide_eq_false_iff_not] at h
  exact ⟨h.1, h.2⟩

/-- For texts that are written out, as `toList_line`. -/
theorem fills_ofList {width : Nat} {l : List Char}
    (h : (l.length == width && !l.contains '\n') = true) :
    Fills width (String.ofList l).toList := by
  rw [String.toList_ofList]
  exact fills_of_contains h

variable {width : Nat} {s : String}

theorem toList_padRight (width : Nat) (s : String) :
    (padRight width s).toList = s.toList ++ List.replicate (width - s.length) ' ' := by
  rw [padRight, String.toList_append, String.toList_ofList]

theorem toList_padLeft (width : Nat) (s : String) :
    (padLeft width s).toList = List.replicate (width - s.length) ' ' ++ s.toList := by
  rw [padLeft, String.toList_append, String.toList_ofList]

theorem length_padRight (h : s.length ≤ width) : (padRight width s).toList.length = width := by
  rw [toList_padRight, List.length_append, List.length_replicate, String.length_toList]
  omega

theorem length_padLeft (h : s.length ≤ width) : (padLeft width s).toList.length = width := by
  rw [toList_padLeft, List.length_append, List.length_replicate, String.length_toList]
  omega

theorem newline_not_mem_padRight (h : '\n' ∉ s.toList) : '\n' ∉ (padRight width s).toList := by
  rw [toList_padRight]
  simp [h]

theorem newline_not_mem_padLeft (h : '\n' ∉ s.toList) : '\n' ∉ (padLeft width s).toList := by
  rw [toList_padLeft]
  simp [h]

theorem fills_inputCell (bit : Option Bool) : Fills 3 (inputCell bit).toList := by
  cases bit with
  | none => exact fills_ofList rfl
  | some bit =>
    cases bit with
    | true => exact fills_ofList rfl
    | false => exact fills_ofList rfl

/-- The digit in the cell of a bit. -/
def bitDigit (bit : Bool) : Char :=
  if bit then '1' else '0'

theorem toList_bitCell (bit : Bool) : (bitCell bit).toList = [' ', bitDigit bit, ' '] := by
  cases bit <;> rfl

/-- The cells of the outputs up to their last bar. -/
def outputFields : Option Int → List Char
  | none => List.replicate 23 ' '
  | some pattern =>
    ([5, 4, 3, 2, 1].flatMap fun i => [' ', bitDigit (testBit pattern i), ' ', '│']) ++
      [' ', bitDigit (testBit pattern 0), ' ']

/-- The outputs are written with a bar after each, the last one included. -/
theorem toList_outputCells (pattern : Option Int) :
    (outputCells pattern).toList = outputFields pattern ++ ['│'] := by
  cases pattern with
  | none => rfl
  | some pattern => simp [outputCells, outputFields, toList_bitCell]

theorem bitDigit_ne (bit : Bool) : '\n' ≠ bitDigit bit := by
  cases bit <;> decide

theorem fills_outputFields (pattern : Option Int) : Fills 23 (outputFields pattern) := by
  cases pattern with
  | none => exact fills_of_contains rfl
  | some pattern =>
    constructor
    · rfl
    · simp [outputFields, bitDigit_ne]

theorem newline_not_mem_of_blankFree {cs : List Char} (h : Text.BlankFree cs) : '\n' ∉ cs := by
  intro hmem
  have hblank := h '\n' hmem
  cases hblank

/-- No value has a line break in its text, however long that is. -/
theorem newline_not_mem_valueField (value : Option Number) :
    '\n' ∉ (valueField value).toList := by
  cases value with
  | none => exact (fills_ofList rfl : Fills 5 _).oneLine
  | some v =>
    exact newline_not_mem_padRight (newline_not_mem_of_blankFree v.isWord_text.blankFree)

theorem toList_number (k : Nat) : (toString ((k : Int) + 1)).toList = Nat.toDigits 10 (k + 1) :=
  Number.toList_toString_natCast (k + 1)

theorem newline_not_mem_number (k : Nat) :
    '\n' ∉ (padLeft 2 (toString ((k : Int) + 1))).toList := by
  apply newline_not_mem_padLeft
  rw [toList_number]
  exact newline_not_mem_of_blankFree (Text.blankFree_toDigits _)

/-! ## 3. The rows cell by cell -/

/-- The cells of a row. Those of the outputs are one field with its bars inside. -/
structure Cells where
  number : List Char
  label : List Char
  in7 : List Char
  in6 : List Char
  outputs : List Char
  value : List Char

/-- The row made of the cells, with the given marker. -/
def Cells.row (c : Cells) (marker : Char) : List Char :=
  ['│', ' ', marker, ' '] ++ c.number ++ [' ', '│', ' '] ++
    (c.label ++ [' ', '│'] ++ c.in7 ++ ['│'] ++ c.in6 ++ ['│'] ++ (c.outputs ++ ['│']) ++ [' '] ++
      c.value) ++
    [' ', '│']

/-- The cells of line `k`, counted from zero. -/
def cellsOf (k : Nat) (i : Instruction) : Cells where
  number := (padLeft 2 (toString ((k : Int) + 1))).toList
  label := (padRight 12 (i.label.getD "")).toList
  in7 := (inputCell i.condition.in7).toList
  in6 := (inputCell i.condition.in6).toList
  outputs := outputFields i.pattern
  value := (valueField i.value).toList

theorem toList_columnsOf (i : Instruction) :
    (columnsOf i).toList =
      (padRight 12 (i.label.getD "")).toList ++ [' ', '│'] ++
        (inputCell i.condition.in7).toList ++ ['│'] ++
        (inputCell i.condition.in6).toList ++ ['│'] ++
        (outputFields i.pattern ++ ['│']) ++ [' '] ++ (valueField i.value).toList := by
  rw [columnsOf, columns, ← toList_outputCells]
  simp only [String.toList_append]
  rfl

/-- A row of the table is the row made of the cells of its line, with a blank as marker. -/
theorem bareRow_columnsOf (k : Nat) (i : Instruction) :
    bareRow (k + 1) (columnsOf i) = (cellsOf k i).row ' ' := by
  simp only [bareRow, toList_columnsOf, Cells.row, cellsOf]

theorem marked_row (c : Cells) : marked (c.row ' ') = c.row '>' := rfl

/-- The cells stand on one line, and those between number and value have the widths of their
columns. -/
structure Cells.Fit (c : Cells) : Prop where
  number : '\n' ∉ c.number
  label : Fills 12 c.label
  in7 : Fills 3 c.in7
  in6 : Fills 3 c.in6
  outputs : Fills 23 c.outputs
  value : '\n' ∉ c.value

theorem Cells.Fit.newline_not_mem_row {c : Cells} (h : c.Fit) {marker : Char}
    (hmarker : '\n' ≠ marker) : '\n' ∉ c.row marker := by
  simp [row, hmarker, h.number, h.label.oneLine, h.in7.oneLine, h.in6.oneLine, h.outputs.oneLine,
    h.value]

end Listing

/-- The line has a label, which fits into its column. -/
def Instruction.HasShortLabel (i : Instruction) : Prop :=
  ∃ label, i.label = some label ∧ label.length ≤ 12 ∧ '\n' ∉ label.toList

instance (i : Instruction) : Decidable i.HasShortLabel :=
  match h : i.label with
  | none => isFalse fun ⟨_, hlabel, _⟩ => Option.some_ne_none _ (hlabel.symm.trans h)
  | some label =>
    decidable_of_iff (label.length ≤ 12 ∧ '\n' ∉ label.toList)
      ⟨fun hfits => ⟨label, h, hfits⟩, fun ⟨_, hlabel, hfits⟩ => by
        rw [h] at hlabel
        cases hlabel
        exact hfits⟩

/-- With a label the value alone decides. -/
theorem Instruction.HasShortLabel.isListable_iff {i : Instruction} (h : i.HasShortLabel) :
    i.isListable = true ↔ ∀ v, i.value = some v → v.isPrintable = true := by
  obtain ⟨label, hlabel, _⟩ := h
  rw [isListable, hlabel, Option.isSome_some, Bool.true_and, Option.all_eq_true]

namespace Listing

variable {i : Instruction} {k : Nat} {program : Program}

/-- The cells of a line fit if its label does. The other columns have their widths for every
line. -/
theorem fit_cellsOf (h : i.HasShortLabel) (k : Nat) : (cellsOf k i).Fit where
  number := by
    dsimp only [cellsOf]
    exact newline_not_mem_number k
  label := by
    obtain ⟨label, hlabel, hshort, hline⟩ := h
    dsimp only [cellsOf]
    rw [hlabel, Option.getD_some]
    exact ⟨length_padRight hshort, newline_not_mem_padRight hline⟩
  in7 := fills_inputCell _
  in6 := fills_inputCell _
  outputs := fills_outputFields _
  value := by
    dsimp only [cellsOf]
    exact newline_not_mem_valueField _

/-- Two digits are enough for the numbers of 99 lines. -/
theorem length_number (hk : k < 99) (i : Instruction) : (cellsOf k i).number.length = 2 := by
  dsimp only [cellsOf]
  apply length_padLeft
  rw [← String.length_toList, toList_number, Nat.length_toDigits_le_iff (by decide) (by decide)]
  omega

theorem length_value (h : ∀ v, i.value = some v → v.text.length ≤ 5) (k : Nat) :
    (cellsOf k i).value.length = 5 := by
  dsimp only [cellsOf]
  cases hvalue : i.value with
  | none => exact (fills_ofList rfl : Fills 5 _).length
  | some v => exact length_padRight (h v hvalue)

/-! ## 4. The alignment -/

/-- The row has the bars of the table and the given marker. -/
structure InColumns (marker : Char) (row : List Char) : Prop where
  fills : Fills 63 row
  bars : ∀ column ∈ [0, 7, 22, 26, 30, 54, 62], row[column]? = some '│'
  marker : row[2]? = some marker

/-- The head has four lines, and its last line, the foot and the rows, with and without their
marker, have the same width. -/
structure Table.Aligned (t : Table) : Prop where
  length_head : t.head.length = 4
  head_oneLine : ∀ line ∈ t.head, '\n' ∉ line
  head_width : t.head[3]?.map List.length = some 63
  rows : ∀ row ∈ t.rows, InColumns ' ' row ∧ InColumns '>' (marked row)
  foot : Fills 63 t.foot

/-- If the cells fit, number and value included, then the bars are where the widths put them. -/
theorem Cells.Fit.inColumns {c : Cells} (h : c.Fit) (hnumber : c.number.length = 2)
    (hvalue : c.value.length = 5) {marker : Char} (hmarker : '\n' ≠ marker) :
    InColumns marker (c.row marker) where
  fills.length := by
    simp [row, hnumber, h.label.length, h.in7.length, h.in6.length, h.outputs.length, hvalue]
  fills.oneLine := h.newline_not_mem_row hmarker
  bars := by
    simp [row, hnumber, h.label.length, h.in7.length, h.in6.length, h.outputs.length, hvalue]
  marker := rfl

set_option maxRecDepth 2000 in
theorem headLines_oneLine : ∀ line ∈ headLines, '\n' ∉ line := by
  unfold headLines
  refine List.forall_mem_cons.mpr ⟨?_, List.forall_mem_cons.mpr ⟨?_, List.forall_mem_cons.mpr
    ⟨?_, List.forall_mem_singleton.mpr ?_⟩⟩⟩
  · exact (fills_ofList rfl : Fills 55 _).oneLine
  · exact (fills_ofList rfl : Fills 55 _).oneLine
  · exact (fills_ofList rfl : Fills 55 _).oneLine
  · exact (fills_ofList rfl : Fills 63 _).oneLine

set_option maxRecDepth 2000 in
theorem headLines_width : headLines.length = 4 ∧ headLines[3]?.map List.length = some 63 := by
  unfold headLines
  exact ⟨rfl, congrArg some (fills_ofList rfl : Fills 63 _).length⟩

set_option maxRecDepth 2000 in
theorem fills_footLine : Fills 63 footLine := by
  unfold footLine
  exact fills_ofList rfl

/-- **The listing is aligned.** A program of at most 99 lines whose labels and values fit into their
columns is listed as a table with a row for each line. All rows are 63 characters wide, as the last
line of the head and the foot are, and have their bars in the same columns. Whatever line is to be
active, the table is the same; only the row of that line, if there is one, has a marker in place of
a blank and stands between colour codes. -/
theorem listing_aligned (hcount : program.length ≤ 99) (hlabels : ∀ i ∈ program, i.HasShortLabel)
    (hvalues : ∀ i ∈ program, ∀ v, i.value = some v → v.text.length ≤ 5) :
    (table program).Aligned ∧ (table program).rows.length = program.length ∧
      ∀ active : Option Int,
        listing program active = .ok (String.ofList ((table program).text active)) := by
  have hrows : ∀ row ∈ (table program).rows, InColumns ' ' row ∧ InColumns '>' (marked row) := by
    intro row hrow
    rw [rows_table, List.mem_mapIdx] at hrow
    obtain ⟨k, hk, rfl⟩ := hrow
    have hmem := List.getElem_mem hk
    have hfit := fit_cellsOf (hlabels _ hmem) k
    have hnumber := length_number (Nat.lt_of_lt_of_le hk hcount) program[k]
    have hvalue := length_value (hvalues _ hmem) k
    rw [bareRow_columnsOf, marked_row]
    exact ⟨hfit.inColumns hnumber hvalue (by decide), hfit.inColumns hnumber hvalue (by decide)⟩
  -- a value of five characters is far from being too long to be written
  have hlist : program.isListable = true := by
    rw [Program.isListable, List.all_eq_true]
    intro i hi
    refine (hlabels i hi).isListable_iff.mpr fun v hv => Number.isPrintable_of_length ?_
    exact Nat.le_trans (hvalues i hi v hv) (by decide)
  refine ⟨⟨headLines_width.1, headLines_oneLine, headLines_width.2, hrows, fills_footLine⟩, ?_, ?_⟩
  · rw [rows_table, List.length_mapIdx]
  · exact fun active => listing_eq_table hlist active

/-- A lamp that is switched while a button is pressed. -/
def lampWhilePressed : Program :=
  [.ifStart ⟨some true, none⟩, .setOutput (some "lamp │ on") (some 63) (some 0.5), .ifEnd]

theorem lampWhilePressed_aligned :
    lampWhilePressed.length ≤ 99 ∧ (∀ i ∈ lampWhilePressed, i.HasShortLabel) ∧
      (∀ i ∈ lampWhilePressed, ∀ v, i.value = some v → v.text.length ≤ 5) ∧
      (table lampWhilePressed).Aligned ∧
      (table lampWhilePressed).rows.length = lampWhilePressed.length ∧
      ∀ active : Option Int, listing lampWhilePressed active =
        .ok (String.ofList ((table lampWhilePressed).text active)) := by
  have hcount : lampWhilePressed.length ≤ 99 := by decide
  have hlabels : ∀ i ∈ lampWhilePressed, i.HasShortLabel := by decide
  have hvalues : ∀ i ∈ lampWhilePressed, ∀ v, i.value = some v → v.text.length ≤ 5 := by
    simp only [lampWhilePressed, List.mem_cons, List.not_mem_nil, or_false]
    rintro i (rfl | rfl | rfl) v hv
    · cases hv
    · cases hv
      decide +kernel
    · cases hv
  exact ⟨hcount, hlabels, hvalues, listing_aligned hcount hlabels hvalues⟩

end Listing

end LineControl

import LineControl.Proofs.Image
import LineControl.Proofs.Numerals

/-!
# Record texts and their entries

An entry is what one record of a text is made from: label, type, bits, the pattern of the view, and
the text of the value. A text holds the number of entries and then four lines for each of them. It
is read as one line of a program per entry,

    load (text.flatMap String.utf8EncodeChar) = loadingOf entries,

whatever ends its lines have and whatever blanks stand in front of these (`load_spelled`). The
freedom in the line ends is in `Spelled`, which relates lines to the texts that spell them, and not
in the entries, so the four sections climb from a view to a record to a text without mentioning it;
it is discharged in one step by `Spelled.lines_eq`.

Blanks at the end of a value are at the end of a line of the text, so they are gone before the value
is read. That matters only for the four separators: no numeral may have them around it, so a value
text that ends with one is no number by itself, but is read as one from a record
(`separated_value_is_read`). The number of an entry is therefore that of its trimmed value, and
`Entry.number_eq` says when the trimming is for nothing.

## What an entry may be

The fields of `Entry` are the promises that whoever writes a file makes: a label of at most ten
characters without blanks at its ends, a pattern of seventeen, everything on one line, and a type
and bits that go together (`Fits`). They are fields rather than hypotheses because an entry without
them has no record. The pattern is arbitrary otherwise. It is a picture of the bits for the screen
and reading never looks at it, so nothing says that the two agree.

Not every text that loads is one of these. A numeral may have leading zeros or a sign, and a label
may stand anywhere in its column; there is no converse here, as there is for images in
`Proofs.Image`.
-/

set_option autoImplicit false

namespace LineControl.Apple

open Text

/-! ## 1. Entries

The values of `Fits` and `asked` are written out as the format has them, so that they can be
compared with its description; the loader computes them from bits. -/

/-- Type 0 is a line of the user, type 1 a keyword with a condition in the bits, type 2 a keyword
without. -/
def Fits (label : String) (type bits : Nat) : Prop :=
  type = 0 ∧ bits ≤ 255 ∨
  type = 1 ∧ label ∈ ["IF", "UNTIL", "COUNT"] ∧ bits ∈ [0, 1, 2, 3, 4, 6, 8, 9, 10] ∨
  type = 2 ∧ label ∈ ["REPEAT", "ENDREPEAT", "ENDIF", "FOREVER"] ∧ bits = 0

instance (label : String) (type bits : Nat) : Decidable (Fits label type bits) :=
  inferInstanceAs (Decidable (_ ∨ _))

/-- The readings of inputs 7 and 6 that the bits of a condition ask for. -/
def asked : Nat → Condition
  | 0 => ⟨some false, some false⟩
  | 1 => ⟨some false, some true⟩
  | 2 => ⟨some true, some false⟩
  | 3 => ⟨some true, some true⟩
  | 4 => ⟨some false, none⟩
  | 6 => ⟨some true, none⟩
  | 8 => ⟨none, some false⟩
  | 9 => ⟨none, some true⟩
  | 10 => ⟨none, some false⟩
  | _ => .any

/-- What a record is made from. -/
structure Entry where
  label : List Char
  type : Nat
  bits : Nat
  pattern : List Char
  value : List Char
  short : label.length ≤ 10 := by decide
  flushLeft : label.head?.any isBlank = false := by decide
  flushRight : label.getLast?.any isBlank = false := by decide
  full : pattern.length = 17 := by decide
  oneLine : OneLine (label ++ pattern ++ value) := by decide
  fits : Fits (String.ofList label) type bits := by decide

namespace Entry

/-- The label as a string. -/
def text (e : Entry) : String :=
  String.ofList e.label

/-- The number in the value, without the blanks at its end. -/
def number (e : Entry) : Option Number :=
  Number.ofField? (trimEnd e.value)

/-- The label, filled up to its ten columns. -/
def padded (e : Entry) : List Char :=
  e.label ++ List.replicate (10 - e.label.length) ' '

/-- The line as the screen shows it, with the given value. -/
def viewWith (e : Entry) (value : List Char) : List Char :=
  [';'] ++ e.padded ++ ['~', 'A', 's'] ++ e.pattern ++ ['t', '~', '@'] ++ value

/-- The four lines of the entry's record, with the given value. -/
def linesWith (e : Entry) (value : List Char) : List (List Char) :=
  [Nat.toDigits 10 e.label.length, e.viewWith value, Nat.toDigits 10 e.type, Nat.toDigits 10 e.bits]

/-- The line of a program that the entry stands for. -/
def line (e : Entry) : Instruction :=
  if e.type = 0 then .setOutput (some e.text) (some e.bits) e.number
  else
    match e.text with
    | "IF" => .ifStart (asked e.bits)
    | "UNTIL" => .repeatUntil (asked e.bits)
    | "COUNT" => .count (asked e.bits) e.number
    | "REPEAT" => .repeatStart e.number
    | "ENDREPEAT" => .repeatEnd
    | "ENDIF" => .ifEnd
    | _ => .repeatForever

end Entry

/-- The lines of the text that holds the entries. -/
def textLines (entries : List Entry) : List (List Char) :=
  Nat.toDigits 10 entries.length :: entries.flatMap fun e => e.linesWith e.value

/-! ## 2. Reading a view -/

theorem columns_append {a b c : List Char} {start stop : Nat} (hstart : a.length = start)
    (hstop : start + b.length = stop) : columns start stop (a ++ b ++ c) = b := by
  unfold columns
  rw [List.take_left' (by rw [List.length_append, hstart, hstop]), List.drop_left' hstart]

namespace Entry

theorem length_padded (e : Entry) : e.padded.length = 10 := by
  have := e.short
  simp [padded]
  omega

/-- A label is got back from its columns, since it has no blanks of its own at its ends. -/
theorem trim_padded (e : Entry) : trim e.padded = e.label := by
  apply trim_append_replicate
  · intro c hc
    simpa [hc] using e.flushLeft
  · intro c hc
    simpa [hc] using e.flushRight

/-- The view of an entry is read as its label, its pattern and the number in the value. All of its
marks stand in fixed columns, so this is arithmetic on lengths. -/
theorem read_viewWith (e : Entry) (value : List Char) :
    View.read e.label.length (e.viewWith value) =
      .ok ⟨e.label, e.pattern, Number.ofField? value⟩ := by
  -- the view has seven parts; each is found by putting together what stands before it
  have hpadded := e.length_padded
  have hfull := e.full
  have hlabel : columns 1 11 (e.viewWith value) = e.padded := by
    simp only [viewWith, List.append_assoc]
    rw [← List.append_assoc]
    exact columns_append rfl (by rw [hpadded])
  have hmark : columns 11 14 (e.viewWith value) = ['~', 'A', 's'] := by
    unfold viewWith
    rw [List.append_assoc, List.append_assoc]
    exact columns_append (by simp [hpadded]) rfl
  have hpattern : columns 14 31 (e.viewWith value) = e.pattern := by
    unfold viewWith
    rw [List.append_assoc]
    exact columns_append (by simp [hpadded]) (by rw [hfull])
  have hmark' : columns 31 34 (e.viewWith value) = ['t', '~', '@'] :=
    columns_append (by simp [hpadded, hfull]) rfl
  have hvalue : (e.viewWith value).drop 34 = value :=
    List.drop_left' (by simp [hpadded, hfull])
  have hhead : (e.viewWith value).head? = some ';' := rfl
  unfold View.read
  rw [hhead]
  dsimp only
  rw [hlabel, hmark, hpattern, hmark', hvalue, trim_padded]
  simp

/-- Trimming a view trims its value and nothing before, for the mark in front of the value is no
blank. -/
theorem trimEnd_viewWith (e : Entry) (value : List Char) :
    trimEnd (e.viewWith value) = e.viewWith (trimEnd value) := by
  refine dropEndWhile_append_of_getLast? (a := '@') ?_ rfl
  rw [List.getLast?_append]
  rfl

end Entry

/-! ## 3. Reading a record -/

theorem condition_asked : ∀ bits ∈ [0, 1, 2, 3, 4, 6, 8, 9, 10],
    condition (bits : Nat) = .ok (asked bits) ∧ (asked bits).isReal = true := by decide

theorem conditionLine_eq_line {e : Entry} (htype : e.type = 1)
    (hlabel : e.text ∈ ["IF", "UNTIL", "COUNT"]) (hbits : e.bits ∈ [0, 1, 2, 3, 4, 6, 8, 9, 10]) :
    conditionLine e.text e.bits e.number = .ok e.line := by
  obtain ⟨hcondition, hreal⟩ := condition_asked e.bits hbits
  rw [Entry.line, htype, if_neg (by decide)]
  simp only [List.mem_cons, List.not_mem_nil, or_false] at hlabel
  rcases hlabel with hlabel | hlabel | hlabel
  · rw [hlabel, conditionLine, hcondition]
    rfl
  · rw [hlabel, conditionLine, hcondition]
    show (Instruction.mkUntil (asked e.bits)).mapError _ = _
    rw [Instruction.mkUntil, if_pos hreal]
    rfl
  · rw [hlabel, conditionLine, hcondition]
    show (Instruction.mkCount (asked e.bits) e.number).mapError _ = _
    rw [Instruction.mkCount, if_pos hreal]
    rfl

theorem keywordLine_eq_line {e : Entry} (htype : e.type = 2)
    (hlabel : e.text ∈ ["REPEAT", "ENDREPEAT", "ENDIF", "FOREVER"]) (hbits : e.bits = 0) :
    keywordLine e.text e.bits e.number = .ok e.line := by
  rw [Entry.line, htype, if_neg (by decide), hbits]
  simp only [List.mem_cons, List.not_mem_nil, or_false] at hlabel
  rcases hlabel with hlabel | hlabel | hlabel | hlabel
  all_goals
    rw [hlabel]
    rfl

/-- Label, type and bits that go together stand for the line of the entry. -/
theorem instruction_eq_line (e : Entry) :
    instruction e.text e.type e.bits e.number = .ok e.line := by
  unfold instruction
  rcases e.fits with ⟨htype, hbits⟩ | ⟨htype, hlabel, hbits⟩ | ⟨htype, hlabel, hbits⟩
  · rw [Entry.line, if_pos htype, htype, if_pos Int.natCast_zero, if_pos (by omega)]
  · rw [← conditionLine_eq_line htype hlabel hbits, htype]
    rfl
  · rw [← keywordLine_eq_line htype hlabel hbits, htype]
    rfl

theorem trimEnd_toDigits (n : Nat) : trimEnd (Nat.toDigits 10 n) = Nat.toDigits 10 n := by
  apply dropEndWhile_eq_self
  intro c hc
  have hmem : c ∈ Nat.toDigits 10 n := List.mem_of_getLast? hc
  exact isBlank_of_isDigit (Nat.isDigit_of_mem_toDigits (by decide) (by decide) hmem)

/-- The numbers within a record have at most four digits, so none of them is too long to be read. -/
theorem wholeNumber_toDigits {n : Nat} (h : n < 10000) :
    wholeNumber (Nat.toDigits 10 n) = .ok (n : Int) := by
  have hlen : (Nat.toDigits 10 n).length ≤ 4 :=
    (Nat.length_toDigits_le_iff (by decide) (by decide)).mpr h
  rw [wholeNumber, Numeral.integer_toDigits, if_neg]
  · rfl
  · rw [Numeral.maxDigits]
    omega

/-- The record of an entry, as it is read. -/
def Entry.record (e : Entry) : Record :=
  ⟨Nat.toDigits 10 e.label.length, e.viewWith (trimEnd e.value), Nat.toDigits 10 e.type,
    Nat.toDigits 10 e.bits⟩

/-- The record of an entry is decoded as its line. -/
theorem Entry.decode_record (e : Entry) : e.record.decode = .ok e.line := by
  have hlabel := e.short
  have hsmall : e.type ≤ 2 ∧ e.bits ≤ 255 := by
    rcases e.fits with ⟨htype, hbits⟩ | ⟨htype, -, hbits⟩ | ⟨htype, -, hbits⟩
    · omega
    · simp at hbits
      omega
    · omega
  unfold Record.decode record
  dsimp only
  rw [wholeNumber_toDigits (by omega), wholeNumber_toDigits (by omega),
    wholeNumber_toDigits (by omega)]
  show (View.read e.label.length (e.viewWith (trimEnd e.value)) >>= fun view =>
    instruction (String.ofList view.label) e.type e.bits view.value) = _
  rw [e.read_viewWith]
  exact instruction_eq_line e

/-! ## 4. Reading a text

The lines of a text are trimmed all together and then read four by four. Trimming commutes with
laying out the entries, so the records are those of entries with trimmed values. -/

/-- Trimming the lines of a text changes nothing but the values. -/
theorem map_trimEnd_textLines (entries : List Entry) :
    (textLines entries).map trimEnd =
      Nat.toDigits 10 entries.length :: entries.flatMap fun e => e.linesWith (trimEnd e.value) := by
  simp only [textLines, List.map_cons, trimEnd_toDigits, List.map_flatMap, Entry.linesWith,
    List.map_nil, Entry.trimEnd_viewWith]

theorem records_flatMap (entries : List Entry) :
    records (entries.flatMap fun e => e.linesWith (trimEnd e.value)) =
      entries.map Entry.record := by
  induction entries with
  | nil => rfl
  | cons e rest ih =>
    rw [List.flatMap_cons, List.map_cons, ← ih]
    rfl

theorem length_flatMap_linesWith (entries : List Entry) :
    (entries.flatMap fun e => e.linesWith (trimEnd e.value)).length = entries.length * 4 := by
  induction entries with
  | nil => rfl
  | cons e rest ih =>
    rw [List.flatMap_cons, List.length_append, ih, List.length_cons, Nat.succ_mul, Nat.add_comm]
    rfl

theorem oneLine_toDigits (n : Nat) : OneLine (Nat.toDigits 10 n) := by
  intro c hc
  have hdigit : c.isDigit = true := Nat.isDigit_of_mem_toDigits (by decide) (by decide) hc
  constructor
  · rintro rfl
    cases hdigit
  · rintro rfl
    cases hdigit

theorem Entry.oneLine_viewWith (e : Entry) : OneLine (e.viewWith e.value) := by
  have hfields := e.oneLine
  simp only [viewWith, padded, oneLine_append] at hfields ⊢
  have hspaces : OneLine (List.replicate (10 - e.label.length) ' ') := by
    intro c hc
    rw [List.eq_of_mem_replicate hc]
    decide
  exact ⟨⟨⟨⟨⟨by decide, hfields.1.1, hspaces⟩, by decide⟩, hfields.1.2⟩, by decide⟩, hfields.2⟩

/-- No line of a text holds a line end, and none is empty, so that a last line without an end is
still a line. -/
theorem oneLine_textLines (entries : List Entry) : ∀ l ∈ textLines entries, OneLine l ∧ l ≠ [] := by
  have hdigits : ∀ n, OneLine (Nat.toDigits 10 n) ∧ Nat.toDigits 10 n ≠ [] :=
    fun n => ⟨oneLine_toDigits n, Nat.toDigits_ne_nil⟩
  intro l hl
  rcases List.mem_cons.mp hl with rfl | hl
  · exact hdigits _
  · obtain ⟨e, -, hl⟩ := List.mem_flatMap.mp hl
    simp only [Entry.linesWith, List.mem_cons, List.not_mem_nil, or_false] at hl
    rcases hl with rfl | rfl | rfl | rfl
    · exact hdigits _
    · exact ⟨e.oneLine_viewWith, List.cons_ne_nil _ _⟩
    · exact hdigits _
    · exact hdigits _

/-- What is left by the load of a text that holds the entries. -/
def loadingOf (entries : List Entry) : Loading :=
  if Numeral.maxDigits < (Nat.toDigits 10 entries.length).length then
    .failed (.numeral (.tooLong (Nat.toDigits 10 entries.length).length))
  else ⟨entries.map Entry.line, none⟩

/-- A text that holds the entries is loaded as their lines. Their number is the only numeral whose
length the entries do not bound. -/
theorem load_spelled {entries : List Entry} {text : List Char}
    (h : Spelled (textLines entries) text) :
    load (text.flatMap String.utf8EncodeChar) = loadingOf entries := by
  have hdecode : (entries.map Entry.record).map Record.decode =
      (entries.map Entry.line).map .ok := by
    rw [List.map_map, List.map_map]
    exact List.map_congr_left fun e _ => e.decode_record
  unfold load loadingOf
  rw [Utf8.decode_encode]
  dsimp only
  rw [h.lines_eq (oneLine_textLines entries), map_trimEnd_textLines, ofLines, wholeNumber,
    Numeral.integer_toDigits]
  -- the number of entries is read first, and nothing after it if it is too long
  by_cases hmany : Numeral.maxDigits < (Nat.toDigits 10 entries.length).length
  · rw [if_pos hmany, if_pos hmany]
    rfl
  · rw [if_neg hmany, if_neg hmany]
    show (if _ then _ else _) = _
    rw [length_flatMap_linesWith, if_pos (by push_cast; rfl), records_flatMap, hdecode,
      Loading.ofLines_map_ok]

/-- The text is loaded the same way if its format is to be detected, for it is no image. -/
theorem format_load_spelled {entries : List Entry} {text : List Char}
    (h : Spelled (textLines entries) text) {format : Format} (hformat : format ≠ .commodore) :
    format.load (text.flatMap String.utf8EncodeChar) = loadingOf entries := by
  have hload := load_spelled h
  cases format with
  | commodore => exact absurd rfl hformat
  | apple => exact hload
  | detect =>
    rcases Format.load_detect (text.flatMap String.utf8EncodeChar) with
      ⟨-, -, fault, hfault⟩ | ⟨-, hdetect, -⟩
    · -- an image is no text
      have hutf8 := congrArg Loading.fault (hload.symm.trans hfault)
      unfold loadingOf at hutf8
      split at hutf8 <;> cases hutf8
    · exact hdetect.trans hload

/-- Without a separator at its end a value has the number of its whole text. -/
theorem Entry.number_eq {e : Entry} (h : (takeEndWhile isBlank e.value).all isNumericBlank = true) :
    e.number = Number.ofField? e.value := by
  conv => rhs; rw [← dropEndWhile_append_takeEndWhile isBlank e.value]
  rw [Number.ofField?_append (List.all_eq_true.mp h)]
  rfl

/-- **A record text is read as its entries, whatever ends its lines have.** A text that holds the
entries, each line with any of the three ends or, at the last line, none, and with any blanks in
front of the end, is loaded as one line per entry, in order; only a number of entries with too many
digits is refused. The number of a line is that of its value without the blanks at its end. It is
that of the value itself, unless one of these blanks is a separator. -/
theorem loads_spelled {session : Session} {file : String} {entries : List Entry} {text : List Char}
    (hfile : session.bench.files file = some (text.flatMap String.utf8EncodeChar))
    (htext : Spelled (textLines entries) text) :
    (∀ format, format ≠ Format.commodore → session.perform (Control.load file (some format)) =
      if (Nat.toDigits 10 entries.length).length ≤ Numeral.maxDigits then
        ⟨.ok (), [], "", session.holding (entries.map Entry.line)⟩
      else ⟨.error (.load (.numeral (.tooLong (Nat.toDigits 10 entries.length).length))), [], "",
        session.holding []⟩) ∧
    ∀ e ∈ entries, (takeEndWhile isBlank e.value).all isNumericBlank = true →
      e.number = Number.ofField? e.value := by
  refine ⟨?_, fun e _ => e.number_eq⟩
  intro format hformat
  rw [Session.perform_load hfile, format_load_spelled htext hformat, loadingOf]
  by_cases hmany : Numeral.maxDigits < (Nat.toDigits 10 entries.length).length
  · rw [if_pos hmany, if_neg (Nat.not_le.mpr hmany)]
    rfl
  · rw [if_neg hmany, if_pos (Nat.not_lt.mp hmany)]
    rfl

/-- Half a second of output 0, and a wait for input 7 to be off and input 6 to be anything. -/
def blinkUntilOff : List Entry :=
  [{ label := ['é', ' ', '1'], type := 0, bits := 1, pattern := List.replicate 17 'H'
     value := ['0', ',', '5'] },
   { label := ['U', 'N', 'T', 'I', 'L'], type := 1, bits := 4, pattern := List.replicate 17 'I'
     value := [] }]

/-- The lines of the two records with all kinds of ends and blanks. -/
def mixedEnds : List Char :=
  "2\r3 \n;é 1       ~AsHHHHHHHHHHHHHHHHHt~@0,5\u2003\x1c\r\n0\t\r1\n5\r".toList ++
    ";UNTIL     ~AsIIIIIIIIIIIIIIIIIt~@ \n1\r\n4".toList

theorem spelled_mixedEnds : Spelled (textLines blinkUntilOff) mixedEnds := by
  have h := Spelled.line ['2'] [] .cr (by decide) (by decide) <|
    .line ['3'] [' '] .lf (by decide) (by decide) <|
    .line (";é 1       ~AsHHHHHHHHHHHHHHHHHt~@0,5".toList) ['\u2003', '\x1c'] .crlf
      (by decide) (by decide) <|
    .line ['0'] ['\t'] .cr (by decide) (by decide) <|
    .line ['1'] [] .lf (by decide) (by decide) <|
    .line ['5'] [] .cr (by decide) (by decide) <|
    .line (";UNTIL     ~AsIIIIIIIIIIIIIIIIIt~@".toList) [' '] .lf (by decide) (by decide) <|
    .line ['1'] [] .crlf (by decide) (by decide) <|
    .last ['4'] [] (by decide) (by decide)
  have hlines : textLines blinkUntilOff = [['2'], ['3'],
      ";é 1       ~AsHHHHHHHHHHHHHHHHHt~@0,5".toList, ['0'], ['1'], ['5'],
      ";UNTIL     ~AsIIIIIIIIIIIIIIIIIt~@".toList, ['1'], ['4']] := by decide +kernel
  rw [hlines]
  exact cast (congrArg (Spelled _) (by decide +kernel)) h

theorem loads_mixedEnds :
    let session := ({} : Session).withFiles fun _ => some (mixedEnds.flatMap String.utf8EncodeChar)
    session.bench.files "blink" = some (mixedEnds.flatMap String.utf8EncodeChar) ∧
    Spelled (textLines blinkUntilOff) mixedEnds ∧
    session.perform (Control.load "blink" (some .apple)) =
      ⟨.ok (), [], "", session.holding [.setOutput (some "é 1") (some 1) (some 0.5),
        .repeatUntil ⟨some false, none⟩]⟩ ∧
    ∀ e ∈ blinkUntilOff, e.number = Number.ofField? e.value := by
  intro session
  have hfile : session.bench.files "blink" = some (mixedEnds.flatMap String.utf8EncodeChar) := rfl
  have hfew : (Nat.toDigits 10 blinkUntilOff.length).length ≤ Numeral.maxDigits := by decide
  have hlines : blinkUntilOff.map Entry.line = [.setOutput (some "é 1") (some 1) (some 0.5),
      .repeatUntil ⟨some false, none⟩] := by decide +kernel
  have hblanks : ∀ e ∈ blinkUntilOff,
      (takeEndWhile isBlank e.value).all isNumericBlank = true := by decide
  obtain ⟨hload, hnumber⟩ := loads_spelled hfile spelled_mixedEnds
  refine ⟨hfile, spelled_mixedEnds, ?_, fun e he => hnumber e he (hblanks e he)⟩
  rw [hload .apple (by decide), if_pos hfew, hlines]

/-- An entry whose value ends with a separator. -/
def separated : Entry where
  label := ['a']
  type := 0
  bits := 1
  pattern := List.replicate 17 'H'
  value := ['5', '\x1c']

def separatedText : List Char :=
  "1\n1\n;a         ~AsHHHHHHHHHHHHHHHHHt~@5\x1c\n0\n1\n".toList

/-- The value of a record is a number although its text is none. -/
theorem separated_value_is_read :
    let session := ({} : Session).withFiles fun _ =>
      some (separatedText.flatMap String.utf8EncodeChar)
    Spelled (textLines [separated]) separatedText ∧
    session.perform (Control.load "separated" (some .apple)) =
      ⟨.ok (), [], "", session.holding [.setOutput (some "a") (some 1) (some 5)]⟩ ∧
    [.setOutput (some separated.text) (some separated.bits) (Number.ofField? separated.value)] =
      [Instruction.setOutput (some "a") (some 1) none] ∧
    [.setOutput (some separated.text) (some separated.bits) (Number.ofField? separated.value)] ≠
      [Instruction.setOutput (some "a") (some 1) (some 5)] := by
  intro session
  have hspelled : Spelled (textLines [separated]) separatedText := by
    have h := Spelled.line ['1'] [] .lf (by decide) (by decide) <|
      .line ['1'] [] .lf (by decide) (by decide) <|
      .line (separated.viewWith separated.value) [] .lf (by decide) (by decide) <|
      .line ['0'] [] .lf (by decide) (by decide) <|
      .line ['1'] [] .lf (by decide) (by decide) .nil
    exact cast (congrArg (Spelled _) (by decide +kernel)) h
  have hfile : session.bench.files "separated" =
      some (separatedText.flatMap String.utf8EncodeChar) := rfl
  refine ⟨hspelled, ?_, by decide +kernel, by decide +kernel⟩
  have hline : [separated].map Entry.line = [.setOutput (some "a") (some 1) (some 5)] := by
    decide +kernel
  rw [Session.perform_load hfile, format_load_spelled hspelled (by decide), loadingOf,
    if_neg (by decide), hline]
  rfl

end LineControl.Apple

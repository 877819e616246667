import Mathlib.Data.List.TakeWhile
import LineControl.Text.Blank
import LineControl.Text.Lines
import LineControl.Text.Utf8

/-!
# How a list of lines is spelled in a file

A text becomes bytes and is cut into lines when a file is read. Decoding undoes the encoding, for
every text (`decode_encode`). A list of lines has many spellings: each line may have blanks at its
end and any of the three line ends, which the last line may also lack. `Spelled` relates the lines
to these texts, and `Spelled.lines_eq` says that all of them are cut into the same lines, up to the
blanks that trimming takes away.

The one trap is a line end of two characters: a line that ends with the first of them must not be
followed by the second (`Spelled.head?_ne`). It is why lines are required not to be empty. An empty
line after a carriage return would begin with a line feed, and the two would be one end.

## What is left out

Only encoding and then decoding is the identity here. Which bytes are refused, and at which place,
is in the definition of `decode` and is not restated: a file with such bytes is no text, and the
statements about texts are about files that are. The place that decoding keeps for its faults is
existentially quantified throughout the first section, since no text leads to a fault.
-/

set_option autoImplicit false

namespace LineControl.Text

/-! ## 1. Texts as bytes

Decoding takes byte after byte and keeps what it has of an unfinished character. So the bytes of a
character are followed one by one: a lead, bytes that go on, and a last one. -/

namespace Utf8

theorem toNat_byte {n : Nat} (h : n < 256) : (UInt8.ofNat n).toNat = n :=
  UInt8.toNat_ofNat_of_lt' h

section Continue

variable {u : Unfinished} {n : Nat} (place : Place) (rest : List UInt8)

theorem inRange_byte (hlow : u.low.toNat ≤ n) (hhigh : n ≤ u.high.toNat) :
    (u.low ≤ UInt8.ofNat n && UInt8.ofNat n ≤ u.high) = true ∧ (UInt8.ofNat n).toNat = n := by
  have hbyte := toNat_byte (Nat.lt_of_le_of_lt hhigh u.high.toNat_lt)
  simp only [UInt8.le_iff_toNat_le, hbyte, Bool.and_eq_true, decide_eq_true_eq, and_true]
  exact ⟨hlow, hhigh⟩

/-- A byte in range goes on with the character. -/
theorem decodeFrom_more (hlow : u.low.toNat ≤ n) (hhigh : n ≤ u.high.toNat)
    (hmissing : u.missing ≠ 1) :
    decodeFrom (some u) place (UInt8.ofNat n :: rest) =
      decodeFrom (some ⟨u.first, u.seen + 1, u.missing - 1, 64 * u.bits + (n - 0x80), 0x80, 0xBF⟩)
        (place.next (u.seen + 1)) rest := by
  obtain ⟨hrange, hbyte⟩ := inRange_byte hlow hhigh
  rw [decodeFrom, if_pos hrange]
  dsimp only
  rw [if_neg hmissing, Unfinished.add, hbyte]

/-- The last byte of the character is in range. -/
theorem decodeFrom_last (hlow : u.low.toNat ≤ n) (hhigh : n ≤ u.high.toNat)
    (hmissing : u.missing = 1) :
    decodeFrom (some u) place (UInt8.ofNat n :: rest) =
      (decodeFrom none (place.next 0) rest).map (Char.ofNat (64 * u.bits + (n - 0x80)) :: ·) := by
  obtain ⟨hrange, hbyte⟩ := inRange_byte hlow hhigh
  rw [decodeFrom, if_pos hrange]
  dsimp only
  rw [if_pos hmissing, Unfinished.add, hbyte]

end Continue

section Character

variable {v : Nat} (place : Place) (rest : List UInt8)

theorem decodeFrom_one (hv : v < 0x80) :
    decodeFrom none place (UInt8.ofNat v :: rest) =
      (decodeFrom none (place.next 0) rest).map (Char.ofNat v :: ·) := by
  have hstart : start (UInt8.ofNat v) = .char (Char.ofNat v) := by
    unfold start
    dsimp only
    rw [toNat_byte (by omega), if_pos hv]
  rw [decodeFrom, hstart]

theorem decodeFrom_two (hlow : 0x80 ≤ v) (hhigh : v < 0x800) :
    ∃ place', decodeFrom none place
        (UInt8.ofNat (v / 64 % 32 + 0xC0) :: UInt8.ofNat (v % 64 + 0x80) :: rest) =
      (decodeFrom none place' rest).map (Char.ofNat v :: ·) := by
  generalize hn : v / 64 % 32 + 0xC0 = n
  have hstart : start (UInt8.ofNat n) = .lead ⟨UInt8.ofNat n, 1, 1, n - 0xC0, 0x80, 0xBF⟩ := by
    unfold start
    dsimp only
    rw [toNat_byte (by omega), if_neg (by omega), if_neg (by omega), if_pos (by omega)]
  rw [decodeFrom, hstart]
  dsimp only
  rw [decodeFrom_last _ _ (by simp) (by simp; omega) rfl]
  dsimp only
  rw [show 64 * (n - 0xC0) + (v % 64 + 0x80 - 0x80) = v by omega]
  exact ⟨_, rfl⟩

/-- A character of three bytes. Here the surrogates have to be excluded, which are no characters. -/
theorem decodeFrom_three (hlow : 0x800 ≤ v) (hhigh : v < 0x10000)
    (hvalid : v < 0xD800 ∨ 0xDFFF < v) :
    ∃ place', decodeFrom none place
        (UInt8.ofNat (v / 4096 % 16 + 0xE0) :: UInt8.ofNat (v / 64 % 64 + 0x80) ::
          UInt8.ofNat (v % 64 + 0x80) :: rest) =
      (decodeFrom none place' rest).map (Char.ofNat v :: ·) := by
  generalize hn : v / 4096 % 16 + 0xE0 = n
  have hstart : start (UInt8.ofNat n) = .lead ⟨UInt8.ofNat n, 1, 2, n - 0xE0,
      if n = 0xE0 then 0xA0 else 0x80, if n = 0xED then 0x9F else 0xBF⟩ := by
    unfold start
    dsimp only
    rw [toNat_byte (by omega), if_neg (by omega), if_neg (by omega), if_neg (by omega),
      if_pos (by omega)]
  rw [decodeFrom, hstart]
  dsimp only
  -- only the byte after the first can be out of range: below, the form is overlong; above, it is a
  -- surrogate
  rw [decodeFrom_more, decodeFrom_last _ _ (by simp) (by simp; omega) rfl]
  · dsimp only
    rw [show 64 * (64 * (n - 0xE0) + (v / 64 % 64 + 0x80 - 0x80)) + (v % 64 + 0x80 - 0x80) = v
      by omega]
    exact ⟨_, rfl⟩
  · dsimp only
    split <;> simp
    omega
  · dsimp only
    split <;> simp <;> omega
  · simp

theorem decodeFrom_four (hlow : 0x10000 ≤ v) (hhigh : v < 0x110000) :
    ∃ place', decodeFrom none place
        (UInt8.ofNat (v / 262144 % 8 + 0xF0) :: UInt8.ofNat (v / 4096 % 64 + 0x80) ::
          UInt8.ofNat (v / 64 % 64 + 0x80) :: UInt8.ofNat (v % 64 + 0x80) :: rest) =
      (decodeFrom none place' rest).map (Char.ofNat v :: ·) := by
  generalize hn : v / 262144 % 8 + 0xF0 = n
  have hstart : start (UInt8.ofNat n) = .lead ⟨UInt8.ofNat n, 1, 3, n - 0xF0,
      if n = 0xF0 then 0x90 else 0x80, if n = 0xF4 then 0x8F else 0xBF⟩ := by
    unfold start
    dsimp only
    rw [toNat_byte (by omega), if_neg (by omega), if_neg (by omega), if_neg (by omega),
      if_neg (by omega), if_pos (by omega)]
  rw [decodeFrom, hstart]
  dsimp only
  rw [decodeFrom_more, decodeFrom_more _ _ (by simp) (by simp; omega) (by simp),
    decodeFrom_last _ _ (by simp) (by simp; omega) rfl]
  · dsimp only
    rw [show 64 * (64 * (64 * (n - 0xF0) + (v / 4096 % 64 + 0x80 - 0x80)) +
      (v / 64 % 64 + 0x80 - 0x80)) + (v % 64 + 0x80 - 0x80) = v by omega]
    exact ⟨_, rfl⟩
  · dsimp only
    split <;> simp
    omega
  · dsimp only
    split <;> simp <;> omega
  · simp

end Character

/-- The bytes of a character are read as that character, wherever they stand. -/
theorem decodeFrom_encodeChar (c : Char) (place : Place) (rest : List UInt8) :
    ∃ place', decodeFrom none place (String.utf8EncodeChar c ++ rest) =
      (decodeFrom none place' rest).map (c :: ·) := by
  -- the encoder splits by the size of the code point, and so does the proof
  have hvalid : c.val.toNat < 0xD800 ∨ 0xDFFF < c.val.toNat ∧ c.val.toNat < 0x110000 := c.valid
  have hchar : Char.ofNat c.val.toNat = c := Char.ofNat_toNat c
  unfold String.utf8EncodeChar
  dsimp only
  generalize c.val.toNat = v at *
  rw [← hchar]
  split
  · exact ⟨_, decodeFrom_one place rest (by omega)⟩
  split
  · exact decodeFrom_two place rest (by omega) (by omega)
  split
  · exact decodeFrom_three place rest (by omega) (by omega) (by omega)
  · exact decodeFrom_four place rest (by omega) (by omega)

theorem decodeFrom_encode (cs : List Char) (place : Place) :
    decodeFrom none place (cs.flatMap String.utf8EncodeChar) = .ok cs := by
  induction cs generalizing place with
  | nil => rfl
  | cons c rest ih =>
    obtain ⟨place', hplace⟩ := decodeFrom_encodeChar c place (rest.flatMap String.utf8EncodeChar)
    rw [List.flatMap_cons, hplace, ih]
    rfl

/-- **Decoding undoes encoding.** -/
theorem decode_encode (cs : List Char) : decode (cs.flatMap String.utf8EncodeChar) = .ok cs :=
  decodeFrom_encode cs {}

end Utf8

/-! ## 2. Blanks at an end -/

/-- The longest end of the list on which `p` holds. -/
def takeEndWhile {α : Type} (p : α → Bool) (l : List α) : List α :=
  (l.reverse.takeWhile p).reverse

section Trim

variable {α : Type} {p : α → Bool} {l m : List α}

theorem dropEndWhile_append_takeEndWhile (p : α → Bool) (l : List α) :
    dropEndWhile p l ++ takeEndWhile p l = l := by
  rw [dropEndWhile, takeEndWhile, ← List.reverse_append, List.takeWhile_append_dropWhile,
    List.reverse_reverse]

theorem dropEndWhile_append (h : ∀ a ∈ m, p a = true) :
    dropEndWhile p (l ++ m) = dropEndWhile p l := by
  unfold dropEndWhile
  rw [List.reverse_append, List.dropWhile_append_of_pos]
  intro a ha
  exact h a (List.mem_reverse.mp ha)

/-- Nothing is taken away past an element that stays. -/
theorem dropEndWhile_append_of_getLast? {a : α} (hlast : l.getLast? = some a) (ha : p a = false) :
    dropEndWhile p (l ++ m) = l ++ dropEndWhile p m := by
  unfold dropEndWhile
  have hstop : l.reverse.dropWhile p = l.reverse := by
    rw [List.getLast?_eq_some_iff] at hlast
    obtain ⟨front, rfl⟩ := hlast
    simp [ha]
  rw [List.reverse_append, List.dropWhile_append]
  split
  · rename_i hempty
    rw [hstop, List.isEmpty_iff.mp hempty, List.reverse_reverse, List.reverse_nil, List.append_nil]
  · rw [List.reverse_append, List.reverse_reverse]

theorem dropEndWhile_eq_self (h : ∀ a, l.getLast? = some a → p a = false) :
    dropEndWhile p l = l := by
  cases hlast : l.getLast? with
  | none => rw [List.getLast?_eq_none_iff.mp hlast]; rfl
  | some a => simpa [dropEndWhile] using dropEndWhile_append_of_getLast? (m := []) hlast (h a hlast)

end Trim

/-- A text is what trimming leaves of it, with blanks before and after. -/
theorem exists_blanks_around (cs : List Char) : ∃ before after, cs = before ++ trim cs ++ after ∧
    (∀ c ∈ before, isBlank c = true) ∧ ∀ c ∈ after, isBlank c = true := by
  refine ⟨cs.takeWhile isBlank, takeEndWhile isBlank (cs.dropWhile isBlank), ?_, ?_, ?_⟩
  · rw [trim, trimEnd, List.append_assoc, dropEndWhile_append_takeEndWhile,
      List.takeWhile_append_dropWhile]
  · exact fun c hc => List.mem_takeWhile_imp hc
  · exact fun c hc => List.mem_takeWhile_imp (List.mem_reverse.mp hc)

/-- Blanks around a text that has none at its ends are taken away, and nothing else is. -/
theorem trim_surrounded {before cs after : List Char} (hbefore : ∀ c ∈ before, isBlank c = true)
    (hafter : ∀ c ∈ after, isBlank c = true) (hfirst : ∀ c, cs.head? = some c → isBlank c = false)
    (hlast : ∀ c, cs.getLast? = some c → isBlank c = false) :
    trim (before ++ cs ++ after) = cs := by
  rw [trim, List.append_assoc, List.dropWhile_append_of_pos hbefore]
  cases cs with
  | nil =>
    rw [List.nil_append, List.dropWhile_eq_nil_iff.2 hafter]
    rfl
  | cons c rest =>
    rw [List.cons_append,
      List.dropWhile_cons_of_neg (by rw [hfirst c rfl]; exact Bool.false_ne_true),
      ← List.cons_append, trimEnd, dropEndWhile_append hafter, dropEndWhile_eq_self hlast]

/-- A label without blanks at its ends is what is left of it when it is filled up with spaces. -/
theorem trim_append_replicate {cs : List Char} (hfirst : ∀ c, cs.head? = some c → isBlank c = false)
    (hlast : ∀ c, cs.getLast? = some c → isBlank c = false) (n : Nat) :
    trim (cs ++ List.replicate n ' ') = cs := by
  have hspaces : ∀ c ∈ List.replicate n ' ', isBlank c = true := by
    intro c hc
    rw [List.eq_of_mem_replicate hc]
    rfl
  exact trim_surrounded (List.forall_mem_nil _) hspaces hfirst hlast

/-! ## 3. Line ends

Cutting a text into lines looks at one character at a time, except after a carriage return. -/

/-- The three ways to end a line. -/
inductive LineEnd where
  | cr
  | lf
  | crlf
deriving DecidableEq

/-- The characters of a line end. -/
def LineEnd.chars : LineEnd → List Char
  | .cr => ['\r']
  | .lf => ['\n']
  | .crlf => ['\r', '\n']

/-- No line ends in the text. -/
def OneLine (cs : List Char) : Prop :=
  ∀ c ∈ cs, c ≠ '\r' ∧ c ≠ '\n'

instance (cs : List Char) : Decidable (OneLine cs) :=
  List.decidableBAll _ cs

/-- The text consists of the lines, each of them with any blanks and any end after it. The last line
may be left without an end. -/
inductive Spelled : List (List Char) → List Char → Prop where
  | nil : Spelled [] []
  | last (line blanks : List Char) : blanks.all isBlank = true → OneLine blanks →
      Spelled [line] (line ++ blanks)
  | line (line blanks : List Char) (ending : LineEnd) {rest : List (List Char)} {text : List Char} :
      blanks.all isBlank = true → OneLine blanks → Spelled rest text →
      Spelled (line :: rest) (line ++ blanks ++ ending.chars ++ text)

theorem oneLine_append {l m : List Char} : OneLine (l ++ m) ↔ OneLine l ∧ OneLine m :=
  List.forall_mem_append

theorem lines_cons_of_nil {c : Char} (hcr : c ≠ '\r') (hlf : c ≠ '\n') {text : List Char}
    (h : lines text = []) : lines (c :: text) = [[c]] := by
  rw [lines.eq_5 c text (fun _ heq _ => hcr heq) hcr hlf, h]

theorem lines_cons_of_cons {c : Char} (hcr : c ≠ '\r') (hlf : c ≠ '\n') {text line : List Char}
    {later : List (List Char)} (h : lines text = line :: later) :
    lines (c :: text) = (c :: line) :: later := by
  rw [lines.eq_5 c text (fun _ heq _ => hcr heq) hcr hlf, h]

/-- A text without line ends is one line, unless it is empty and none. -/
theorem lines_of_oneLine {l : List Char} (h : OneLine l) (hne : l ≠ []) : lines l = [l] := by
  induction l with
  | nil => exact absurd rfl hne
  | cons c rest ih =>
    obtain ⟨hcr, hlf⟩ := h c List.mem_cons_self
    cases rest with
    | nil => exact lines_cons_of_nil hcr hlf rfl
    | cons d rest =>
      have hrest : OneLine (d :: rest) := fun e he => h e (List.mem_cons_of_mem c he)
      exact lines_cons_of_cons hcr hlf (ih hrest (List.cons_ne_nil d rest))

/-- An end at the front of a text ends an empty line. A carriage return does so by itself only if no
line feed follows. -/
theorem lines_end (ending : LineEnd) {text : List Char} (h : text.head? ≠ some '\n') :
    lines (ending.chars ++ text) = [] :: lines text := by
  cases ending with
  | cr =>
    show lines ('\r' :: text) = _
    rw [lines.eq_3]
    rintro rest rfl
    exact h rfl
  | lf => rfl
  | crlf => rfl

/-- A line with an end after it is the first line of the text, unless the end is cut in two. -/
theorem lines_append_end {l : List Char} (hl : OneLine l) (ending : LineEnd) {text : List Char}
    (h : text.head? ≠ some '\n') : lines (l ++ ending.chars ++ text) = l :: lines text := by
  induction l with
  | nil => exact lines_end ending h
  | cons c rest ih =>
    obtain ⟨hcr, hlf⟩ := hl c List.mem_cons_self
    exact lines_cons_of_cons hcr hlf (ih fun d hd => hl d (List.mem_cons_of_mem c hd))

/-- A spelled text does not begin with a line feed, so the line end before it stays what it was. -/
theorem Spelled.head?_ne {ls : List (List Char)} {text : List Char} (h : Spelled ls text)
    (hls : ∀ l ∈ ls, OneLine l ∧ l ≠ []) : text.head? ≠ some '\n' := by
  have hfirst : ∀ {l more : List Char}, OneLine l ∧ l ≠ [] → (l ++ more).head? ≠ some '\n' := by
    rintro l more ⟨hl, hne⟩ hhead
    obtain ⟨c, rest, rfl⟩ := List.exists_cons_of_ne_nil hne
    exact (hl c List.mem_cons_self).2 (Option.some.inj hhead)
  cases h with
  | nil => simp
  | last line blanks => exact hfirst (hls _ List.mem_cons_self)
  | line line blanks ending =>
    rw [List.append_assoc, List.append_assoc]
    exact hfirst (hls _ List.mem_cons_self)

/-- **The lines of a text do not depend on their ends**, nor on the blanks in front of these. -/
theorem Spelled.lines_eq {ls : List (List Char)} {text : List Char} (h : Spelled ls text)
    (hls : ∀ l ∈ ls, OneLine l ∧ l ≠ []) : (lines text).map trimEnd = ls.map trimEnd := by
  induction h with
  | nil => rfl
  | last line blanks hblanks hone =>
    obtain ⟨hline, hne⟩ := hls line List.mem_cons_self
    have hwhole : OneLine (line ++ blanks) := oneLine_append.mpr ⟨hline, hone⟩
    rw [lines_of_oneLine hwhole (List.append_ne_nil_of_left_ne_nil hne blanks),
      List.map_singleton, List.map_singleton, trimEnd,
      dropEndWhile_append (List.all_eq_true.mp hblanks)]
    rfl
  | @line line blanks ending rest text hblanks hone hrest ih =>
    obtain ⟨hline, -⟩ := hls line List.mem_cons_self
    have hlater : ∀ l ∈ rest, OneLine l ∧ l ≠ [] := fun l hl => hls l (List.mem_cons_of_mem _ hl)
    have hwhole : OneLine (line ++ blanks) := oneLine_append.mpr ⟨hline, hone⟩
    rw [lines_append_end hwhole ending (hrest.head?_ne hlater), List.map_cons, ih hlater,
      List.map_cons, trimEnd, dropEndWhile_append (List.all_eq_true.mp hblanks)]
    rfl

end LineControl.Text

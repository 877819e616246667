import LineControl.Text.Quoted

/-!
# Strict UTF-8

The decoder goes through the bytes one at a time and keeps an unfinished character beside it; only
the second byte of a character has a range narrower than 80 to BF, which rules out overlong forms,
surrogates and code points above 10FFFF.

The bytes come in blocks. A fault is placed among the bytes that are still at hand when it is found:
those of the current block, after the bytes of a character that the block before left unfinished.
The first two bytes of a surrogate count as unfinished if a block ends with them.
-/

set_option autoImplicit false

namespace LineControl.Text.Utf8

/-- Why a sequence of bytes is no character. -/
inductive Reason where
  | invalidStart
  | invalidContinuation
  | unexpectedEnd
deriving DecidableEq

/-- A broken sequence: its first byte, how many of its bytes belong together, and the number of
bytes at hand before its first byte. -/
structure Fault where
  first : UInt8
  length : Nat
  position : Nat
  reason : Reason
deriving DecidableEq

/-- An unfinished character: its first byte, the bytes seen and missing, the bits gathered, and the
range of the byte that has to follow. -/
structure Unfinished where
  first : UInt8
  seen : Nat
  missing : Nat
  bits : Nat
  low : UInt8
  high : UInt8
deriving DecidableEq

/-- What a byte starts outside of a character of several bytes. -/
inductive Start where
  | char (c : Char)
  | lead (unfinished : Unfinished)
  | invalid
deriving DecidableEq

/-- The character or the unfinished character that starts with the byte. -/
def start (b : UInt8) : Start :=
  let n := b.toNat
  if n < 0x80 then .char (Char.ofNat n)
  else if n < 0xC2 then .invalid
  else if n < 0xE0 then .lead ⟨b, 1, 1, n - 0xC0, 0x80, 0xBF⟩
  else if n < 0xF0 then
    .lead ⟨b, 1, 2, n - 0xE0, if n = 0xE0 then 0xA0 else 0x80, if n = 0xED then 0x9F else 0xBF⟩
  else if n < 0xF5 then
    .lead ⟨b, 1, 3, n - 0xF0, if n = 0xF0 then 0x90 else 0x80, if n = 0xF4 then 0x8F else 0xBF⟩
  else .invalid

/-- The unfinished character after one more of its bytes. -/
def Unfinished.add (u : Unfinished) (b : UInt8) : Unfinished :=
  { u with
    seen := u.seen + 1
    missing := u.missing - 1
    bits := 64 * u.bits + (b.toNat - 0x80)
    low := 0x80
    high := 0xBF }

/-- Whether the byte after the unfinished character makes a surrogate of it. -/
def Unfinished.isSurrogateWith (u : Unfinished) (b : UInt8) : Bool :=
  u.first == 0xED && u.seen == 1 && 0xA0 ≤ b && b ≤ 0xBF

/-- The number of bytes in a block; only the last block may have fewer. -/
def blockSize : Nat := 8192

/-- A place in a block: the bytes carried over from the block before, and the bytes of the block
itself before the place. -/
structure Place where
  carried : Nat := 0
  passed : Nat := 0
deriving DecidableEq

/-- The number of bytes at hand before the place. -/
def Place.position (place : Place) : Nat :=
  place.carried + place.passed

/-- Whether the next byte is the last of its block, given the bytes after it. -/
def Place.isLast (place : Place) (rest : List UInt8) : Bool :=
  rest.isEmpty || place.passed + 1 == blockSize

/-- The place after the next byte, where a character has `unfinished` bytes so far. These are
carried over if the block ends there. -/
def Place.next (place : Place) (unfinished : Nat) : Place :=
  if place.passed + 1 < blockSize then { place with passed := place.passed + 1 }
  else { carried := unfinished }

/-- Decodes the bytes from a place on. The end of the bytes is found after the last block, when only
a sequence that it cuts short is at hand; so is a surrogate that a block cuts short. -/
def decodeFrom : Option Unfinished → Place → List UInt8 → Except Fault (List Char)
  | none, _, [] => .ok []
  | some u, _, [] => .error ⟨u.first, u.seen, 0, .unexpectedEnd⟩
  | none, place, b :: rest =>
    match start b with
    | .char c => (decodeFrom none (place.next 0) rest).map (c :: ·)
    | .lead u => decodeFrom (some u) (place.next u.seen) rest
    | .invalid => .error ⟨b, 1, place.position, .invalidStart⟩
  | some u, place, b :: rest =>
    if u.low ≤ b && b ≤ u.high then
      let longer := u.add b
      if u.missing = 1 then
        (decodeFrom none (place.next 0) rest).map (Char.ofNat longer.bits :: ·)
      else decodeFrom (some longer) (place.next longer.seen) rest
    else if u.isSurrogateWith b && place.isLast rest then
      .error ⟨u.first, u.seen, 0, .invalidContinuation⟩
    else .error ⟨u.first, u.seen, place.position - u.seen, .invalidContinuation⟩

/-- The characters that the bytes encode. -/
def decode (bytes : List UInt8) : Except Fault (List Char) :=
  decodeFrom none {} bytes

/-- The wording of a reason. -/
def Reason.message : Reason → String
  | .invalidStart => "invalid start byte"
  | .invalidContinuation => "invalid continuation byte"
  | .unexpectedEnd => "unexpected end of data"

/-- The wording of a fault: a single byte is named, several bytes are given by their places. -/
def Fault.message (fault : Fault) : String :=
  let place :=
    if fault.length = 1 then
      "byte 0x" ++ String.ofList (hex 2 fault.first.toNat) ++ " in position " ++
        toString fault.position
    else
      "bytes in position " ++ toString fault.position ++ "-" ++
        toString (fault.position + fault.length - 1)
  "'utf-8' codec can't decode " ++ place ++ ": " ++ fault.reason.message

end LineControl.Text.Utf8

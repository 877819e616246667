import LineControl.Number.Basic

/-!
# Clocks

To wait is to ask a clock, and the clock may refuse. The clock of a system counts nanoseconds in a
signed word of 64 bits, which holds about 292 years of them. It takes no time below zero, none that
does not fit into the word, and nothing that is no number. The moment at which the time is over must
fit as well, and that depends on how long the system is up.

Decimal seconds are multiplied in double precision before they are compared with the word, so the
bound is that of the rounded product. Whole seconds are multiplied exactly.
-/

set_option autoImplicit false

namespace LineControl

/-- Why a clock does not wait. -/
inductive ClockFault where
  /-- The time is below zero. -/
  | negative
  /-- The time is no number. -/
  | notANumber
  /-- The whole seconds do not fit into the word of the clock. -/
  | tooLong
  /-- The decimal seconds do not fit into the word of the clock. -/
  | outOfRange
  /-- The time fits, but the moment at which it is over does not. -/
  | endsTooLate
deriving DecidableEq

/-- The wording of a fault. -/
def ClockFault.message : ClockFault → String
  | .negative => "sleep length must be non-negative"
  | .notANumber => "Invalid value NaN (not a number)"
  | .tooLong => "timestamp too large to convert to C _PyTime_t"
  | .outOfRange => "timestamp out of range for platform time_t"
  | .endsTooLate => "[Errno 22] Invalid argument"

/-- A clock: whether it waits for so many seconds. -/
abbrev Clock := Number → Except ClockFault Unit

namespace Clock

/-- The clock that waits for any time. -/
def patient : Clock :=
  fun _ => .ok ()

/-- The bound of a signed word of 64 bits: `2 ^ 63`. -/
def wordBound : Nat := 0x8000000000000000

/-- The nanoseconds of a second. -/
def perSecond : Nat := 1000000000

/-- The nanoseconds with the given sign, if they fit into the word and are a time. The word also
holds `-2 ^ 63`, so it is found out to be below zero and not to be too long. -/
def accept (negative : Bool) (nanoseconds : Nat) (overflow : ClockFault) :
    Except ClockFault Nat :=
  if negative then
    if wordBound < nanoseconds then .error overflow
    else if nanoseconds = 0 then .ok 0
    else .error .negative
  else if wordBound ≤ nanoseconds then .error overflow
  else .ok nanoseconds

/-- The nanoseconds of so many seconds. A part of a nanosecond counts as a whole one. -/
def nanoseconds : Number → Except ClockFault Nat
  | .int n => accept (n < 0) (n.natAbs * perSecond) .tooLong
  | .real .nan => .error .notANumber
  | .real (.infinite _) => .error .outOfRange
  | .real (.finite negative m e) =>
    match Binary64.ofRatio negative (Binary64.scaleUp 2 (m * perSecond) e)
      (Binary64.scaleUp 2 1 (-e)) with
    | .finite _ m e =>
      let den := Binary64.scaleUp 2 1 (-e)
      accept negative ((Binary64.scaleUp 2 m e + (den - 1)) / den) .outOfRange
    | _ => .error .outOfRange

/-- The nanoseconds to wait on a system that is up for `now` nanoseconds. -/
def wait (now : Nat) (seconds : Number) : Except ClockFault Nat :=
  match nanoseconds seconds with
  | .ok time => if wordBound ≤ now + time then .error .endsTooLate else .ok time
  | .error fault => .error fault

/-- The clock of a system that is up for `now` nanoseconds. -/
def system (now : Nat) : Clock :=
  fun seconds => (wait now seconds).map fun _ => ()

end Clock

end LineControl

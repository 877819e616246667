import LineControl.Proofs.Magnitude
import LineControl.Proofs.Steering
import Mathlib.Order.Nat

/-!
# What `COUNT` counts

A `COUNT` polls the box: it sends the byte in the latch, looks at one input in the answer, and does
so again until the input has changed often enough. The first answer is only compared with the
second, so one is read even if nothing is to be counted. This file says how many answers are taken
from a stream of bytes (`count_line_counts_changes`): those of the shortest prefix, not empty, in
which the input has changed as often as the value asks for.

A stream goes on for ever, and a port on the bench is a finite tape. So a stream is looked at as far
as it has arrived: the port takes and answers so many bytes, and refuses the next. A line that never
ends is one that is refused however much has arrived.

## The value

The value is a number and need not be a whole one. The line goes on when the value does not exceed
the changes any more, so what it asks for is the least natural number that it does not exceed: two
and a half asks for three changes, a negative number for none, and so does what is no number at all,
since it exceeds nothing. For the positive infinity there is no such number. Changes grow by at most
one with each answer, hence no number of them is missed (`exists_changes_eq`).

## What is left out

The statement is about conditions that ask for one input to be on. With both inputs in the
condition, or with one that is to be off, a line that has anything to count stops with a fault after
its second reading. And the readings are bounded, as they are in every run: the line may read as
often as bytes can be sent, which is no restriction by `perform_resume_readings`.
-/

set_option autoImplicit false

namespace LineControl

/-! ## 1. Streams of answers -/

/-- The session at a port that takes `count` bytes more and answers them with those of the stream,
from number `start` on. -/
def Session.hearing (session : Session) (stream : Nat → UInt8) (start count : Nat) : Session :=
  { session with
    bench := { session.bench with
      wire :=
        ⟨List.replicate count .taken, (List.range' start count).map fun i => .byte (stream i)⟩ } }

/-- The events of `count` readings with the byte in the latch. -/
def polls (latch : UInt8) (stream : Nat → UInt8) (start count : Nat) : List Event :=
  (List.range' start count).flatMap fun i => [.wrote (some latch) true, .read (some (stream i))]

/-- How often the bit differs between neighbours among the first `count` bytes of the stream. -/
def changes (bit : Nat) (stream : Nat → UInt8) (count : Nat) : Nat :=
  (List.range (count - 1)).countP fun i =>
    (stream i).toNat.testBit bit != (stream (i + 1)).toNat.testBit bit

theorem polls_append (latch : UInt8) (stream : Nat → UInt8) (start first second : Nat) :
    polls latch stream start first ++ polls latch stream (start + first) second =
      polls latch stream start (first + second) := by
  rw [polls, polls, polls, ← List.flatMap_append, List.range'_append_1]

/-- Whatever is read, the bytes sent are the same. -/
theorem unread_polls (latch : UInt8) (stream other : Nat → UInt8) (start count : Nat) :
    (polls latch other start count).map Event.unread =
      (polls latch stream start count).map Event.unread := by
  simp only [polls, List.map_flatMap]
  rfl

theorem changes_one (bit : Nat) (stream : Nat → UInt8) : changes bit stream 1 = 0 := rfl

/-- Changes of a bit do not depend on the other bits. -/
theorem changes_congr {bit : Nat} {stream other : Nat → UInt8}
    (h : ∀ i, (other i).toNat.testBit bit = (stream i).toNat.testBit bit) :
    changes bit other = changes bit stream := by
  funext count
  simp only [changes, h]

/-- Each byte more makes one change more, or none. -/
theorem changes_succ (bit : Nat) (stream : Nat → UInt8) (k : Nat) :
    changes bit stream (k + 1 + 1) =
      if (stream (k + 1)).toNat.testBit bit == (stream k).toNat.testBit bit then
        changes bit stream (k + 1)
      else changes bit stream (k + 1) + 1 := by
  simp only [changes, Nat.add_sub_cancel, List.range_succ, List.countP_append,
    List.countP_singleton]
  cases (stream k).toNat.testBit bit <;> cases (stream (k + 1)).toNat.testBit bit <;> rfl

theorem changes_le_succ (bit : Nat) (stream : Nat → UInt8) (k : Nat) :
    changes bit stream (k + 1) ≤ changes bit stream (k + 1 + 1) := by
  rw [changes_succ]
  split <;> omega

theorem changes_mono (bit : Nat) (stream : Nat → UInt8) {j k : Nat} (hj : 0 < j) (hle : j ≤ k) :
    changes bit stream j ≤ changes bit stream k := by
  induction k, hle using Nat.le_induction with
  | base => exact Nat.le_refl _
  | succ k hle ih =>
    obtain ⟨k, rfl⟩ : ∃ k', k = k' + 1 := ⟨k - 1, by omega⟩
    exact Nat.le_trans ih (changes_le_succ bit stream k)

/-- No number of changes is left out on the way to a larger one. -/
theorem exists_changes_eq (bit : Nat) (stream : Nat → UInt8) {m j : Nat}
    (hle : m ≤ changes bit stream (j + 1)) : ∃ k, k ≤ j ∧ changes bit stream (k + 1) = m := by
  induction j with
  | zero => exact ⟨0, Nat.le_refl 0, (Nat.le_zero.mp hle).symm⟩
  | succ j ih =>
    by_cases hj : m ≤ changes bit stream (j + 1)
    · obtain ⟨k, hk, hm⟩ := ih hj
      exact ⟨k, Nat.le_succ_of_le hk, hm⟩
    · refine ⟨j + 1, Nat.le_refl _, ?_⟩
      have hstep := changes_succ bit stream j
      split at hstep <;> omega

/-! ## 2. Polling

The loop of a `COUNT` is followed answer by answer. `perform_awaitChanges_succ` is one turn of it,
and `perform_awaitChanges_turns` some of them; how the loop ends is up to what is left of the
stream. -/

/-- The condition asks for the input in the bit to be on, and for nothing else. -/
inductive Condition.Selects : Condition → Nat → Prop where
  | in7 : Selects ⟨some true, none⟩ 7
  | in6 : Selects ⟨none, some true⟩ 6

theorem Condition.Selects.watched {condition : Condition} {bit : Nat} (h : condition.Selects bit) :
    ∃ watched, condition.watched? = some watched ∧
      ∀ b : UInt8, watched (.ofByte (some b)) = b.toNat.testBit bit := by
  cases h with
  | in7 => exact ⟨Inputs.in7, rfl, fun _ => rfl⟩
  | in6 => exact ⟨Inputs.in6, rfl, fun _ => rfl⟩

/-- With changes enough, nothing more is read. -/
theorem Session.perform_awaitChanges_enough (session : Session) {condition : Condition}
    {limit : Number} {found : Nat} (henough : limit.isAbove found = false) (readings : Nat)
    (last : Inputs) :
    session.perform (Control.awaitChanges condition limit readings last found) =
      ⟨.ok (), [], "", session⟩ := by
  cases readings <;> simp [Control.awaitChanges, henough, perform_pure]

/-- The session is connected and has the byte in its latch. -/
structure Session.Polls (session : Session) (latch : UInt8) : Prop where
  connected : session.controller.connected = true
  latched : session.controller.latch = some latch

namespace Session.Polls

variable {session : Session} {latch : UInt8} {condition : Condition} {bit : Nat} {limit : Number}

/-- A reading sends the byte of the latch and takes the next answer of the stream. -/
theorem perform_readInputs (h : session.Polls latch) (stream : Nat → UInt8) (start count : Nat) :
    (session.hearing stream start (count + 1)).perform Control.readInputs =
      ⟨.ok (.ofByte (some (stream start))),
        [.wrote (some latch) true, .read (some (stream start))], "",
        session.hearing stream (start + 1) count⟩ := by
  obtain ⟨⟨program, connected, latched⟩, ⟨files, socket, wire, clock⟩⟩ := session
  obtain ⟨rfl, rfl⟩ : connected = true ∧ latched = some latch := ⟨h.connected, h.latched⟩
  rfl

theorem perform_readInputs_refused (h : session.Polls latch) (stream : Nat → UInt8) (start : Nat) :
    (session.hearing stream start 0).perform Control.readInputs =
      ⟨.error .writeRefused, [], "", session.hearing stream start 0⟩ := by
  obtain ⟨⟨program, connected, latched⟩, ⟨files, socket, wire, clock⟩⟩ := session
  obtain ⟨rfl, rfl⟩ : connected = true ∧ latched = some latch := ⟨h.connected, h.latched⟩
  rfl

/-- One turn of the loop: one answer more is compared with the one before it. -/
theorem perform_awaitChanges_succ (h : session.Polls latch) (hselects : condition.Selects bit)
    (stream : Nat → UInt8) {k : Nat} (habove : limit.isAbove (changes bit stream (k + 1)) = true)
    (count readings : Nat) :
    (session.hearing stream (k + 1) (count + 1)).perform
        (Control.awaitChanges condition limit (readings + 1) (.ofByte (some (stream k)))
          (changes bit stream (k + 1))) =
      ((session.hearing stream (k + 1 + 1) count).perform
        (Control.awaitChanges condition limit readings (.ofByte (some (stream (k + 1))))
          (changes bit stream (k + 1 + 1)))).after (polls latch stream (k + 1) 1) "" := by
  obtain ⟨watched, hwatched, hbit⟩ := hselects.watched
  rw [Control.awaitChanges, if_pos habove, perform_bind, h.perform_readInputs, Report.andThen]
  simp only [hwatched, hbit, ← changes_succ]
  rfl

/-- Some turns of the loop, as long as there are not changes enough. -/
theorem perform_awaitChanges_turns (h : session.Polls latch) (hselects : condition.Selects bit)
    (stream : Nat → UInt8) (turns : Nat) {k : Nat}
    (habove : ∀ j < turns, limit.isAbove (changes bit stream (k + j + 1)) = true)
    (count readings : Nat) :
    (session.hearing stream (k + 1) (count + turns)).perform
        (Control.awaitChanges condition limit (readings + turns) (.ofByte (some (stream k)))
          (changes bit stream (k + 1))) =
      ((session.hearing stream (k + turns + 1) count).perform
        (Control.awaitChanges condition limit readings (.ofByte (some (stream (k + turns))))
          (changes bit stream (k + turns + 1)))).after (polls latch stream (k + 1) turns) "" := by
  induction turns generalizing k with
  | zero => rfl
  | succ turns ih =>
    have hlater : ∀ j < turns, limit.isAbove (changes bit stream (k + 1 + j + 1)) = true := by
      intro j hj
      rw [Nat.add_right_comm k 1 j]
      exact habove (j + 1) (Nat.succ_lt_succ hj)
    rw [← Nat.add_assoc, ← Nat.add_assoc,
      h.perform_awaitChanges_succ hselects stream (habove 0 (Nat.succ_pos _)), ih hlater,
      Nat.add_right_comm k 1 turns, ← Nat.add_assoc, Nat.add_comm turns 1, ← polls_append]
    simp [Report.after]

theorem perform_awaitChanges_refused (h : session.Polls latch) (stream : Nat → UInt8)
    {start found : Nat} (habove : limit.isAbove found = true) (readings : Nat) (last : Inputs) :
    (session.hearing stream start 0).perform
        (Control.awaitChanges condition limit (readings + 1) last found) =
      ⟨.error .writeRefused, [], "", session.hearing stream start 0⟩ := by
  rw [Control.awaitChanges, if_pos habove, perform_bind, h.perform_readInputs_refused]
  rfl

end Session.Polls

/-! ## 3. The line -/

namespace Program

variable {program : Program} {c : Cursor} {session : Session} {latch : UInt8}
  {condition : Condition} {bit : Nat} {limit : Number} {readings : Nat}

/-- The line reads one answer and waits for changes from there on, for some turns at least. -/
theorem perform_execute_count (hline : program[c.line]? = some (.count condition (some limit)))
    (hselects : condition.Selects bit) (h : session.Polls latch) (stream : Nat → UInt8)
    (turns : Nat) (habove : ∀ j < turns, limit.isAbove (changes bit stream (j + 1)) = true)
    (count readings : Nat) :
    (session.hearing stream 0 (count + turns + 1)).perform (program.execute (readings + turns) c) =
      (((session.hearing stream (turns + 1) count).perform
        (Control.awaitChanges condition limit readings (.ofByte (some (stream turns)))
          (changes bit stream (turns + 1)))).after
            (polls latch stream 0 (turns + 1)) "").andThen fun _ => pure c.next := by
  have habove' : ∀ j < turns, limit.isAbove (changes bit stream (0 + j + 1)) = true := by
    simpa using habove
  have hturns := h.perform_awaitChanges_turns hselects stream turns habove' count readings
  simp only [Nat.zero_add, changes_one] at hturns
  -- the first reading is made before the waiting begins
  have hcount : (session.hearing stream 0 (count + turns + 1)).perform
      (Control.countChanges (readings + turns) condition (some limit)) =
        ((session.hearing stream (turns + 1) count).perform
          (Control.awaitChanges condition limit readings (.ofByte (some (stream turns)))
            (changes bit stream (turns + 1)))).after (polls latch stream 0 (turns + 1)) "" := by
    unfold Control.countChanges
    rw [Session.perform_bind, h.perform_readInputs, Report.andThen]
    simp only [hturns]
    rw [Nat.add_comm turns 1, ← polls_append]
    simp [Report.after, polls]
  unfold execute
  rw [hline]
  simp only [Session.perform_bind, hcount]

/-- The line goes on once there are changes enough. -/
theorem perform_execute_count_done (hline : program[c.line]? = some (.count condition (some limit)))
    (hselects : condition.Selects bit) (h : session.Polls latch) (stream : Nat → UInt8)
    {k arrived : Nat} (habove : ∀ j < k, limit.isAbove (changes bit stream (j + 1)) = true)
    (henough : limit.isAbove (changes bit stream (k + 1)) = false)
    (harrived : k + 1 ≤ arrived) (hreadings : arrived ≤ readings) :
    (session.hearing stream 0 arrived).perform (program.execute readings c) =
      ⟨.ok c.next, polls latch stream 0 (k + 1), "",
        session.hearing stream (k + 1) (arrived - (k + 1))⟩ := by
  obtain ⟨count, rfl⟩ := Nat.exists_eq_add_of_le' harrived
  obtain ⟨readings, rfl⟩ : ∃ r, readings = r + k := ⟨readings - k, by omega⟩
  rw [← Nat.add_assoc, perform_execute_count hline hselects h stream k habove,
    Session.perform_awaitChanges_enough _ henough, Nat.add_assoc, Nat.add_sub_cancel]
  simp [Report.after, Report.andThen, Session.perform_pure]

/-- The line reads all that arrives and asks for more, as long as there are not changes enough. -/
theorem perform_execute_count_refused
    (hline : program[c.line]? = some (.count condition (some limit)))
    (hselects : condition.Selects bit) (h : session.Polls latch) (stream : Nat → UInt8)
    {arrived : Nat} (habove : ∀ j < arrived, limit.isAbove (changes bit stream (j + 1)) = true)
    (hreadings : arrived ≤ readings) :
    (session.hearing stream 0 arrived).perform (program.execute readings c) =
      ⟨.error .writeRefused, polls latch stream 0 arrived, "",
        session.hearing stream arrived 0⟩ := by
  cases arrived with
  | zero =>
    unfold execute
    rw [hline]
    simp only [Control.countChanges, Session.perform_bind, h.perform_readInputs_refused]
    rfl
  | succ arrived =>
    obtain ⟨readings, rfl⟩ : ∃ r, readings = r + 1 + arrived := ⟨readings - 1 - arrived, by omega⟩
    have hbefore : ∀ j < arrived, limit.isAbove (changes bit stream (j + 1)) = true :=
      fun j hj => habove j (Nat.lt_succ_of_lt hj)
    have hturns := perform_execute_count hline hselects h stream arrived hbefore 0 (readings + 1)
    rw [Nat.zero_add] at hturns
    rw [hturns, h.perform_awaitChanges_refused stream (habove arrived (Nat.lt_succ_self _))]
    simp [Report.after, Report.andThen]

/-- Before the least number that the value does not exceed is reached, the value exceeds the
changes. -/
theorem exceeds_changes {stream : Nat → UInt8} {m k : Nat} (hm : IsLeast {m | ¬ limit.Exceeds m} m)
    (hk : IsLeast {k | 0 < k ∧ changes bit stream k = m} k) {j : Nat} (hj : 0 < j) (hlt : j < k) :
    limit.Exceeds (changes bit stream j) := by
  by_contra hnot
  have hle : changes bit stream j ≤ m := by
    rw [← hk.1.2]
    exact changes_mono bit stream hj (Nat.le_of_lt hlt)
  have heq : changes bit stream j = m := Nat.le_antisymm hle (hm.2 hnot)
  exact absurd (hk.2 ⟨hj, heq⟩) (Nat.not_le.mpr hlt)

/-- If the least number that the value does not exceed is not reached, the value exceeds the
changes. -/
theorem exceeds_changes_of_ne {stream : Nat → UInt8} {arrived : Nat}
    (hne : ∀ m k, IsLeast {m | ¬ limit.Exceeds m} m → 0 < k → k ≤ arrived →
      changes bit stream k ≠ m)
    {j : Nat} (hj : j < arrived) : limit.Exceeds (changes bit stream (j + 1)) := by
  by_contra hnot
  have hleast := Nat.isLeast_find (p := (¬ limit.Exceeds ·)) ⟨_, hnot⟩
  obtain ⟨k, hk, heq⟩ := exists_changes_eq bit stream (hleast.2 hnot)
  exact hne _ (k + 1) hleast (Nat.succ_pos k) (by omega) heq

/-- **A `COUNT` counts the changes of one input.** The line asks for one input to be on, and does
not care about the other; a byte is in the latch, and a stream of answers has arrived up to some
point, no further than the line may read. Let `m` be the least number that the value does not
exceed.

If there are prefixes with `m` changes of the input, not empty, and the shortest has arrived, then
the line reads just this prefix, with the byte of the latch sent before each answer, and goes on
below. If none has arrived, or there is no such `m`, the line reads all that has arrived in the same
way and asks for more. What stands in the other bits of the answers makes no difference. -/
theorem count_line_counts_changes (hline : program[c.line]? = some (.count condition (some limit)))
    (hselects : condition.Selects bit) (hconnected : session.controller.connected = true)
    (hlatch : session.controller.latch = some latch) (stream : Nat → UInt8) {arrived : Nat}
    (hreadings : arrived ≤ readings) :
    let reported (stream : Nat → UInt8) :=
      (session.hearing stream 0 arrived).perform (program.execute readings c)
    (∀ m k, IsLeast {m | ¬ limit.Exceeds m} m → IsLeast {k | 0 < k ∧ changes bit stream k = m} k →
      k ≤ arrived → reported stream =
        ⟨.ok c.next, polls latch stream 0 k, "", session.hearing stream k (arrived - k)⟩) ∧
    ((∀ m k, IsLeast {m | ¬ limit.Exceeds m} m → 0 < k → k ≤ arrived → changes bit stream k ≠ m) →
      reported stream =
        ⟨.error .writeRefused, polls latch stream 0 arrived, "",
          session.hearing stream arrived 0⟩) ∧
    ∀ other : Nat → UInt8, (∀ i, (other i).toNat.testBit bit = (stream i).toNat.testBit bit) →
      (reported other).result = (reported stream).result ∧
      (reported other).events.map Event.unread = (reported stream).events.map Event.unread := by
  intro reported
  have hpolls : session.Polls latch := ⟨hconnected, hlatch⟩
  have hdone : ∀ stream m k, IsLeast {m | ¬ limit.Exceeds m} m →
      IsLeast {k | 0 < k ∧ changes bit stream k = m} k → k ≤ arrived → reported stream =
        ⟨.ok c.next, polls latch stream 0 k, "", session.hearing stream k (arrived - k)⟩ := by
    intro stream m k hm hk harrived
    obtain ⟨k, rfl⟩ : ∃ k', k = k' + 1 := Nat.exists_eq_add_one.mpr hk.1.1
    refine perform_execute_count_done hline hselects hpolls stream ?_ ?_ harrived hreadings
    · intro j hj
      rw [Number.isAbove_iff]
      exact exceeds_changes hm hk (Nat.succ_pos j) (Nat.succ_lt_succ hj)
    · rw [hk.1.2, ← Bool.not_eq_true, Number.isAbove_iff]
      exact hm.1
  have hmore : ∀ stream, (∀ m k, IsLeast {m | ¬ limit.Exceeds m} m → 0 < k → k ≤ arrived →
      changes bit stream k ≠ m) → reported stream =
        ⟨.error .writeRefused, polls latch stream 0 arrived, "",
          session.hearing stream arrived 0⟩ := by
    intro stream hne
    refine perform_execute_count_refused hline hselects hpolls stream ?_ hreadings
    intro j hj
    rw [Number.isAbove_iff]
    exact exceeds_changes_of_ne hne hj
  -- which of the two it is depends on the changes alone, and these are the same in both streams
  refine ⟨hdone stream, hmore stream, fun other hother => ?_⟩
  have hchanges : changes bit other = changes bit stream := changes_congr hother
  by_cases hne : ∀ m k, IsLeast {m | ¬ limit.Exceeds m} m → 0 < k → k ≤ arrived →
      changes bit stream k ≠ m
  · rw [hmore stream hne, hmore other (by rwa [hchanges])]
    exact ⟨rfl, unread_polls latch stream other 0 arrived⟩
  · push Not at hne
    obtain ⟨m, k', hm, hk', harrived', heq⟩ := hne
    obtain ⟨k, hk⟩ : ∃ k, IsLeast {k | 0 < k ∧ changes bit stream k = m} k :=
      ⟨_, Nat.isLeast_find ⟨k', hk', heq⟩⟩
    have harrived : k ≤ arrived := Nat.le_trans (hk.2 ⟨hk', heq⟩) harrived'
    rw [hdone stream m k hm hk harrived, hdone other m k hm (by rwa [hchanges]) harrived]
    exact ⟨rfl, unread_polls latch stream other 0 k⟩

/-- More than two changes of input 6 are waited for. -/
def awaitChange : Program :=
  [.count ⟨none, some true⟩ (some 2.5)]

/-- Input 6 is off for two answers, on for two, and so on; input 7 changes with every answer. -/
def blinking (i : Nat) : UInt8 :=
  [0x00, 0x80, 0x40, 0xC0].getD (i % 4) 0

/-- Three changes come with the seventh answer. -/
theorem awaitChange_on_blinking :
    let session : Session :=
      { controller := { program := awaitChange, connected := true, latch := some 5 } }
    let reported (arrived : Nat) :=
      (session.hearing blinking 0 arrived).perform (awaitChange.execute 9 {})
    reported 9 = ⟨.ok (Cursor.next {}), polls 5 blinking 0 7, "", session.hearing blinking 7 2⟩ ∧
    reported 6 =
      ⟨.error .writeRefused, polls 5 blinking 0 6, "", session.hearing blinking 6 0⟩ := by
  intro session reported
  have hline : awaitChange[({} : Cursor).line]? = some (.count ⟨none, some true⟩ (some 2.5)) := rfl
  have hm : IsLeast {m | ¬ Number.Exceeds 2.5 m} 3 := by decide +kernel
  have hk : IsLeast {k | 0 < k ∧ changes 6 blinking k = 3} 7 := by decide +kernel
  constructor
  · refine (count_line_counts_changes hline .in6 rfl rfl blinking (by decide)).1 3 7 hm hk ?_
    decide
  · refine (count_line_counts_changes hline .in6 rfl rfl blinking (by decide)).2.1 ?_
    intro m k hm' hk' hle heq
    rw [hm'.unique hm] at heq
    exact absurd (hk.2 ⟨hk', heq⟩) (by omega)

end Program

end LineControl

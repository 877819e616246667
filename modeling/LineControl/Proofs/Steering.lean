import LineControl.Proofs.Transcript
import LineControl.Proofs.Turns

/-!
# What steers a program

The box answers every byte with one byte, and in the answer stand the two inputs and six bits more.
An answer to a byte that sets the outputs is thrown away; of an answer to a byte that asks for the
inputs, two bits are used. So two runs go the same way if the answers agree in these bits
(`run_steered_by_inputs`). Nothing is asked of the other bits, nor of the answers that are thrown
away, but that the port refuses in the one run where it refuses in the other.

Which reads ask for the inputs is not known before the run. It is read off the transcript of the
first run (`readPurposes`), and the second run turns out to make the same reads.

## The property of an action

`Steered x` compares `x` on two sessions that differ in the answers to come. The answers have to
agree at the places where the first run asks for the inputs, and the conclusion has to say how many
answers were used up, or else the property would not pass on to sequences. The byte before an
action may decide what its first read is for, so the purpose of that byte is a parameter
(`SteeredAfter`); it matters in one place, between sending a byte and asking for the answer.

The one action that looks into an answer is `readInputs`. `SteeredAfter.receive_bind` says what it
is allowed to do with it: go on the same way for any two bytes that show the same inputs, and for
any two bytes at all if the inputs were not asked for.

## What is left out

The answers to bytes sent are the same in both runs. A port that takes a byte in one run and not in
the other leads to different runs, whatever the inputs. So do two clocks, and the two sessions have
the same one.
-/

set_option autoImplicit false

namespace LineControl

/-! ## 1. Tapes and purposes

The tape of a port is given out from the front, so the `k`-th read of a run gets the `k`-th answer,
as long as no port is opened. -/

/-- The answers that are to come when bytes are asked for. -/
def Session.reads (session : Session) : List ReadAnswer :=
  session.bench.wire.reads

/-- The session with other answers to come when bytes are asked for. -/
def Session.withReads (session : Session) (reads : List ReadAnswer) : Session :=
  { session with
    bench := { session.bench with wire := { session.bench.wire with reads := reads } } }

/-- The inputs that an answer shows. Where no byte comes, they show as off. -/
def ReadAnswer.inputs : ReadAnswer → Inputs
  | .byte b => .ofByte (some b)
  | .nothing | .refused => .ofByte none

/-- The byte of an answer as a number. No byte counts as zero. -/
def ReadAnswer.code : ReadAnswer → Nat
  | .byte b => b.toNat
  | .nothing | .refused => 0

/-- Two answers show the same inputs exactly if they agree in bits 7 and 6. -/
theorem ReadAnswer.inputs_eq_iff {a b : ReadAnswer} :
    a.inputs = b.inputs ↔
      a.code.testBit 7 = b.code.testBit 7 ∧ a.code.testBit 6 = b.code.testBit 6 := by
  have hbits (answer : ReadAnswer) :
      answer.inputs = ⟨answer.code.testBit 7, answer.code.testBit 6⟩ := by
    cases answer <;> rfl
  rw [hbits a, hbits b, Inputs.mk.injEq]

/-- The event without the byte that was read. -/
def Event.unread : Event → Event
  | .read _ => .read none
  | e => e

/-- What a byte was sent for. -/
def Exchange.purpose? : Exchange → Option Purpose
  | ⟨.write purpose _, _⟩ => some purpose
  | _ => none

/-- Whether a byte is asked for. -/
def Exchange.isRead : Exchange → Bool
  | ⟨.read, _⟩ => true
  | _ => false

/-- For each read, what the byte before it was sent for. Before the exchanges, a byte was sent for
`last`. -/
def readPurposes (last : Purpose) : List Exchange → List Purpose
  | [] => []
  | e :: later =>
    if e.isRead then last :: readPurposes last later
    else readPurposes (e.purpose?.getD last) later

/-- What the last byte was sent for. -/
def lastPurpose (last : Purpose) (exchanges : List Exchange) : Purpose :=
  exchanges.foldl (fun last e => e.purpose?.getD last) last

/-- The purposes in two parts, where the second part goes on with the last purpose of the first. -/
theorem readPurposes_append (last : Purpose) (first second : List Exchange) :
    readPurposes last (first ++ second) =
      readPurposes last first ++ readPurposes (lastPurpose last first) second := by
  induction first generalizing last with
  | nil => rfl
  | cons e first ih =>
    have hread : e.isRead = true → e.purpose? = none := by
      obtain ⟨request, answer⟩ := e
      cases request <;> simp [Exchange.isRead, Exchange.purpose?]
    simp only [List.cons_append, readPurposes, lastPurpose, List.foldl_cons]
    split
    · rename_i h
      rw [hread h, Option.getD_none, List.cons_append, ih]
      rfl
    · rw [ih]
      rfl

/-- The two tapes refuse at the same places, and where the purpose is to learn the inputs, the
answers show the same inputs. -/
structure SteerAlike (purposes : List Purpose) (first second : List ReadAnswer) : Prop where
  refusals : ∀ k, first.getD k .refused = .refused ↔ second.getD k .refused = .refused
  inputs : ∀ k, purposes[k]? = some .inputs →
    (first.getD k .refused).inputs = (second.getD k .refused).inputs

namespace SteerAlike

variable {purposes later : List Purpose} {first second : List ReadAnswer}

theorem left (h : SteerAlike (purposes ++ later) first second) :
    SteerAlike purposes first second where
  refusals := h.refusals
  inputs k hk := by
    apply h.inputs k
    have hlt : k < purposes.length := (List.getElem?_eq_some_iff.mp hk).1
    rw [List.getElem?_append_left hlt, hk]

/-- Once some reads are made, the rest of the tapes agree for the rest of the reads. -/
theorem right (h : SteerAlike (purposes ++ later) first second) :
    SteerAlike later (first.drop purposes.length) (second.drop purposes.length) where
  refusals k := by simpa [List.getD_eq_getElem?_getD] using h.refusals (purposes.length + k)
  inputs k hk := by
    have hlater : (purposes ++ later)[purposes.length + k]? = some .inputs := by
      rw [List.getElem?_append_right (Nat.le_add_right _ _), Nat.add_sub_cancel_left, hk]
    simpa [List.getD_eq_getElem?_getD] using h.inputs (purposes.length + k) hlater

end SteerAlike

/-! ## 2. Actions that are steered by the inputs

The purposes are those of the first run. That the second run makes the same reads is part of the
conclusion and, in a sequence, what makes the second part applicable. -/

/-- The reports are the same but for the bytes that were read, and `left` is what the second leaves
on the tape. -/
structure Report.SameButReads {α : Type} (own other : Report α) (left : List ReadAnswer) :
    Prop where
  result : other.result = own.result
  events : other.events.map Event.unread = own.events.map Event.unread
  output : other.output = own.output
  session : other.session = own.session.withReads left

/-- On tapes that agree on the inputs, the action does the same and makes the same reads. -/
def SteeredAfter {α : Type} (last : Purpose) (x : ControlM α) : Prop :=
  ∀ (session : Session) (second : List ReadAnswer),
    SteerAlike (readPurposes last (session.transcript x)) session.reads second →
    let count := (readPurposes last (session.transcript x)).length
    (session.perform x).session.reads = session.reads.drop count ∧
      (session.perform x).SameButReads ((session.withReads second).perform x) (second.drop count)

/-- The action is steered by the inputs, whatever the byte before it was sent for. -/
def Steered {α : Type} (x : ControlM α) : Prop :=
  ∀ last, SteeredAfter last x

/-- In a sequence, the second part goes on with what is left of both tapes. -/
theorem SteeredAfter.bind {α β : Type} {last : Purpose} {x : ControlM α} {f : α → ControlM β}
    (hx : SteeredAfter last x)
    (hf : ∀ (session : Session) (a : α), (session.perform x).result = .ok a →
      SteeredAfter (lastPurpose last (session.transcript x)) (f a)) :
    SteeredAfter last (x >>= f) := by
  intro session second h
  rw [Session.transcript_bind, readPurposes_append] at h ⊢
  obtain ⟨hreads, hsame⟩ := hx session second h.left
  rw [Session.perform_bind, Session.perform_bind, Report.andThen, Report.andThen, hsame.result]
  -- the tapes after the first part are the rests of the tapes, and agree for the rest of the reads
  have hright := h.right
  cases hresult : (session.perform x).result with
  | error fault =>
    simp only [readPurposes, List.append_nil]
    exact ⟨hreads, rfl, hsame.events, hsame.output, hsame.session⟩
  | ok a =>
    rw [hresult, ← hreads] at hright
    obtain ⟨hreads', hsame'⟩ := hf session a hresult _ _ hright
    simp only [List.length_append, ← List.drop_drop]
    rw [hsame.session]
    refine ⟨?_, hsame'.result, ?_, ?_, hsame'.session⟩
    · rw [← hreads]
      exact hreads'
    · simp only [Report.after, List.map_append]
      rw [hsame.events, hsame'.events]
    · simp only [Report.after]
      rw [hsame.output, hsame'.output]

namespace Steered

variable {α β : Type}

theorem pure (a : α) : Steered (Pure.pure a : ControlM α) :=
  fun _ _ _ _ => ⟨rfl, rfl, rfl, rfl, rfl⟩

theorem throw (fault : Fault) : Steered (throw fault : ControlM α) :=
  fun _ _ _ _ => ⟨rfl, rfl, rfl, rfl, rfl⟩

theorem modify (f : Controller → Controller) : Steered (modify f : ControlM Unit) :=
  fun _ _ _ _ => ⟨rfl, rfl, rfl, rfl, rfl⟩

theorem bind {x : ControlM α} {f : α → ControlM β} (hx : Steered x) (hf : ∀ a, Steered (f a)) :
    Steered (x >>= f) :=
  fun last => (hx last).bind fun _ a _ => hf a _

theorem get_bind {f : Controller → ControlM α} (hf : ∀ controller, Steered (f controller)) :
    Steered (get >>= f) :=
  fun last session => hf session.controller last session

end Steered

/-! ## 3. The actions on the box

All requests but two leave the tape alone, and one of these, the opening of a port, is in no run. -/

/-- Whether the request leaves the answers alone that are to come when bytes are asked for. -/
def Request.leavesReads : Request → Bool
  | .openPort _ | .read => false
  | _ => true

namespace Steered

/-- A request that leaves the answers alone is the same on both tapes. -/
theorem request {r : Request} (hr : r.leavesReads = true) : Steered (Control.request r) := by
  intro last session second _
  obtain ⟨controller, ⟨files, socket, ⟨writes, reads⟩, clock⟩⟩ := session
  cases r with
  | openPort name => cases hr
  | read => cases hr
  | write purpose byte =>
    cases writes with
    | nil => exact ⟨rfl, rfl, rfl, rfl, rfl⟩
    | cons answer later => cases answer <;> exact ⟨rfl, rfl, rfl, rfl, rfl⟩
  | _ => exact ⟨rfl, rfl, rfl, rfl, rfl⟩

theorem transmit (purpose : Purpose) (byte : Option UInt8) :
    Steered (Control.transmit purpose byte) := by
  refine get_bind fun controller => ?_
  cases controller.connected with
  | false => exact throw _
  | true =>
    refine bind (request rfl) fun answer => ?_
    cases (answer : WriteAnswer) with
    | refused => exact throw _
    | short => cases byte <;> exact throw _
    | taken =>
      cases byte with
      | none => exact throw _
      | some b => exact pure _

theorem pause (seconds : Number) : Steered (Control.pause seconds) := by
  refine bind (request rfl) fun answer => ?_
  cases (answer : Except ClockFault Unit) with
  | ok _ => exact pure _
  | error fault => exact throw _

theorem outputByte (pattern : Option Int) : Steered (Control.outputByte pattern) :=
  Control.outputByte_cases pure throw pattern

end Steered

/-- How an action goes on with the answer. -/
def ReadAnswer.received : ReadAnswer → Except Fault (Option UInt8)
  | .byte b => .ok (some b)
  | .nothing => .ok none
  | .refused => .error .readRefused

theorem ReadAnswer.received_ok {answer : ReadAnswer} (h : answer ≠ .refused) :
    ∃ b, answer.received = .ok b ∧ answer.inputs = .ofByte b := by
  cases answer with
  | byte b => exact ⟨some b, rfl, rfl⟩
  | nothing => exact ⟨none, rfl, rfl⟩
  | refused => exact absurd rfl h

/-- But for the byte, all reads look alike in the log. -/
theorem Exchange.unread_events {answer : ReadAnswer} (h : answer ≠ .refused) :
    (Exchange.events ⟨.read, answer⟩).map Event.unread = [.read none] := by
  cases answer with
  | byte b => rfl
  | nothing => rfl
  | refused => exact absurd rfl h

namespace Session

variable {β : Type} {f : Option UInt8 → ControlM β}

/-- The answer that comes when a byte is asked for. -/
def nextRead (session : Session) : ReadAnswer :=
  session.reads.getD 0 .refused

theorem perform_receive (session : Session) :
    session.perform Control.receive = ⟨session.nextRead.received,
      Exchange.events ⟨.read, session.nextRead⟩, "", session.withReads (session.reads.drop 1)⟩ := by
  obtain ⟨controller, ⟨files, socket, ⟨writes, reads⟩, clock⟩⟩ := session
  cases reads with
  | nil => rfl
  | cons answer later => cases answer <;> rfl

theorem transcript_receive (session : Session) :
    session.transcript Control.receive = [⟨.read, session.nextRead⟩] := by
  obtain ⟨controller, ⟨files, socket, ⟨writes, reads⟩, clock⟩⟩ := session
  cases reads with
  | nil => rfl
  | cons answer later => cases answer <;> rfl

theorem receive_bind_ok (session : Session) {b : Option UInt8}
    (h : session.nextRead.received = .ok b) :
    session.perform (Control.receive >>= f) =
        ((session.withReads (session.reads.drop 1)).perform (f b)).after
          (Exchange.events ⟨.read, session.nextRead⟩) "" ∧
      session.transcript (Control.receive >>= f) =
        ⟨.read, session.nextRead⟩ ::
          (session.withReads (session.reads.drop 1)).transcript (f b) := by
  rw [perform_bind, transcript_bind, transcript_receive, perform_receive, Report.andThen, h]
  exact ⟨rfl, rfl⟩

theorem receive_bind_refused (session : Session) (h : session.nextRead = .refused) :
    session.perform (Control.receive >>= f) =
        ⟨.error .readRefused, [], "", session.withReads (session.reads.drop 1)⟩ ∧
      session.transcript (Control.receive >>= f) = [⟨.read, ReadAnswer.refused⟩] := by
  rw [perform_bind, transcript_bind, transcript_receive, perform_receive, Report.andThen, h]
  exact ⟨rfl, rfl⟩

end Session

/-- An action that goes on with an answer may use the inputs in it, if it asked for them. -/
theorem SteeredAfter.receive_bind {β : Type} {last : Purpose} {f : Option UInt8 → ControlM β}
    (hf : ∀ b, Steered (f b))
    (huse : ∀ b b', (last = .inputs → Inputs.ofByte b = Inputs.ofByte b') → f b = f b') :
    SteeredAfter last (Control.receive >>= f) := by
  intro session second h
  by_cases hrefused : session.nextRead = .refused
  · have hrefused' : (session.withReads second).nextRead = .refused := (h.refusals 0).mp hrefused
    obtain ⟨hperform, htranscript⟩ := session.receive_bind_refused (f := f) hrefused
    rw [hperform, htranscript, ((session.withReads second).receive_bind_refused hrefused').1]
    exact ⟨rfl, rfl, rfl, rfl, rfl⟩
  · have hrefused' : (session.withReads second).nextRead ≠ .refused :=
      fun h' => hrefused ((h.refusals 0).mpr h')
    obtain ⟨b, hb, hinputs⟩ := ReadAnswer.received_ok hrefused
    obtain ⟨b', hb', hinputs'⟩ := ReadAnswer.received_ok hrefused'
    obtain ⟨hperform, htranscript⟩ := session.receive_bind_ok (f := f) hb
    have hpurposes : ∀ rest, readPurposes last (⟨.read, session.nextRead⟩ :: rest) =
        [last] ++ readPurposes last rest := fun _ => rfl
    rw [htranscript, hpurposes] at h ⊢
    -- the one place where the agreement on the inputs is used
    have hgoes : f b' = f b := by
      refine (huse b b' fun hasked => ?_).symm
      rw [← hinputs, ← hinputs']
      exact h.inputs 0 (congrArg some hasked)
    rw [hperform, ((session.withReads second).receive_bind_ok hb').1, hgoes]
    obtain ⟨hreads, hsame⟩ := hf b last _ _ h.right
    simp only [List.length_append, ← List.drop_drop]
    refine ⟨hreads, hsame.result, ?_, ?_, hsame.session⟩
    · simp only [Report.after, List.map_append, Exchange.unread_events hrefused,
        Exchange.unread_events hrefused']
      exact congrArg _ hsame.events
    · exact congrArg ("" ++ ·) hsame.output

namespace Steered

theorem setOutputs (pattern : Option Int) (wait timeout : Option Number) :
    Steered (Control.setOutputs pattern wait timeout) := by
  refine bind (outputByte pattern) fun byte => bind (transmit _ _) fun _ => ?_
  refine bind (modify _) fun _ => bind (request rfl) fun _ => ?_
  intro last
  exact .receive_bind (fun _ => pause _) fun _ _ _ => rfl

/-- A byte that was sent is the last one, so its purpose decides about the next read. -/
theorem lastPurpose_transmit {session : Session} {purpose : Purpose} {byte : Option UInt8}
    (h : (session.perform (Control.transmit purpose byte)).result = .ok ()) (last : Purpose) :
    lastPurpose last (session.transcript (Control.transmit purpose byte)) = purpose := by
  obtain ⟨⟨program, connected, latch⟩, ⟨files, socket, ⟨writes, reads⟩, clock⟩⟩ := session
  cases connected with
  | false => cases h
  | true =>
    cases writes with
    | nil => cases h
    | cons answer later =>
      cases answer with
      | refused => cases h
      | short => cases byte <;> cases h
      | taken => cases byte <;> rfl

/-- Reading the inputs uses nothing but the inputs: both bytes show the same ones. -/
theorem readInputs : Steered Control.readInputs := by
  refine get_bind fun controller => ?_
  intro last
  refine (transmit .inputs controller.latch last).bind fun session _ hsent => ?_
  rw [lastPurpose_transmit hsent]
  apply SteeredAfter.receive_bind
  · exact fun _ => pure _
  · intro b b' hinputs
    rw [hinputs rfl]

theorem display (active : Option Int) (clear : Bool) : Steered (Control.display active clear) := by
  refine get_bind fun controller => ?_
  cases Listing.listing controller.program active with
  | ok listing => exact request rfl
  | error fault => exact bind (request rfl) fun _ => throw _

theorem runClosed : RunClosed fun _ x => Steered x where
  pure := pure
  throw := throw
  bind := bind
  setOutputs := setOutputs
  readInputs := readInputs
  get_bind := get_bind
  display := display

end Steered

/-! ## 4. Runs -/

/-- **Only the inputs steer a program.** Two runs start alike, with ports that answer the bytes sent
alike and refuse at the same places when bytes are asked for. If the answers agree in the two inputs
at each read that the first run makes to learn the inputs, then the runs, stopped at any number of
screens, have the same outcome, the same events but for the bytes read, and the same byte in the
latch. -/
theorem run_steered_by_inputs (session : Session) (second : List ReadAnswer) (screens : Nat)
    (hrefusals : ∀ k, session.reads.getD k .refused = .refused ↔ second.getD k .refused = .refused)
    (hinputs : ∀ k, (readPurposes .outputs (session.exchanges (.run screens)))[k]? = some .inputs →
      (session.reads.getD k .refused).inputs = (second.getD k .refused).inputs) :
    let own := session.run screens
    let other := (session.withReads second).run screens
    other.result = own.result ∧
      other.events.map Event.unread = own.events.map Event.unread ∧
      other.session.controller.latch = own.session.controller.latch := by
  intro own other
  have hsteered : Steered (Control.run (session.bench.limits screens)) := Steered.runClosed.run _
  obtain ⟨_, hsame⟩ := hsteered .outputs session second ⟨hrefusals, hinputs⟩
  exact ⟨hsame.result, hsame.events, congrArg (·.controller.latch) hsame.session⟩

/-- Twice: a lamp is set on if input 7 is on, and one change of input 6 is waited for. -/
def lampOnInput : Program :=
  [.repeatStart (some 2), .ifStart ⟨some true, none⟩, .setOutput (some "lamp") (some 5) none,
    .ifEnd, .count ⟨none, some true⟩ (some 1), .repeatEnd]

/-- Answers to the program, the second of which is thrown away. -/
def answersToLamp : List ReadAnswer :=
  [.byte 0x80, .byte 0xFF, .byte 0x00, .byte 0x40, .nothing, .byte 0x40, .byte 0x05]

/-- Other answers with the same inputs: every byte is another one, and where none came, one
comes. -/
def otherAnswersToLamp : List ReadAnswer :=
  [.byte 0xBF, .nothing, .byte 0x15, .byte 0x7F, .byte 0x3F, .byte 0x41, .nothing]

theorem steered_lampOnInput :
    let session := (Session.answering lampOnInput (List.replicate 7 0)).withReads answersToLamp
    let own := session.run 20
    let other := (session.withReads otherAnswersToLamp).run 20
    readPurposes .outputs (session.exchanges (.run 20)) =
      [.inputs, .outputs, .inputs, .inputs, .inputs, .inputs, .inputs] ∧
    own.result.isOk = true ∧ other.result = own.result ∧
    other.events.map Event.unread = own.events.map Event.unread ∧
    other.session.controller.latch = own.session.controller.latch := by
  intro session own other
  have hpurposes : readPurposes .outputs (session.exchanges (.run 20)) =
      [.inputs, .outputs, .inputs, .inputs, .inputs, .inputs, .inputs] := by decide +kernel
  have hends : own.result.isOk = true := by decide +kernel
  refine ⟨hpurposes, hends, run_steered_by_inputs session otherAnswersToLamp 20 ?_ ?_⟩
  · intro k
    match k with
    | 0 | 1 | 2 | 3 | 4 | 5 | 6 => decide
    | _ + 7 => exact Iff.rfl
  · intro k hk
    rw [hpurposes] at hk
    match k with
    | 1 => cases hk
    | 0 | 2 | 3 | 4 | 5 | 6 => exact ReadAnswer.inputs_eq_iff.mpr (by decide)
    | _ + 7 => cases hk

end LineControl

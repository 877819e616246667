import LineControl.Proofs.Meaning
import LineControl.Proofs.Sequence

/-!
# Counted programs, written out

A program of outputs and counted loops ends, and what it sends is known beforehand: the bytes of its
outputs, with the body of each loop written out as often as its head says (`Counted.unroll`). The
same recursion gives the number of screens that a run needs (`Counted.screens`), a product of counts
for loops inside loops.

The argument is on the meaning of the program as a block, where neither a cursor nor a stack occurs.
An action `Sends` some bytes if it ends on every port that serves so many, and leaves the rest of
the port to what comes after it. Because of this rest, the bytes of a sequence are those of its
parts. `Sends` also says how many screens are left in terms of those before, since a loop is passed
as often as its count says only if the screens do not run out.

## What is asked of lines, port and clock

Every screen lists the program, so every line must be one that can be listed: an output needs a
label, and no wait and no count may be too long. If there is no listing, the run stops at its first
screen, and the statement says so.

The port has to take as many bytes as are sent and to answer each, with whatever byte or with
nothing in time. No program of this kind reads an input, so no answer can change its course.

The clock may be any that takes the times which the outputs wait for. What a refused time does to
the bytes that follow it is left out here; a run stops there (`Program.exists_wait_of_run_error`).
-/

set_option autoImplicit false

namespace LineControl

/-! ## 1. Counted programs -/

/-- A program of outputs and counted loops. -/
inductive Counted where
  | done
  | output (label : Option String) (byte : UInt8) (wait : Option Number) (rest : Counted)
  | times (count : Nat) (pos : 0 < count) (body rest : Counted)

namespace Counted

/-- The program as a block. -/
def toBlock : Counted → Block
  | done => .empty
  | output label byte wait rest => .action (.output label (some byte.toNat) wait) rest.toBlock
  | times count _ body rest => .loop (.after (.int count)) body.toBlock rest.toBlock

/-- The lines from top to bottom. -/
def lines (program : Counted) : Program :=
  program.toBlock.lines

/-- How many loops lie inside one another. -/
def depth : Counted → Nat
  | done => 0
  | output _ _ _ rest => rest.depth
  | times _ _ body rest => max (body.depth + 1) rest.depth

/-- The times that the outputs wait for, from top to bottom. -/
def waits : Counted → List Number
  | done => []
  | output _ _ wait rest => wait.getD 1 :: rest.waits
  | times _ _ body rest => body.waits ++ rest.waits

/-- The bytes of the outputs in order, those of a loop as often as its head says. -/
def unroll : Counted → List UInt8
  | done => []
  | output _ byte _ rest => byte :: rest.unroll
  | times count _ body rest => (List.replicate count body.unroll).flatten ++ rest.unroll

/-- The screens that a run shows before its last one. -/
def screens : Counted → Nat
  | done => 0
  | output _ _ _ rest => rest.screens + 1
  | times count _ body rest => count * (body.screens + 2) + rest.screens

theorem depth_toBlock (program : Counted) : program.toBlock.depth = program.depth := by
  induction program with
  | done => rfl
  | output label byte wait rest ih => exact ih
  | times count pos body rest ihbody ihrest =>
    simp only [toBlock, Block.depth, depth, ihbody, ihrest]

/-- There is no `IF` in a counted program, so a run of its lines is its meaning. -/
theorem isIfFree_toBlock (program : Counted) : program.toBlock.isIfFree = true := by
  induction program with
  | done => rfl
  | output label byte wait rest ih => exact ih
  | times count pos body rest ihbody ihrest => simp [toBlock, Block.isIfFree, ihbody, ihrest]

end Counted

/-! ## 2. Ports that serve

`Sends` asks for a port that serves more bytes than the action needs, by any number, and leaves a
port that serves that number. This is the frame that lets two such actions be put in sequence. -/

/-- The bytes that are sent in the events, in order. -/
def Event.sent? : Event → Option (Option UInt8)
  | .wrote byte _ => some byte
  | _ => none

/-- The bytes sent, in order. -/
def Report.sent {α : Type} (report : Report α) : List (Option UInt8) :=
  report.events.filterMap Event.sent?

/-- The port takes the next `count` bytes and answers each of them, be it with nothing in time. -/
structure Wire.Serves (wire : Wire) (count : Nat) : Prop where
  writes : ∀ k < count, wire.writes[k]? = some .taken
  reads : ∀ k < count, wire.reads.getD k .refused ≠ .refused

/-- Once it has served a byte, the port serves the rest. -/
theorem Wire.Serves.exists_next {wire : Wire} {count : Nat} (h : wire.Serves (count + 1)) :
    ∃ writes answer reads, answer ≠ .refused ∧ wire = ⟨.taken :: writes, answer :: reads⟩ ∧
      Wire.Serves ⟨writes, reads⟩ count := by
  obtain ⟨writes, reads⟩ := wire
  have hwrite := h.writes 0 (Nat.succ_pos count)
  have hread := h.reads 0 (Nat.succ_pos count)
  cases writes with
  | nil => cases hwrite
  | cons first writes =>
    cases reads with
    | nil => exact absurd rfl hread
    | cons answer reads =>
      obtain rfl : first = .taken := Option.some.inj hwrite
      refine ⟨writes, answer, reads, hread, rfl, ⟨fun k hk => ?_, fun k hk => ?_⟩⟩
      · exact h.writes (k + 1) (Nat.succ_lt_succ hk)
      · exact h.reads (k + 1) (Nat.succ_lt_succ hk)

/-- Sets the outputs to a byte and takes the answer, without the waiting. -/
def Control.putByte (byte : UInt8) : ControlM (Option UInt8) := do
  transmit .outputs (some byte)
  modify fun c => { c with latch := some byte }
  request (.setTimeout none)
  receive

/-- A byte is a pattern that has no faults. -/
theorem Control.setOutputs_toNat (byte : UInt8) (wait : Option Number) :
    setOutputs (some byte.toNat) wait none = (do let _ ← putByte byte; pause (wait.getD 1)) := by
  have hbyte : outputByte (some byte.toNat) = pure byte := by
    have hle : byte.toNat ≤ 255 := Nat.le_of_lt_succ byte.toNat_lt
    rw [outputByte, if_neg (by omega), if_neg (by omega)]
    simp
  unfold setOutputs putByte
  rw [hbyte, pure_bind]
  simp only [bind_assoc]
  rfl

/-- The session has a listing and the given clock, and is connected to a port that serves the next
`count` bytes. -/
structure Session.Ready (session : Session) (clock : Clock) (count : Nat) : Prop where
  listable : session.controller.program.isListable = true
  connected : session.controller.connected = true
  serves : session.bench.wire.Serves count
  clock : session.bench.clock = clock

/-- With the clock the action ends on every port that serves the bytes, sends them and no others,
and leaves the rest of the port. What it returns is as said. -/
def Sends {α : Type} (clock : Clock) (x : ControlM α) (bytes : List UInt8) (returns : α → Prop) :
    Prop :=
  ∀ (session : Session) (more : Nat), session.Ready clock (bytes.length + more) →
    (∃ a, (session.perform x).result = .ok a ∧ returns a) ∧
    (session.perform x).sent = bytes.map some ∧
    (session.perform x).session.Ready clock more

namespace Sends

variable {α β : Type} {clock : Clock}

theorem pure {a : α} {returns : α → Prop} (h : returns a) :
    Sends clock (Pure.pure a) [] returns := by
  intro session more hready
  rw [List.length_nil, Nat.zero_add] at hready
  exact ⟨⟨a, rfl, h⟩, rfl, hready⟩

/-- The bytes of a sequence are those of its parts, as the first part leaves the rest of the port to
the second. -/
theorem bind {x : ControlM α} {f : α → ControlM β} {first second : List UInt8} {mid : α → Prop}
    {returns : β → Prop} (hx : Sends clock x first mid)
    (hf : ∀ a, mid a → Sends clock (f a) second returns) :
    Sends clock (x >>= f) (first ++ second) returns := by
  intro session more hready
  rw [List.length_append, Nat.add_assoc] at hready
  obtain ⟨⟨a, ha, hmid⟩, hsent, hready'⟩ := hx session _ hready
  obtain ⟨⟨b, hb, hreturns⟩, hsent', hready''⟩ := hf a hmid _ _ hready'
  rw [Session.perform_bind, Report.andThen, ha]
  refine ⟨⟨b, hb, hreturns⟩, ?_, hready''⟩
  rw [List.map_append, ← hsent, ← hsent']
  exact List.filterMap_append

/-- What follows sends nothing. -/
theorem bind_quiet {x : ControlM α} {f : α → ControlM β} {bytes : List UInt8} {mid : α → Prop}
    {returns : β → Prop} (hx : Sends clock x bytes mid)
    (hf : ∀ a, mid a → Sends clock (f a) [] returns) : Sends clock (x >>= f) bytes returns := by
  rw [← List.append_nil bytes]
  exact hx.bind hf

theorem display (active : Option Int) :
    Sends clock (Control.display active true) [] fun _ => True := by
  intro session more hready
  rw [List.length_nil, Nat.zero_add] at hready
  obtain ⟨text, hshown⟩ := Program.perform_display hready.listable active
  rw [hshown]
  exact ⟨⟨(), rfl, trivial⟩, rfl, hready⟩

theorem screen (active : Option Nat) {screens : Nat} (h : 0 < screens) :
    Sends clock (Control.screen active screens) [] fun left => left.1 + 1 = screens := by
  obtain ⟨screens, rfl⟩ := Nat.exists_eq_add_one.mpr h
  exact (display _).bind fun _ _ => pure rfl

theorem putByte (byte : UInt8) : Sends clock (Control.putByte byte) [byte] fun _ => True := by
  intro session more hready
  rw [List.length_singleton, Nat.add_comm] at hready
  obtain ⟨⟨program, connected, latch⟩, ⟨files, socket, wire, _⟩⟩ := session
  obtain rfl : connected = true := hready.connected
  obtain ⟨writes, answer, reads, hanswer, rfl, hserves⟩ := hready.serves.exists_next
  cases answer with
  | byte b => exact ⟨⟨some b, rfl, trivial⟩, rfl, hready.listable, rfl, hserves, hready.clock⟩
  | nothing => exact ⟨⟨none, rfl, trivial⟩, rfl, hready.listable, rfl, hserves, hready.clock⟩
  | refused => exact absurd rfl hanswer

theorem pause {seconds : Number} (hwait : clock seconds = .ok ()) :
    Sends clock (Control.pause seconds) [] fun _ => True := by
  intro session more hready
  rw [List.length_nil, Nat.zero_add] at hready
  rw [Session.perform_pause, hready.clock, hwait]
  exact ⟨⟨(), rfl, trivial⟩, rfl, hready⟩

theorem setOutputs (byte : UInt8) {wait : Option Number} (hwait : clock (wait.getD 1) = .ok ()) :
    Sends clock (Control.setOutputs (some byte.toNat) wait none) [byte] fun _ => True := by
  rw [Control.setOutputs_toNat]
  exact (putByte byte).bind_quiet fun _ _ => pause hwait

end Sends

/-! ## 3. What a counted program sends

From the inside out: one pass, all passes of a loop, and then the program, by induction on its
tree. -/

namespace Block

variable {bytes : List UInt8} {used : Nat} {clock : Clock}

/-- One pass takes two screens more than the body. -/
theorem pass_sends {body : (screens : Nat) → ControlM {left // left ≤ screens}}
    (hbody : ∀ screens, used ≤ screens →
      Sends clock (body screens) bytes fun left => left.1 + used = screens)
    (head closing : Nat) {screens : Nat} (hscreens : used + 2 ≤ screens) :
    Sends clock (pass head closing body screens) bytes
      fun left => left.1 + (used + 2) = screens := by
  refine (Sends.screen _ (by omega)).bind fun shown hshown => ?_
  refine (hbody shown (by omega)).bind_quiet fun inside hinside => ?_
  refine (Sends.screen _ (by omega)).bind fun left hleft => .pure ?_
  dsimp only
  omega

/-- The passes that are left send the bytes of one pass as often as there are passes left. -/
theorem repeatPasses_sends {pass : (screens : Nat) → ControlM {left // left < screens}}
    (hpass : ∀ screens, used ≤ screens →
      Sends clock (pass screens) bytes fun left => left.1 + used = screens)
    (more passes : Nat) {screens : Nat} (hscreens : (more + 1) * used ≤ screens) :
    Sends clock (repeatPasses pass (.after (.int (passes + more + 1 : Nat))) passes screens)
      (List.replicate (more + 1) bytes).flatten
      fun left => left.1 + (more + 1) * used = screens := by
  have hused : used ≤ screens :=
    Nat.le_trans (Nat.le_mul_of_pos_left used (Nat.succ_pos more)) hscreens
  -- the head is the same for every pass, so the passes done and those to come add up to its count
  induction more generalizing passes screens with
  | zero =>
    have hover : (Number.int (passes + 0 + 1 : Nat)).isNat (passes + 1) = true := by
      simp [Number.isNat]
    rw [repeatPasses]
    simp only [Ending.isOver, pure_bind, hover, if_true]
    rw [List.replicate_one, List.flatten_singleton]
    refine (hpass screens hused).bind_quiet fun left hleft => .pure ?_
    dsimp only
    omega
  | succ more ih =>
    have hover : (Number.int (passes + (more + 1) + 1 : Nat)).isNat (passes + 1) = false := by
      simp [Number.isNat]
      omega
    have hcount : passes + (more + 1) + 1 = passes + 1 + more + 1 := by omega
    rw [repeatPasses]
    simp only [Ending.isOver, pure_bind, hover, Bool.false_eq_true, if_false]
    rw [List.replicate_succ, List.flatten_cons]
    rw [Nat.succ_mul] at hscreens ⊢
    refine (hpass screens hused).bind fun left hleft => ?_
    rw [hcount]
    have hleft' : (more + 1) * used ≤ left.1 := by omega
    refine (ih (passes + 1) hleft' ?_).bind_quiet fun rest hrest => .pure ?_
    · exact Nat.le_trans (Nat.le_mul_of_pos_left used (Nat.succ_pos more)) hleft'
    · dsimp only
      omega

end Block

namespace Counted

/-- The meaning of a counted program sends what is written out, and takes the screens it needs. -/
theorem meaning_sends {clock : Clock} (program : Counted)
    (hwaits : ∀ wait ∈ program.waits, clock wait = .ok ()) (readings line : Nat) {screens : Nat}
    (hscreens : program.screens ≤ screens) :
    Sends clock (program.toBlock.meaning readings line screens) program.unroll
      fun left => left.1 + program.screens = screens := by
  induction program generalizing line screens with
  | done => exact .pure rfl
  | output label byte wait rest ih =>
    rw [Counted.screens] at hscreens ⊢
    rw [waits, List.forall_mem_cons] at hwaits
    refine (Sends.screen _ (by omega)).bind fun shown hshown => ?_
    refine (Sends.setOutputs byte hwaits.1).bind fun _ _ => ?_
    refine (ih hwaits.2 (line + 1) (by omega)).bind_quiet fun left hleft => .pure ?_
    dsimp only
    omega
  | times count pos body rest ihbody ihrest =>
    obtain ⟨more, rfl⟩ := Nat.exists_eq_add_one.mpr pos
    rw [Counted.screens] at hscreens ⊢
    rw [waits, List.forall_mem_append] at hwaits
    have hpass : ∀ screens, body.screens + 2 ≤ screens →
        Sends clock (Block.pass line (line + 1 + body.toBlock.lines.length)
          (body.toBlock.meaning readings (line + 1)) screens) body.unroll
          fun left => left.1 + (body.screens + 2) = screens :=
      fun screens => Block.pass_sends (fun _ => ihbody hwaits.1 (line + 1)) _ _
    -- the loop is entered with no pass done
    have hpasses :=
      Block.repeatPasses_sends hpass more 0 (Nat.le_trans (Nat.le_add_right _ _) hscreens)
    rw [Nat.zero_add] at hpasses
    refine hpasses.bind fun passed hpassed => ?_
    refine (ihrest hwaits.2 _ (by omega)).bind_quiet fun left hleft => .pure ?_
    dsimp only
    omega

theorem check_lines {program : Counted} (hdepth : program.depth ≤ 8) :
    program.lines.check = .ok () := by
  rw [← depth_toBlock] at hdepth
  exact program.toBlock.check_lines hdepth

/-- A run of the lines sends what is written out. -/
theorem lines_send {clock : Clock} (program : Counted)
    (hwaits : ∀ wait ∈ program.waits, clock wait = .ok ()) (readings : Nat) {screens : Nat}
    (hscreens : program.screens < screens) :
    Sends clock
      (if program.lines.isEmpty then pure () else program.lines.runFrom readings screens {})
      program.unroll fun _ => True := by
  have hflat : program.toBlock.isFlat = true := Block.isFlat_of_isIfFree program.isIfFree_toBlock
  have hrun : Sends clock (do
      let left ← program.toBlock.meaning readings 0 screens
      let _ ← Control.screen none left) program.unroll fun _ => True := by
    have hmeaning := program.meaning_sends hwaits readings 0 (Nat.le_of_lt hscreens)
    refine hmeaning.bind_quiet fun left hleft => ?_
    exact (Sends.screen _ (by omega)).bind fun _ _ => .pure trivial
  cases program with
  | done => exact .pure trivial
  | output | times =>
    rw [← Program.runFrom_lines hflat (List.cons_ne_nil _ _)] at hrun
    exact hrun

/-- **A counted program ends, and sends what is written out.** Take a program of outputs of a byte
each and of loops with a count above zero, at most eight inside one another, a connected port that
serves as many bytes as are sent, a clock that takes the times of the outputs, and screens enough.

If every line can be listed, the run ends without a fault, and the bytes sent are those of the
program with its loops written out. If some line cannot, there is no listing: the run stops at its
first screen with the fault of that line, before anything is sent. -/
theorem run_sends_unrolled (program : Counted) (hdepth : program.depth ≤ 8) {session : Session}
    (hconnected : session.controller.connected = true)
    (hserves : session.bench.wire.Serves program.unroll.length)
    (hwaits : ∀ wait ∈ program.waits, session.bench.clock wait = .ok ()) {screens : Nat}
    (hscreens : program.screens < screens) :
    let report := (session.holding program.lines).run screens
    (program.lines.isListable = true →
      report.result = .ok () ∧ report.sent = program.unroll.map some) ∧
    ∀ fault, program.lines.listingFault? = some fault →
      report.result = .error (.listing fault) ∧ report.events = [.displayed (some 0)] := by
  intro report
  have hcheck := check_lines hdepth
  constructor
  · intro hlist
    have hready : (session.holding program.lines).Ready session.bench.clock
        (program.unroll.length + 0) := ⟨hlist, hconnected, hserves, rfl⟩
    have hrun : report = _ := Session.run_eq hcheck screens
    obtain ⟨⟨_, hresult, _⟩, hsent, _⟩ :=
      program.lines_send hwaits session.bench.readings hscreens _ _ hready
    rw [hrun]
    exact ⟨hresult, hsent⟩
  · intro fault hfault
    -- a program without lines has nothing that cannot be listed
    have hne : program.lines ≠ [] := by
      intro hnil
      rw [hnil] at hfault
      cases hfault
    have hstops := Program.run_unlisted hcheck hne hfault session screens
    rw [if_neg (by omega), if_neg (by omega)] at hstops
    exact ⟨hstops.result, hstops.events⟩

/-- Twice: a motor, three times a lamp and an empty loop. At the end everything is turned off. -/
def motorAndLamp : Counted :=
  .times 2 (Nat.succ_pos 1)
    (.output (some "motor") 1 none
      (.times 3 (Nat.succ_pos 2) (.output (some "lamp") 5 (some 0.5) .done)
        (.times 1 (Nat.succ_pos 0) .done .done)))
    (.output (some "off") 0 none .done)

/-- Nine bytes: four in each pass of the outer loop, and one at the end. -/
theorem run_sends_motorAndLamp :
    let report := ((Session.answering [] (List.replicate 9 0)).holding motorAndLamp.lines).run 30
    report.result = .ok () ∧ report.sent = [1, 5, 5, 5, 1, 5, 5, 5, 0].map some := by
  have hserves : (Session.answering [] (List.replicate 9 0)).bench.wire.Serves
      motorAndLamp.unroll.length := ⟨by decide, by decide⟩
  have hwaits : ∀ wait ∈ motorAndLamp.waits,
      (Session.answering [] (List.replicate 9 0)).bench.clock wait = .ok () := fun _ _ => rfl
  exact (run_sends_unrolled motorAndLamp (by decide) rfl hserves hwaits (by decide)).1 rfl

/-- Without a label nothing is sent. -/
theorem run_needs_labels :
    let program : Counted := .output none 1 none .done
    let session := Session.answering [] [0]
    program.depth ≤ 8 ∧ session.controller.connected = true ∧
      session.bench.wire.Serves program.unroll.length ∧
      (∀ wait ∈ program.waits, session.bench.clock wait = .ok ()) ∧ program.screens < 25 ∧
      ((session.holding program.lines).run 25).result = .error (.listing .noLabel) ∧
      ((session.holding program.lines).run 25).sent = [] ∧ program.unroll = [1] :=
  ⟨by decide, rfl, ⟨by decide, by decide⟩, fun _ _ => rfl, by decide, rfl, rfl, rfl⟩

end Counted

end LineControl

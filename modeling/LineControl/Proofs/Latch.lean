import LineControl.Proofs.Transcript

/-!
# What the latch holds

A controller repeats the byte in its latch to read the inputs, so that the outputs stay as they are.
This file says what that byte is, in terms of what a session exchanged before.

* `latch_eq_lastSet`: the latch holds the byte that was last put on the outputs of any port, and
  nothing if none was. Each byte sent to read the inputs is that byte.
* `repeats_on_port_iff`: the byte last put on the outputs of the open port is another one if the
  port took none since it was opened. A port that stays open although connecting to it failed is
  such a port, and reading its inputs does change its outputs (`failed_connection_changes_outputs`).

Both come from one invariant, `Tracks`, which keeps to the law of the actions. It says that the
controller knows what it has done, byte and port, and that every byte sent so far to read the inputs
was the right one at its time; the last clause speaks of all earlier exchanges, since the statements
are about a byte anywhere in a session.

## Ports

A port is named by what it was opened as, and holds its outputs when it is closed. So two
connections under one name are to one port, and `exchangesOver` puts their exchanges together. What
happens to the outputs of a box that is switched off, or plugged in elsewhere, is nothing that the
controller could see.
-/

set_option autoImplicit false

namespace LineControl

/-! ## 1. Bytes put on outputs, and ports

What is known about the past is computed from the list of exchanges, by what each of them adds. The
simp lemmas are those for one exchange more at the end. -/

/-- The byte that the exchange puts on the outputs. -/
def Exchange.set? : Exchange → Option UInt8
  | ⟨.write .outputs byte, .taken⟩ => byte
  | _ => none

/-- The port that the exchange opens. -/
def Exchange.opened? : Exchange → Option String
  | ⟨.openPort name, true⟩ => some name
  | _ => none

/-- The byte last put on the outputs of any port. -/
def lastSet (past : List Exchange) : Option UInt8 :=
  (past.filterMap Exchange.set?).getLast?

/-- The port that was opened last. -/
def lastOpened (past : List Exchange) : Option String :=
  (past.filterMap Exchange.opened?).getLast?

/-- The exchanges while the port of the given name is the open one; `current` is open at first. -/
def exchangesOver (name : String) (current : Option String) : List Exchange → List Exchange
  | [] => []
  | e :: later =>
    let rest := exchangesOver name (e.opened?.or current) later
    if current = some name then e :: rest else rest

@[simp] theorem lastSet_nil : lastSet [] = none := rfl

@[simp] theorem lastSet_append (past later : List Exchange) :
    lastSet (past ++ later) = (lastSet later).or (lastSet past) := by
  simp [lastSet]

@[simp] theorem lastSet_cons (e : Exchange) (later : List Exchange) :
    lastSet (e :: later) = (lastSet later).or e.set? := by
  rw [← List.singleton_append, lastSet_append]
  cases h : e.set? <;> simp [lastSet, h]

theorem isSome_lastSet_iff {past : List Exchange} :
    (lastSet past).isSome = true ↔ ∃ e ∈ past, e.set?.isSome = true := by
  induction past with
  | nil => simp
  | cons e past ih => simp [ih, or_comm]

@[simp] theorem lastOpened_nil : lastOpened [] = none := rfl

@[simp] theorem lastOpened_append (past later : List Exchange) :
    lastOpened (past ++ later) = (lastOpened later).or (lastOpened past) := by
  simp [lastOpened]

@[simp] theorem lastOpened_cons (e : Exchange) (later : List Exchange) :
    lastOpened (e :: later) = (lastOpened later).or e.opened? := by
  rw [← List.singleton_append, lastOpened_append]
  cases h : e.opened? <;> simp [lastOpened, h]

theorem Exchange.eq_openPort {e : Exchange} {name : String} (h : e.opened? = some name) :
    e = ⟨.openPort name, true⟩ := by
  obtain ⟨request, answer⟩ := e
  cases request with
  | openPort name' =>
    cases (answer : Bool) with
    | false => cases h
    | true =>
      cases h
      rfl
  | _ => cases h

/-- A quiet exchange has nothing that the invariant speaks of. -/
theorem Exchange.quiet_spec {e : Exchange} (h : e.isQuiet = true) :
    e.set? = none ∧ e.opened? = none ∧
      ∀ (purpose : Purpose) (byte : Option UInt8) (answer : WriteAnswer),
        e ≠ ⟨.write purpose byte, answer⟩ := by
  obtain ⟨request, answer⟩ := e
  cases request with
  | openPort name =>
    cases (answer : Bool) with
    | false => exact ⟨rfl, rfl, nofun⟩
    | true => cases h
  | write purpose byte => cases h
  | read => cases h
  | _ => exact ⟨rfl, rfl, nofun⟩

/-! ## 2. The invariant -/

/-- Every byte is sent over an open port, and one sent to read the inputs repeats the byte last put
on the outputs. -/
def Repeats (past : List Exchange) : Prop :=
  ∀ (before : List Exchange) (purpose : Purpose) (byte : Option UInt8) (answer : WriteAnswer)
    (later : List Exchange), past = before ++ ⟨.write purpose byte, answer⟩ :: later →
    (lastOpened before).isSome = true ∧ (purpose = .inputs → byte = lastSet before)

/-- What holds of every exchange and all that came before it holds with one exchange more. -/
theorem forall_split_concat {Q : List Exchange → Exchange → Prop} {past : List Exchange}
    {e : Exchange} (h : ∀ before x later, past = before ++ x :: later → Q before x)
    (he : Q past e) :
    ∀ before x later, past ++ [e] = before ++ x :: later → Q before x := by
  intro before x later heq
  rcases List.eq_nil_or_concat later with rfl | ⟨later, last, rfl⟩
  · obtain ⟨rfl, hlast⟩ := List.append_inj' heq rfl
    rw [← List.singleton_inj.mp hlast]
    exact he
  · have hsplit : past ++ [e] = (before ++ x :: later) ++ [last] := by simpa using heq
    exact h before x later (List.append_inj' hsplit rfl).1

/-- One exchange more has to be looked at only if it sends a byte. -/
theorem Repeats.concat {past : List Exchange} (h : Repeats past) {e : Exchange}
    (he : ∀ (purpose : Purpose) (byte : Option UInt8) (answer : WriteAnswer),
      e = ⟨.write purpose byte, answer⟩ →
      (lastOpened past).isSome = true ∧ (purpose = .inputs → byte = lastSet past)) :
    Repeats (past ++ [e]) := by
  let Q (before : List Exchange) (x : Exchange) : Prop := ∀ purpose byte answer,
    x = ⟨.write purpose byte, answer⟩ →
      (lastOpened before).isSome = true ∧ (purpose = .inputs → byte = lastSet before)
  intro before purpose byte answer later heq
  refine forall_split_concat (Q := Q) ?_ he before _ later heq purpose byte answer rfl
  rintro before x later heq purpose byte answer rfl
  exact h before purpose byte answer later heq

/-- The controller knows what it has done: which byte is on the outputs, and whether a port is
open. -/
structure Tracks (c : Controller) (past : List Exchange) : Prop where
  latch : c.latch = lastSet past
  connected : c.connected = (lastOpened past).isSome
  repeats : Repeats past

namespace Tracks

variable {c : Controller} {past : List Exchange}

theorem init : Tracks {} [] where
  latch := rfl
  connected := rfl
  repeats before purpose byte answer later h := by simp at h

/-- An exchange keeps the invariant if the controller takes note of the byte that it puts on the
outputs and of the port that it opens. -/
theorem concat (h : Tracks c past) {e : Exchange} {c' : Controller}
    (hlatch : c'.latch = e.set?.or c.latch)
    (hconnected : c'.connected = (e.opened?.isSome || c.connected))
    (he : ∀ (purpose : Purpose) (byte : Option UInt8) (answer : WriteAnswer),
      e = ⟨.write purpose byte, answer⟩ →
      c.connected = true ∧ (purpose = .inputs → byte = c.latch)) :
    Tracks c' (past ++ [e]) where
  latch := by simpa [h.latch] using hlatch
  connected := by simpa [h.connected] using hconnected
  repeats := by
    refine h.repeats.concat fun purpose byte answer heq => ?_
    rw [← h.connected, ← h.latch]
    exact he purpose byte answer heq

theorem quiet (h : Tracks c past) {e : Exchange} (he : e.isQuiet = true) :
    Tracks c (past ++ [e]) := by
  obtain ⟨hset, hopened, hwrite⟩ := Exchange.quiet_spec he
  exact h.concat (by simp [hset]) (by simp [hopened]) fun _ _ _ heq => absurd heq (hwrite _ _ _)

/-- A byte is sent over an open port; to read the inputs, it is that of the latch. -/
theorem write (h : Tracks c past) {purpose : Purpose} {byte : Option UInt8} {answer : WriteAnswer}
    {c' : Controller} (hon : c.connected = true) (hbyte : purpose = .inputs → byte = c.latch)
    (hlatch : c'.latch = (Exchange.set? ⟨.write purpose byte, answer⟩).or c.latch)
    (hconnected : c'.connected = true) :
    Tracks c' (past ++ [⟨.write purpose byte, answer⟩]) := by
  refine h.concat hlatch ?_ fun purpose' byte' answer' heq => ?_
  · rw [hconnected, hon, Bool.or_true]
  · cases heq
    exact ⟨hon, hbyte⟩

/-- The invariant is the same within a round as between two of them. -/
theorem law : Law Tracks Tracks where
  holding program h := ⟨h.latch, h.connected, h.repeats⟩
  quiet e he h := h.quiet he
  opened name h := h.concat rfl rfl nofun
  unset b answer hon hvain h := by
    refine h.write hon nofun ?_ hon
    cases answer with
    | taken => exact absurd rfl hvain
    | short => rfl
    | refused => rfl
  unasked answer hon _ h := h.write hon (fun _ => rfl) rfl hon
  set b hon h := h.write hon nofun rfl hon
  asked b hon hlatch h := h.write hon (fun _ => hlatch.symm) rfl hon
  waiting e he h := h.quiet he
  answered answer h := h.concat rfl rfl nofun

theorem after (bench : Bench) (steps : List Step) :
    Tracks (Session.after { bench := bench } steps).controller
      (Session.record { bench := bench } steps) := by
  simpa using law.after { bench := bench } steps init

end Tracks

/-! ## 3. The latch -/

/-- A byte is sent to read the inputs, and none after it. -/
def Asks (byte : Option UInt8) : Assertion := fun _ past =>
  ∃ (answer : WriteAnswer) (rest : List Exchange),
    past = ⟨.write .inputs byte, answer⟩ :: rest ∧ ∀ e ∈ rest, e.request = .read

/-- Reading the inputs over an open port begins with the byte of the latch, and sends no other. -/
theorem readInputs_asks (byte : Option UInt8) :
    Leads (Asks byte) (fun c past => past = [] ∧ c.connected = true ∧ c.latch = byte)
      Control.readInputs fun _ => Asks byte := by
  refine .get_bind fun controller => ?_
  let sent (_ : Unit) : Assertion := fun _ past =>
    ∃ answer : WriteAnswer, past = [⟨.write .inputs byte, answer⟩]
  refine .bind (R := sent) (.transmit .inputs controller.latch ?_ ?_ ?_) fun _ => ?_
  · rintro c past hoff ⟨_, _, hon, _⟩
    simp [hoff] at hon
  · rintro c past answer hon hvain ⟨rfl, rfl, _, rfl⟩
    exact ⟨answer, [], rfl, by simp⟩
  · rintro c past b hon hb ⟨rfl, rfl, _, rfl⟩
    exact ⟨.taken, by rw [hb]; rfl⟩
  · refine .bind (.receive ?_) fun _ => Keeps.pure _
    rintro c past received ⟨answer, rfl⟩
    exact ⟨answer, [⟨.read, received⟩], rfl, by simp⟩

/-- Reading the inputs sends the byte of the latch, if there is a connection. -/
theorem mem_transcript_readInputs (session : Session) (byte : Option UInt8) :
    (∃ answer : WriteAnswer,
      ⟨.write .inputs byte, answer⟩ ∈ session.transcript Control.readInputs) ↔
      session.controller.connected = true ∧ session.controller.latch = byte := by
  cases hon : session.controller.connected with
  | false =>
    -- without a connection the reading stops before it asks for anything
    obtain ⟨⟨program, connected, latch⟩, bench⟩ := session
    cases hon
    have hnone : Session.transcript ⟨⟨program, false, latch⟩, bench⟩ Control.readInputs = [] := rfl
    simp [hnone]
  | true =>
    have hasks : Asks session.controller.latch session.controller
        (session.transcript Control.readInputs) := by
      have h := readInputs_asks session.controller.latch session [] ⟨rfl, hon, rfl⟩
      split at h
      · exact h
      · exact h
    obtain ⟨answer, rest, heq, hrest⟩ := hasks
    rw [heq]
    -- the first request is the write, and no later one is
    constructor
    · rintro ⟨answer', hmem⟩
      rcases List.mem_cons.mp hmem with h | h
      · cases h
        exact ⟨rfl, rfl⟩
      · cases hrest _ h
    · rintro ⟨_, rfl⟩
      exact ⟨answer, List.mem_cons_self⟩

/-- **The latch holds the byte last put on the outputs of any port.** A port may refuse at each byte
and a run be stopped at each screen, so this is said of a session at any point. Every byte sent to
read the inputs is the byte that was last put on the outputs before it, and there is an attempt to
send none exactly if there is a connection and no byte was put on the outputs yet. -/
theorem latch_eq_lastSet (bench : Bench) (steps : List Step) :
    let session := Session.after { bench := bench } steps
    let record := Session.record { bench := bench } steps
    session.controller.latch = lastSet record ∧
      (∀ (before : List Exchange) (byte : Option UInt8) (answer : WriteAnswer)
        (later : List Exchange),
        record = before ++ ⟨.write .inputs byte, answer⟩ :: later → byte = lastSet before) ∧
      ((∃ answer : WriteAnswer,
        ⟨.write .inputs none, answer⟩ ∈ session.transcript Control.readInputs) ↔
        session.controller.connected = true ∧ lastSet record = none) := by
  intro session record
  have htracks : Tracks session.controller record := Tracks.after bench steps
  refine ⟨htracks.latch, fun before byte answer later h => ?_, ?_⟩
  · exact (htracks.repeats before .inputs byte answer later h).2 rfl
  · rw [mem_transcript_readInputs, htracks.latch]

/-- A port that opens and takes bytes as the tape says. -/
def taking (writes : List WriteAnswer) : Port :=
  ⟨true, writes, [.byte 0, .byte 0, .byte 0]⟩

/-- The outputs are set over one port, then another port is opened but does not take the first byte,
and the inputs are read. -/
def failedConnection : List Step :=
  [.connect (taking [.taken, .taken, .taken]) "COM4", .setOutputs (some 5) none none,
    .connect (taking [.short, .taken]) "COM5", .readInputs]

/-- After the failed connection the byte for the first port is repeated. If no port took a byte
before, there is none to repeat. -/
theorem latch_of_failedConnection :
    some 5 = lastSet ((Session.record {} failedConnection).take 20) ∧
      ∃ answer : WriteAnswer, ⟨.write .inputs none, answer⟩ ∈
        (Session.after {} [.connect (taking [.short, .taken]) "COM5"]).transcript
          Control.readInputs :=
  ⟨(latch_eq_lastSet {} failedConnection).2.1 _ (some 5) .taken
      ((Session.record {} failedConnection).drop 21) rfl,
    (latch_eq_lastSet {} [.connect (taking [.short, .taken]) "COM5"]).2.2.mpr ⟨rfl, rfl⟩⟩

/-! ## 4. The outputs of one port

The exchanges since a port was opened last are all over that port. So the byte last put on its
outputs is one of these, or, if there is none, one from an earlier connection to it. -/

/-- The exchanges over a port go on under the port that was opened last. -/
theorem exchangesOver_append (name : String) (current : Option String)
    (past later : List Exchange) :
    exchangesOver name current (past ++ later) =
      exchangesOver name current past ++
        exchangesOver name ((lastOpened past).or current) later := by
  induction past generalizing current with
  | nil => rfl
  | cons e past ih =>
    simp only [List.cons_append, exchangesOver, ih, lastOpened_cons, Option.or_assoc]
    split <;> rfl

/-- As long as no port is opened, all exchanges are over the same one. -/
theorem exchangesOver_eq_self {name : String} {since : List Exchange}
    (h : ∀ e ∈ since, e.opened? = none) : exchangesOver name (some name) since = since := by
  induction since with
  | nil => rfl
  | cons e since ih =>
    rw [List.forall_mem_cons] at h
    simp [exchangesOver, h.1, ih h.2]

/-- The opening of the port that is open. -/
theorem exists_opening_exchange {past : List Exchange} {name : String}
    (h : lastOpened past = some name) :
    ∃ earlier since, past = earlier ++ ⟨.openPort name, true⟩ :: since ∧
      ∀ e ∈ since, e.opened? = none := by
  obtain ⟨names, hnames⟩ := List.getLast?_eq_some_iff.mp h
  obtain ⟨early, late, rfl, _, hlate⟩ := List.filterMap_eq_append_iff.mp hnames
  obtain ⟨quiet, e, since, rfl, _, hopened, hsince⟩ := List.filterMap_eq_cons_iff.mp hlate
  refine ⟨early ++ quiet, since, ?_, List.filterMap_eq_nil_iff.mp hsince⟩
  rw [Exchange.eq_openPort hopened, List.append_assoc]

/-- The byte last put on the outputs of the open port, over this connection or an earlier one. -/
theorem lastSet_exchangesOver {name : String} {earlier since : List Exchange}
    (h : ∀ e ∈ since, e.opened? = none) :
    lastSet (exchangesOver name none (earlier ++ ⟨.openPort name, true⟩ :: since)) =
      (lastSet since).or (lastSet (exchangesOver name none earlier)) := by
  have hopened : Exchange.opened? ⟨.openPort name, true⟩ = some name := rfl
  have hset : Exchange.set? ⟨.openPort name, true⟩ = none := rfl
  rw [exchangesOver_append, lastSet_append]
  simp only [exchangesOver, hopened, Option.some_or, exchangesOver_eq_self h]
  split
  · rw [lastSet_cons, hset, Option.or_none]
  · rfl

/-- A byte sent to read the inputs goes to the port opened last, and it is the byte last put on the
outputs of any port. It is the byte last put on the outputs of that port exactly if the port took
one since it was opened, or held that byte from an earlier connection. -/
theorem repeats_on_port_iff (bench : Bench) (steps : List Step) (before later : List Exchange)
    (byte : UInt8) (answer : WriteAnswer)
    (h : Session.record { bench := bench } steps =
      before ++ ⟨.write .inputs (some byte), answer⟩ :: later) :
    lastSet before = some byte ∧
      ∃ name earlier since, before = earlier ++ ⟨.openPort name, true⟩ :: since ∧
        (∀ e ∈ since, e.opened? = none) ∧
        (lastSet (exchangesOver name none before) = some byte ↔
          (∃ e ∈ since, e.set?.isSome = true) ∨
            lastSet (exchangesOver name none earlier) = some byte) := by
  obtain ⟨hopen, hbyte⟩ :=
    (Tracks.after bench steps).repeats before .inputs (some byte) answer later h
  obtain ⟨name, hname⟩ := Option.isSome_iff_exists.mp hopen
  obtain ⟨earlier, since, rfl, hsince⟩ := exists_opening_exchange hname
  refine ⟨(hbyte rfl).symm, name, earlier, since, rfl, hsince, ?_⟩
  have hlast : some byte = (lastSet since).or (lastSet earlier) := by
    have hset : Exchange.set? ⟨.openPort name, true⟩ = none := rfl
    simpa [hset] using hbyte rfl
  rw [lastSet_exchangesOver hsince, ← isSome_lastSet_iff]
  -- a byte taken since the port was opened is the last of all, so it is the one in the latch
  cases hown : lastSet since with
  | none => simp
  | some b =>
    rw [hown, Option.some_or] at hlast
    simp [hlast]

/-- Over the second port the byte of the first is repeated, and that is not its own. -/
theorem repeats_on_failedConnection :
    let record := Session.record {} failedConnection
    let before := record.take 20
    record = before ++ ⟨.write .inputs (some 5), WriteAnswer.taken⟩ :: record.drop 21 ∧
      lastSet before = some 5 ∧
      ∃ name earlier since, before = earlier ++ ⟨.openPort name, true⟩ :: since ∧
        (∀ e ∈ since, e.opened? = none) ∧
        (lastSet (exchangesOver name none before) = some 5 ↔
          (∃ e ∈ since, e.set?.isSome = true) ∨
            lastSet (exchangesOver name none earlier) = some 5) :=
  ⟨rfl, repeats_on_port_iff {} failedConnection _ _ 5 .taken rfl⟩

/-- Reading the inputs changes the outputs of a port to which connecting failed: it sends a byte
that was set on the outputs of another port, and none was ever set on its own. -/
theorem failed_connection_changes_outputs :
    ∃ before later, Session.record {} failedConnection =
        before ++ ⟨.write .inputs (some 5), WriteAnswer.taken⟩ :: later ∧
      lastOpened before = some "COM5" ∧ lastSet (exchangesOver "COM5" none before) = none :=
  ⟨(Session.record {} failedConnection).take 20, (Session.record {} failedConnection).drop 21, rfl,
    by decide, by decide⟩

end LineControl

import LineControl.Proofs.Faults
import LineControl.Proofs.Latch

/-!
# Lockstep with the box

The box answers each byte that it takes with one byte, so a controller that ever read one byte too
many or too few would take every later answer for that to another byte. This file says that it does
not: whatever fails, a read comes only after a byte that the same port took and that has not been
answered yet, and as long as nothing fails, the bytes go out and in by turns (`reads_in_lockstep`).

A failure is noticed: if a port does not take a byte or gives none, the step stops with a fault of
the port (`StopsUnserved`). So "nothing fails" can be read off the outcomes of the steps.

## How the two halves fit together

Sections 1 and 2 are an invariant with two states. Between rounds every byte that was taken is
answered; within a round one is not. The law of the actions has a place for either, so `Law.after`
applies, and what remains is how the invariant of all exchanges is one of the exchanges over a
port: opening another port moves the attention, and leaves the rounds of the first where they are.

Section 3 is the link to the outcomes, and is about actions rather than sessions. It is proved by
`RunClosed`, of the actions on the box.

An answer may be that no byte came in time. That is an answer as far as rounds go, for the
controller does not ask again. Should the byte come later, it would be taken for the answer to the
next one; a box that is slow in this way is not excluded, and what is said of it is only which reads
were made.
-/

set_option autoImplicit false

namespace LineControl

/-! ## 1. Rounds

Two properties of a list of exchanges are tracked at once. That every read answers a byte holds
whatever fails; that bytes move in whole rounds is claimed only while nothing has failed, and a
failure makes it true for nothing. -/

/-- Whether a byte is sent or asked for. -/
def Exchange.movesByte : Exchange → Bool
  | ⟨.write _ _, _⟩ | ⟨.read, _⟩ => true
  | _ => false

/-- Whether the port does what it is asked: it takes the byte that is sent, and it gives an
answer. -/
def Exchange.isServed : Exchange → Bool
  | ⟨.write _ (some _), .taken⟩ => true
  | ⟨.write _ _, _⟩ => false
  | ⟨.read, .refused⟩ => false
  | _ => true

/-- A byte that was taken, and the answer to it. -/
structure Round where
  purpose : Purpose
  byte : UInt8
  answer : ReadAnswer

/-- The two exchanges of a round. -/
def Round.exchanges (r : Round) : List Exchange :=
  [⟨.write r.purpose (some r.byte), WriteAnswer.taken⟩, ⟨.read, r.answer⟩]

/-- A byte was taken, and since then no byte was sent or asked for and no port opened. -/
def AwaitsAnswer (past : List Exchange) : Prop :=
  ∃ (earlier : List Exchange) (purpose : Purpose) (byte : UInt8) (between : List Exchange),
    past = earlier ++ ⟨.write purpose (some byte), WriteAnswer.taken⟩ :: between ∧
      ∀ e ∈ between, e.isQuiet = true

theorem AwaitsAnswer.of_taken (past : List Exchange) (purpose : Purpose) (byte : UInt8) :
    AwaitsAnswer (past ++ [⟨.write purpose (some byte), WriteAnswer.taken⟩]) :=
  ⟨past, purpose, byte, [], rfl, by simp⟩

theorem AwaitsAnswer.concat {past : List Exchange} (h : AwaitsAnswer past) {e : Exchange}
    (he : e.isQuiet = true) : AwaitsAnswer (past ++ [e]) := by
  obtain ⟨earlier, purpose, byte, between, rfl, hquiet⟩ := h
  refine ⟨earlier, purpose, byte, between ++ [e], by simp, ?_⟩
  intro e' he'
  rcases List.mem_append.mp he' with h | h
  · exact hquiet e' h
  · rw [List.mem_singleton.mp h]
    exact he

/-- Every read answers a byte that was taken and not answered yet. -/
def ReadsAnswer (past : List Exchange) : Prop :=
  ∀ (before : List Exchange) (answer : ReadAnswer) (later : List Exchange),
    past = before ++ ⟨.read, answer⟩ :: later → AwaitsAnswer before

/-- Only a read has to be looked at. -/
theorem ReadsAnswer.concat {past : List Exchange} (h : ReadsAnswer past) {e : Exchange}
    (he : ∀ answer : ReadAnswer, e = ⟨.read, answer⟩ → AwaitsAnswer past) :
    ReadsAnswer (past ++ [e]) := by
  let Q (before : List Exchange) (x : Exchange) : Prop :=
    ∀ answer : ReadAnswer, x = ⟨.read, answer⟩ → AwaitsAnswer before
  intro before answer later heq
  refine forall_split_concat (Q := Q) ?_ he before _ later heq answer rfl
  rintro before x later heq answer rfl
  exact h before answer later heq

/-- If the port did all that it was asked, bytes were moved in whole rounds, and then those of
`rest`. -/
def MovesInRounds (past rest : List Exchange) : Prop :=
  (∀ e ∈ past, e.isServed = true) →
    ∃ rounds : List Round, past.filter Exchange.movesByte = rounds.flatMap Round.exchanges ++ rest

/-- One exchange more matters only if it is served, and then completes rounds or begins one. -/
theorem MovesInRounds.concat {past rest rest' : List Exchange} (h : MovesInRounds past rest)
    {e : Exchange} (he : e.isServed = true → ∀ rounds : List Round,
      ∃ rounds' : List Round,
        rounds.flatMap Round.exchanges ++ rest ++ [e].filter Exchange.movesByte =
          rounds'.flatMap Round.exchanges ++ rest') :
    MovesInRounds (past ++ [e]) rest' := by
  intro hserved
  obtain ⟨rounds, hrounds⟩ := h fun e' he' => hserved e' (List.mem_append_left _ he')
  obtain ⟨rounds', hrounds'⟩ := he (hserved e (by simp)) rounds
  exact ⟨rounds', by rw [List.filter_append, hrounds, hrounds']⟩

/-- The state of a port between two rounds. -/
structure BetweenRounds (past : List Exchange) : Prop where
  reads : ReadsAnswer past
  moves : MovesInRounds past []

/-- The state of a port that has taken a byte and not answered it. -/
structure WithinRound (past : List Exchange) : Prop where
  reads : ReadsAnswer past
  awaits : AwaitsAnswer past
  moves : ∃ (purpose : Purpose) (byte : UInt8),
    MovesInRounds past [⟨.write purpose (some byte), WriteAnswer.taken⟩]

namespace BetweenRounds

variable {past : List Exchange}

theorem init : BetweenRounds [] where
  reads before answer later h := by simp at h
  moves _ := ⟨[], rfl⟩

theorem still (h : BetweenRounds past) {e : Exchange} (he : e.movesByte = false) :
    BetweenRounds (past ++ [e]) where
  reads := by
    apply h.reads.concat
    rintro answer rfl
    cases he
  moves := h.moves.concat fun _ rounds => ⟨rounds, by simp [he]⟩

/-- A byte that is not taken ends the rounds that were made without a failure. -/
theorem vain (h : BetweenRounds past) {purpose : Purpose} {byte : Option UInt8}
    {answer : WriteAnswer} (he : Exchange.isServed ⟨.write purpose byte, answer⟩ = false) :
    BetweenRounds (past ++ [⟨.write purpose byte, answer⟩]) where
  reads := h.reads.concat nofun
  moves := h.moves.concat fun hserved => by simp [he] at hserved

theorem taken (h : BetweenRounds past) (purpose : Purpose) (byte : UInt8) :
    WithinRound (past ++ [⟨.write purpose (some byte), WriteAnswer.taken⟩]) where
  reads := h.reads.concat nofun
  awaits := .of_taken past purpose byte
  moves := ⟨purpose, byte, h.moves.concat fun _ rounds => ⟨rounds, by simp [Exchange.movesByte]⟩⟩

end BetweenRounds

namespace WithinRound

variable {past : List Exchange}

theorem still (h : WithinRound past) {e : Exchange} (hquiet : e.isQuiet = true)
    (he : e.movesByte = false) : WithinRound (past ++ [e]) where
  reads := by
    apply h.reads.concat
    rintro answer rfl
    cases he
  awaits := h.awaits.concat hquiet
  moves := by
    obtain ⟨purpose, byte, hmoves⟩ := h.moves
    exact ⟨purpose, byte, hmoves.concat fun _ rounds => ⟨rounds, by simp [he]⟩⟩

theorem answered (h : WithinRound past) (answer : ReadAnswer) :
    BetweenRounds (past ++ [⟨.read, answer⟩]) where
  reads := h.reads.concat fun _ _ => h.awaits
  moves := by
    obtain ⟨purpose, byte, hmoves⟩ := h.moves
    refine hmoves.concat fun _ rounds => ⟨rounds ++ [⟨purpose, byte, answer⟩], ?_⟩
    simp [Exchange.movesByte, Round.exchanges]

end WithinRound

/-! ## 2. The rounds of one port

The exchanges over one port are a sublist of all. An exchange is added to it exactly if the port is
the one opened last, so each case of the law is split by that. -/

theorem Exchange.movesByte_of_quiet {e : Exchange} (h : e.isQuiet = true) :
    e.movesByte = false := by
  obtain ⟨request, answer⟩ := e
  cases request with
  | write purpose byte => cases h
  | read => cases h
  | _ => rfl

theorem exchangesOver_concat (name : String) (past : List Exchange) (e : Exchange) :
    exchangesOver name none (past ++ [e]) =
      if lastOpened past = some name then exchangesOver name none past ++ [e]
      else exchangesOver name none past := by
  rw [exchangesOver_append, Option.or_none]
  simp only [exchangesOver]
  split <;> simp

/-- Between the actions, every port is between two rounds. -/
def PortsAtRest (name : String) : Assertion := fun _ past =>
  BetweenRounds (exchangesOver name none past)

/-- Between a byte and its answer, the open port is within a round and the others are not. -/
def PortsInUse (name : String) : Assertion := fun _ past =>
  if lastOpened past = some name then WithinRound (exchangesOver name none past)
  else BetweenRounds (exchangesOver name none past)

namespace PortsAtRest

variable {name : String} {c c' : Controller} {past : List Exchange}

theorem still (h : PortsAtRest name c past) {e : Exchange} (he : e.movesByte = false) :
    PortsAtRest name c' (past ++ [e]) := by
  unfold PortsAtRest
  rw [exchangesOver_concat]
  split
  · exact BetweenRounds.still h he
  · exact h

theorem vain (h : PortsAtRest name c past) {purpose : Purpose} {byte : Option UInt8}
    {answer : WriteAnswer} (he : Exchange.isServed ⟨.write purpose byte, answer⟩ = false) :
    PortsAtRest name c (past ++ [⟨.write purpose byte, answer⟩]) := by
  unfold PortsAtRest
  rw [exchangesOver_concat]
  split
  · exact BetweenRounds.vain h he
  · exact h

theorem taken (h : PortsAtRest name c past) (purpose : Purpose) (byte : UInt8) :
    PortsInUse name c' (past ++ [⟨.write purpose (some byte), WriteAnswer.taken⟩]) := by
  unfold PortsInUse
  -- the port that is asked about is the open one, or it is left as it was
  have hopened : lastOpened (past ++ [⟨.write purpose (some byte), WriteAnswer.taken⟩]) =
      lastOpened past := by simp [Exchange.opened?]
  rw [hopened, exchangesOver_concat]
  split
  · exact BetweenRounds.taken h purpose byte
  · exact h

end PortsAtRest

namespace PortsInUse

variable {name : String} {c : Controller} {past : List Exchange}

/-- A quiet exchange may be the closing of a port, but not the opening of one, so the port in use
stays the same. -/
theorem still (h : PortsInUse name c past) {e : Exchange} (he : e.isQuiet = true) :
    PortsInUse name c (past ++ [e]) := by
  have hopened : lastOpened (past ++ [e]) = lastOpened past := by
    simp [(Exchange.quiet_spec he).2.1]
  unfold PortsInUse at h ⊢
  rw [hopened, exchangesOver_concat]
  by_cases hopen : lastOpened past = some name
  · rw [if_pos hopen] at h ⊢
    rw [if_pos hopen]
    exact h.still he (Exchange.movesByte_of_quiet he)
  · rw [if_neg hopen] at h ⊢
    rw [if_neg hopen]
    exact h

theorem answered (h : PortsInUse name c past) (answer : ReadAnswer) :
    PortsAtRest name c (past ++ [⟨.read, answer⟩]) := by
  unfold PortsInUse at h
  unfold PortsAtRest
  rw [exchangesOver_concat]
  by_cases hopen : lastOpened past = some name
  · rw [if_pos hopen] at h ⊢
    exact h.answered answer
  · rw [if_neg hopen] at h ⊢
    exact h

end PortsInUse

/-- A byte that is not taken is a failure, and so is one that there is none of. -/
theorem Exchange.isServed_of_vain {purpose : Purpose} {byte : Option UInt8} {answer : WriteAnswer}
    (h : answer ≠ .taken ∨ byte = none) : isServed ⟨.write purpose byte, answer⟩ = false := by
  cases byte with
  | none => cases answer <;> rfl
  | some b =>
    cases answer with
    | taken => simp at h
    | short => rfl
    | refused => rfl

/-- **Every action makes rounds**, whatever fails, and over any port. -/
theorem PortsAtRest.law (name : String) : Law (PortsAtRest name) (PortsInUse name) where
  holding _ h := h
  quiet _ he h := h.still (Exchange.movesByte_of_quiet he)
  opened _ h := h.still rfl
  unset _ _ _ hvain h := h.vain (Exchange.isServed_of_vain (.inl hvain))
  unasked _ _ hvain h := h.vain (Exchange.isServed_of_vain hvain)
  set b _ h := h.taken .outputs b
  asked b _ _ h := h.taken .inputs b
  waiting _ he h := h.still he
  answered answer h := h.answered answer

/-! ## 3. A port that fails stops the step

The property is stated by its converse, since that is what passes on to sequences: if no fault of a
port ends the action, then all it asked of ports was done. -/

/-- If a port does not do what it is asked, the action ends in a fault of the port. -/
def StopsUnserved {α : Type} (x : ControlM α) : Prop :=
  ∀ session : Session, (∀ fault ∈ portFaults, (session.perform x).result ≠ .error fault) →
    ∀ e ∈ session.transcript x, e.isServed = true

namespace StopsUnserved

variable {α β : Type}

theorem pure (a : α) : StopsUnserved (Pure.pure a : ControlM α) :=
  fun _ _ _ he => absurd he List.not_mem_nil

theorem throw (fault : Fault) : StopsUnserved (throw fault : ControlM α) :=
  fun _ _ _ he => absurd he List.not_mem_nil

theorem modify (f : Controller → Controller) : StopsUnserved (modify f : ControlM Unit) :=
  fun _ _ _ he => absurd he List.not_mem_nil

theorem request {r : Request} (hr : ∀ answer, Exchange.isServed ⟨r, answer⟩ = true) :
    StopsUnserved (Control.request r) := by
  intro session _ e he
  obtain rfl := List.mem_singleton.mp he
  exact hr _

theorem bind {x : ControlM α} {f : α → ControlM β} (hx : StopsUnserved x)
    (hf : ∀ a, StopsUnserved (f a)) : StopsUnserved (x >>= f) := by
  intro session hfine e he
  have hfirst : ∀ e ∈ session.transcript x, e.isServed = true := by
    apply hx session
    intro fault hfault herr
    exact hfine fault hfault (Session.perform_bind_error.mpr (.inl herr))
  rw [Session.transcript_bind] at he
  rcases List.mem_append.mp he with he | he
  · exact hfirst e he
  · cases hresult : (session.perform x).result with
    | error fault => simp [hresult] at he
    | ok a =>
      rw [hresult] at he
      refine hf a _ ?_ e he
      intro fault hfault herr
      exact hfine fault hfault (Session.perform_bind_error.mpr (.inr ⟨a, hresult, herr⟩))

theorem get_bind {f : Controller → ControlM α} (hf : ∀ controller, StopsUnserved (f controller)) :
    StopsUnserved (get >>= f) :=
  fun session => hf session.controller session

/-- Each of the ways not to be taken is a fault of its own. -/
theorem transmit (purpose : Purpose) (byte : Option UInt8) :
    StopsUnserved (Control.transmit purpose byte) := by
  intro session hfine e he
  obtain ⟨⟨program, connected, latch⟩, ⟨files, socket, ⟨writes, reads⟩, clock⟩⟩ := session
  cases connected with
  | false => exact absurd rfl (hfine .notConnected (by simp [portFaults]))
  | true =>
    cases writes with
    | nil => exact absurd rfl (hfine .writeRefused (by simp [portFaults]))
    | cons answer later =>
      cases answer with
      | refused => exact absurd rfl (hfine .writeRefused (by simp [portFaults]))
      | short =>
        cases byte with
        | none => exact absurd rfl (hfine .nothingToRepeat (by simp [portFaults]))
        | some b => exact absurd rfl (hfine .shortWrite (by simp [portFaults]))
      | taken =>
        cases byte with
        | none => exact absurd rfl (hfine .nothingToRepeat (by simp [portFaults]))
        | some b =>
          obtain rfl := List.mem_singleton.mp he
          rfl

/-- A read that is refused is a fault; one that gives no byte is not. -/
theorem receive : StopsUnserved Control.receive := by
  intro session hfine e he
  obtain ⟨controller, ⟨files, socket, ⟨writes, reads⟩, clock⟩⟩ := session
  cases reads with
  | nil => exact absurd rfl (hfine .readRefused (by simp [portFaults]))
  | cons answer later =>
    cases answer with
    | refused => exact absurd rfl (hfine .readRefused (by simp [portFaults]))
    | byte b =>
      obtain rfl := List.mem_singleton.mp he
      rfl
    | nothing =>
      obtain rfl := List.mem_singleton.mp he
      rfl

theorem pause (seconds : Number) : StopsUnserved (Control.pause seconds) := by
  refine bind (request fun _ => rfl) fun answer => ?_
  cases (answer : Except ClockFault Unit) with
  | ok _ => exact pure _
  | error fault => exact throw _

theorem setOutputs (pattern : Option Int) (wait timeout : Option Number) :
    StopsUnserved (Control.setOutputs pattern wait timeout) := by
  refine bind (Control.outputByte_cases pure throw pattern) fun byte => ?_
  refine bind (transmit _ _) fun _ => bind (modify _) fun _ => ?_
  refine bind (request fun _ => rfl) fun _ => ?_
  exact bind receive fun _ => pause _

theorem readInputs : StopsUnserved Control.readInputs := by
  refine get_bind fun controller => bind (transmit _ _) fun _ => ?_
  exact bind receive fun _ => pure _

theorem display (active : Option Int) (clear : Bool) :
    StopsUnserved (Control.display active clear) := by
  refine get_bind fun controller => ?_
  cases Listing.listing controller.program active with
  | ok listing => exact request fun _ => rfl
  | error fault => exact bind (request fun _ => rfl) fun _ => throw _

theorem runClosed : RunClosed fun _ x => StopsUnserved x where
  pure := pure
  throw := throw
  bind := bind
  setOutputs := setOutputs
  readInputs := readInputs
  get_bind := get_bind
  display := display

theorem establish (name : String) : StopsUnserved (Control.establish name) := by
  refine bind (request fun _ => rfl) fun isOpen => ?_
  cases (isOpen : Bool) with
  | false => exact throw _
  | true =>
    refine bind (modify _) fun _ => bind (request fun _ => rfl) fun _ => ?_
    refine bind (request fun _ => rfl) fun _ => ?_
    exact bind (setOutputs _ _ _) fun _ => setOutputs _ _ _

/-- Connecting fails without a fault of the port if the port does not open: then nothing was asked
of it. -/
theorem connect (name : String) : StopsUnserved (Control.connect name) := by
  rw [Control.connect_eq]
  refine get_bind fun controller => ?_
  cases controller.connected with
  | false => exact establish name
  | true => exact bind (request fun _ => rfl) fun _ => establish name

theorem load (file : String) (format : Option Format) :
    StopsUnserved (Control.load file format) := by
  cases format with
  | none => exact throw _
  | some format =>
    refine bind (request fun _ => rfl) fun content => ?_
    cases (content : Option (List UInt8)) with
    | none => exact throw _
    | some bytes =>
      refine bind (modify _) fun _ => ?_
      cases (format.load bytes).fault with
      | none => exact pure _
      | some fault => exact throw _

/-- So every step of a session notices a failure. -/
theorem action (bench : Bench) (step : Step) : StopsUnserved (step.action bench) := by
  cases step with
  | append built =>
    cases built with
    | ok i => exact modify _
    | error fault => exact throw _
  | load files file format => exact load file format
  | connect port name => exact connect name
  | setOutputs pattern wait timeout => exact setOutputs pattern wait timeout
  | readInputs => exact bind readInputs fun _ => pure _
  | checkInputs condition => exact bind (runClosed.checkInputs condition) fun _ => pure _
  | run screens => exact runClosed.run _

end StopsUnserved

/-! ## 4. Sessions -/

/-- How each of some steps ends. -/
def Session.outcomes (session : Session) : List Step → List (Except Fault Unit)
  | [] => []
  | step :: later => (session.take step).result :: (session.take step).session.outcomes later

/-- If no step ends in a fault of a port, all ports did what they were asked. -/
theorem Session.served_of_outcomes (session : Session) (steps : List Step)
    (h : ∀ fault ∈ portFaults, .error fault ∉ session.outcomes steps) :
    ∀ e ∈ session.record steps, e.isServed = true := by
  induction steps generalizing session with
  | nil => exact fun e he => absurd he List.not_mem_nil
  | cons step later ih =>
    intro e he
    rcases List.mem_append.mp he with he | he
    · refine StopsUnserved.action _ step _ ?_ e he
      intro fault hfault herr
      exact h fault hfault (List.mem_cons.mpr (.inl herr.symm))
    · refine ih _ ?_ e he
      intro fault hfault hmem
      exact h fault hfault (List.mem_cons_of_mem _ hmem)

theorem mem_of_mem_exchangesOver {name : String} {current : Option String} {past : List Exchange}
    {e : Exchange} (h : e ∈ exchangesOver name current past) : e ∈ past := by
  induction past generalizing current with
  | nil => exact h
  | cons x past ih =>
    simp only [exchangesOver] at h
    split at h
    · rcases List.mem_cons.mp h with rfl | h
      · exact List.mem_cons_self
      · exact List.mem_cons_of_mem _ (ih h)
    · exact List.mem_cons_of_mem _ (ih h)

/-- **The controller is in lockstep with the box.** On each port, whatever fails, every read comes
after a byte that the port took, with no other byte sent or asked for and no port opened in between.
If no step ends in a fault of a port, bytes go out and in by turns on each port, in whole rounds:
the byte of a round is the one that its answer answers. A run that is stopped at a screen does not
disturb this. -/
theorem reads_in_lockstep (bench : Bench) (steps : List Step) (name : String) :
    let exchanges := exchangesOver name none (Session.record { bench := bench } steps)
    (∀ (before : List Exchange) (answer : ReadAnswer) (later : List Exchange),
      exchanges = before ++ ⟨.read, answer⟩ :: later → AwaitsAnswer before) ∧
    ((∀ fault ∈ portFaults, .error fault ∉ Session.outcomes { bench := bench } steps) →
      ∃ rounds : List Round,
        exchanges.filter Exchange.movesByte = rounds.flatMap Round.exchanges) := by
  intro exchanges
  have hrest : BetweenRounds exchanges := by
    have hinit : PortsAtRest name {} [] := BetweenRounds.init
    have hafter := (PortsAtRest.law name).after { bench := bench } steps hinit
    rw [List.nil_append] at hafter
    exact hafter
  refine ⟨hrest.reads, fun hfine => ?_⟩
  obtain ⟨rounds, hrounds⟩ := hrest.moves fun e he =>
    Session.served_of_outcomes _ steps hfine e (mem_of_mem_exchangesOver he)
  exact ⟨rounds, by rw [hrounds, List.append_nil]⟩

/-- A lamp is switched on over one port if an input is on, and then another port is read twice. -/
def overTwoPorts : List Step :=
  let port : Port := ⟨true, List.replicate 4 .taken, List.replicate 4 (.byte 0x80)⟩
  [.append (.ok (.ifStart ⟨some true, none⟩)),
    .append (.ok (.setOutput (some "lamp") (some 5) none)), .append (.ok .ifEnd),
    .connect port "COM4", .run 9, .connect port "COM5", .readInputs, .checkInputs ⟨none, some true⟩]

/-- Without a failure there are whole rounds only. After a failed connection, the one read of the
port still follows a byte that it took. -/
theorem lockstep_overTwoPorts :
    let exchanges := exchangesOver "COM5" none (Session.record {} failedConnection)
    (∀ fault ∈ portFaults, .error fault ∉ Session.outcomes {} overTwoPorts) ∧
    (∃ rounds : List Round, (exchangesOver "COM4" none (Session.record {} overTwoPorts)).filter
      Exchange.movesByte = rounds.flatMap Round.exchanges) ∧
    exchanges = exchanges.take 4 ++ [⟨.read, ReadAnswer.byte 0⟩] ∧
      AwaitsAnswer (exchanges.take 4) := by
  intro exchanges
  have hfine : ∀ fault ∈ portFaults, .error fault ∉ Session.outcomes {} overTwoPorts := by
    have hok : (Session.outcomes {} overTwoPorts).all (·.isOk) = true := by decide +kernel
    intro fault _ hmem
    cases List.all_eq_true.mp hok _ hmem
  have hlast : exchanges = exchanges.take 4 ++ [⟨.read, ReadAnswer.byte 0⟩] := rfl
  exact ⟨hfine, (reads_in_lockstep {} overTwoPorts "COM4").2 hfine, hlast,
    (reads_in_lockstep {} failedConnection "COM5").1 _ _ _ hlast⟩

end LineControl

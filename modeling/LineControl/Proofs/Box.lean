import LineControl.Proofs.Parts
import LineControl.Proofs.Turns

/-!
# Actions on the box alone

A line of a program acts on the box. It neither looks at the program that the controller holds nor
shows it: that is done between the lines. `OnBox` says this of an action, and `execute_onBox` of
every line, so a line does the same whatever program it is a line of,

    (session.holding program).perform x = (session.perform x).holding program.

Two programs that have a line in common can then be compared at that line. Without this, a statement
about a program in a longer one would have to carry the longer one through every turn.

No line opens a port either, so the port only comes nearer to the end of its answers. That is why
the bound on the readings of a `COUNT` does not matter as long as it is not below the number of
bytes that the port still takes (`perform_resume_readings`). The bound is there because a `COUNT`
may wait forever. A run gets it from the bench it starts on, and a run that goes on from the middle
of another gets a smaller one; the last section is what lets the two be compared.

Connecting and loading are not actions on the box in this sense. The one opens a port, with new
answers, and the other replaces the program.
-/

set_option autoImplicit false

namespace LineControl

/-- The session with another program in its controller. -/
def Session.holding (session : Session) (program : Program) : Session :=
  { session with controller := { session.controller with program := program } }

/-- The report with another program left in the controller. -/
def Report.holding {α : Type} (report : Report α) (program : Program) : Report α :=
  { report with session := report.session.holding program }

/-- The number of bytes that the open port still answers. -/
def Session.writesLeft (session : Session) : Nat :=
  session.bench.wire.writes.length

/-! ## 1. The property and its closure

The three clauses go together because they fail together: what looks at the program, shows it or
opens a port is done by the controller outside of the lines. -/

/-- The action is one on the box alone. -/
structure OnBox {α : Type} (x : ControlM α) : Prop where
  /-- It does the same whatever program the controller holds, and leaves the program there. -/
  holding : ∀ (session : Session) (program : Program),
    (session.holding program).perform x = (session.perform x).holding program
  /-- It shows nothing. -/
  unseen : ∀ (session : Session), ∀ e ∈ (session.perform x).events, e.isDisplay = false
  /-- It opens no port. -/
  writesLeft_le : ∀ session : Session, (session.perform x).session.writesLeft ≤ session.writesLeft

/-- Whether the request is one to the open port, or one to wait. -/
def Request.isOnBox : Request → Bool
  | .setTimeout _ | .write _ _ | .read | .sleep _ => true
  | .fetch _ | .display .. | .openPort _ | .closePort | .clearInput | .clearOutput => false

namespace OnBox

variable {α β : Type}

theorem pure (a : α) : OnBox (Pure.pure a : ControlM α) where
  holding _ _ := rfl
  unseen _ _ h := absurd h List.not_mem_nil
  writesLeft_le _ := Nat.le_refl _

theorem throw (fault : Fault) : OnBox (throw fault : ControlM α) where
  holding _ _ := rfl
  unseen _ _ h := absurd h List.not_mem_nil
  writesLeft_le _ := Nat.le_refl _

/-- Of the controller, an action on the box may change the latch. -/
theorem setLatch (byte : UInt8) :
    OnBox (modify fun c => { c with latch := some byte } : ControlM Unit) where
  holding _ _ := rfl
  unseen _ _ h := absurd h List.not_mem_nil
  writesLeft_le _ := Nat.le_refl _

/-- A request on the box changes at most the wire, and takes at most one answer from it. -/
theorem answer_of_isOnBox {r : Request} (hr : r.isOnBox = true) (bench : Bench) :
    (∀ e ∈ (bench.answer r).events, e.isDisplay = false) ∧
      (bench.answer r).bench.wire.writes.length ≤ bench.wire.writes.length := by
  cases r with
  | setTimeout seconds => simp [Bench.answer, Bench.logged, Event.isDisplay]
  | sleep seconds =>
    simp only [Bench.answer, Bench.sleep]
    split <;> simp [Event.isDisplay]
  | write purpose byte =>
    unfold Bench.answer Bench.write
    cases hw : bench.wire.writes with
    | nil => simp [Bench.quiet, hw]
    | cons answer later =>
      cases answer <;> simp [Bench.quiet, Bench.logged, Event.isDisplay]
  | read =>
    unfold Bench.answer Bench.read
    cases hr : bench.wire.reads with
    | nil => simp [Bench.quiet]
    | cons answer later =>
      cases answer <;> simp [Bench.quiet, Bench.logged, Event.isDisplay]
  | _ => cases hr

theorem request {r : Request} (hr : r.isOnBox = true) : OnBox (Control.request r) where
  holding _ _ := rfl
  unseen session e he := by
    have hevents : (session.perform (Control.request r)).events =
        (session.bench.answer r).events := List.append_nil _
    rw [hevents] at he
    exact (answer_of_isOnBox hr session.bench).1 e he
  writesLeft_le session := (answer_of_isOnBox hr session.bench).2

/-- The three properties pass on to sequences. -/
theorem bind {x : ControlM α} {f : α → ControlM β} (hx : OnBox x) (hf : ∀ a, OnBox (f a)) :
    OnBox (x >>= f) where
  holding session program := by
    rw [Session.perform_bind, Session.perform_bind, hx.holding]
    unfold Report.andThen
    cases h : (session.perform x).result with
    | ok a => simp [Report.holding, h, (hf a).holding, Report.after]
    | error fault => simp [Report.holding, h]
  unseen session e he := by
    rw [Session.perform_bind, Report.andThen] at he
    cases h : (session.perform x).result with
    | ok a =>
      rw [h] at he
      rcases List.mem_append.mp he with he | he
      · exact hx.unseen session e he
      · exact (hf a).unseen _ e he
    | error fault =>
      rw [h] at he
      exact hx.unseen session e he
  writesLeft_le session := by
    rw [Session.perform_bind, Report.andThen]
    cases h : (session.perform x).result with
    | ok a => exact Nat.le_trans ((hf a).writesLeft_le _) (hx.writesLeft_le session)
    | error fault => exact hx.writesLeft_le session

/-- The controller may be looked at, but not the program in it. -/
theorem get_bind {f : Controller → ControlM α}
    (hblind : ∀ (controller : Controller) (program : Program),
      f { controller with program := program } = f controller)
    (hf : ∀ controller, OnBox (f controller)) : OnBox (get >>= f) where
  holding session program := by
    rw [Session.perform_get_bind, Session.perform_get_bind, ← (hf session.controller).holding]
    exact congrArg _ (hblind session.controller program)
  unseen session := (hf session.controller).unseen session
  writesLeft_le session := (hf session.controller).writesLeft_le session

end OnBox

/-! ## 2. The actions of a line -/

namespace Control

theorem outputByte_onBox (pattern : Option Int) : OnBox (outputByte pattern) :=
  outputByte_cases .pure .throw pattern

theorem transmit_onBox (purpose : Purpose) (byte : Option UInt8) :
    OnBox (transmit purpose byte) := by
  refine .get_bind (fun _ _ => rfl) fun controller => ?_
  cases controller.connected with
  | false => exact .throw _
  | true =>
    refine .bind (.request rfl) fun answer => ?_
    cases (answer : WriteAnswer) with
    | refused => exact .throw _
    | short => cases byte <;> exact .throw _
    | taken =>
      cases byte with
      | none => exact .throw _
      | some b => exact .pure _

theorem receive_onBox : OnBox receive := by
  refine .bind (.request rfl) fun answer => ?_
  cases (answer : ReadAnswer) with
  | byte b => exact .pure _
  | nothing => exact .pure _
  | refused => exact .throw _

theorem pause_onBox (seconds : Number) : OnBox (pause seconds) := by
  refine .bind (.request rfl) fun answer => ?_
  cases (answer : Except ClockFault Unit) with
  | ok _ => exact .pure _
  | error fault => exact .throw _

theorem setOutputs_onBox (pattern : Option Int) (wait timeout : Option Number) :
    OnBox (setOutputs pattern wait timeout) := by
  refine .bind (outputByte_onBox pattern) fun byte => ?_
  refine .bind (transmit_onBox _ _) fun _ => ?_
  refine .bind (.setLatch byte) fun _ => .bind (.request rfl) fun _ => ?_
  exact .bind receive_onBox fun _ => pause_onBox _

theorem readInputs_onBox : OnBox readInputs := by
  refine .get_bind (fun _ _ => rfl) fun controller => ?_
  refine .bind (transmit_onBox _ _) fun _ => ?_
  exact .bind receive_onBox fun _ => .pure _

end Control

theorem OnBox.lineClosed : LineClosed fun _ x => OnBox x where
  pure := .pure
  throw := .throw
  bind := .bind
  setOutputs := Control.setOutputs_onBox
  readInputs := Control.readInputs_onBox

/-- A line acts on the box alone. -/
theorem Program.execute_onBox (program : Program) (readings : Nat) (c : Cursor) :
    OnBox (program.execute readings c) :=
  OnBox.lineClosed.execute program readings c

/-- The program that a run started with is held wherever it comes to. -/
theorem Program.Reaches.program_eq {program : Program} {readings turns : Nat}
    {start session : Session} {c : Cursor}
    (h : program.Reaches readings start turns session c) :
    session.controller.program = start.controller.program := by
  induction h with
  | start _ => rfl
  | @turn turns session c c' _ hturn _ ih =>
    have hline := (program.execute_onBox readings c).holding session session.controller.program
    rw [turn_session hturn, ← ih]
    exact congrArg (·.session.controller.program) hline

/-! ## 3. The bound on the readings is never met

A reading sends a byte. So a port with fewer answers left than there may be readings refuses before
the bound is met, and two bounds above that number cannot be told apart. -/

namespace Control

variable {session : Session}

/-- A byte that is sent takes one of the port's answers. -/
theorem writesLeft_transmit {purpose : Purpose} {byte : Option UInt8}
    (h : (session.perform (transmit purpose byte)).result = .ok ()) :
    (session.perform (transmit purpose byte)).session.writesLeft < session.writesLeft := by
  obtain ⟨⟨program, connected, latch⟩, ⟨files, socket, ⟨writes, reads⟩, clock⟩⟩ := session
  cases connected with
  | false => cases h
  | true =>
    cases writes with
    | nil => cases h
    | cons answer later =>
      cases byte with
      | none => cases answer <;> cases h
      | some b =>
        cases answer with
        | refused => cases h
        | short => cases h
        | taken => exact Nat.lt_succ_self later.length

/-- A reading sends a byte, so there is one answer less. -/
theorem writesLeft_readInputs {inputs : Inputs}
    (h : (session.perform readInputs).result = .ok inputs) :
    (session.perform readInputs).session.writesLeft < session.writesLeft := by
  have hsplit : session.perform readInputs = session.perform (do
      transmit .inputs session.controller.latch
      return .ofByte (← receive)) := rfl
  rw [hsplit] at h ⊢
  obtain ⟨⟨⟩, hsent, _⟩ := Session.perform_bind_ok.mp h
  rw [Session.perform_bind, Report.andThen, hsent]
  have hreceive : OnBox (do return Inputs.ofByte (← receive)) :=
    .bind receive_onBox fun _ => .pure _
  exact Nat.lt_of_le_of_lt (hreceive.writesLeft_le _) (writesLeft_transmit hsent)

/-- With more readings allowed than bytes can be sent, the bound makes no difference: the port
refuses first. -/
theorem perform_awaitChanges_readings (c : Condition) (limit : Number) {readings readings' : Nat}
    (last : Inputs) (changes : Nat) (h : session.writesLeft < readings)
    (h' : session.writesLeft < readings') :
    session.perform (awaitChanges c limit readings last changes) =
      session.perform (awaitChanges c limit readings' last changes) := by
  induction readings generalizing readings' session last changes with
  | zero => omega
  | succ readings ih =>
    -- both bounds go down by one with each reading, and so does the number of answers left
    obtain ⟨readings', rfl⟩ : ∃ n, readings' = n + 1 := ⟨readings' - 1, by omega⟩
    unfold awaitChanges
    split
    · rw [Session.perform_bind, Session.perform_bind, Report.andThen, Report.andThen]
      cases hread : (session.perform readInputs).result with
      | error fault => rfl
      | ok now =>
        cases c.watched? with
        | none => rfl
        | some watched =>
          have hlt := writesLeft_readInputs hread
          exact congrArg (Report.after · _ _) (ih _ _ (by omega) (by omega))
    · rfl

/-- The same for a whole `COUNT`. Its first reading is unbounded, hence the bound need not be above
the number of bytes. -/
theorem perform_countChanges_readings (c : Condition) (limit : Option Number)
    {readings readings' : Nat} (h : session.writesLeft ≤ readings)
    (h' : session.writesLeft ≤ readings') :
    session.perform (countChanges readings c limit) =
      session.perform (countChanges readings' c limit) := by
  unfold countChanges
  rw [Session.perform_bind, Session.perform_bind, Report.andThen, Report.andThen]
  cases hread : (session.perform readInputs).result with
  | error fault => rfl
  | ok first =>
    cases limit with
    | none => rfl
    | some limit =>
      -- the first reading is not one of those that are bounded
      have hlt := writesLeft_readInputs hread
      exact congrArg (Report.after · _ _)
        (perform_awaitChanges_readings c limit first 0 (by omega) (by omega))

end Control

namespace Program

variable {program : Program} {session : Session} {readings readings' : Nat}

theorem perform_execute_readings (c : Cursor) (h : session.writesLeft ≤ readings)
    (h' : session.writesLeft ≤ readings') :
    session.perform (program.execute readings c) =
      session.perform (program.execute readings' c) := by
  unfold execute
  cases hi : program[c.line]? with
  | none => rfl
  | some i =>
    cases i with
    | count condition limit =>
      dsimp only
      rw [Session.perform_bind, Session.perform_bind,
        Control.perform_countChanges_readings condition limit h h']
    | _ => rfl

/-- A turn does not depend on the bound either, since screens read nothing. -/
theorem perform_turn_readings (c : Cursor) (h : session.writesLeft ≤ readings)
    (h' : session.writesLeft ≤ readings') :
    session.perform (program.turn readings c) = session.perform (program.turn readings' c) := by
  unfold turn
  rw [Session.perform_bind, Session.perform_bind, Report.andThen, Report.andThen, display_session,
    perform_execute_readings c h h']

/-- The port comes nearer to its end with every turn, or stays where it is. -/
theorem writesLeft_turn_le (program : Program) (session : Session) (readings : Nat) (c : Cursor) :
    (session.perform (program.turn readings c)).session.writesLeft ≤ session.writesLeft := by
  unfold turn
  rw [Session.perform_bind, Report.andThen, display_session]
  cases (session.perform (Control.display (some c.line) true)).result with
  | error fault => exact Nat.le_refl _
  | ok _ => exact (program.execute_onBox readings c).writesLeft_le session

/-- A run does not depend on the bound on readings, as long as that is not below the number of bytes
that the port still takes. -/
theorem perform_resume_readings (screens : Nat) (c : Cursor) (h : session.writesLeft ≤ readings)
    (h' : session.writesLeft ≤ readings') :
    session.perform (program.resume readings screens c) =
      session.perform (program.resume readings' screens c) := by
  induction screens generalizing session c with
  | zero => rfl
  | succ screens ih =>
    unfold resume
    split
    · rw [runFrom_succ, runFrom_succ, Session.perform_bind, Session.perform_bind,
        perform_turn_readings c h h', Report.andThen, Report.andThen]
      have hle := writesLeft_turn_le program session readings' c
      cases (session.perform (program.turn readings' c)).result with
      | error fault => rfl
      | ok c' => exact congrArg (Report.after · _ _) (ih c' (by omega) (by omega))
    · rfl

end Program

end LineControl

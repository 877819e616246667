import LineControl.Proofs.Parts

/-!
# Transcripts

The log of a session says what happened. It does not say what a byte was sent for, whether a port
that was asked to open did, or that a port refused. The transcript does: it lists every request that
a session makes, each with its answer. `perform_events` is the check that nothing else is in it: the
log can be read off the transcript.

A session is a list of steps, each taken on what the earlier ones left, whether they ended in a
fault or not. What holds after every step is proved by an assertion about the controller and the
transcript so far. `Law` lists once what the actions of a controller do to the two, one field for
each kind of exchange, and `Law.after` says that an assertion that keeps to the list holds after
every list of steps. No proof about sessions opens an action again.

## Two assertions

A law has two assertions, `I` between the actions and `M` between a byte that was taken and the byte
that answers it. One would not do for the statements about rounds, where the middle of a round is a
state of its own; those about the latch use the same assertion twice. `Leads I P x Q` is the triple
for this: from `P` the action leads to `Q` with a result, or to `I` with a fault. A fault may come
anywhere in an action, so `I` is a parameter of the triple rather than part of `Q`.

## What is left out

The transcript has no times in it and no text of the screens, and the files of a load are at hand
for that load only. A step is one call on the controller. Listing the program, or showing a row of
it, exchanges nothing but a screen and is not among the steps.
-/

set_option autoImplicit false

namespace LineControl

/-! ## 1. Exchanges -/

/-- A request and its answer. -/
structure Exchange where
  request : Request
  answer : request.Answer

namespace Exchange

/-- What the exchange leaves in the log. -/
def events : Exchange → List Event
  | ⟨.fetch _, _⟩ => []
  | ⟨.display active _, _⟩ => [.displayed active]
  | ⟨.openPort name, _⟩ => [.opened name]
  | ⟨.closePort, _⟩ => [.closed]
  | ⟨.clearInput, _⟩ => [.inputCleared]
  | ⟨.clearOutput, _⟩ => [.outputCleared]
  | ⟨.setTimeout seconds, _⟩ => [.timeoutSet seconds]
  | ⟨.write _ byte, .taken⟩ => [.wrote byte true]
  | ⟨.write _ byte, .short⟩ => [.wrote byte false]
  | ⟨.write _ _, .refused⟩ => []
  | ⟨.read, .byte b⟩ => [.read (some b)]
  | ⟨.read, .nothing⟩ => [.read none]
  | ⟨.read, .refused⟩ => []
  | ⟨.sleep seconds, .ok _⟩ => [.slept seconds]
  | ⟨.sleep _, .error _⟩ => []

/-- Whether the exchange neither moves a byte nor opens a port. -/
def isQuiet : Exchange → Bool
  | ⟨.write _ _, _⟩ => false
  | ⟨.read, _⟩ => false
  | ⟨.openPort _, isOpen⟩ => !isOpen
  | _ => true

end Exchange

/-- The exchanges of a dialogue that is played on the bench. -/
def Bench.transcript {α : Type} (bench : Bench) : Dialogue α → List Exchange
  | .done _ => []
  | .ask request next =>
    let first := bench.answer request
    ⟨request, first.result⟩ :: first.bench.transcript (next first.result)

namespace Bench

variable {α β : Type}

theorem transcript_bind (bench : Bench) (x : Dialogue α) (f : α → Dialogue β) :
    bench.transcript (x.bind f) =
      bench.transcript x ++ (bench.play x).bench.transcript (f (bench.play x).result) := by
  induction x generalizing bench with
  | done a => rfl
  | ask request next ih => simp [Dialogue.bind, transcript, play, ih]

/-- The log of a request is what its exchange leaves there. -/
theorem answer_events (bench : Bench) (r : Request) :
    (bench.answer r).events = Exchange.events ⟨r, (bench.answer r).result⟩ := by
  cases r with
  | openPort name =>
    simp only [answer, openPort]
    split <;> rfl
  | write purpose byte =>
    simp only [answer, write]
    split
    · rfl
    · split <;> rfl
  | read =>
    simp only [answer, read]
    split
    · rfl
    · split <;> rfl
  | sleep seconds =>
    simp only [answer, sleep]
    cases bench.clock seconds <;> rfl
  | _ => rfl

/-- Hence the log of a dialogue is read off its exchanges, one after the other. -/
theorem play_events (bench : Bench) (x : Dialogue α) :
    (bench.play x).events = (bench.transcript x).flatMap Exchange.events := by
  induction x generalizing bench with
  | done a => rfl
  | ask request next ih => simp [transcript, play, ih, answer_events]

end Bench

namespace Session

variable {α β : Type}

/-- The exchanges of an action. -/
def transcript (session : Session) (x : ControlM α) : List Exchange :=
  session.bench.transcript (x.run.run session.controller)

/-- The log of an action can be read off its exchanges. -/
theorem perform_events (session : Session) (x : ControlM α) :
    (session.perform x).events = (session.transcript x).flatMap Exchange.events :=
  session.bench.play_events _

/-- The exchanges of a sequence are those of its parts, if the first part has a result. -/
theorem transcript_bind (session : Session) (x : ControlM α) (f : α → ControlM β) :
    session.transcript (x >>= f) = session.transcript x ++
      match (session.perform x).result with
      | .ok a => (session.perform x).session.transcript (f a)
      | .error _ => [] := by
  unfold transcript perform
  rw [Control.run_bind, Bench.transcript_bind]
  obtain ⟨⟨result, controller⟩, events, output, bench⟩ :=
    session.bench.play (x.run.run session.controller)
  cases result with
  | ok a => rfl
  | error fault => rfl

end Session

/-! ## 2. Steps -/

/-- A step of a session, with the files and the port that are at hand for it. -/
inductive Step where
  | append (built : Except BuildFault Instruction)
  | load (files : String → Option (List UInt8)) (file : String) (format : Option Format)
  | connect (port : Port) (name : String)
  | setOutputs (pattern : Option Int) (wait timeout : Option Number)
  | readInputs
  | checkInputs (condition : Condition)
  /-- A run may be stopped at each screen. -/
  | run (screens : Nat)

namespace Step

/-- The session with what is at hand for the step. -/
def prepare (session : Session) : Step → Session
  | .load files _ _ => session.withFiles files
  | .connect port _ => session.withSocket port
  | _ => session

/-- What the controller does in the step. -/
def action (bench : Bench) : Step → ControlM Unit
  | .append built => Control.append built
  | .load _ file format => Control.load file format
  | .connect _ name => Control.connect name
  | .setOutputs pattern wait timeout => Control.setOutputs pattern wait timeout
  | .readInputs => do let _ ← Control.readInputs
  | .checkInputs condition => do let _ ← Control.checkInputs condition
  | .run screens => Control.run (bench.limits screens)

/-- What is at hand for a step is no business of the controller. -/
theorem controller_prepare (session : Session) (step : Step) :
    (step.prepare session).controller = session.controller := by
  cases step <;> rfl

end Step

namespace Session

/-- Takes a step. -/
def take (session : Session) (step : Step) : Report Unit :=
  (step.prepare session).perform (step.action (step.prepare session).bench)

/-- The exchanges of a step. -/
def exchanges (session : Session) (step : Step) : List Exchange :=
  (step.prepare session).transcript (step.action (step.prepare session).bench)

/-- What some steps leave. A fault does not keep the next step from being taken. -/
def after (session : Session) : List Step → Session
  | [] => session
  | step :: later => (session.take step).session.after later

/-- The exchanges of some steps. -/
def record (session : Session) : List Step → List Exchange
  | [] => []
  | step :: later => session.exchanges step ++ (session.take step).session.record later

end Session

/-! ## 3. Assertions about the exchanges so far

A triple is about all sessions and all pasts, so that it can be used in the middle of an action. The
past is carried along because an assertion may speak of any exchange before. -/

/-- An assertion about a controller and all that was exchanged up to now. -/
abbrev Assertion := Controller → List Exchange → Prop

/-- Where `P` holds the action leads to a result with which `Q` holds, or to a fault after which `I`
holds. -/
def Leads {α : Type} (I P : Assertion) (x : ControlM α) (Q : α → Assertion) : Prop :=
  ∀ (session : Session) (past : List Exchange), P session.controller past →
    match (session.perform x).result with
    | .ok a => Q a (session.perform x).session.controller (past ++ session.transcript x)
    | .error _ => I (session.perform x).session.controller (past ++ session.transcript x)

/-- The action leaves `I` true, whether it ends with a result or with a fault. -/
abbrev Keeps {α : Type} (I : Assertion) (x : ControlM α) : Prop :=
  Leads I I x fun _ => I

namespace Leads

variable {α β : Type} {I P : Assertion}

theorem pure {Q : α → Assertion} (a : α) (h : ∀ c past, P c past → Q a c past) :
    Leads I P (Pure.pure a) Q := by
  intro session past hP
  show Q a session.controller (past ++ [])
  rw [List.append_nil]
  exact h _ _ hP

theorem throw {Q : α → Assertion} (fault : Fault) (h : ∀ c past, P c past → I c past) :
    Leads I P (throw fault) Q := by
  intro session past hP
  show I session.controller (past ++ [])
  rw [List.append_nil]
  exact h _ _ hP

theorem request (r : Request) {Q : r.Answer → Assertion}
    (h : ∀ c past answer, P c past → Q answer c (past ++ [⟨r, answer⟩])) :
    Leads I P (Control.request r) Q := by
  intro session past hP
  exact h _ _ _ hP

theorem modify {Q : Unit → Assertion} (f : Controller → Controller)
    (h : ∀ c past, P c past → Q () (f c) past) : Leads I P (modify f) Q := by
  intro session past hP
  show Q () (f session.controller) (past ++ [])
  rw [List.append_nil]
  exact h _ _ hP

theorem bind {R : α → Assertion} {Q : β → Assertion} {x : ControlM α} {f : α → ControlM β}
    (hx : Leads I P x R) (hf : ∀ a, Leads I (R a) (f a) Q) : Leads I P (x >>= f) Q := by
  intro session past hP
  have hfirst := hx session past hP
  rw [Session.perform_bind, Session.transcript_bind, Report.andThen]
  cases h : (session.perform x).result with
  | ok a =>
    rw [h] at hfirst
    simpa [Report.after] using hf a _ _ hfirst
  | error fault =>
    rw [h] at hfirst
    simpa using hfirst

theorem get_bind {Q : α → Assertion} {f : Controller → ControlM α}
    (hf : ∀ controller, Leads I (fun c past => c = controller ∧ P c past) (f controller) Q) :
    Leads I P (get >>= f) Q :=
  fun session past hP => hf session.controller session past ⟨rfl, hP⟩

end Leads

/-! ## 4. What the actions of a controller do

The fields of `Law` are the cases that a proof about sessions has to look at. They say under which
conditions an exchange can happen, and what the controller is afterwards. -/

/-- `I` holds between the actions, and `M` between a byte that was taken and the byte that answers
it. -/
structure Law (I M : Assertion) : Prop where
  /-- Only the program changes. -/
  holding : ∀ {c past} (program : Program), I c past → I { c with program := program } past
  quiet : ∀ {c past} (e : Exchange), e.isQuiet = true → I c past → I c (past ++ [e])
  /-- A port is opened, and there is a connection from then on. -/
  opened : ∀ {c past} (name : String), I c past →
    I { c with connected := true } (past ++ [⟨.openPort name, true⟩])
  /-- A byte is sent in vain. -/
  unset : ∀ {c past} (b : UInt8) (answer : WriteAnswer), c.connected = true → answer ≠ .taken →
    I c past → I c (past ++ [⟨.write .outputs (some b), answer⟩])
  /-- The byte of the latch is sent in vain, or there is none. -/
  unasked : ∀ {c past} (answer : WriteAnswer), c.connected = true →
    answer ≠ .taken ∨ c.latch = none → I c past → I c (past ++ [⟨.write .inputs c.latch, answer⟩])
  set : ∀ {c past} (b : UInt8), c.connected = true → I c past →
    M { c with latch := some b } (past ++ [⟨.write .outputs (some b), WriteAnswer.taken⟩])
  asked : ∀ {c past} (b : UInt8), c.connected = true → c.latch = some b → I c past →
    M c (past ++ [⟨.write .inputs (some b), WriteAnswer.taken⟩])
  waiting : ∀ {c past} (e : Exchange), e.isQuiet = true → M c past → M c (past ++ [e])
  answered : ∀ {c past} (answer : ReadAnswer), M c past → I c (past ++ [⟨.read, answer⟩])

/-- Sending a byte makes one exchange if there is a connection, and none if there is none. -/
theorem Leads.transmit {I P : Assertion} {Q : Unit → Assertion} (purpose : Purpose)
    (byte : Option UInt8) (hoff : ∀ c past, c.connected = false → P c past → I c past)
    (hunsent : ∀ c past (answer : WriteAnswer), c.connected = true →
      answer ≠ .taken ∨ byte = none → P c past → I c (past ++ [⟨.write purpose byte, answer⟩]))
    (hsent : ∀ c past b, c.connected = true → byte = some b → P c past →
      Q () c (past ++ [⟨.write purpose (some b), WriteAnswer.taken⟩])) :
    Leads I P (Control.transmit purpose byte) Q := by
  refine .get_bind fun controller => ?_
  cases hon : controller.connected with
  | false => exact .throw _ fun c past h => hoff c past (h.1 ▸ hon) h.2
  | true =>
    -- the byte may be missing, and the port is asked nevertheless: the answer does not help then
    let R (answer : WriteAnswer) : Assertion := fun c past =>
      (answer ≠ .taken ∨ byte = none → I c past) ∧
        (answer = .taken → byte ≠ none → Q () c past)
    refine .bind (R := R) (.request _ ?_) fun answer => ?_
    · rintro c past answer ⟨rfl, hP⟩
      refine ⟨fun h => hunsent c past answer hon h hP, fun htaken hbyte => ?_⟩
      obtain ⟨b, rfl⟩ := Option.ne_none_iff_exists'.mp hbyte
      exact htaken ▸ hsent c past b hon rfl hP
    · cases (answer : WriteAnswer) with
      | refused => exact .throw _ fun c past h => h.1 (.inl nofun)
      | short => cases byte <;> exact .throw _ fun c past h => h.1 (.inl nofun)
      | taken =>
        cases byte with
        | none => exact .throw _ fun c past h => h.1 (.inr rfl)
        | some b => exact .pure _ fun c past h => h.2 rfl nofun

theorem Leads.receive {I P : Assertion}
    (h : ∀ c past (answer : ReadAnswer), P c past → I c (past ++ [⟨.read, answer⟩])) :
    Leads I P Control.receive fun _ => I := by
  refine .bind (.request _ h) fun answer => ?_
  cases (answer : ReadAnswer) with
  | byte b => exact .pure _ fun _ _ h => h
  | nothing => exact .pure _ fun _ _ h => h
  | refused => exact .throw _ fun _ _ h => h

namespace Keeps

variable {α : Type} {I : Assertion}

theorem pure (a : α) : Keeps I (Pure.pure a : ControlM α) :=
  Leads.pure a fun _ _ h => h

theorem throw (fault : Fault) : Keeps I (throw fault : ControlM α) :=
  Leads.throw fault fun _ _ h => h

theorem get_bind {f : Controller → ControlM α} (hf : ∀ controller, Keeps I (f controller)) :
    Keeps I (get >>= f) :=
  fun session past h => hf session.controller session past h

theorem outputByte (pattern : Option Int) : Keeps I (Control.outputByte pattern) :=
  Control.outputByte_cases pure throw pattern

end Keeps

namespace Law

variable {I M : Assertion} (law : Law I M)

include law

theorem request_keeps (r : Request) (hr : ∀ answer, Exchange.isQuiet ⟨r, answer⟩ = true) :
    Keeps I (Control.request r) :=
  .request r fun _ _ answer h => law.quiet ⟨r, answer⟩ (hr answer) h

theorem hold_keeps (program : Controller → Program) :
    Keeps I (modify fun c => { c with program := program c } : ControlM Unit) :=
  .modify _ fun c _ h => law.holding (program c) h

/-! ### Actions on the box -/

/-- Waiting moves no byte, whatever the clock says. -/
theorem pause_keeps (seconds : Number) : Keeps I (Control.pause seconds) := by
  refine .bind (law.request_keeps (.sleep seconds) fun _ => rfl) fun answer => ?_
  cases (answer : Except ClockFault Unit) with
  | ok _ => exact Keeps.pure _
  | error fault => exact Keeps.throw _

/-- Setting the outputs is a round: the byte is sent, noted in the latch and answered. -/
theorem setOutputs_keeps (pattern : Option Int) (wait timeout : Option Number) :
    Keeps I (Control.setOutputs pattern wait timeout) := by
  refine .bind (Keeps.outputByte pattern) fun byte => ?_
  -- between the byte that is taken and the latch, neither assertion holds
  let sent (_ : Unit) : Assertion := fun c past => M { c with latch := some byte } past
  refine .bind (R := sent) (.transmit .outputs (some byte) ?_ ?_ ?_) fun _ => ?_
  · exact fun _ _ _ h => h
  · intro c past answer hon hvain h
    exact law.unset byte answer hon (hvain.resolve_right nofun) h
  · intro c past b hon hb h
    cases hb
    exact law.set byte hon h
  · refine .bind (R := fun _ => M) (.modify _ fun _ _ h => h) fun _ => ?_
    refine .bind (R := fun _ => M) (.request _ fun _ _ _ h => law.waiting _ rfl h) fun _ => ?_
    refine .bind (.receive fun _ _ answer h => law.answered answer h) fun _ => ?_
    exact law.pause_keeps _

/-- Reading the inputs is a round with the byte of the latch. -/
theorem readInputs_keeps : Keeps I Control.readInputs := by
  refine Leads.get_bind fun controller => ?_
  refine .bind (R := fun _ => M) (.transmit .inputs controller.latch ?_ ?_ ?_) fun _ => ?_
  · exact fun _ _ _ h => h.2
  · rintro c past answer hon hvain ⟨rfl, h⟩
    exact law.unasked answer hon hvain h
  · rintro c past b hon hb ⟨rfl, h⟩
    exact law.asked b hon hb h
  · exact .bind (.receive fun _ _ answer h => law.answered answer h) fun _ => Keeps.pure _

/-- Connecting opens a port, and then sets the outputs twice. -/
theorem establish_keeps (name : String) : Keeps I (Control.establish name) := by
  -- between the opening of the port and the note of it, `I` holds of what the controller will be
  let opened (isOpen : Bool) : Assertion := fun c past =>
    if isOpen then I { c with connected := true } past else I c past
  refine .bind (R := opened) (.request _ ?_) fun isOpen => ?_
  · intro c past isOpen h
    cases (isOpen : Bool) with
    | false => exact law.quiet ⟨.openPort name, false⟩ rfl h
    | true => exact law.opened name h
  · cases (isOpen : Bool) with
    | false => exact .throw _ fun _ _ h => h
    | true =>
      refine .bind (R := fun _ => I) (.modify _ fun _ _ h => h) fun _ => ?_
      refine .bind (law.request_keeps _ fun _ => rfl) fun _ => ?_
      refine .bind (law.request_keeps _ fun _ => rfl) fun _ => ?_
      exact .bind (law.setOutputs_keeps _ _ _) fun _ => law.setOutputs_keeps _ _ _

theorem connect_keeps (name : String) : Keeps I (Control.connect name) := by
  rw [Control.connect_eq]
  refine Keeps.get_bind fun controller => ?_
  cases controller.connected with
  | false => exact law.establish_keeps name
  | true => exact .bind (law.request_keeps _ fun _ => rfl) fun _ => law.establish_keeps name

/-! ### Runs -/

theorem display_keeps (active : Option Int) (clear : Bool) :
    Keeps I (Control.display active clear) := by
  refine Keeps.get_bind fun controller => ?_
  cases Listing.listing controller.program active with
  | ok listing => exact law.request_keeps _ fun _ => rfl
  | error fault => exact .bind (law.request_keeps _ fun _ => rfl) fun _ => Keeps.throw _

/-- A run keeps the assertion because its two actions on the box do. -/
theorem runClosed : RunClosed fun _ x => Keeps I x where
  pure := Keeps.pure
  throw := Keeps.throw
  bind := Leads.bind
  setOutputs := law.setOutputs_keeps
  readInputs := law.readInputs_keeps
  get_bind := Keeps.get_bind
  display := law.display_keeps

/-! ### Sessions -/

theorem append_keeps (built : Except BuildFault Instruction) :
    Keeps I (Control.append built) := by
  cases built with
  | ok i => exact law.hold_keeps fun c => c.program ++ [i]
  | error fault => exact Keeps.throw _

/-- A load changes the program, and that even if it fails. -/
theorem load_keeps (file : String) (format : Option Format) :
    Keeps I (Control.load file format) := by
  cases format with
  | none => exact Keeps.throw _
  | some format =>
    refine .bind (law.request_keeps (.fetch file) fun _ => rfl) fun content => ?_
    cases (content : Option (List UInt8)) with
    | none => exact Keeps.throw _
    | some bytes =>
      refine .bind (law.hold_keeps fun _ => (format.load bytes).program) fun _ => ?_
      cases (format.load bytes).fault with
      | none => exact Keeps.pure _
      | some fault => exact Keeps.throw _

theorem action_keeps (bench : Bench) (step : Step) : Keeps I (step.action bench) := by
  cases step with
  | append built => exact law.append_keeps built
  | load files file format => exact law.load_keeps file format
  | connect port name => exact law.connect_keeps name
  | setOutputs pattern wait timeout => exact law.setOutputs_keeps pattern wait timeout
  | readInputs => exact .bind law.readInputs_keeps fun _ => Keeps.pure _
  | checkInputs condition => exact .bind (law.runClosed.checkInputs condition) fun _ => Keeps.pure _
  | run screens => exact law.runClosed.run _

theorem take {session : Session} {past : List Exchange} (step : Step)
    (h : I session.controller past) :
    I (session.take step).session.controller (past ++ session.exchanges step) := by
  rw [← step.controller_prepare session] at h
  have hkeeps := law.action_keeps (step.prepare session).bench step _ past h
  unfold Session.take Session.exchanges
  split at hkeeps
  · exact hkeeps
  · exact hkeeps

/-- What keeps to the law holds after any steps, whether they end in faults or not. -/
theorem after (session : Session) {past : List Exchange} (steps : List Step)
    (h : I session.controller past) :
    I (session.after steps).controller (past ++ session.record steps) := by
  induction steps generalizing session past with
  | nil => simpa [Session.after, Session.record] using h
  | cons step later ih =>
    simpa [Session.after, Session.record] using ih _ (law.take step h)

end Law

end LineControl

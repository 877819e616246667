import LineControl.Control.Session

/-!
# Playing actions one after the other

What a session makes of an action is a `Report`. This file says what it makes of two actions in
sequence: the report of the first, and, unless that ended in a fault, the report of the second on
the session that the first left,

    session.perform (x >>= f) = (session.perform x).andThen f

(`perform_bind`). All arguments about runs go through this one equation and through
`perform_bind_ok` and `perform_bind_error`, its two readings on results; no proof about runs opens
a dialogue.

The laws of the dialogue monad come first, since equations between actions rest on them. A dialogue
is a tree of requests, and a controller's action is one with a state and faults on top of it
(`ControlM`). These layers are opened in `Control.run_bind` and nowhere else, so another way to
stack them would change this file alone.

## The clock

A bench may refuse to wait, and its clock says when. The clock is the one part of a bench that no
request changes (`Session.clock_perform`), so a statement about a run may speak of the clock of the
session that it started in.

## Faults

`FaultsIn faults x` says that `x` ends with a result or with one of `faults`, whatever the session.
It is closed under sequences, hence found by following the text of an action, and it is an upper
bound: that each of the faults does occur is said, where it matters, by the statements that use it.
-/

set_option autoImplicit false

namespace LineControl

/-! ## 1. Dialogues form a lawful monad -/

namespace Dialogue

variable {α β γ : Type}

theorem bind_done (x : Dialogue α) : x.bind .done = x := by
  induction x with
  | done a => rfl
  | ask request next ih => simp only [bind, ih]

theorem bind_bind (x : Dialogue α) (f : α → Dialogue β) (g : β → Dialogue γ) :
    (x.bind f).bind g = x.bind fun a => (f a).bind g := by
  induction x with
  | done a => rfl
  | ask request next ih => simp only [bind, ih]

instance : LawfulMonad Dialogue :=
  LawfulMonad.mk' Dialogue bind_done (fun _ _ => rfl) bind_bind

end Dialogue

/-! ## 2. Sequences of actions -/

/-- Playing a sequence plays its parts, the second one on the bench that the first one left. -/
theorem Bench.play_bind {α β : Type} (bench : Bench) (x : Dialogue α) (f : α → Dialogue β) :
    bench.play (x.bind f) =
      let first := bench.play x
      let second := first.bench.play (f first.result)
      ⟨second.result, first.events ++ second.events, first.output ++ second.output,
        second.bench⟩ := by
  induction x generalizing bench with
  | done a => simp [Dialogue.bind, play, quiet]
  | ask request next ih =>
    simp only [Dialogue.bind, play, ih, List.append_assoc, String.append_assoc]

/-- The dialogue of a sequence. The three layers of the monad are opened here and nowhere else. -/
theorem Control.run_bind {α β : Type} (x : ControlM α) (f : α → ControlM β)
    (controller : Controller) :
    (x >>= f).run.run controller =
      (x.run.run controller).bind fun outcome =>
        match outcome with
        | (.ok a, controller) => (f a).run.run controller
        | (.error fault, controller) => .done (.error fault, controller) := by
  show Dialogue.bind _ _ = _
  congr 1
  funext outcome
  obtain ⟨result, controller⟩ := outcome
  cases result with
  | ok a => rfl
  | error fault => rfl

/-- The report with events and text that came before it. -/
def Report.after {α : Type} (report : Report α) (events : List Event) (output : String) :
    Report α :=
  { report with events := events ++ report.events, output := output ++ report.output }

/-- Goes on with an action where a report ended, unless it ended in a fault. -/
def Report.andThen {α β : Type} (report : Report α) (f : α → ControlM β) : Report β :=
  match report.result with
  | .ok a => (report.session.perform (f a)).after report.events report.output
  | .error fault => { report with result := .error fault }

namespace Session

variable {α β : Type} {session : Session}

theorem perform_pure (session : Session) (a : α) :
    session.perform (pure a) = ⟨.ok a, [], "", session⟩ := rfl

theorem perform_throw (session : Session) (fault : Fault) :
    session.perform (throw fault : ControlM α) = ⟨.error fault, [], "", session⟩ := rfl

/-- The report of a sequence is that of its parts, one after the other. -/
theorem perform_bind (session : Session) (x : ControlM α) (f : α → ControlM β) :
    session.perform (x >>= f) = (session.perform x).andThen f := by
  unfold perform Report.andThen
  rw [Control.run_bind, Bench.play_bind]
  obtain ⟨⟨result, controller⟩, events, output, bench⟩ :=
    session.bench.play (x.run.run session.controller)
  cases result with
  | ok a => rfl
  | error fault => simp [Bench.play, Bench.quiet]

/-- A sequence gives a result only through a result of its first part. -/
theorem perform_bind_ok {x : ControlM α} {f : α → ControlM β} {b : β} :
    (session.perform (x >>= f)).result = .ok b ↔
      ∃ a, (session.perform x).result = .ok a ∧
        ((session.perform x).session.perform (f a)).result = .ok b := by
  rw [perform_bind, Report.andThen]
  cases h : (session.perform x).result with
  | ok a => simp [Report.after]
  | error fault => simp

/-- A sequence stops with a fault of its first part, or with one of its second part. -/
theorem perform_bind_error {x : ControlM α} {f : α → ControlM β} {fault : Fault} :
    (session.perform (x >>= f)).result = .error fault ↔
      (session.perform x).result = .error fault ∨
        ∃ a, (session.perform x).result = .ok a ∧
          ((session.perform x).session.perform (f a)).result = .error fault := by
  rw [perform_bind, Report.andThen]
  cases h : (session.perform x).result with
  | ok a => simp [Report.after]
  | error fault => simp

/-- Looking at the controller is no event. -/
theorem perform_get_bind (session : Session) (f : Controller → ControlM α) :
    session.perform (get >>= f) = session.perform (f session.controller) := rfl

end Session

/-- No request changes the clock. -/
theorem Bench.clock_answer (bench : Bench) (r : Request) :
    (bench.answer r).bench.clock = bench.clock := by
  cases r with
  | openPort name =>
    simp only [answer, openPort]
    split <;> rfl
  | write purpose byte =>
    simp only [answer, write]
    split
    · rfl
    · split <;> rfl
  | read =>
    simp only [answer, read]
    split
    · rfl
    · split <;> rfl
  | _ => rfl

theorem Bench.clock_play {α : Type} (bench : Bench) (x : Dialogue α) :
    (bench.play x).bench.clock = bench.clock := by
  induction x generalizing bench with
  | done a => rfl
  | ask request next ih => exact (ih _ _).trans (bench.clock_answer request)

/-- Whatever is done, the clock stays the same. -/
theorem Session.clock_perform {α : Type} (session : Session) (x : ControlM α) :
    (session.perform x).session.bench.clock = session.bench.clock :=
  session.bench.clock_play _

/-- Waiting is up to the clock alone, and changes nothing. -/
theorem Session.perform_pause (session : Session) (seconds : Number) :
    session.perform (Control.pause seconds) =
      match session.bench.clock seconds with
      | .ok () => ⟨.ok (), [.slept seconds], "", session⟩
      | .error fault => ⟨.error (.clock fault), [], "", session⟩ := by
  have hasked : session.perform (Control.request (.sleep seconds)) =
      ⟨.ok (session.bench.clock seconds),
        if (session.bench.clock seconds).isOk then [.slept seconds] else [], "", session⟩ := by
    show Report.mk _ (_ ++ []) _ _ = _
    rw [List.append_nil]
    rfl
  unfold Control.pause
  rw [perform_bind, hasked, Report.andThen]
  cases session.bench.clock seconds with
  | ok _ => rfl
  | error fault => rfl

/-! ## 3. The faults an action can end in

The lemmas have the names of the actions, so that a statement about an action is proved by writing
down the action. -/

/-- Whatever the session, the action ends with a result or with one of the given faults. -/
def FaultsIn {α : Type} (faults : List Fault) (x : ControlM α) : Prop :=
  ∀ (session : Session) (fault : Fault),
    (session.perform x).result = .error fault → fault ∈ faults

namespace FaultsIn

variable {α β : Type} {faults faults' : List Fault}

theorem mono {x : ControlM α} (h : FaultsIn faults x) (hsub : faults ⊆ faults') :
    FaultsIn faults' x :=
  fun session fault herr => hsub (h session fault herr)

theorem pure (a : α) : FaultsIn faults (Pure.pure a : ControlM α) := by
  intro session fault herr
  cases herr

theorem throw {fault : Fault} (h : fault ∈ faults) :
    FaultsIn faults (throw fault : ControlM α) := by
  intro session fault' herr
  rw [Session.perform_throw] at herr
  cases herr
  exact h

theorem request (r : Request) : FaultsIn faults (Control.request r) := by
  intro session fault herr
  cases herr

theorem modify (f : Controller → Controller) :
    FaultsIn faults (modify f : ControlM Unit) := by
  intro session fault herr
  cases herr

theorem get : FaultsIn faults (get : ControlM Controller) := by
  intro session fault herr
  cases herr

theorem bind {x : ControlM α} {f : α → ControlM β} (hx : FaultsIn faults x)
    (hf : ∀ a, FaultsIn faults (f a)) : FaultsIn faults (x >>= f) := by
  intro session fault herr
  rcases Session.perform_bind_error.mp herr with h | ⟨a, _, h⟩
  · exact hx session fault h
  · exact hf a _ fault h

end FaultsIn

end LineControl

import LineControl.Proofs.Grammar
import Mathlib.Data.List.Induction
import Mathlib.Logic.Basic

/-!
# What a refusal says

The check refuses a program with one fault, at one line. This file says what that is worth.

What is open below some lines is read off the grammar: `Grammar.Leaves` takes the lines apart into
whole lines of the outermost level and, for each open structure, its head and whole lines of its
inside. The pass of the check gets through some lines with some structures open exactly if the lines
leave these structures open (`scan_eq_ok_iff`), and `Nesting.Stop` lists the lines it does not get
past. Everything about refusals is put together from these two:

* a refusal at a line is final, one at the end of the program can be mended by closing lines
  (`refused_for_now_or_for_good`);
* the line that a fault names is to blame for it (`check_names_culprit`).

## Blame without the pass

`Blames` is stated with the grammar alone, so that blaming is not what the pass happens to do. The
line that is named need not be the one at which the pass stops: a closing line that does not fit
makes the head of the innermost open structure the culprit, not itself. In each of its cases the
lines above leave structures open, hence have no fault of their own. So what is blamed is the first
fault from the top, a program has at most one line to blame, and the two halves of
`check_names_culprit` say together that it is the line of the message.

The texts of the faults are part of the statement. `message_eq` says that the wording is the line
and the cause and nothing else.
-/

set_option autoImplicit false

namespace LineControl

/-! ## 1. What some lines leave open -/

namespace Grammar

open Nesting

/-- The lines leave the structures open, innermost first. They are lines of the outermost level and
then, from the outermost open structure to the innermost, its head and lines of its inside. -/
inductive Leaves : List Opening → Program → Prop where
  | outside {front : Program} : Lines true maxDepth front → CountsHaveValues front →
      Leaves [] front
  | inside {opened : List Opening} {front body : Program} {head : Instruction} {kind : Kind} :
      Leaves opened front → opened.length < maxDepth → head.opens = some kind →
      Lines false (maxDepth - (opened.length + 1)) body → CountsHaveValues body →
      Leaves (⟨front.length + 1, kind⟩ :: opened) (front ++ head :: body)

variable {opened opened' : List Opening} {front more program : Program} {i : Instruction}
  {kind : Kind}

theorem Leaves.length_le (h : Leaves opened front) : opened.length ≤ maxDepth := by
  cases h with
  | outside _ _ => exact Nat.zero_le _
  | inside _ hlt _ _ _ => exact hlt

/-- Whole lines of the current level change nothing. -/
theorem Leaves.append (h : Leaves opened front)
    (hmore : ∀ outermost, Lines outermost (maxDepth - opened.length) more)
    (hcounts : CountsHaveValues more) : Leaves opened (front ++ more) := by
  cases h with
  | outside hlines hvalues => exact .outside (hlines.append (hmore true)) (hvalues.append hcounts)
  | inside hfront hlt hopens hbody hvalues =>
    rw [List.append_assoc, List.cons_append]
    exact .inside hfront hlt hopens (hbody.append (hmore false)) (hvalues.append hcounts)

/-- The line that closes the innermost structure makes a block of its head and its inside. -/
theorem Leaves.close {o : Opening} (h : Leaves (o :: opened) front)
    (hcloses : i.closes o.kind = true) : Leaves opened (front ++ [i]) := by
  cases h with
  | @inside _ outer body head kind houter hlt hopens hbody hvalues =>
    rw [List.append_assoc, List.cons_append]
    apply houter.append
    · intro outermost
      have hdepth : maxDepth - opened.length = maxDepth - (opened.length + 1) + 1 := by omega
      rw [hdepth]
      exact .block (encloses_of_closes hopens hcloses) hbody .nil
    · intro condition hmem
      simp only [List.mem_cons, List.mem_append, List.not_mem_nil, or_false] at hmem
      rcases hmem with rfl | hmem | rfl
      · cases hopens
      · exact hvalues condition hmem
      · cases hcloses

/-- One line of the pass. -/
theorem Leaves.change (h : Leaves opened front)
    (hchange : Change (front.length + 1) i opened opened') (hcounts : CountsHaveValues [i]) :
    Leaves opened' (front ++ [i]) := by
  cases hchange with
  | enter hopens hlt =>
    exact .inside h hlt hopens .nil fun condition hmem => absurd hmem List.not_mem_nil
  | close hcloses => exact h.close hcloses
  | lone hclosing =>
    cases h with
    | outside hlines hvalues =>
      exact .outside (hlines.append (.lone hclosing .nil)) (hvalues.append hcounts)
  | keep hopens hclosing =>
    exact h.append (fun _ => .simple (isSimple_of_opens hopens hclosing) .nil) hcounts

/-- The pass with one line more at the end. -/
theorem scan_concat (front : Program) (i : Instruction) :
    scan [] 1 (front ++ [i]) =
      match scan [] 1 front with
      | .ok opened => step opened (front.length + 1) i
      | .error fault => .error fault := by
  rw [scan_append]
  cases scan [] 1 front with
  | error fault => rfl
  | ok opened =>
    dsimp only [scan]
    rw [Nat.add_comm 1]
    cases step opened (front.length + 1) i with
    | error fault => rfl
    | ok opened' => rfl

/-- By induction from the end: the last line makes one of the changes to what is open above it. -/
theorem leaves_of_scan (h : scan [] 1 program = .ok opened) : Leaves opened program := by
  induction program using List.reverseRecOn generalizing opened with
  | nil =>
    cases h
    exact .outside .nil fun condition hmem => absurd hmem List.not_mem_nil
  | append_singleton front i ih =>
    have hcounts : CountsHaveValues [i] :=
      (countsHaveValues_of_scan h).mono (List.subset_append_right front [i])
    rw [scan_concat] at h
    cases hfront : scan [] 1 front with
    | error fault =>
      rw [hfront] at h
      cases h
    | ok before =>
      rw [hfront] at h
      exact (ih hfront).change (step_change h) hcounts

theorem step_of_opens (hopens : i.opens = some kind) (line : Nat) :
    step opened line i = enter opened ⟨line, kind⟩ := by
  cases i with
  | repeatStart count =>
    cases hopens
    rfl
  | ifStart condition =>
    cases hopens
    rfl
  | _ => cases hopens

/-- By induction on the open structures: the pass gets through the outermost lines and then through
one inside after the other. -/
theorem scan_of_leaves (h : Leaves opened program) : scan [] 1 program = .ok opened := by
  induction h with
  | @outside front hlines hcounts =>
    have hroom : ([] : List Opening).length + maxDepth ≤ maxDepth := by simp
    have hscan : scan [] 1 (front ++ []) = .ok [] :=
      scan_lines hlines hcounts hroom (fun _ => rfl) []
    rw [List.append_nil] at hscan
    exact hscan
  | @inside opened front body head kind _ hlt hopens hbody hcounts ih =>
    have hroom : (⟨front.length + 1, kind⟩ :: opened : List Opening).length +
        (maxDepth - (opened.length + 1)) ≤ maxDepth := by
      rw [List.length_cons]
      omega
    -- inside a block no closing line stands alone, so the stack need not be empty
    have hinner : false = true → (⟨front.length + 1, kind⟩ :: opened : List Opening) = [] := by
      intro h
      cases h
    have hinside : scan (⟨front.length + 1, kind⟩ :: opened) (front.length + 1 + 1) (body ++ []) =
        .ok (⟨front.length + 1, kind⟩ :: opened) := scan_lines hbody hcounts hroom hinner []
    rw [List.append_nil] at hinside
    rw [scan_append, ih, Nat.add_comm 1]
    dsimp only [scan]
    rw [step_of_opens hopens, enter, if_pos hlt]
    exact hinside

/-- The pass of the check in terms of the grammar. -/
theorem scan_eq_ok_iff : scan [] 1 program = .ok opened ↔ Leaves opened program :=
  ⟨leaves_of_scan, scan_of_leaves⟩

end Grammar

/-! ## 2. The line at which the pass stops

There are five ways to stop, one for each fault. Which one it is depends on the line and on the
innermost open structure, and for the last of them on how many are open. -/

namespace Nesting

/-- Why the pass does not get past a line. -/
inductive Stop (line : Nat) : Instruction → List Opening → NestingFault → Prop where
  | countless {condition : Condition} {opened : List Opening} :
      Stop line (.count condition none) opened (.countWithoutValue line)
  | full {i : Instruction} {kind : Kind} {opened : List Opening} : i.opens = some kind →
      maxDepth ≤ opened.length → Stop line i opened (.tooDeep line)
  | inConditional {i : Instruction} {head : Nat} {opened : List Opening} : i.isClosing = true →
      i.closes .conditional = false →
      Stop line i (⟨head, .conditional⟩ :: opened) (.ifWithoutEnd head)
  | inLoop {head : Nat} {counted : Bool} {opened : List Opening} :
      Stop line .ifEnd (⟨head, .loop counted⟩ :: opened) (.repeatWithoutEnd head)
  | uncounted {head : Nat} {opened : List Opening} :
      Stop line .repeatEnd (⟨head, .loop false⟩ :: opened) (.endWithoutCount head)

variable {opened opened' : List Opening} {line : Nat} {i : Instruction} {fault : NestingFault}
  {program : Program}

theorem enter_eq_error {o : Opening} (h : enter opened o = .error fault) :
    maxDepth ≤ opened.length ∧ fault = .tooDeep o.line := by
  unfold enter at h
  split at h
  · cases h
  · cases h
    exact ⟨Nat.le_of_not_lt ‹_›, rfl⟩

/-- The end of a loop stops the pass inside an `IF`, or if it needs a count and there is none. -/
theorem leaveLoop_eq_error {counting : Bool} (h : leaveLoop counting opened = .error fault) :
    (∃ head outer, opened = ⟨head, .conditional⟩ :: outer ∧ fault = .ifWithoutEnd head) ∨
      counting = true ∧
        ∃ head outer, opened = ⟨head, .loop false⟩ :: outer ∧ fault = .endWithoutCount head := by
  unfold leaveLoop at h
  split at h
  · cases h
  · cases h
    exact .inl ⟨_, _, rfl, rfl⟩
  · split at h
    · rename_i hcounting
      rw [Bool.and_eq_true, Bool.not_eq_true'] at hcounting
      obtain ⟨hcounting, rfl⟩ := hcounting
      cases h
      exact .inr ⟨hcounting, _, _, rfl, rfl⟩
    · cases h

theorem leaveConditional_eq_error (h : leaveConditional opened = .error fault) :
    ∃ head counted outer, opened = ⟨head, .loop counted⟩ :: outer ∧
      fault = .repeatWithoutEnd head := by
  unfold leaveConditional at h
  split at h
  · cases h
  · cases h
  · cases h
    exact ⟨_, _, _, rfl, rfl⟩

/-- A line at which the pass stops is one of the five kinds. -/
theorem stop_of_step (h : step opened line i = .error fault) : Stop line i opened fault := by
  cases i with
  | repeatStart count =>
    obtain ⟨hfull, rfl⟩ := enter_eq_error h
    exact .full rfl hfull
  | ifStart condition =>
    obtain ⟨hfull, rfl⟩ := enter_eq_error h
    exact .full rfl hfull
  | repeatUntil condition =>
    obtain ⟨head, outer, rfl, rfl⟩ | ⟨hcounting, _⟩ := leaveLoop_eq_error h
    · exact .inConditional rfl rfl
    · -- only `ENDREPEAT` needs a count
      cases hcounting
  | repeatForever =>
    obtain ⟨head, outer, rfl, rfl⟩ | ⟨hcounting, _⟩ := leaveLoop_eq_error h
    · exact .inConditional rfl rfl
    · cases hcounting
  | repeatEnd =>
    obtain ⟨head, outer, rfl, rfl⟩ | ⟨_, head, outer, rfl, rfl⟩ := leaveLoop_eq_error h
    · exact .inConditional rfl rfl
    · exact .uncounted
  | ifEnd =>
    obtain ⟨head, counted, outer, rfl, rfl⟩ := leaveConditional_eq_error h
    exact .inLoop
  | count condition value =>
    cases value with
    | none =>
      cases h
      exact .countless
    | some value => cases h
  | setOutput label pattern value => cases h
  | plain label condition pattern value => cases h
  | plainEnd label condition => cases h

/-- And each of the five kinds stops the pass. -/
theorem step_of_stop (h : Stop line i opened fault) : step opened line i = .error fault := by
  cases h with
  | countless => rfl
  | full hopens hfull =>
    rw [Grammar.step_of_opens hopens, enter, if_neg (Nat.not_lt.mpr hfull)]
  | inConditional hclosing hcloses =>
    cases i with
    | repeatUntil condition => rfl
    | repeatForever => rfl
    | repeatEnd => rfl
    | ifEnd => cases hcloses
    | _ => cases hclosing
  | inLoop => rfl
  | uncounted => rfl

/-- A pass that stops has got through the lines above the one where it stops. -/
theorem scan_eq_error_iff : scan [] 1 program = .error fault ↔
    ∃ front i rest opened, program = front ++ i :: rest ∧ Grammar.Leaves opened front ∧
      Stop (front.length + 1) i opened fault := by
  constructor
  · intro h
    induction program using List.reverseRecOn with
    | nil => cases h
    | append_singleton front i ih =>
      rw [Grammar.scan_concat] at h
      cases hfront : scan [] 1 front with
      | error fault' =>
        rw [hfront] at h
        cases h
        obtain ⟨front', i', rest, opened, rfl, hleaves, hstop⟩ := ih hfront
        exact ⟨front', i', rest ++ [i], opened, by simp, hleaves, hstop⟩
      | ok opened =>
        rw [hfront] at h
        exact ⟨front, i, [], opened, rfl, Grammar.scan_eq_ok_iff.mp hfront, stop_of_step h⟩
  · rintro ⟨front, i, rest, opened, rfl, hleaves, hstop⟩
    rw [scan_append, Grammar.scan_eq_ok_iff.mpr hleaves, Nat.add_comm 1]
    dsimp only [scan]
    rw [step_of_stop hstop]

end Nesting

namespace NestingFault

/-- The line that the fault names. -/
def line : NestingFault → Nat
  | countWithoutValue line | ifWithoutEnd line | repeatWithoutEnd line | endWithoutCount line
  | tooDeep line => line

/-- The cause that the fault gives. -/
def cause : NestingFault → String
  | countWithoutValue _ => "COUNT has no value"
  | ifWithoutEnd _ => "IF structure has no ending"
  | repeatWithoutEnd _ => "REPEAT structure has no ending"
  | endWithoutCount _ => "ENDREPEAT has no matching REPEAT n statement"
  | tooDeep _ => "Structures too deeply nested"

theorem message_eq (fault : NestingFault) :
    fault.message = "Line " ++ toString fault.line ++ ": " ++ fault.cause := by
  cases fault <;> simp [message, line, cause, String.append_assoc]

end NestingFault

namespace Program

open Nesting Grammar

variable {program : Program} {fault : NestingFault}

/-- A program is refused at one of its lines, or at its end for a structure left open. -/
theorem check_eq_error_iff : program.check = .error fault ↔
    scan [] 1 program = .error fault ∨
      ∃ o opened, scan [] 1 program = .ok (o :: opened) ∧ fault = o.unclosed := by
  unfold check
  cases scan [] 1 program with
  | error fault' => simp
  | ok opened =>
    cases opened with
    | nil => simp
    | cons o outer => simp [eq_comm]

/-! ## 3. Refusals that can be mended

At the end of a program nothing is wrong but that structures are open, and closing lines close them.
At a line the pass stops and never looks at what comes after. -/

/-- Whether the line is an `UNTIL` that can be built, a `FOREVER` or an `ENDIF`: the closing lines
that need no number at the head of their structure. -/
def IsFreeEnd (i : Instruction) : Prop :=
  (∃ condition, Instruction.mkUntil condition = .ok i) ∨ i = .repeatForever ∨ i = .ifEnd

/-- A line that closes a structure of the kind. -/
def closer : Kind → Instruction
  | .conditional => .ifEnd
  | .loop _ => .repeatForever

theorem isFreeEnd_closer (kind : Kind) : IsFreeEnd (closer kind) := by
  cases kind with
  | conditional => exact .inr (.inr rfl)
  | loop counted => exact .inr (.inl rfl)

/-- Whatever is open can be closed, one line for each structure. -/
theorem scan_closers (opened : List Opening) (line : Nat) :
    scan opened line (opened.map (closer ·.kind)) = .ok [] := by
  induction opened generalizing line with
  | nil => rfl
  | cons o outer ih =>
    obtain ⟨head, kind⟩ := o
    cases kind with
    | conditional => exact ih (line + 1)
    | loop counted => exact ih (line + 1)

/-- The pass does not look past a fault. -/
theorem scan_append_of_error (h : scan [] 1 program = .error fault) (more : Program) :
    scan [] 1 (program ++ more) = .error fault := by
  rw [scan_append, h]

/-- **A refusal is for now or for good.** A refused program either needs only some closing lines at
its end, no more than eight, to be accepted, or it is refused with the same fault whatever lines
follow it; never both. -/
theorem refused_for_now_or_for_good (h : program.check = .error fault) :
    Xor
      (∃ closing : Program, closing.length ≤ 8 ∧ (∀ i ∈ closing, IsFreeEnd i) ∧
        (program ++ closing).check = .ok ())
      (∀ more : Program, (program ++ more).check = .error fault) := by
  rcases check_eq_error_iff.mp h with hstop | ⟨o, outer, hopen, rfl⟩
  · -- the pass stopped at a line, and does so again with more lines below
    refine .inr ⟨fun more => check_eq_error_iff.mpr (.inl (scan_append_of_error hstop more)), ?_⟩
    rintro ⟨closing, _, _, haccepts⟩
    rw [check_eq_error_iff.mpr (.inl (scan_append_of_error hstop closing))] at haccepts
    cases haccepts
  · -- the pass got through, and only has to close what it left open
    have haccepts : (program ++ (o :: outer).map (closer ·.kind)).check = .ok () := by
      rw [check, scan_append, hopen]
      dsimp only
      rw [scan_closers]
    refine .inl ⟨⟨(o :: outer).map (closer ·.kind), ?_, ?_, haccepts⟩, ?_⟩
    · rw [List.length_map]
      exact (scan_eq_ok_iff.mp hopen).length_le
    · intro i hi
      obtain ⟨o', _, rfl⟩ := List.mem_map.mp hi
      exact isFreeEnd_closer o'.kind
    · intro hrefuses
      rw [hrefuses] at haccepts
      cases haccepts

/-- An `IF` with a loop in it, both still open. -/
def halfWritten : Program :=
  [.ifStart ⟨some true, none⟩, .repeatStart none, .setOutput (some "motor") (some 1) none]

theorem halfWritten_refused_for_now_or_for_good :
    halfWritten.check = .error (.repeatWithoutEnd 2) ∧
      Xor
        (∃ closing : Program, closing.length ≤ 8 ∧ (∀ i ∈ closing, IsFreeEnd i) ∧
          (halfWritten ++ closing).check = .ok ())
        (∀ more : Program, (halfWritten ++ more).check = .error (.repeatWithoutEnd 2)) :=
  ⟨rfl, refused_for_now_or_for_good rfl⟩

/-! ## 4. The line to blame -/

/-- The lines end inside the structure that the head at the given line, counted from one, has
opened. All that was opened below the head is closed again. -/
def EndsInside (lines : Program) (head : Instruction) (line : Nat) : Prop :=
  ∃ opened front body, lines = front ++ head :: body ∧ line = front.length + 1 ∧
    Leaves opened front ∧ opened.length < maxDepth ∧
    Lines false (maxDepth - (opened.length + 1)) body ∧ CountsHaveValues body

/-- The line, counted from one, is the cause that a refusal of the program gives. -/
inductive Blames (program : Program) : (line : Nat) → (cause : String) → Prop where
  | countless {opened : List Opening} {front rest : Program} {condition : Condition} :
      program = front ++ .count condition none :: rest → Leaves opened front →
      Blames program (front.length + 1) "COUNT has no value"
  | openIf {lines rest : Program} {condition : Condition} {line : Nat} :
      program = lines ++ rest → EndsInside lines (.ifStart condition) line →
      (rest = [] ∨ ∃ closing below, rest = closing :: below ∧ closing.isClosing = true ∧
        closing.closes .conditional = false) →
      Blames program line "IF structure has no ending"
  | openRepeat {lines rest : Program} {count : Option Number} {line : Nat} :
      program = lines ++ rest → EndsInside lines (.repeatStart count) line →
      (rest = [] ∨ ∃ below, rest = .ifEnd :: below) →
      Blames program line "REPEAT structure has no ending"
  | uncounted {lines rest : Program} {line : Nat} :
      program = lines ++ .repeatEnd :: rest → EndsInside lines (.repeatStart none) line →
      Blames program line "ENDREPEAT has no matching REPEAT n statement"
  | tooDeep {opened : List Opening} {front rest : Program} {head : Instruction} {kind : Kind} :
      program = front ++ head :: rest → head.opens = some kind → Leaves opened front →
      opened.length = 8 → Blames program (front.length + 1) "Structures too deeply nested"

variable {lines : Program} {line : Nat} {cause : String}

/-- Lines end inside the innermost structure that they leave open. -/
theorem leaves_cons_iff {kind : Kind} : (∃ opened, Leaves (⟨line, kind⟩ :: opened) lines) ↔
    ∃ head, head.opens = some kind ∧ EndsInside lines head line := by
  constructor
  · rintro ⟨opened, h⟩
    cases h with
    | inside hfront hlt hopens hbody hcounts =>
      exact ⟨_, hopens, opened, _, _, rfl, rfl, hfront, hlt, hbody, hcounts⟩
  · rintro ⟨head, hopens, opened, front, body, rfl, rfl, hfront, hlt, hbody, hcounts⟩
    exact ⟨opened, .inside hfront hlt hopens hbody hcounts⟩

theorem EndsInside.line_le {head : Instruction} (h : EndsInside lines head line) (rest : Program) :
    1 ≤ line ∧ line ≤ (lines ++ rest).length := by
  obtain ⟨opened, front, body, rfl, rfl, _⟩ := h
  simp

/-- The line to blame is one of the program. -/
theorem Blames.line_le (h : Blames program line cause) : 1 ≤ line ∧ line ≤ program.length := by
  cases h with
  | countless hprogram _ => simp [hprogram]
  | openIf hprogram hinside _ => exact hprogram ▸ hinside.line_le _
  | openRepeat hprogram hinside _ => exact hprogram ▸ hinside.line_le _
  | uncounted hprogram hinside => exact hprogram ▸ hinside.line_le _
  | tooDeep hprogram _ _ _ => simp [hprogram]

theorem exists_ifStart_of_opens {head : Instruction} (hopens : head.opens = some .conditional) :
    ∃ condition, head = .ifStart condition := by
  cases head with
  | ifStart condition => exact ⟨condition, rfl⟩
  | _ => cases hopens

theorem exists_repeatStart_of_opens {head : Instruction} {counted : Bool}
    (hopens : head.opens = some (.loop counted)) :
    ∃ count, head = .repeatStart count ∧ count.isSome = counted := by
  cases head with
  | repeatStart count =>
    cases hopens
    exact ⟨count, rfl, rfl⟩
  | _ => cases hopens

/-- A line at which the pass stops makes a line to blame, this one or the head of the structure that
it does not fit. -/
theorem blames_of_stop {opened : List Opening} {front : Program} {i : Instruction}
    (hleaves : Leaves opened front) (hstop : Stop (front.length + 1) i opened fault)
    (rest : Program) : Blames (front ++ i :: rest) fault.line fault.cause := by
  cases hstop with
  | countless => exact .countless rfl hleaves
  | full hopens hfull =>
    exact .tooDeep rfl hopens hleaves (Nat.le_antisymm hleaves.length_le hfull)
  | inConditional hclosing hcloses =>
    obtain ⟨head, hopens, hinside⟩ := leaves_cons_iff.mp ⟨_, hleaves⟩
    obtain ⟨condition, rfl⟩ := exists_ifStart_of_opens hopens
    exact .openIf rfl hinside (.inr ⟨i, rest, rfl, hclosing, hcloses⟩)
  | inLoop =>
    obtain ⟨head, hopens, hinside⟩ := leaves_cons_iff.mp ⟨_, hleaves⟩
    obtain ⟨count, rfl, _⟩ := exists_repeatStart_of_opens hopens
    exact .openRepeat rfl hinside (.inr ⟨rest, rfl⟩)
  | uncounted =>
    obtain ⟨head, hopens, hinside⟩ := leaves_cons_iff.mp ⟨_, hleaves⟩
    obtain ⟨count, rfl, hcount⟩ := exists_repeatStart_of_opens hopens
    obtain rfl : count = none := by simpa using hcount
    exact .uncounted rfl hinside

/-- A structure left open at the end is to blame itself. -/
theorem blames_of_unclosed {o : Opening} {opened : List Opening}
    (hleaves : Leaves (o :: opened) program) :
    Blames program o.unclosed.line o.unclosed.cause := by
  obtain ⟨line, kind⟩ := o
  obtain ⟨head, hopens, hinside⟩ := leaves_cons_iff.mp ⟨opened, hleaves⟩
  have hend : program = program ++ [] := (List.append_nil program).symm
  cases kind with
  | conditional =>
    obtain ⟨condition, rfl⟩ := exists_ifStart_of_opens hopens
    exact .openIf hend hinside (.inl rfl)
  | loop counted =>
    obtain ⟨count, rfl, _⟩ := exists_repeatStart_of_opens hopens
    exact .openRepeat hend hinside (.inl rfl)

theorem blames_of_check (h : program.check = .error fault) :
    Blames program fault.line fault.cause := by
  rcases check_eq_error_iff.mp h with hstop | ⟨o, opened, hopen, rfl⟩
  · obtain ⟨front, i, rest, opened, rfl, hleaves, hstop⟩ := scan_eq_error_iff.mp hstop
    exact blames_of_stop hleaves hstop rest
  · exact blames_of_unclosed (scan_eq_ok_iff.mp hopen)

theorem check_of_stop {opened : List Opening} {front rest : Program} {i : Instruction}
    (hleaves : Leaves opened front) (hstop : Stop (front.length + 1) i opened fault) :
    (front ++ i :: rest).check = .error fault := by
  apply check_eq_error_iff.mpr
  exact .inl (scan_eq_error_iff.mpr ⟨front, i, rest, opened, rfl, hleaves, hstop⟩)

theorem check_of_unclosed {o : Opening} {opened : List Opening}
    (hleaves : Leaves (o :: opened) program) : program.check = .error o.unclosed :=
  check_eq_error_iff.mpr (.inr ⟨o, opened, scan_eq_ok_iff.mpr hleaves, rfl⟩)

/-- A line to blame is blamed. -/
theorem exists_fault_of_blames (h : Blames program line cause) :
    ∃ fault, program.check = .error fault ∧ fault.line = line ∧ fault.cause = cause := by
  cases h with
  | @countless _ front _ _ hprogram hleaves =>
    subst hprogram
    exact ⟨_, check_of_stop hleaves .countless, rfl, rfl⟩
  | @openIf lines rest condition _ hprogram hinside hrest =>
    subst hprogram
    obtain ⟨opened, hleaves⟩ := leaves_cons_iff.mpr ⟨.ifStart condition, rfl, hinside⟩
    -- the program ends inside the structure, or comes to a line that does not close it
    rcases hrest with rfl | ⟨closing, below, rfl, hclosing, hcloses⟩
    · rw [List.append_nil]
      exact ⟨_, check_of_unclosed hleaves, rfl, rfl⟩
    · exact ⟨_, check_of_stop hleaves (.inConditional hclosing hcloses), rfl, rfl⟩
  | @openRepeat lines rest count _ hprogram hinside hrest =>
    subst hprogram
    obtain ⟨opened, hleaves⟩ := leaves_cons_iff.mpr ⟨.repeatStart count, rfl, hinside⟩
    rcases hrest with rfl | ⟨below, rfl⟩
    · rw [List.append_nil]
      exact ⟨_, check_of_unclosed hleaves, rfl, rfl⟩
    · exact ⟨_, check_of_stop hleaves .inLoop, rfl, rfl⟩
  | @uncounted lines rest _ hprogram hinside =>
    subst hprogram
    obtain ⟨opened, hleaves⟩ := leaves_cons_iff.mpr ⟨.repeatStart none, rfl, hinside⟩
    exact ⟨_, check_of_stop hleaves .uncounted, rfl, rfl⟩
  | @tooDeep _ front _ _ _ hprogram hopens hleaves hfull =>
    subst hprogram
    exact ⟨_, check_of_stop hleaves (.full hopens (Nat.le_of_eq hfull.symm)), rfl, rfl⟩

/-- **The check blames a true culprit.** The message of a refusal names a line of the program and
gives a cause, and that line is to blame for it: a `COUNT` without a value, a structure in which the
program ends or comes to a closing line that does not fit, a `REPEAT` without a number that ends
with `ENDREPEAT`, or a structure inside eight others. Where a line is to blame so, the program is
refused in these words. -/
theorem check_names_culprit (program : Program) :
    (∀ fault, program.check = .error fault →
      ∃ line cause, fault.message = "Line " ++ toString line ++ ": " ++ cause ∧
        1 ≤ line ∧ line ≤ program.length ∧ Blames program line cause) ∧
    ∀ line cause, Blames program line cause →
      ∃ fault, program.check = .error fault ∧
        fault.message = "Line " ++ toString line ++ ": " ++ cause := by
  constructor
  · intro fault hcheck
    have hblames := blames_of_check hcheck
    exact ⟨fault.line, fault.cause, fault.message_eq, hblames.line_le.1, hblames.line_le.2, hblames⟩
  · intro line cause hblames
    obtain ⟨fault, hcheck, rfl, rfl⟩ := exists_fault_of_blames hblames
    exact ⟨fault, hcheck, fault.message_eq⟩

/-- A loop with an `ENDREPEAT` inside the second of its two `IF`s. -/
def crossedEnds : Program :=
  [.repeatStart (some 2), .ifStart ⟨some true, none⟩, .ifEnd, .ifStart ⟨none, some false⟩,
    .repeatEnd, .ifEnd]

theorem check_names_culprit_of_crossedEnds :
    crossedEnds.check = .error (.ifWithoutEnd 4) ∧
      ∃ line cause,
        (NestingFault.ifWithoutEnd 4).message = "Line " ++ toString line ++ ": " ++ cause ∧
          1 ≤ line ∧ line ≤ crossedEnds.length ∧ Blames crossedEnds line cause :=
  ⟨rfl, (check_names_culprit crossedEnds).1 _ rfl⟩

end Program

end LineControl

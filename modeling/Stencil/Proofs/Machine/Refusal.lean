import Stencil.Machine

/-!
# Refused lines leave no trace

A line that a machine refuses leaves the state as it was before the line, so the machine answers to
all other lines as if the refused ones were not there.  For the two machines of templates this holds
because each of them takes a line exactly as its pure step does: even the end of a loop, which takes
the open loop out of the state first, refuses only where there was none.  What every line keeps,
taken or refused, holds after all lines by `Machine.invariant_after`.
-/

namespace Stencil

namespace Machine

variable {σ α : Type}

/-- The answers to several lines, and what the machine stands for after them. -/
def outcome (machine : Machine σ α) (state : σ) (lines : List Line) :
    List (Except Fault Unit) × Except Fault α :=
  ((machine.drive state lines).1, machine.finish (machine.drive state lines).2)

/-- The state after several lines, refused or not. -/
def after (machine : Machine σ α) (lines : List Line) : σ :=
  (machine.drive machine.initial lines).2

/-- What holds at the start, and after a line if it held before, holds after all lines. -/
theorem invariant_after (machine : Machine σ α) {invariant : List Line → σ → Prop}
    (start : invariant [] machine.initial)
    (step : ∀ fed state line, invariant fed state →
      invariant (fed ++ [line]) (machine.step state line).2) (lines : List Line) :
    invariant lines (machine.after lines) := by
  -- The lines that were fed before grow with the state, so both are general in the induction.
  have held (fed : List Line) (state : σ) (holds : invariant fed state) :
      invariant (fed ++ lines) (machine.drive state lines).2 := by
    induction lines generalizing fed state with
    | nil => simpa [drive] using holds
    | cons line rest ih =>
        rw [List.append_cons]
        exact ih (fed ++ [line]) _ (step fed state line holds)
  exact held [] machine.initial start

/-- The lines that are not refused. -/
def taken (machine : Machine σ α) (state : σ) : List Line → List Line
  | [] => []
  | line :: rest =>
    match machine.step state line with
    | (.ok (), next) => line :: machine.taken next rest
    | (.error _, next) => machine.taken next rest

/-- The refused lines of any list can be left out of it, and after a refused line the machine goes
on from the state before it. -/
structure LeavesNoTrace (machine : Machine σ α) : Prop where
  /-- The taken lines alone are answered as among the others and stand for the same. -/
  taken : ∀ lines : List Line,
    machine.outcome machine.initial (machine.taken machine.initial lines) =
      ((machine.outcome machine.initial lines).1.filter Except.isOk,
        (machine.outcome machine.initial lines).2)
  /-- After a refused line everything goes on as from the state before it. -/
  refused : ∀ (before : List Line) (line : Line) (fault : Fault),
    (machine.step (machine.after before) line).1 = .error fault →
    ∀ later : List Line,
      machine.outcome (machine.step (machine.after before) line).2 later =
        machine.outcome (machine.after before) later

/-- A refused line changes nothing, in any state. -/
def Keeps (machine : Machine σ α) : Prop :=
  ∀ state line fault next, machine.step state line = (.error fault, next) → next = state

theorem drive_taken {machine : Machine σ α} (keeps : machine.Keeps) (state : σ)
    (lines : List Line) :
    machine.drive state (machine.taken state lines) =
      ((machine.drive state lines).1.filter Except.isOk, (machine.drive state lines).2) := by
  induction lines generalizing state with
  | nil => rfl
  | cons line rest ih =>
      rcases stepped : machine.step state line with ⟨answer, next⟩
      cases answer with
      | error fault =>
          obtain rfl : next = state := keeps state line fault next stepped
          rw [taken, drive, stepped]
          exact ih next
      | ok =>
          rw [taken, stepped]
          simp only [drive, stepped, ih next]
          rfl

theorem Keeps.leavesNoTrace {machine : Machine σ α} (keeps : machine.Keeps) :
    machine.LeavesNoTrace where
  taken lines := by rw [outcome, drive_taken keeps, outcome]
  refused before line fault refused later := by
    have same : (machine.step (machine.after before) line).2 = machine.after before :=
      keeps _ line fault _ (Prod.ext refused rfl)
    rw [same]

/-- A machine keeps its state at refused lines if it answers and moves on as pure steps do, of which
refused ones keep the state. -/
theorem Keeps.of_step {machine : Machine σ α} {feed : σ → Line → Except Fault σ}
    {offer : σ → Line → σ}
    (same : ∀ state line,
      machine.step state line = ((feed state line).map fun _ => (), offer state line))
    (kept : ∀ state line fault, feed state line = .error fault → offer state line = state) :
    machine.Keeps := by
  intro state line fault next stepped
  rw [same] at stepped
  obtain ⟨refused, rfl⟩ := Prod.mk.inj stepped
  cases fed : feed state line with
  | ok taken => simp [fed, Except.map] at refused
  | error reason => exact kept state line reason fed

end Machine

/-! ## Loops -/

namespace Loop

theorem run_openInPlace (state : State) (line : Line) (vars : List Text) (list : Text) :
    (openInPlace line vars list).run.run state =
      match state.openLoop line vars list with
      | .ok loop => (.ok (), { state with active := some loop })
      | .error fault => (.error fault, state) := by
  obtain ⟨active, output⟩ := state
  unfold openInPlace State.openLoop
  cases active with
  | some loop => rfl
  | none =>
      cases Literal.readList list with
      | error reason => rfl
      | ok items =>
          dsimp only
          cases arityMismatch? vars.length items <;> rfl

/-- The end of a loop is refused only where no loop was open, so taking the open loop out of the
state has changed nothing then. -/
theorem run_closeInPlace (state : State) (line : Line) :
    (closeInPlace line).run.run state =
      match state.active with
      | some loop => (.ok (), ⟨none, state.output ++ loop.unrolled⟩)
      | none => (.error (.unmatchedEnd line.number line.text.trim), state) := by
  obtain ⟨active, output⟩ := state
  cases active <;> rfl

/-- The expansion in place answers and moves on as its pure steps do. -/
theorem step_machine (state : State) (line : Line) :
    machine.step state line = ((state.feed line).map fun _ => (), state.offer line) := by
  unfold Machine.step machine State.offer State.feed State.action
  dsimp only
  split
  next =>
    cases classify line.text with
    | plain => rfl
    | unknown => rfl
    | directive directive =>
        cases directive with
        | foreach vars list =>
            dsimp only
            rw [run_openInPlace]
            cases state.openLoop line vars list <;> rfl
        | _ => rfl
  next =>
    split
    next =>
      rw [run_closeInPlace]
      cases state.active <;> rfl
    next => rfl

theorem keeps_machine : machine.Keeps :=
  .of_step step_machine fun state line fault refused => by rw [State.offer, refused]

end Loop

/-! ## Sections -/

namespace Section

theorem run_actInPlace (style : Style) (number : Nat) (action : Action) (state : State) :
    (actInPlace style number action).run.run state =
      (.ok (), state.apply style number action) := by
  cases action with
  | stop kind => cases kind <;> rfl
  | _ => rfl

/-- The reading of sections in place answers and moves on as its pure steps do. -/
theorem step_machine (style : Style) (state : State) (line : Line) :
    (machine style).step state line =
      ((state.feed style line).map fun _ => (), state.offer style line) := by
  unfold Machine.step machine State.offer State.feed
  dsimp only
  cases classify line.text with
  | plain => rfl
  | directive directive => exact run_actInPlace style line.number _ state
  | unknown => rfl

theorem keeps_machine (style : Style) : (machine style).Keeps :=
  .of_step (step_machine style) fun state line fault refused => by rw [State.offer, refused]

end Section

/-- Neither the expansion of loops nor the reading of sections remembers a line that it refused: the
refused lines of any list can be left out, and after a refused line all answers and the end are
those of the state before it. -/
theorem refused_lines_leave_no_trace :
    Loop.machine.LeavesNoTrace ∧ ∀ style : Style, (Section.machine style).LeavesNoTrace :=
  ⟨Loop.keeps_machine.leavesNoTrace, fun style => (Section.keeps_machine style).leavesNoTrace⟩

/-- An end without a loop and a header inside a loop are refused, and the loop goes on. -/
example :
    let lines : List Line := [⟨1, Mark.endForeach⟩, ⟨2, "// -- foreach x in [7] --".toList⟩,
      ⟨3, "// -- foreach y in [] --".toList⟩, ⟨4, "{{x}}".toList⟩, ⟨5, Mark.endForeach⟩]
    Loop.machine.outcome Loop.machine.initial lines =
      ([.error (.unmatchedEnd 1 Mark.endForeach), .ok (),
        .error (.nestedLoop 3 2 "// -- foreach y in [] --".toList), .ok (), .ok ()],
        .ok [⟨4, ['7']⟩]) := by
  rfl

end Stencil

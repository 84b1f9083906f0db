import Stencil.Loop
import Stencil.Section

/-!
# Machines

A machine is fed one line after the other and changes its state in place.  When a line is refused,
the state stays as it is at that moment, and the next line meets what the refused one has left.  The
expansion of loops and the reading of sections are such machines.
-/

namespace Stencil

/-- A computation that changes a state in place and may stop with a fault; what it has changed
before it stops stays changed. -/
abbrev Change (σ : Type) := ExceptT Fault (StateM σ)

/-- A reader that is fed line by line. -/
structure Machine (σ α : Type) where
  /-- The state before the first line. -/
  initial : σ
  /-- What one more line changes. -/
  feed : Line → Change σ Unit
  /-- What the lines stand for, seen from the state after the last one. -/
  finish : σ → Except Fault α

namespace Machine

variable {σ α : Type}

/-- The answer to one more line, and the state that the line leaves. -/
def step (machine : Machine σ α) (state : σ) (line : Line) : Except Fault Unit × σ :=
  (machine.feed line).run.run state

/-- The answers to several lines, refused or not, and the state after them. -/
def drive (machine : Machine σ α) (state : σ) : List Line → List (Except Fault Unit) × σ
  | [] => ([], state)
  | line :: rest =>
    let (answer, next) := machine.step state line
    let (answers, final) := machine.drive next rest
    (answer :: answers, final)

end Machine

/-! ## Loops -/

namespace Loop

/-- A header opens a loop. -/
def openInPlace (line : Line) (vars : List Text) (list : Text) : Change State Unit := do
  if let some loop := (← get).active then
    throw (.nestedLoop line.number loop.openedAt line.text.trim)
  match Literal.readList list with
  | .error reason => throw (.invalidList line.number list reason)
  | .ok items =>
    if let some (index, found) := arityMismatch? vars.length items then
      throw (.loopArity line.number index vars.length found)
    modify fun state => { state with active := some ⟨line.number, vars, items, []⟩ }

/-- The open loop is taken out of the state before it is known whether there is one. -/
def closeInPlace (line : Line) : Change State Unit := do
  let active := (← get).active
  modify fun state => { state with active := none }
  match active with
  | none => throw (.unmatchedEnd line.number line.text.trim)
  | some loop => modify fun state => { state with output := state.output ++ loop.unrolled }

/-- A line that neither opens nor closes a loop is captured or put. -/
def keepInPlace (line : Line) : Change State Unit :=
  modify fun state =>
    match state.active with
    | some loop => { state with active := some { loop with captured := loop.captured ++ [line] } }
    | none => { state with output := state.output ++ [line] }

/-- The expansion of loops, fed line by line. -/
def machine : Machine State (List Line) where
  initial := State.initial
  feed line :=
    if line.text.beginsWith Mark.foreach then
      match classify line.text with
      | .directive (.foreach vars list) => openInPlace line vars list
      | _ => throw (.malformedDirective line.number line.text.trim)
    else if line.text.isLine Mark.endForeach then closeInPlace line
    else keepInPlace line
  finish := State.finish

end Loop

/-! ## Sections -/

namespace Section

/-- What an action changes, one change after the other. -/
def actInPlace (style : Style) (number : Nat) : Action → Change State Unit
  | .start kind => do
    modify fun state => { state with pending := [] }
    modify fun state => { state with place := .inside kind number }
  | .writeAll =>
    modify fun state =>
      { state with
        output := state.output ++ Control.renderAll state.controls state.copyBody style }
  | .declare name base => do
    modify State.flush
    modify fun state => { state with controls := state.controls ++ [⟨name, base, []⟩] }
  | .stop .types => do
    modify State.flush
    modify fun state => { state with pending := [] }
    modify fun state => { state with place := .outside }
  | .stop .copy => do
    modify fun state => { state with copyBody := joinLines state.pending }
    modify fun state => { state with pending := [] }
    modify fun state => { state with place := .outside }
  | .ignore _ => pure ()

/-- The reading of sections, fed line by line. -/
def machine (style : Style) : Machine State Text where
  initial := State.initial
  feed line := do
    match classify line.text with
    | .plain => modify fun state => state.push line.text
    | .directive directive => actInPlace style line.number ((← get).place.action directive)
    | .unknown => throw (.malformedDirective line.number line.text.trim)
  finish := State.finish

end Section

end Stencil

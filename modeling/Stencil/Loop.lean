import Stencil.Directive
import Stencil.Fault
import Stencil.Line
import Stencil.Literal.Reader
import Stencil.Placeholder
import Stencil.Record
import Stencil.Text.Quoted

/-!
# Loops

A loop header opens a loop, the lines up to its end are captured, and the end of the loop puts one
filled copy of the captured lines for every element of the list.  Loops do not nest, and all other
lines pass unchanged.  `State.action` decides what a line means in a state without changing the
state, so a line that is refused leaves no trace.
-/

namespace Stencil.Loop

/-- A loop whose end has not been seen. -/
structure OpenLoop where
  /-- The number of the header line. -/
  openedAt : Nat
  /-- The variables of the loop. -/
  vars : List Text
  /-- The elements that the loop runs over. -/
  items : List Literal
  /-- The lines seen since the header. -/
  captured : List Line

/-- The state of the expansion between two lines. -/
structure State where
  /-- The open loop, if there is one. -/
  active : Option OpenLoop
  /-- The lines put so far. -/
  output : List Line

/-- The state before the first line. -/
def State.initial : State := ⟨none, []⟩

/-- What a line does to the state. -/
inductive Action where
  /-- The line is put or captured. -/
  | keep
  /-- The line opens a loop. -/
  | start (loop : OpenLoop)
  /-- The line ends the open loop. -/
  | stop (loop : OpenLoop)

/-- The values that the variables of a loop take for an element. -/
def bindings (vars : List Text) (item : Literal) : Bindings :=
  vars.zip (item.bindings.map Literal.toText)

/-- The copies of the captured lines, element by element. -/
def OpenLoop.unrolled (loop : OpenLoop) : List Line :=
  loop.items.flatMap fun item =>
    loop.captured.map fun line => ⟨line.number, line.text.fill (bindings loop.vars item)⟩

/-- The first element whose number of values is not the expected one, with its place and that
number. -/
def arityMismatch? (expected : Nat) (items : List Literal) : Option (Nat × Nat) :=
  (items.zipIdx.find? fun (item, _) => item.bindings.length != expected).map
    fun (item, index) => (index, item.bindings.length)

/-- A loop header opens a loop when none is open, its list can be read and every element has one
value for each variable. -/
def State.openLoop (state : State) (line : Line) (vars : List Text) (list : Text) :
    Except Fault OpenLoop :=
  match state.active with
  | some loop => .error (.nestedLoop line.number loop.openedAt line.text.trim)
  | none =>
    match Literal.readList list with
    | .error reason => .error (.invalidList line.number list reason)
    | .ok items =>
      match arityMismatch? vars.length items with
      | some (index, found) => .error (.loopArity line.number index vars.length found)
      | none => .ok ⟨line.number, vars, items, []⟩

/-- What a line means in a state. -/
def State.action (state : State) (line : Line) : Except Fault Action :=
  if line.text.beginsWith Mark.foreach then
    match classify line.text with
    | .directive (.foreach vars list) => (state.openLoop line vars list).map .start
    | _ => .error (.malformedDirective line.number line.text.trim)
  else if line.text.isLine Mark.endForeach then
    match state.active with
    | some loop => .ok (.stop loop)
    | none => .error (.unmatchedEnd line.number line.text.trim)
  else .ok .keep

/-- The state after a line with a known meaning. -/
def State.apply (state : State) (line : Line) : Action → State
  | .keep =>
    match state.active with
    | some loop =>
      { state with active := some { loop with captured := loop.captured ++ [line] } }
    | none => { state with output := state.output ++ [line] }
  | .start loop => { state with active := some loop }
  | .stop loop => ⟨none, state.output ++ loop.unrolled⟩

/-- The state after one more line. -/
def State.feed (state : State) (line : Line) : Except Fault State :=
  (state.action line).map (state.apply line)

/-- The state after a line that may be refused; a refused line changes nothing. -/
def State.offer (state : State) (line : Line) : State :=
  match state.feed line with
  | .ok next => next
  | .error _ => state

/-- The lines put, unless a loop is still open. -/
def State.finish (state : State) : Except Fault (List Line) :=
  match state.active with
  | some loop => .error (.unclosedLoop loop.openedAt)
  | none => .ok state.output

/-- The lines of a template with every loop unrolled. -/
def expand (lines : List Line) : Except Fault (List Line) := do
  let state ← lines.foldlM State.feed State.initial
  state.finish

/-! ## The log -/

/-- What is told about a line that was taken. -/
def Action.remark (line : Line) : Action → Option Record
  | .keep => none
  | .start loop =>
    some (.debug
      (s!"foreach {(Text.quotedList loop.vars).string} over {loop.items.length} element(s) "
        ++ s!"at line {line.number}"))
  | .stop loop =>
    some (.debug
      (s!"endforeach at line {line.number}: {loop.captured.length} line(s) "
        ++ s!"x {loop.items.length} element(s)"))

/-- What is told about the lines up to the first one that is refused. -/
def State.journal (state : State) : List Line → List Record
  | [] => []
  | line :: rest =>
    match state.action line with
    | .error _ => []
    | .ok action => (action.remark line).toList ++ (state.apply line action).journal rest

end Stencil.Loop

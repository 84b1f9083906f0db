import Stencil.Control
import Stencil.Directive
import Stencil.Fault
import Stencil.Line
import Stencil.Record
import Stencil.Text.Quoted

/-!
# Sections

After its loops are unrolled a template is read once more.  Outside sections plain lines are
written; a types section declares controls and collects their lines, a copy section collects the
lines that all controls share, and a write line puts the blocks of the controls known so far.  A
directive that means nothing where it stands is ignored.
-/

namespace Stencil.Section

/-- Where a reader stands. -/
inductive Place where
  /-- Outside sections. -/
  | outside
  /-- Inside a section, which was opened at a line. -/
  | inside (kind : SectionKind) (openedAt : Nat)
  deriving DecidableEq

/-- The state of the reading between two lines. -/
structure State where
  /-- Where the reader stands. -/
  place : Place
  /-- The plain lines of the section that belong to nothing yet. -/
  pending : List Text
  /-- The controls declared so far. -/
  controls : List Control
  /-- The lines that all controls share, with line feeds between them. -/
  copyBody : Text
  /-- The text written so far. -/
  output : Text
  deriving DecidableEq

/-- The state before the first line. -/
def State.initial : State := ⟨.outside, [], [], [], []⟩

/-- What a directive does where it stands. -/
inductive Action where
  /-- A section is opened. -/
  | start (kind : SectionKind)
  /-- The blocks of all controls are written. -/
  | writeAll
  /-- A control is declared. -/
  | declare (name base : Text)
  /-- The open section is closed. -/
  | stop (kind : SectionKind)
  /-- Nothing happens. -/
  | ignore (directive : Directive)
  deriving DecidableEq

/-- What a directive means at a place. -/
def Place.action : Place → Directive → Action
  | .outside, .beginTypes => .start .types
  | .outside, .beginCopy => .start .copy
  | .outside, .writeAll => .writeAll
  | .inside .types _, .typeEntry name base => .declare name base
  | .inside .types _, .endTypes => .stop .types
  | .inside .copy _, .endCopy => .stop .copy
  | _, directive => .ignore directive

/-- Lines with line feeds between them. -/
def joinLines (lines : List Text) : Text := List.intercalate ['\n'] lines

namespace State

/-- A plain line is written outside sections and kept pending inside. -/
def push (state : State) (text : Text) : State :=
  match state.place with
  | .outside => { state with output := state.output ++ text ++ ['\n'] }
  | .inside _ _ => { state with pending := state.pending ++ [text] }

/-- The pending lines become the lines of the control declared last; without pending lines or
without a control nothing moves. -/
def flush (state : State) : State :=
  match state.pending, state.controls.getLast? with
  | _ :: _, some last =>
    { state with
      pending := []
      controls := state.controls.dropLast ++ [{ last with body := joinLines state.pending }] }
  | _, _ => state

/-- The state after an action at a line. -/
def apply (style : Style) (state : State) (number : Nat) : Action → State
  | .start kind => { state with place := .inside kind number, pending := [] }
  | .writeAll =>
    { state with
      output := state.output ++ Control.renderAll state.controls state.copyBody style }
  | .declare name base =>
    let state := state.flush
    { state with controls := state.controls ++ [⟨name, base, []⟩] }
  | .stop .types => { state.flush with place := .outside, pending := [] }
  | .stop .copy =>
    { state with place := .outside, pending := [], copyBody := joinLines state.pending }
  | .ignore _ => state

/-- The state after one more line. -/
def feed (style : Style) (state : State) (line : Line) : Except Fault State :=
  match classify line.text with
  | .plain => .ok (state.push line.text)
  | .directive directive =>
    .ok (state.apply style line.number (state.place.action directive))
  | .unknown => .error (.malformedDirective line.number line.text.trim)

/-- The state after a line that may be refused; a refused line changes nothing. -/
def offer (style : Style) (state : State) (line : Line) : State :=
  match state.feed style line with
  | .ok next => next
  | .error _ => state

/-- The text written, unless a section is still open. -/
def finish (state : State) : Except Fault Text :=
  match state.place with
  | .outside => .ok state.output
  | .inside kind openedAt => .error (.unclosedSection kind openedAt)

end State

/-- The text that a list of lines without loops stands for. -/
def compile (style : Style) (lines : List Line) : Except Fault Text := do
  let state ← lines.foldlM (State.feed style) State.initial
  state.finish

/-! ## The log -/

/-- The spelling of a directive in the log. -/
def directiveLabel : Directive → String
  | .beginTypes => "BeginTypes"
  | .endTypes => "EndTypes"
  | .typeEntry name base =>
    s!"TypeEntry \x7b name: {name.quoted.string}, base: {base.quoted.string} \x7d"
  | .beginCopy => "BeginCopy"
  | .endCopy => "EndCopy"
  | .writeAll => "WriteAll"
  | .foreach vars list =>
    s!"Foreach \x7b vars: {(Text.quotedList vars).string}, list: {list.quoted.string} \x7d"
  | .endForeach => "EndForeach"

/-- The spelling of a place in the log. -/
def Place.label : Place → String
  | .outside => "Normal"
  | .inside .types openedAt => s!"CollectingTypes \x7b opened_at: {openedAt} \x7d"
  | .inside .copy openedAt => s!"CollectingCopy \x7b opened_at: {openedAt} \x7d"

/-- What is told about an action at a line. -/
def State.remark (state : State) (number : Nat) : Action → Option Record
  | .start .types => some (.info "Begin types ...")
  | .start .copy => some (.info "Begin control copy ...")
  | .writeAll => some (.info s!"Write controls ... ({state.controls.length} control(s))")
  | .declare name base =>
    some (.debug s!"control {name.string} : {base.string} at line {number}")
  | .stop _ => none
  | .ignore directive =>
    some (.debug
      s!"ignoring {directiveLabel directive} in state {state.place.label} at line {number}")

/-- What is told about the lines up to the first one that is refused. -/
def State.journal (style : Style) (state : State) : List Line → List Record
  | [] => []
  | line :: rest =>
    match classify line.text with
    | .plain => (state.push line.text).journal style rest
    | .directive directive =>
      let action := state.place.action directive
      (state.remark line.number action).toList
        ++ (state.apply style line.number action).journal style rest
    | .unknown => []

end Stencil.Section

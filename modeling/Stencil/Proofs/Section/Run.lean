import Stencil.Section

/-!
# Runs of the section reader

`State.after` is the state after any lines, where a refused line changes nothing.  A list without
malformed lines is read to the end, so `compile` is the run from the initial state; otherwise the
first malformed line answers.
-/

namespace Stencil.Section

/-- A line that has the special mark and is no directive. -/
def isMalformed (line : Line) : Bool := classify line.text = .unknown

namespace State

/-- The state after any lines, of which refused ones change nothing. -/
def after (style : Style) (state : State) (lines : List Line) : State :=
  lines.foldl (State.offer style) state

@[simp]
theorem after_nil (style : Style) (state : State) : state.after style [] = state := rfl

@[simp]
theorem after_cons (style : Style) (state : State) (line : Line) (rest : List Line) :
    state.after style (line :: rest) = (state.offer style line).after style rest := rfl

theorem after_append (style : Style) (state : State) (left right : List Line) :
    state.after style (left ++ right) = (state.after style left).after style right :=
  List.foldl_append

/-! ## One line -/

theorem push_outside {state : State} (outside : state.place = .outside) (text : Text) :
    state.push text = { state with output := state.output ++ text ++ ['\n'] } := by
  rw [push, outside]

theorem push_inside {state : State} {kind : SectionKind} {openedAt : Nat}
    (inside : state.place = .inside kind openedAt) (text : Text) :
    state.push text = { state with pending := state.pending ++ [text] } := by
  rw [push, inside]

theorem offer_plain {line : Line} (plain : classify line.text = .plain)
    (style : Style) (state : State) :
    state.offer style line = state.push line.text := by
  simp [offer, feed, plain]

theorem offer_directive {line : Line} {directive : Directive}
    (found : classify line.text = .directive directive) (style : Style) (state : State) :
    state.offer style line = state.apply style line.number (state.place.action directive) := by
  simp [offer, feed, found]

theorem offer_unknown {line : Line} (unknown : classify line.text = .unknown)
    (style : Style) (state : State) :
    state.offer style line = state := by
  simp [offer, feed, unknown]

theorem feed_of_not_malformed {line : Line} (known : isMalformed line = false)
    (style : Style) (state : State) :
    state.feed style line = .ok (state.offer style line) := by
  cases kind : classify line.text with
  | plain => simp [offer, feed, kind]
  | directive directive => simp [offer, feed, kind]
  | unknown => simp [isMalformed, kind] at known

theorem feed_of_malformed {line : Line} (unknown : isMalformed line = true)
    (style : Style) (state : State) :
    state.feed style line = .error (.malformedDirective line.number line.text.trim) := by
  have kind : classify line.text = .unknown := by simpa [isMalformed] using unknown
  simp [feed, kind]

/-! ## Many lines -/

theorem foldlM_feed_of_known (style : Style) (lines : List Line)
    (known : ∀ line ∈ lines, isMalformed line = false) (state : State) :
    lines.foldlM (State.feed style) state = .ok (state.after style lines) := by
  induction lines generalizing state with
  | nil => rfl
  | cons line rest ih =>
      obtain ⟨line_known, rest_known⟩ := List.forall_mem_cons.mp known
      rw [List.foldlM_cons, feed_of_not_malformed line_known]
      exact ih rest_known _

theorem foldlM_feed_of_malformed (style : Style) (lines : List Line) (bad : Line)
    (first : lines.find? isMalformed = some bad) (state : State) :
    lines.foldlM (State.feed style) state =
      .error (.malformedDirective bad.number bad.text.trim) := by
  induction lines generalizing state with
  | nil => simp at first
  | cons line rest ih =>
      rw [List.foldlM_cons]
      cases malformed : isMalformed line with
      | true =>
          rw [List.find?_cons_of_pos malformed] at first
          obtain rfl := Option.some.inj first
          rw [feed_of_malformed malformed]
          rfl
      | false =>
          rw [List.find?_cons_of_neg (by simp [malformed])] at first
          rw [feed_of_not_malformed malformed]
          exact ih first _

end State

theorem compile_of_malformed (style : Style) {lines : List Line} {bad : Line}
    (first : lines.find? isMalformed = some bad) :
    compile style lines = .error (.malformedDirective bad.number bad.text.trim) := by
  rw [compile, State.foldlM_feed_of_malformed style lines bad first]
  rfl

theorem compile_of_known (style : Style) {lines : List Line}
    (known : lines.find? isMalformed = none) :
    compile style lines = (State.initial.after style lines).finish := by
  have all_known : ∀ line ∈ lines, isMalformed line = false := by
    simpa using List.find?_eq_none.mp known
  rw [compile, State.foldlM_feed_of_known style lines all_known]
  rfl

end Stencil.Section

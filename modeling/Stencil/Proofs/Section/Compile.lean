import Stencil.Proofs.Section.Outline

/-!
# Compiling is reading the outline

The machine keeps the lines of a section pending and moves them when it sees the next entry or the
end.  What the pending lines will become is known from the controls and the section's own lines:
`after_types` and `after_copy` carry this through a section of any length, and `ends_outline`
carries it through a whole list of lines.
-/

namespace Stencil.Section

/-! ## Controls and pending lines -/

@[simp]
theorem amendLast_nil_controls (lines : List Text) : amendLast [] lines = [] := by
  cases lines <;> rfl

@[simp]
theorem amendLast_nil_lines (controls : List Control) : amendLast controls [] = controls := rfl

theorem amendLast_concat (controls : List Control) (last : Control) {lines : List Text}
    (lines_ne : lines ≠ []) :
    amendLast (controls ++ [last]) lines =
      controls ++ [{ last with body := joinLines lines }] := by
  cases lines with
  | nil => exact absurd rfl lines_ne
  | cons line rest => simp [amendLast]

/-- A control without lines takes any lines, also none. -/
theorem amendLast_concat_new (controls : List Control) (name base : Text) (lines : List Text) :
    amendLast (controls ++ [⟨name, base, []⟩]) lines =
      controls ++ [⟨name, base, joinLines lines⟩] := by
  cases lines with
  | nil => rfl
  | cons line rest => exact amendLast_concat controls _ (by simp)

theorem extend_no_entries (controls : List Control) (strays : List Text) :
    extend controls strays [] = amendLast controls strays := by
  by_cases empty : controls = []
  · subst empty
    simp [extend, declareFirst]
  · simp [extend, empty]

/-- Declaring a control and leaving the pending lines to the rest of the section is declaring it
with the lines before the next entry. -/
theorem extend_declare (controls : List Control) (pending strays : List Text) (name base : Text)
    (entries : List Entry) :
    extend (amendLast controls pending ++ [⟨name, base, []⟩])
        ((if controls = [] then pending else []) ++ strays) entries =
      extend controls pending (⟨name, base, strays⟩ :: entries) := by
  have declared_ne : amendLast controls pending ++ [(⟨name, base, []⟩ : Control)] ≠ [] := by simp
  rw [extend, if_neg declared_ne, amendLast_concat_new]
  by_cases empty : controls = []
  · subst empty
    simp [extend, declareFirst]
  · simp [extend, empty, Entry.control]

namespace State

/-- What later write lines depend on in a state. -/
def memory (state : State) : Memory := ⟨state.controls, state.copyBody⟩

@[simp]
theorem flush_output (state : State) : state.flush.output = state.output := by
  unfold flush
  split <;> rfl

@[simp]
theorem flush_place (state : State) : state.flush.place = state.place := by
  unfold flush
  split <;> rfl

@[simp]
theorem flush_copyBody (state : State) : state.flush.copyBody = state.copyBody := by
  unfold flush
  split <;> rfl

theorem flush_controls (state : State) :
    state.flush.controls = amendLast state.controls state.pending := by
  unfold flush amendLast
  split <;> simp_all

theorem flush_pending (state : State) :
    state.flush.pending = if state.controls = [] then state.pending else [] := by
  unfold flush
  cases pending : state.pending with
  | nil => simp [pending]
  | cons text rest =>
      cases last : state.controls.getLast? with
      | none =>
          have empty : state.controls = [] := List.getLast?_eq_none_iff.mp last
          simp [empty, pending]
      | some control =>
          have nonempty : state.controls ≠ [] := by
            rintro empty
            simp [empty] at last
          simp [nonempty]

/-! ## Inside a section -/

/-- The lines of a copy section only make its plain lines pending. -/
theorem after_copy (style : Style) (state : State) {openedAt : Nat}
    (inside : state.place = .inside .copy openedAt) {lines : List Line}
    (unclosed : ∀ line ∈ lines, closes .copy line = false) :
    state.after style lines = { state with pending := state.pending ++ plainTexts lines } := by
  induction lines generalizing state with
  | nil => simp [plainTexts]
  | cons line rest ih =>
      obtain ⟨line_open, rest_open⟩ := List.forall_mem_cons.mp unclosed
      rw [after_cons]
      cases kind : classify line.text with
      | plain =>
          rw [offer_plain kind, push_inside inside,
            ih { state with pending := state.pending ++ [line.text] } inside rest_open]
          simp [plainTexts, kind]
      | unknown =>
          rw [offer_unknown kind, ih state inside rest_open]
          simp [plainTexts, kind]
      | directive directive =>
          have ignored : state.offer style line = state := by
            rw [offer_directive kind, inside]
            cases directive <;> first | rfl | simp [closes, kind] at line_open
          rw [ignored, ih state inside rest_open]
          simp [plainTexts, kind]

/-- What the lines of a types section will have declared when it closes. -/
theorem after_types (style : Style) (state : State) {openedAt : Nat}
    (inside : state.place = .inside .types openedAt) {lines : List Line}
    (unclosed : ∀ line ∈ lines, closes .types line = false) :
    (state.after style lines).place = .inside .types openedAt ∧
      (state.after style lines).output = state.output ∧
      (state.after style lines).copyBody = state.copyBody ∧
      (state.after style lines).flush.controls =
        extend state.controls (state.pending ++ (divide lines).1) (divide lines).2 := by
  induction lines generalizing state with
  | nil => simp [inside, divide, flush_controls, extend_no_entries]
  | cons line rest ih =>
      obtain ⟨line_open, rest_open⟩ := List.forall_mem_cons.mp unclosed
      rw [after_cons]
      cases kind : classify line.text with
      | plain =>
          rw [offer_plain kind, push_inside inside]
          simpa [divide, kind] using
            ih { state with pending := state.pending ++ [line.text] } inside rest_open
      | unknown =>
          rw [offer_unknown kind]
          simpa [divide, kind] using ih state inside rest_open
      | directive directive =>
          rw [offer_directive kind, inside]
          cases directive with
          | typeEntry name base =>
              -- The new control is last, so the lines after it reach it as strays of a later section
              -- would; `extend_declare` turns them back into the lines of this entry.
              have rest_run := ih
                { state.flush with controls := state.flush.controls ++ [⟨name, base, []⟩] }
                (by simp [inside]) rest_open
              simp only [flush_controls state, flush_pending state, extend_declare] at rest_run
              simpa [divide, kind, Place.action, apply, flush_controls state,
                flush_pending state] using rest_run
          | endTypes => simp [closes, kind] at line_open
          | _ => simpa [divide, kind, Place.action, apply] using ih state inside rest_open

/-- Lines that do not close a section leave the place inside it. -/
theorem after_inside (style : Style) (state : State) {kind : SectionKind} {openedAt : Nat}
    (inside : state.place = .inside kind openedAt) {lines : List Line}
    (unclosed : ∀ line ∈ lines, closes kind line = false) :
    (state.after style lines).place = .inside kind openedAt := by
  cases kind with
  | types => exact (after_types style state inside unclosed).1
  | copy =>
      rw [after_copy style state inside unclosed]
      exact inside

/-! ## Blocks -/

/-- A run from one place outside sections to another does what the blocks say. -/
structure Follows (style : Style) (before : State) (blocks : List Block) (after : State) :
    Prop where
  /-- The output grows by the text of the blocks. -/
  output : after.output = before.output ++ endLines (before.memory.writtenAll style blocks)
  /-- The memory is what the blocks leave. -/
  memory : after.memory = before.memory.rememberAll blocks

theorem Follows.nil (style : Style) (state : State) : Follows style state [] state where
  output := by simp [Memory.writtenAll, endLines]
  memory := rfl

theorem Follows.cons {style : Style} {before middle after : State} {block : Block}
    {blocks : List Block} (rest : Follows style middle blocks after)
    (output : middle.output = before.output ++ endLines (before.memory.written style block))
    (memory : middle.memory = before.memory.remember block) :
    Follows style before (block :: blocks) after where
  output := by
    rw [rest.output, output, memory, Memory.writtenAll, endLines_append, List.append_assoc]
  memory := by rw [rest.memory, memory, Memory.rememberAll, Memory.rememberAll, List.foldl_cons]

theorem offer_opening {line : Line} {kind : SectionKind} (opens : opened? line = some kind)
    (style : Style) {state : State} (outside : state.place = .outside) :
    state.offer style line = { state with place := .inside kind line.number, pending := [] } := by
  unfold opened? at opens
  split at opens
  next found =>
    obtain rfl := Option.some.inj opens
    rw [offer_directive found, outside]
    rfl
  next found =>
    obtain rfl := Option.some.inj opens
    rw [offer_directive found, outside]
    rfl
  next => simp at opens

/-- Outside sections a line changes nothing unless it is plain, writes or opens a section. -/
theorem offer_skipped {line : Line} (opens : opened? line = none)
    (not_plain : classify line.text ≠ .plain)
    (not_write : classify line.text ≠ .directive .writeAll)
    (style : Style) {state : State} (outside : state.place = .outside) :
    state.offer style line = state := by
  cases kind : classify line.text with
  | plain => exact absurd kind not_plain
  | unknown => exact offer_unknown kind style state
  | directive directive =>
      rw [offer_directive kind, outside]
      cases directive with
      | beginTypes => simp [opened?, kind] at opens
      | beginCopy => simp [opened?, kind] at opens
      | writeAll => exact absurd kind not_write
      | _ => rfl

/-- Outside sections plain lines are written. -/
theorem after_of_plain (style : Style) {lines : List Line}
    (plain : ∀ line ∈ lines, classify line.text = .plain) {state : State}
    (outside : state.place = .outside) :
    state.after style lines =
      { state with output := state.output ++ endLines (lines.map Line.text) } := by
  induction lines generalizing state with
  | nil => simp [endLines]
  | cons line rest ih =>
      obtain ⟨line_plain, rest_plain⟩ := List.forall_mem_cons.mp plain
      rw [after_cons, offer_plain line_plain, push_outside outside,
        ih rest_plain (by exact outside)]
      simp [endLines]

/-- A closed section leads back outside and does what its block says. -/
theorem after_section (style : Style) (state : State) {kind : SectionKind} {openedAt : Nat}
    (inside : state.place = .inside kind openedAt) (fresh : state.pending = [])
    {inner : List Line} (unclosed : ∀ line ∈ inner, closes kind line = false)
    {closing : Line} (closed : closes kind closing = true) :
    ((state.after style inner).offer style closing).place = .outside ∧
      ((state.after style inner).offer style closing).output = state.output ∧
      ((state.after style inner).offer style closing).memory =
        state.memory.remember (.ofSection kind inner) := by
  cases kind with
  | copy =>
      have ends : classify closing.text = .directive .endCopy := by simpa [closes] using closed
      rw [after_copy style state inside unclosed, offer_directive ends]
      simp [inside, fresh, Place.action, apply, memory, Memory.remember, Block.ofSection]
  | types =>
      have ends : classify closing.text = .directive .endTypes := by simpa [closes] using closed
      obtain ⟨place, output, copyBody, controls⟩ := after_types style state inside unclosed
      rw [offer_directive ends, place]
      simp [Place.action, apply, memory, Memory.remember, Block.ofSection, output, copyBody,
        controls, fresh]

/-- What an outline says about the state after its lines: without an open section the run is outside
again, and otherwise it has read the lines of the open section from the place where that opened. -/
def Ends (style : Style) (before : State) (outline : Outline) (final : State) : Prop :=
  match outline.unclosed with
  | none => final.place = .outside ∧ Follows style before outline.blocks final
  | some opened =>
    ∃ start : State, start.place = .inside opened.kind opened.openedAt ∧ start.pending = [] ∧
      Follows style before outline.blocks start ∧
      (∀ line ∈ opened.lines, closes opened.kind line = false) ∧
      final = start.after style opened.lines

theorem Ends.cons {style : Style} {before middle final : State} {block : Block}
    {outline : Outline} (rest : Ends style middle outline final)
    (output : middle.output = before.output ++ endLines (before.memory.written style block))
    (memory : middle.memory = before.memory.remember block) :
    Ends style before (outline.cons block) final := by
  unfold Ends at rest ⊢
  rw [show (outline.cons block).unclosed = outline.unclosed from rfl]
  cases unclosed : outline.unclosed with
  | none =>
      rw [unclosed] at rest
      obtain ⟨outside, follows⟩ := rest
      exact ⟨outside, follows.cons output memory⟩
  | some opened =>
      rw [unclosed] at rest
      obtain ⟨start, inside, fresh, follows, open_lines, final_eq⟩ := rest
      exact ⟨start, inside, fresh, follows.cons output memory, open_lines, final_eq⟩

/-- Every run from outside sections ends as the outline of its lines says. -/
theorem ends_outline (style : Style) (lines : List Line) (state : State)
    (outside : state.place = .outside) :
    Ends style state (outline lines) (state.after style lines) := by
  -- The recursion of `outline` takes a closed section as one step, so the machine is never followed
  -- inside a section here.
  fun_induction outline lines generalizing state with
  | case1 => exact ⟨outside, .nil style state⟩
  | case2 line rest kind opens inner following split ih =>
      obtain ⟨closing, rfl, closed, unclosed⟩ := splitClose?_eq_some split
      rw [after_cons, offer_opening opens style outside, after_append, after_cons]
      obtain ⟨place, output, memory⟩ := after_section style
        { state with place := .inside kind line.number, pending := [] } rfl rfl unclosed closed
      refine (ih _ place).cons ?_ memory
      cases kind <;> simp [output, Memory.written, Block.ofSection, endLines]
  | case3 line rest kind opens split =>
      refine ⟨{ state with place := .inside kind line.number, pending := [] }, rfl, rfl, ?_,
        splitClose?_eq_none split, ?_⟩
      · exact ⟨by simp [Memory.writtenAll, endLines], rfl⟩
      · rw [after_cons, offer_opening opens style outside]
  | case4 line rest opens plain ih =>
      rw [after_cons, offer_plain plain, push_outside outside]
      refine (ih { state with output := state.output ++ line.text ++ ['\n'] } outside).cons ?_ rfl
      simp [Memory.written, endLines]
  | case5 line rest opens write ih =>
      rw [after_cons, offer_directive write, outside]
      refine (ih (state.apply style line.number (Place.outside.action .writeAll)) outside).cons
        ?_ rfl
      exact congrArg (state.output ++ ·) (renderAll_eq_endLines state.controls state.copyBody style)
  | case6 line rest opens not_plain not_write ih =>
      rw [after_cons, offer_skipped opens not_plain not_write style outside]
      exact ih state outside

theorem finish_after_initial (style : Style) (lines : List Line) :
    (initial.after style lines).finish = (outline lines).meaning style := by
  have ends := ends_outline style lines initial rfl
  unfold Ends at ends
  unfold Outline.meaning
  cases unclosed : (outline lines).unclosed with
  | none =>
      rw [unclosed] at ends
      obtain ⟨outside, follows⟩ := ends
      rw [finish, outside, follows.output]
      rfl
  | some opened =>
      rw [unclosed] at ends
      obtain ⟨start, inside, fresh, follows, open_lines, final_eq⟩ := ends
      rw [final_eq, finish, after_inside style start inside open_lines]

end State

/-- Compiling a list of lines gives what it stands for: the first malformed line, else the section
without end, else the text of its blocks. -/
theorem compile_eq_meaning (style : Style) (lines : List Line) :
    compile style lines = meaning style lines := by
  unfold meaning
  cases malformed : lines.find? isMalformed with
  | some bad => exact compile_of_malformed style malformed
  | none =>
      rw [compile_of_known style malformed]
      exact State.finish_after_initial style lines

end Stencil.Section

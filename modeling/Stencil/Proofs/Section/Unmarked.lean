import Stencil.Proofs.Directive.Classify
import Stencil.Proofs.Section.Compile
import Stencil.Proofs.Text.Unmarked
import Stencil.Template

/-!
# No directive in what is written

The text that a list of lines is compiled to has no line with the special mark, if no line of the
list has a line feed in it and the layout of the blocks is unmarked.  Every text that a state holds
is unmarked, and each line keeps it so.  Since all lines of the written text are plain, compiling
them again gives the same text.
-/

namespace Stencil

namespace Section

open Text (Unmarked)

/-- The layout of a block has no line with the special mark. -/
structure UnmarkedStyle (style : Style) : Prop where
  declaration : Unmarked style.declaration
  opening : Unmarked style.opening
  closing : Unmarked style.closing

/-- The names of a control are words, and its lines are unmarked. -/
structure UnmarkedControl (control : Control) : Prop where
  name : control.name.isWord = true
  base : control.base.isWord = true
  body : Unmarked control.body

/-- A text of unmarked lines, each with its line feed. -/
def UnmarkedLines (text : Text) : Prop :=
  ∃ lines : List Text, text = endLines lines ∧ ∀ line ∈ lines, Unmarked line

/-- No text that a state holds has a line with the special mark. -/
structure UnmarkedState (state : State) : Prop where
  pending : ∀ text ∈ state.pending, Unmarked text
  controls : ∀ control ∈ state.controls, UnmarkedControl control
  copyBody : Unmarked state.copyBody
  output : UnmarkedLines state.output

theorem UnmarkedLines.append {left right : Text} (left_lines : UnmarkedLines left)
    (right_lines : UnmarkedLines right) : UnmarkedLines (left ++ right) := by
  obtain ⟨before, rfl, before_unmarked⟩ := left_lines
  obtain ⟨after, rfl, after_unmarked⟩ := right_lines
  exact ⟨before ++ after, (endLines_append before after).symm,
    List.forall_mem_append.mpr ⟨before_unmarked, after_unmarked⟩⟩

/-! ## Blocks -/

theorem unmarked_declaration {style : Style} {control : Control}
    (declaration : Unmarked style.declaration) (unmarked : UnmarkedControl control) :
    Unmarked (control.declaration style) := by
  have named : Unmarked (style.declaration.replaceAll Style.nameMark control.name) :=
    declaration.replaceAll (by decide) (by decide) unmarked.name
  exact named.replaceAll (by decide) (by decide) unmarked.base

theorem unmarked_blockLines {style : Style} (layout : UnmarkedStyle style) {copyBody : Text}
    (copy : Unmarked copyBody) {control : Control} (unmarked : UnmarkedControl control) :
    ∀ line ∈ blockLines copyBody style control, Unmarked line := by
  have bodies : ∀ line ∈ [control.body, copyBody].filter (· ≠ []), Unmarked line := by
    intro line member
    have present : line = control.body ∨ line = copyBody := by
      simpa using (List.mem_filter.mp member).1
    rcases present with rfl | rfl
    · exact unmarked.body
    · exact copy
  rw [blockLines]
  simp only [List.forall_mem_append, List.forall_mem_cons]
  exact ⟨⟨⟨Text.unmarked_nil, unmarked_declaration layout.declaration unmarked, layout.opening,
    List.forall_mem_nil _⟩, bodies⟩, layout.closing, List.forall_mem_nil _⟩

theorem unmarkedLines_renderAll {style : Style} (layout : UnmarkedStyle style) {copyBody : Text}
    (copy : Unmarked copyBody) {controls : List Control}
    (unmarked : ∀ control ∈ controls, UnmarkedControl control) :
    UnmarkedLines (Control.renderAll controls copyBody style) := by
  refine ⟨_, renderAll_eq_endLines controls copyBody style, fun line member => ?_⟩
  obtain ⟨control, declared, in_block⟩ := List.mem_flatMap.mp member
  exact unmarked_blockLines layout copy (unmarked control declared) line in_block

/-! ## Steps and runs -/

theorem UnmarkedState.push {state : State} (unmarked : UnmarkedState state) {text : Text}
    (plain : Unmarked text) : UnmarkedState (state.push text) := by
  cases place : state.place with
  | outside =>
      rw [State.push_outside place, List.append_assoc]
      have line : UnmarkedLines (text ++ ['\n']) := ⟨[text], by simp [endLines], by simpa⟩
      exact { unmarked with output := unmarked.output.append line }
  | inside kind openedAt =>
      rw [State.push_inside place]
      refine { unmarked with pending := List.forall_mem_append.mpr ⟨unmarked.pending, ?_⟩ }
      simpa using plain

theorem UnmarkedState.flush {state : State} (unmarked : UnmarkedState state) :
    UnmarkedState state.flush := by
  unfold State.flush
  split
  next first rest last pending_eq last_eq =>
    have declared : last ∈ state.controls := List.mem_of_getLast? last_eq
    have body : Unmarked (joinLines state.pending) := Text.unmarked_intercalate unmarked.pending
    refine { unmarked with pending := List.forall_mem_nil _, controls := ?_ }
    refine List.forall_mem_append.mpr ⟨fun control member => ?_, ?_⟩
    · exact unmarked.controls control (List.dropLast_subset _ member)
    · simpa using { unmarked.controls last declared with body := body }
  next => exact unmarked

theorem eq_typeEntry_of_action_eq_declare {place : Place} {directive : Directive}
    {name base : Text} (action : place.action directive = .declare name base) :
    directive = .typeEntry name base := by
  unfold Place.action at action
  split at action <;> cases action
  rfl

/-- What a directive does leaves a state unmarked. -/
theorem UnmarkedState.apply {style : Style} (layout : UnmarkedStyle style) {state : State}
    (unmarked : UnmarkedState state) (number : Nat) {directive : Directive}
    (words : ∀ name base, directive = .typeEntry name base →
      name.isWord = true ∧ base.isWord = true) :
    UnmarkedState (state.apply style number (state.place.action directive)) := by
  cases action : state.place.action directive with
  | start kind => exact { unmarked with pending := List.forall_mem_nil _ }
  | writeAll =>
      have blocks := unmarkedLines_renderAll layout unmarked.copyBody unmarked.controls
      exact { unmarked with output := unmarked.output.append blocks }
  | declare name base =>
      obtain ⟨name_word, base_word⟩ := words name base (eq_typeEntry_of_action_eq_declare action)
      have declared : UnmarkedControl ⟨name, base, []⟩ := ⟨name_word, base_word, Text.unmarked_nil⟩
      have flushed := unmarked.flush
      exact { flushed with controls := List.forall_mem_append.mpr ⟨flushed.controls, by simpa⟩ }
  | stop kind =>
      cases kind with
      | types => exact { unmarked.flush with pending := List.forall_mem_nil _ }
      | copy =>
          exact { unmarked with
            pending := List.forall_mem_nil _
            copyBody := Text.unmarked_intercalate unmarked.pending }
  | ignore => exact unmarked

/-- Every line without a line feed leaves a state unmarked. -/
theorem UnmarkedState.feed {style : Style} (layout : UnmarkedStyle style) {state next : State}
    (unmarked : UnmarkedState state) {line : Line} (no_feed : '\n' ∉ line.text)
    (fed : state.feed style line = .ok next) : UnmarkedState next := by
  unfold State.feed at fed
  split at fed
  next plain =>
    obtain rfl := Except.ok.inj fed
    have line_unmarked : Unmarked line.text :=
      (Text.unmarked_of_no_feed no_feed).mpr ((classify_eq_plain_iff line.text).mp plain)
    exact unmarked.push line_unmarked
  next directive found =>
    obtain rfl := Except.ok.inj fed
    refine unmarked.apply layout line.number fun name base entry => ?_
    exact isWord_of_classify (entry ▸ found)
  next => cases fed

theorem UnmarkedState.run {style : Style} (layout : UnmarkedStyle style) {lines : List Line}
    (no_feed : ∀ line ∈ lines, '\n' ∉ line.text) {state final : State}
    (unmarked : UnmarkedState state) (done : lines.foldlM (State.feed style) state = .ok final) :
    UnmarkedState final := by
  induction lines generalizing state with
  | nil =>
      obtain rfl := Except.ok.inj done
      exact unmarked
  | cons line rest ih =>
      obtain ⟨line_no_feed, rest_no_feed⟩ := List.forall_mem_cons.mp no_feed
      rw [List.foldlM_cons] at done
      cases fed : state.feed style line with
      | error fault => simp [fed, bind, Except.bind] at done
      | ok next =>
          rw [fed] at done
          exact ih rest_no_feed (unmarked.feed layout line_no_feed fed) done

theorem unmarkedState_initial : UnmarkedState State.initial where
  pending := List.forall_mem_nil _
  controls := List.forall_mem_nil _
  copyBody := Text.unmarked_nil
  output := ⟨[], rfl, List.forall_mem_nil _⟩

theorem unmarkedLines_of_compile {style : Style} (layout : UnmarkedStyle style)
    {lines : List Line} (no_feed : ∀ line ∈ lines, '\n' ∉ line.text) {out : Text}
    (compiled : compile style lines = .ok out) : UnmarkedLines out := by
  unfold compile at compiled
  cases done : lines.foldlM (State.feed style) State.initial with
  | error fault => simp [done, bind, Except.bind] at compiled
  | ok final =>
      have unmarked := unmarkedState_initial.run layout no_feed done
      have finished : final.finish = .ok out := by simpa [done, bind, Except.bind] using compiled
      unfold State.finish at finished
      split at finished
      next =>
        obtain rfl := Except.ok.inj finished
        exact unmarked.output
      next => cases finished

/-! ## The lines of a written text -/

/-- The lines of a text that a line feed ends. -/
def endedLines (text : Text) : List Text := (List.splitOn '\n' text).dropLast

theorem splitOn_endLines (lines : List Text) :
    List.splitOn '\n' (endLines lines) = lines.flatMap (List.splitOn '\n') ++ [[]] := by
  induction lines with
  | nil => rfl
  | cons line rest ih =>
      have cut : endLines (line :: rest) = line ++ '\n' :: endLines rest := by simp [endLines]
      rw [cut, List.splitOn_append_cons_self, ih, List.flatMap_cons, List.append_assoc]

theorem endLines_eq_joinLines {lines : List Text} (lines_ne : lines ≠ []) :
    endLines lines = joinLines lines ++ ['\n'] := by
  induction lines with
  | nil => exact absurd rfl lines_ne
  | cons first rest ih =>
      cases rest with
      | nil => simp [endLines, joinLines]
      | cons next rest =>
          have rest_lines := ih (by simp)
          simp only [endLines, joinLines, List.flatMap_cons, List.intercalate_cons_cons] at *
          rw [rest_lines]
          simp only [List.append_assoc]

theorem endLines_flatMap_splitOn (lines : List Text) :
    endLines (lines.flatMap (List.splitOn '\n')) = endLines lines := by
  induction lines with
  | nil => rfl
  | cons line rest ih =>
      have line_eq : endLines (List.splitOn '\n' line) = line ++ ['\n'] := by
        rw [endLines_eq_joinLines (List.splitOn_ne_nil '\n' line), joinLines,
          List.intercalate_splitOn]
      rw [List.flatMap_cons, endLines_append, line_eq, ih]
      rfl

theorem getLast?_endLines {lines : List Text} (lines_ne : lines ≠ []) :
    (endLines lines).getLast? = some '\n' := by
  rw [endLines_eq_joinLines lines_ne, List.getLast?_concat]

/-- Plain lines are written as they are. -/
theorem compile_of_plain (style : Style) {lines : List Line}
    (plain : ∀ line ∈ lines, classify line.text = .plain) :
    compile style lines = .ok (endLines (lines.map Line.text)) := by
  have known : lines.find? isMalformed = none := by
    refine List.find?_eq_none.mpr fun line member => ?_
    simp [isMalformed, plain line member]
  rw [compile_of_known style known, State.after_of_plain style plain rfl]
  rfl

theorem endedLines_endLines (lines : List Text) :
    endedLines (endLines lines) = lines.flatMap (List.splitOn '\n') := by
  rw [endedLines, splitOn_endLines, List.dropLast_concat]

/-- The lines of a written text are plain and stand for the text itself. -/
theorem UnmarkedLines.again {out : Text} (unmarked : UnmarkedLines out) :
    (out = [] ∨ out.getLast? = some '\n') ∧
      Unmarked out ∧
      (∀ line ∈ endedLines out, classify line = .plain) ∧
      ∀ (style : Style) (lines : List Line), lines.map Line.text = endedLines out →
        compile style lines = .ok out := by
  obtain ⟨texts, rfl, texts_unmarked⟩ := unmarked
  have ended_plain : ∀ line ∈ endedLines (endLines texts), Text.isSpecial line = false := by
    rw [endedLines_endLines]
    intro line member
    obtain ⟨text, text_mem, line_mem⟩ := List.mem_flatMap.mp member
    exact texts_unmarked text text_mem line line_mem
  refine ⟨?_, ?_, fun line member => ?_, fun style lines same => ?_⟩
  · rcases eq_or_ne texts [] with rfl | texts_ne
    · exact .inl rfl
    · exact .inr (getLast?_endLines texts_ne)
  · rw [Unmarked, splitOn_endLines, ← endedLines_endLines]
    exact List.forall_mem_append.mpr ⟨ended_plain, by decide⟩
  · exact (classify_eq_plain_iff line).mpr (ended_plain line member)
  · have plain : ∀ line ∈ lines, classify line.text = .plain := by
      intro line member
      have ended : line.text ∈ endedLines (endLines texts) := same ▸ List.mem_map_of_mem member
      exact (classify_eq_plain_iff line.text).mpr (ended_plain line.text ended)
    rw [compile_of_plain style plain, same, endedLines_endLines, endLines_flatMap_splitOn]

/-- In an unmarked layout, what lines without line feeds are compiled to is empty or ends with a
line feed, all its lines are plain, and compiling them again gives the same text, whatever their
numbers and the layout.  So the text of a template has no line with the special mark after the
notice, unless a loop fills a line feed into a line. -/
theorem compile_unmarked {style : Style} (layout : UnmarkedStyle style) :
    (∀ (lines : List Line) (out : Text), (∀ line ∈ lines, '\n' ∉ line.text) →
      compile style lines = .ok out →
      (out = [] ∨ out.getLast? = some '\n') ∧
      (∀ line ∈ endedLines out, classify line = .plain) ∧
      ∀ (other : Style) (again : List Line), again.map Line.text = endedLines out →
        compile other again = .ok out) ∧
    ∀ (template : Text) (expanded : List Line) (text : Text),
      Loop.expand (Line.ofText template) = .ok expanded →
      (∀ line ∈ expanded, '\n' ∉ line.text) →
      Template.generate style template = .ok text →
      ∃ body, text = Template.banner ++ body ∧ Unmarked body := by
  refine ⟨fun lines out no_feed compiled => ?_,
    fun template expanded text expands no_feed done => ?_⟩
  · obtain ⟨ends, _, plain, again⟩ := (unmarkedLines_of_compile layout no_feed compiled).again
    exact ⟨ends, plain, again⟩
  · rw [Template.generate, expands] at done
    cases compiled : compile style expanded with
    | error fault => simp [compiled, bind, Except.bind] at done
    | ok body =>
        obtain rfl : Template.banner ++ body = text := by
          simpa [compiled, bind, Except.bind, pure, Except.pure] using done
        exact ⟨body, rfl, (unmarkedLines_of_compile layout no_feed compiled).again.2.1⟩

/-- A template whose loop declares a control in a section of its own. -/
def loopTemplate : Text :=
  joinLines [ "// -- foreach t in ['A'] --".toList, Mark.beginTypes, "// -- {{t}} : B".toList,
    "{{t}}();".toList, Mark.endTypes, Mark.endForeach, Mark.writeAll, "x // --".toList ]

/-- The lines of the template without the loop. -/
def loopLines : List Line :=
  [ ⟨2, Mark.beginTypes⟩, ⟨3, "// -- A : B".toList⟩, ⟨4, "A();".toList⟩, ⟨5, Mark.endTypes⟩,
    ⟨7, Mark.writeAll⟩, ⟨8, "x // --".toList⟩ ]

/-- What these lines are compiled to. -/
def loopText : Text :=
  endLines [ [], "    public class A : B".toList, "    \x7b".toList, "A();".toList,
    "    \x7d".toList, "x // --".toList ]

/-- A block and a line with the mark after its start are plain when they are read again. -/
theorem compile_unmarked_loop :
    (loopText = [] ∨ loopText.getLast? = some '\n') ∧
      (∀ line ∈ endedLines loopText, classify line = .plain) ∧
      compile ⟨[], [], []⟩ (Line.ofText loopText) = .ok loopText ∧
      ∃ body, Template.banner ++ loopText = Template.banner ++ body ∧ Unmarked body := by
  have layout : UnmarkedStyle Style.standard := ⟨by decide, by decide, by decide⟩
  have no_feed : ∀ line ∈ loopLines, '\n' ∉ line.text := by decide
  have compiled : compile Style.standard loopLines = .ok loopText := by decide +kernel
  have expands : Loop.expand (Line.ofText loopTemplate) = .ok loopLines := by decide +kernel
  have generated : Template.generate Style.standard loopTemplate =
      .ok (Template.banner ++ loopText) := by
    rw [Template.generate, expands]
    exact congrArg (fun text => text.map (Template.banner ++ ·)) compiled
  have same : (Line.ofText loopText).map Line.text = endedLines loopText := by decide +kernel
  obtain ⟨ends, plain, again⟩ := (compile_unmarked layout).1 loopLines loopText no_feed compiled
  exact ⟨ends, plain, again _ _ same,
    (compile_unmarked layout).2 loopTemplate loopLines _ expands no_feed generated⟩

end Section

end Stencil

import Stencil.Proofs.Section.Closed
import Stencil.Proofs.Section.Unmarked

/-!
# The lines of a written block

The lines collected for a control, and the lines that all controls share, are kept as one text with
line feeds between them, and a block leaves out a text that is empty.  A text determines its lines,
but for one case: no lines and a single blank line give the same empty text.  `block_lines_iff` says
that a written block has all collected lines exactly when neither collection is a single blank line.
-/

namespace Stencil.Section

/-! ## Lines and their text -/

theorem joinLines_eq_nil_iff (lines : List Text) :
    joinLines lines = [] ↔ lines = [] ∨ lines = [[]] := by
  rcases lines with _ | ⟨first, _ | ⟨second, rest⟩⟩
  · simp [joinLines]
  · simp [joinLines]
  · simp [joinLines, List.intercalate_cons_cons]

/-- The collected lines that a block has: all of them, but none in place of a single blank line. -/
def shown (lines : List Text) : List Text := if lines = [[]] then [] else lines

theorem shown_eq_self_iff (lines : List Text) : shown lines = lines ↔ lines ≠ [[]] := by
  by_cases blank : lines = [[]]
  · simp [shown, blank]
  · simp [shown, blank]

theorem length_shown_le (lines : List Text) : (shown lines).length ≤ lines.length := by
  by_cases blank : lines = [[]]
  · simp [shown, blank]
  · simp [shown, blank]

/-- A text of collected lines puts the lines that are shown. -/
theorem splitOn_joinLines {lines : List Text} (no_feed : ∀ line ∈ lines, '\n' ∉ line) :
    ([joinLines lines].filter (· ≠ [])).flatMap (List.splitOn '\n') = shown lines := by
  rcases eq_or_ne (joinLines lines) [] with empty | nonempty
  · rw [List.filter_cons_of_neg (by simp [empty])]
    rcases (joinLines_eq_nil_iff lines).mp empty with rfl | rfl <;> rfl
  · have lines_ne : lines ≠ [] ∧ lines ≠ [[]] :=
      not_or.mp fun empty => nonempty ((joinLines_eq_nil_iff lines).mpr empty)
    have split : List.splitOn '\n' (joinLines lines) = lines :=
      List.splitOn_intercalate '\n' no_feed lines_ne.1
    rw [List.filter_cons_of_pos (by simp [nonempty]), (shown_eq_self_iff lines).mpr lines_ne.2]
    simp [split]

/-! ## Plain lines inside a section -/

theorem divide_of_plain {lines : List Line} (plain : ∀ line ∈ lines, classify line.text = .plain) :
    divide lines = (lines.map Line.text, []) := by
  induction lines with
  | nil => rfl
  | cons line rest ih =>
      obtain ⟨line_plain, rest_plain⟩ := List.forall_mem_cons.mp plain
      simp [divide, line_plain, ih rest_plain]

theorem plainTexts_of_plain {lines : List Line}
    (plain : ∀ line ∈ lines, classify line.text = .plain) :
    plainTexts lines = lines.map Line.text := by
  rw [plainTexts, List.filter_eq_self.mpr (by simpa using plain)]

/-! ## Lines that declare and write one control -/

/-- No text of the layout has a line feed. -/
structure OneLineStyle (style : Style) : Prop where
  declaration : '\n' ∉ style.declaration
  opening : '\n' ∉ style.opening
  closing : '\n' ∉ style.closing

/-- Lines that declare one control with lines of its own, give the lines that all controls share,
and write. -/
structure SingleControl where
  beginTypes : Line
  entry : Line
  /-- The lines of the control. -/
  body : List Line
  endTypes : Line
  beginCopy : Line
  /-- The lines that all controls share. -/
  copy : List Line
  endCopy : Line
  write : Line
  name : Text
  base : Text
  beginTypes_eq : classify beginTypes.text = .directive .beginTypes
  entry_eq : classify entry.text = .directive (.typeEntry name base)
  body_plain : ∀ line ∈ body, classify line.text = .plain ∧ '\n' ∉ line.text
  endTypes_eq : classify endTypes.text = .directive .endTypes
  beginCopy_eq : classify beginCopy.text = .directive .beginCopy
  copy_plain : ∀ line ∈ copy, classify line.text = .plain ∧ '\n' ∉ line.text
  endCopy_eq : classify endCopy.text = .directive .endCopy
  write_eq : classify write.text = .directive .writeAll

namespace SingleControl

/-- The lines in order. -/
def lines (single : SingleControl) : List Line :=
  single.beginTypes :: single.entry :: single.body ++ single.endTypes ::
    single.beginCopy :: single.copy ++ [single.endCopy, single.write]

/-- The types section. -/
def types (single : SingleControl) : ClosedSection .types where
  opener := single.beginTypes
  inner := single.entry :: single.body
  closing := single.endTypes
  opens := by simp [opened?, single.beginTypes_eq]
  known := by
    refine List.forall_mem_cons.mpr ⟨by simp [isMalformed, single.entry_eq], fun line member => ?_⟩
    simp [isMalformed, (single.body_plain line member).1]
  unclosed := by
    refine List.forall_mem_cons.mpr ⟨by simp [closes, single.entry_eq], fun line member => ?_⟩
    simp [closes, (single.body_plain line member).1]
  closed := by simp [closes, single.endTypes_eq]

/-- The copy section. -/
def shared (single : SingleControl) : ClosedSection .copy where
  opener := single.beginCopy
  inner := single.copy
  closing := single.endCopy
  opens := by simp [opened?, single.beginCopy_eq]
  known line member := by simp [isMalformed, (single.copy_plain line member).1]
  unclosed line member := by simp [closes, (single.copy_plain line member).1]
  closed := by simp [closes, single.endCopy_eq]

/-- The declaration line of the control. -/
def declaration (single : SingleControl) (style : Style) : Text :=
  Control.declaration ⟨single.name, single.base, []⟩ style

/-- A block of the control with the given lines: a blank line, the declaration, the opening line,
the lines, and the closing line. -/
def block (single : SingleControl) (style : Style) (body copy : List Text) : List Text :=
  [[], single.declaration style, style.opening] ++ body ++ copy ++ [style.closing]

/-- The texts of the control's lines. -/
def bodyTexts (single : SingleControl) : List Text := single.body.map Line.text

/-- The texts of the shared lines. -/
def copyTexts (single : SingleControl) : List Text := single.copy.map Line.text

theorem lines_eq (single : SingleControl) :
    single.lines = single.types.lines ++ (single.shared.lines ++ [single.write]) := by
  simp [lines, types, shared, ClosedSection.lines]

/-! ## What the lines are compiled to -/

theorem block_types (single : SingleControl) :
    single.types.block = .types [] [⟨single.name, single.base, single.bodyTexts⟩] := by
  have body := divide_of_plain fun line member => (single.body_plain line member).1
  simp [ClosedSection.block, Block.ofSection, types, divide, single.entry_eq, body, bodyTexts]

theorem block_shared (single : SingleControl) : single.shared.block = .copy single.copyTexts := by
  have copy := plainTexts_of_plain fun line member => (single.copy_plain line member).1
  simp [ClosedSection.block, Block.ofSection, shared, copy, copyTexts]

/-- The control is written with the text of its lines and the text of the shared lines. -/
theorem compile_lines (style : Style) (single : SingleControl) :
    compile style single.lines =
      .ok (endLines (blockLines (joinLines single.copyTexts) style
        ⟨single.name, single.base, joinLines single.bodyTexts⟩)) := by
  have write_known : ∀ line ∈ [single.write], isMalformed line = false := by
    simp [isMalformed, single.write_eq]
  have from_initial : compile style single.lines = State.initial.answer style single.lines := rfl
  rw [from_initial, single.lines_eq, State.answer_append style _ single.types.lines_known,
    State.after_closed style rfl, State.answer_append style _ single.shared.lines_known,
    State.after_closed style rfl, block_types, block_shared, ← List.append_nil [single.write],
    State.answer_append style _ write_known, State.after_cons, State.after_nil,
    State.offer_directive single.write_eq]
  have control := render_eq_endLines (joinLines single.copyTexts) style
    ⟨single.name, single.base, joinLines single.bodyTexts⟩
  exact congrArg Except.ok ((List.append_nil _).trans control)

theorem not_mem_feed_declaration {style : Style} (layout : OneLineStyle style)
    (single : SingleControl) : '\n' ∉ single.declaration style := by
  obtain ⟨name_word, base_word⟩ := isWord_of_classify single.entry_eq
  have named : '\n' ∉ style.declaration.replaceAll Style.nameMark single.name :=
    Text.not_mem_replaceFrom (Text.not_mem_feed_of_isWord name_word) layout.declaration
  exact Text.not_mem_replaceFrom (Text.not_mem_feed_of_isWord base_word) named

theorem endedLines_blockLines {style : Style} (layout : OneLineStyle style)
    (single : SingleControl) :
    endedLines (endLines (blockLines (joinLines single.copyTexts) style
        ⟨single.name, single.base, joinLines single.bodyTexts⟩)) =
      single.block style (shown single.bodyTexts) (shown single.copyTexts) := by
  have body : ∀ text ∈ single.bodyTexts, '\n' ∉ text := List.forall_mem_map.mpr fun line member =>
    (single.body_plain line member).2
  have copy : ∀ text ∈ single.copyTexts, '\n' ∉ text := List.forall_mem_map.mpr fun line member =>
    (single.copy_plain line member).2
  have declaration : List.splitOn '\n' (single.declaration style) = [single.declaration style] :=
    List.splitOn_eq_singleton (not_mem_feed_declaration layout single)
  have opening : List.splitOn '\n' style.opening = [style.opening] :=
    List.splitOn_eq_singleton layout.opening
  have closing : List.splitOn '\n' style.closing = [style.closing] :=
    List.splitOn_eq_singleton layout.closing
  have two_texts (first second : Text) : [first, second].filter (· ≠ []) =
      [first].filter (· ≠ []) ++ [second].filter (· ≠ []) := List.filter_append [first] [second]
  have same_declaration : Control.declaration
      ⟨single.name, single.base, joinLines single.bodyTexts⟩ style = single.declaration style := rfl
  rw [endedLines_endLines, blockLines, two_texts]
  simp only [List.flatMap_append, splitOn_joinLines body, splitOn_joinLines copy]
  simp [block, same_declaration, declaration, opening, closing]

/-- The lines that are shown make the block of all lines exactly when none is missing. -/
theorem block_shown_eq_iff (style : Style) (single : SingleControl) (body copy : List Text) :
    single.block style (shown body) (shown copy) = single.block style body copy ↔
      body ≠ [[]] ∧ copy ≠ [[]] := by
  constructor
  · intro same
    have lengths := congrArg List.length same
    simp only [block, List.length_append] at lengths
    have body_le := length_shown_le body
    have copy_le := length_shown_le copy
    constructor
    · intro blank
      have missing : (shown body).length < body.length := by simp [blank, shown]
      omega
    · intro blank
      have missing : (shown copy).length < copy.length := by simp [blank, shown]
      omega
  · rintro ⟨body_ne, copy_ne⟩
    rw [(shown_eq_self_iff body).mpr body_ne, (shown_eq_self_iff copy).mpr copy_ne]

end SingleControl

/-- A control that is declared with lines and written with shared lines becomes a block whose lines
are a blank line, the declaration, the opening line, the collected lines that are shown, and the
closing line.  It has all collected lines exactly when neither the control's lines nor the shared
lines are a single blank line. -/
theorem block_lines_iff {style : Style} (layout : OneLineStyle style) (single : SingleControl) :
    ∃ text, compile style single.lines = .ok text ∧
      text = endLines (endedLines text) ∧
      endedLines text = single.block style (shown single.bodyTexts) (shown single.copyTexts) ∧
      (endedLines text = single.block style single.bodyTexts single.copyTexts ↔
        single.bodyTexts ≠ [[]] ∧ single.copyTexts ≠ [[]]) := by
  refine ⟨_, single.compile_lines style, ?_, single.endedLines_blockLines layout, ?_⟩
  · rw [endedLines_endLines, endLines_flatMap_splitOn]
  · rw [single.endedLines_blockLines layout]
    exact single.block_shown_eq_iff style _ _

/-- A control with the given lines, and given shared lines. -/
def singleControl (body copy : List Text)
    (body_plain : ∀ text ∈ body, classify text = .plain ∧ '\n' ∉ text)
    (copy_plain : ∀ text ∈ copy, classify text = .plain ∧ '\n' ∉ text) : SingleControl where
  beginTypes := ⟨1, Mark.beginTypes⟩
  entry := ⟨2, "// -- A : B --".toList⟩
  body := body.map (⟨3, ·⟩)
  endTypes := ⟨4, Mark.endTypes⟩
  beginCopy := ⟨5, Mark.beginCopy⟩
  copy := copy.map (⟨6, ·⟩)
  endCopy := ⟨7, Mark.endCopy⟩
  write := ⟨8, Mark.writeAll⟩
  name := ['A']
  base := ['B']
  beginTypes_eq := by decide
  entry_eq := by decide +kernel
  body_plain := List.forall_mem_map.mpr body_plain
  endTypes_eq := by decide
  beginCopy_eq := by decide
  copy_plain := List.forall_mem_map.mpr copy_plain
  endCopy_eq := by decide
  write_eq := by decide

/-- A control whose only line is blank. -/
def blankControl : SingleControl := singleControl [[]] [] (by decide) (by decide)

/-- A control with two blank lines, and a shared line with a blank one after it. -/
def spacedControl : SingleControl :=
  singleControl [[], []] [['c'], []] (by decide) (by decide)

/-- The only line of a control is missing in its block when it is blank. -/
theorem not_block_lines_blank :
    ∃ text, compile Style.standard blankControl.lines = .ok text ∧
      endedLines text ≠
        blankControl.block Style.standard blankControl.bodyTexts blankControl.copyTexts := by
  refine ⟨endLines (blankControl.block Style.standard [] []), ?_, ?_⟩
  · decide +kernel
  · decide +kernel

/-- Two blank lines are kept, and so is a blank line after another one. -/
theorem block_lines_spaced :
    ∃ text, compile Style.standard spacedControl.lines = .ok text ∧
      endedLines text =
        spacedControl.block Style.standard [[], []] [['c'], []] := by
  have layout : OneLineStyle Style.standard := ⟨by decide, by decide, by decide⟩
  obtain ⟨text, compiled, _, _, all_lines⟩ := block_lines_iff layout spacedControl
  exact ⟨text, compiled, all_lines.mpr ⟨by decide, by decide⟩⟩

end Stencil.Section

import Mathlib.Data.List.Forall2
import Stencil.Proofs.Directive.Padding
import Stencil.Proofs.Loop.Step
import Stencil.Proofs.Section.Run
import Stencil.Template

/-!
# Blanks around directive lines in both passes

Two lists of lines that differ by blanks around directive lines are read side by side.  The
expansion of loops keeps them so, whether a line is captured, filled or put, and the reading of
sections sees no difference.  The bare start of a loop header is the exception: a blank behind it
lets the first pass refuse the line, which otherwise passes on to the second pass or, in the body of
a loop over nothing, to none.  `passes_pad_eq_iff` says when that shows.
-/

namespace Stencil

/-- A line with blanks put around its text. -/
def Line.pad (line : Line) (before after : Text) : Line :=
  ⟨line.number, before ++ line.text ++ after⟩

/-- The second line is the first, or the first is a directive line and the second has blanks around
it. -/
inductive Line.Padded (line : Line) : Line → Prop where
  /-- Nothing is put around the line. -/
  | same : Padded line line
  /-- Blanks are put around a directive line. -/
  | blanks {before after : Text} (special : line.text.isSpecial = true)
    (before_blank : before.AllBlank) (after_blank : after.AllBlank) :
    Padded line (line.pad before after)

namespace Line.Padded

variable {line other : Line}

theorem number_eq (padded : line.Padded other) : other.number = line.number := by
  cases padded <;> rfl

theorem trim_eq (padded : line.Padded other) : other.text.trim = line.text.trim := by
  cases padded with
  | same => rfl
  | blanks _ before_blank after_blank =>
      exact Text.trim_pad before_blank after_blank line.text

theorem classify_eq (padded : line.Padded other) : classify other.text = classify line.text := by
  rw [← classify_trim, padded.trim_eq, classify_trim]

theorem isLine_eq (padded : line.Padded other) (fragment : Text) :
    other.text.isLine fragment = line.text.isLine fragment := by
  rw [Text.isLine, Text.isLine, padded.trim_eq]

theorem eq_of_plain (padded : line.Padded other) (plain : classify line.text = .plain) :
    other = line := by
  cases padded with
  | same => rfl
  | blanks special =>
      rw [classify_eq_plain_iff, special] at plain
      cases plain

theorem fill (padded : line.Padded other) (bindings : Bindings) :
    Line.Padded ⟨line.number, line.text.fill bindings⟩
      ⟨other.number, other.text.fill bindings⟩ := by
  cases padded with
  | same => exact .same
  | @blanks before after special before_blank after_blank =>
      have filled : Line.mk line.number ((line.pad before after).text.fill bindings) =
          Line.pad ⟨line.number, line.text.fill bindings⟩ before after :=
        congrArg (Line.mk _) (Text.fill_pad before_blank after_blank line.text bindings)
      exact filled ▸ .blanks (Text.isSpecial_fill special bindings) before_blank after_blank

end Line.Padded

/-! ## Answers side by side -/

/-- Both computations stop with the same fault, or both go on with related values. -/
inductive SameAnswer {α β : Type} (related : α → β → Prop) : Except Fault α → Except Fault β → Prop
    where
  /-- Both stop. -/
  | error (fault : Fault) : SameAnswer related (.error fault) (.error fault)
  /-- Both go on. -/
  | ok {left : α} {right : β} (values : related left right) :
    SameAnswer related (.ok left) (.ok right)

theorem SameAnswer.bind {α β γ δ : Type} {related : α → β → Prop} {next : γ → δ → Prop}
    {left : Except Fault α} {right : Except Fault β} {f : α → Except Fault γ}
    {g : β → Except Fault δ} (first : SameAnswer related left right)
    (second : ∀ a b, related a b → SameAnswer next (f a) (g b)) :
    SameAnswer next (left >>= f) (right >>= g) := by
  cases first with
  | error fault => exact .error fault
  | ok values => exact second _ _ values

/-! ## The first pass -/

namespace Loop

/-- Open loops that differ by blanks around the directive lines that they captured. -/
structure OpenLoop.Padded (left right : OpenLoop) : Prop where
  openedAt : left.openedAt = right.openedAt
  vars : left.vars = right.vars
  items : left.items = right.items
  captured : List.Forall₂ Line.Padded left.captured right.captured

/-- States that differ by blanks around the directive lines that they hold. -/
structure State.Padded (left right : State) : Prop where
  active : Option.Rel OpenLoop.Padded left.active right.active
  output : List.Forall₂ Line.Padded left.output right.output

/-- The lines differ by blanks at most, and both or none start like a loop header. -/
structure ReadAlike (line other : Line) : Prop where
  padded : line.Padded other
  begins : other.text.beginsWith Mark.foreach = line.text.beginsWith Mark.foreach

theorem OpenLoop.Padded.unrolled {left right : OpenLoop} (loops : left.Padded right) :
    List.Forall₂ Line.Padded left.unrolled right.unrolled := by
  unfold OpenLoop.unrolled
  rw [← loops.items, ← loops.vars]
  induction left.items with
  | nil => exact .nil
  | cons item items ih =>
      have copies : List.Forall₂ Line.Padded
          (left.captured.map fun line => ⟨line.number, line.text.fill (bindings left.vars item)⟩)
          (right.captured.map fun line =>
            ⟨line.number, line.text.fill (bindings left.vars item)⟩) := by
        rw [List.forall₂_map_left_iff, List.forall₂_map_right_iff]
        exact loops.captured.imp fun _ _ padded => padded.fill _
      exact List.rel_append copies ih

theorem State.Padded.openLoop {left right : State} (states : left.Padded right) {line other : Line}
    (padded : line.Padded other) (vars : List Text) (list : Text) :
    right.openLoop other vars list = left.openLoop line vars list := by
  obtain ⟨left_active, left_output⟩ := left
  obtain ⟨right_active, right_output⟩ := right
  obtain ⟨active, _⟩ := states
  cases active with
  | none => simp only [State.openLoop, padded.number_eq]
  | some loops => simp only [State.openLoop, padded.number_eq, padded.trim_eq, loops.openedAt]

theorem State.Padded.keep {left right : State} (states : left.Padded right) {line other : Line}
    (padded : line.Padded other) :
    (left.apply line .keep).Padded (right.apply other .keep) := by
  obtain ⟨left_active, left_output⟩ := left
  obtain ⟨right_active, right_output⟩ := right
  obtain ⟨active, output⟩ := states
  cases active with
  | none => exact ⟨.none, List.rel_append output (.cons padded .nil)⟩
  | some loops =>
      have captured := List.rel_append loops.captured (.cons padded .nil)
      exact ⟨.some { loops with captured := captured }, output⟩

/-- A line and the line with blanks around it are refused alike or do alike. -/
theorem State.Padded.feed {left right : State} (states : left.Padded right) {line other : Line}
    (alike : ReadAlike line other) :
    SameAnswer State.Padded (left.feed line) (right.feed other) := by
  unfold State.feed State.action
  rw [alike.begins, alike.padded.classify_eq, alike.padded.isLine_eq, alike.padded.number_eq,
    alike.padded.trim_eq]
  split
  next =>
    split
    next vars list _ =>
      rw [states.openLoop alike.padded vars list]
      cases left.openLoop line vars list with
      | error fault => exact .error fault
      | ok loop =>
          have opened : loop.Padded loop :=
            ⟨rfl, rfl, rfl, List.forall₂_same.mpr fun _ _ => .same⟩
          exact .ok ⟨.some opened, states.output⟩
    next => exact .error _
  next =>
    split
    next =>
      obtain ⟨left_active, left_output⟩ := left
      obtain ⟨right_active, right_output⟩ := right
      obtain ⟨active, output⟩ := states
      cases active with
      | none => exact .error _
      | some loops => exact .ok ⟨.none, List.rel_append output loops.unrolled⟩
    next => exact .ok (states.keep alike.padded)

theorem State.Padded.run {lines others : List Line} (alike : List.Forall₂ ReadAlike lines others)
    {left right : State} (states : left.Padded right) :
    SameAnswer State.Padded (left.run lines) (right.run others) := by
  induction alike generalizing left right with
  | nil => exact .ok states
  | cons line_alike _ ih =>
      unfold State.run at ih ⊢
      rw [List.foldlM_cons, List.foldlM_cons]
      exact (states.feed line_alike).bind fun _ _ next => ih next

theorem State.Padded.finish {left right : State} (states : left.Padded right) :
    SameAnswer (List.Forall₂ Line.Padded) left.finish right.finish := by
  obtain ⟨left_active, left_output⟩ := left
  obtain ⟨right_active, right_output⟩ := right
  obtain ⟨active, output⟩ := states
  cases active with
  | none => exact .ok output
  | some loops =>
      simp only [State.finish, loops.openedAt]
      exact .error _

/-- The expansion of loops keeps lists that differ by blanks side by side. -/
theorem expand_padded {lines others : List Line} (alike : List.Forall₂ ReadAlike lines others) :
    SameAnswer (List.Forall₂ Line.Padded) (expand lines) (expand others) := by
  have start : State.initial.Padded State.initial := ⟨.none, .nil⟩
  exact (start.run alike).bind fun _ _ states => states.finish

end Loop

/-! ## The second pass -/

namespace Section

theorem feed_padded (style : Style) (state : State) {line other : Line}
    (padded : line.Padded other) : state.feed style other = state.feed style line := by
  cases kind : classify line.text with
  | plain => rw [padded.eq_of_plain kind]
  | directive directive =>
      simp only [State.feed, padded.classify_eq, padded.number_eq, kind]
  | unknown =>
      simp only [State.feed, padded.classify_eq, padded.number_eq, padded.trim_eq, kind]

/-- The reading of sections does not see blanks around directive lines. -/
theorem compile_padded (style : Style) {lines others : List Line}
    (padded : List.Forall₂ Line.Padded lines others) :
    compile style others = compile style lines := by
  have run (state : State) :
      others.foldlM (State.feed style) state = lines.foldlM (State.feed style) state := by
    induction padded generalizing state with
    | nil => rfl
    | cons line_padded _ ih =>
        rw [List.foldlM_cons, List.foldlM_cons, feed_padded style state line_padded]
        exact congrArg _ (funext ih)
  rw [compile, compile, run]

end Section

/-! ## Both passes -/

namespace Template

/-- The text that a list of lines stands for, without the notice. -/
def passes (style : Style) (lines : List Line) : Except Fault Text := do
  let expanded ← Loop.expand lines
  Section.compile style expanded

theorem generate_eq_passes (style : Style) (template : Text) :
    generate style template = (passes style (Line.ofText template)).map (banner ++ ·) := by
  unfold generate passes
  cases Loop.expand (Line.ofText template) with
  | error fault => rfl
  | ok expanded => cases compiled : Section.compile style expanded <;> rfl

theorem passes_padded (style : Style) {lines others : List Line}
    (alike : List.Forall₂ Loop.ReadAlike lines others) :
    passes style others = passes style lines := by
  have expanded := Loop.expand_padded alike
  unfold passes
  generalize Loop.expand lines = left, Loop.expand others = right at expanded ⊢
  cases expanded with
  | error fault => rfl
  | ok padded => exact Section.compile_padded style padded

theorem passes_of_refused (style : Style) {front : List Line} {fault : Fault}
    (refused : Loop.State.initial.run front = .error fault) (back : List Line) :
    passes style (front ++ back) = .error fault := by
  have run : Loop.State.initial.run (front ++ back) = .error fault := by
    rw [Loop.State.run, List.foldlM_append, ← Loop.State.run, refused]
    rfl
  rw [passes, Loop.expand, ← Loop.State.run, run]
  rfl

section Pad

variable (style : Style) (front back : List Line) (line : Line) {before after : Text}

theorem passes_pad_of_incomplete (special : line.text.isSpecial = true)
    (before_blank : before.AllBlank) (after_blank : after.AllBlank)
    (incomplete : ¬Text.CompletesHeader line.text after) :
    passes style (front ++ line.pad before after :: back) =
      passes style (front ++ line :: back) := by
  have same (lines : List Line) : List.Forall₂ Loop.ReadAlike lines lines :=
    List.forall₂_same.mpr fun _ _ => ⟨.same, rfl⟩
  have alike : Loop.ReadAlike line (line.pad before after) :=
    ⟨.blanks special before_blank after_blank,
      Text.beginsWith_foreach_pad special before_blank after_blank incomplete⟩
  exact passes_padded style (List.rel_append (same front) (.cons alike (same back)))

/-- The completed start of a loop header is refused where it stands. -/
theorem passes_pad_of_completes (special : line.text.isSpecial = true)
    (before_blank : before.AllBlank) (after_blank : after.AllBlank)
    (completes : Text.CompletesHeader line.text after) {state : Loop.State}
    (taken : Loop.State.initial.run front = .ok state) :
    passes style (front ++ line.pad before after :: back) =
      .error (.malformedDirective line.number Directive.headerWord) := by
  have begins : (line.pad before after).text.beginsWith Mark.foreach = true :=
    Text.beginsWith_foreach_pad_of_completes completes special before_blank
  have padded : line.Padded (line.pad before after) := .blanks special before_blank after_blank
  have unknown : classify (line.pad before after).text = .unknown := by
    rw [padded.classify_eq, Text.classify_of_completes completes]
  have content : (line.pad before after).text.trim = Directive.headerWord := by
    rw [padded.trim_eq, Text.trim_of_completes completes]
  have refused : state.feed (line.pad before after) =
      .error (.malformedDirective line.number Directive.headerWord) := by
    rw [Loop.State.feed, Loop.State.action, if_pos begins, unknown, content]
    rfl
  have run : Loop.State.initial.run (front ++ line.pad before after :: back) =
      .error (.malformedDirective line.number Directive.headerWord) := by
    rw [Loop.State.run_append_ok taken, Loop.State.run_cons_error refused]
  rw [passes, Loop.expand, ← Loop.State.run, run]
  rfl

/-- Blanks put around a directive line do not change what the lines stand for, unless they complete
the bare start of a loop header; then the line is refused, and that is the answer without the blanks
exactly if an earlier line is refused or the line is reported anyway. -/
theorem passes_pad_eq_iff (special : line.text.isSpecial = true) (before_blank : before.AllBlank)
    (after_blank : after.AllBlank) :
    passes style (front ++ line.pad before after :: back) =
        passes style (front ++ line :: back) ↔
      (Text.CompletesHeader line.text after →
        (∃ fault, Loop.State.initial.run front = .error fault) ∨
          passes style (front ++ line :: back) =
            .error (.malformedDirective line.number Directive.headerWord)) := by
  by_cases completes : Text.CompletesHeader line.text after
  · cases taken : Loop.State.initial.run front with
    | error fault => simp [passes_of_refused style taken]
    | ok state =>
        rw [passes_pad_of_completes style front back line special before_blank after_blank
          completes taken]
        simp [completes, eq_comm]
  · simp [passes_pad_of_incomplete style front back line special before_blank after_blank
      completes, completes]

end Pad

/-- The header of a loop over nothing. -/
def emptyHeader : Line := ⟨1, "// -- foreach x in [] --".toList⟩

/-- The bare start of a loop header. -/
def bareStart : Line := ⟨2, Directive.headerWord⟩

/-- The end of a loop. -/
def loopEnd : Line := ⟨3, Mark.endForeach⟩

/-- In a loop over nothing the bare start of a header is dropped, and refused with a blank behind
it. -/
theorem not_passes_pad_eq :
    ¬∀ (style : Style) (front back : List Line) (line : Line) (before after : Text),
      line.text.isSpecial = true → before.AllBlank → after.AllBlank →
      passes style (front ++ line.pad before after :: back) =
        passes style (front ++ line :: back) := by
  intro same
  have equal := same Style.standard [emptyHeader] [loopEnd] bareStart [] [' '] (by decide)
    (by decide) (by decide)
  exact absurd equal (by decide +kernel)

/-- The loop over nothing meets the exception: the bare start is completed, no earlier line is
refused, and without the blank nothing is reported.  So the blank shows. -/
theorem passes_pad_eq_iff_emptyLoop :
    bareStart.text.isSpecial = true ∧ Text.AllBlank [] ∧ Text.AllBlank [' '] ∧
      (passes Style.standard ([emptyHeader] ++ bareStart.pad [] [' '] :: [loopEnd]) =
          passes Style.standard ([emptyHeader] ++ bareStart :: [loopEnd]) ↔
        (Text.CompletesHeader bareStart.text [' '] →
          (∃ fault, Loop.State.initial.run [emptyHeader] = .error fault) ∨
            passes Style.standard ([emptyHeader] ++ bareStart :: [loopEnd]) =
              .error (.malformedDirective bareStart.number Directive.headerWord))) ∧
      passes Style.standard ([emptyHeader] ++ bareStart.pad [] [' '] :: [loopEnd]) ≠
        passes Style.standard ([emptyHeader] ++ bareStart :: [loopEnd]) := by
  have special : bareStart.text.isSpecial = true := by decide
  have nothing : Text.AllBlank [] := by decide
  have blank : Text.AllBlank [' '] := by decide
  have same_iff :=
    passes_pad_eq_iff Style.standard [emptyHeader] [loopEnd] bareStart special nothing blank
  have completes : Text.CompletesHeader bareStart.text [' '] := by decide
  have taken : (Loop.State.initial.run [emptyHeader]).isOk = true := by decide +kernel
  have dropped : passes Style.standard ([emptyHeader] ++ bareStart :: [loopEnd]) = .ok [] := by
    decide +kernel
  refine ⟨special, nothing, blank, same_iff, fun same => ?_⟩
  rcases same_iff.mp same completes with ⟨fault, refused⟩ | reported
  · rw [refused] at taken
    cases taken
  · cases dropped.symm.trans reported

end Template

end Stencil

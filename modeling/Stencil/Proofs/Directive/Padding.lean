import Stencil.Proofs.Directive.Trim
import Stencil.Proofs.Text.Fill

/-!
# Blanks put around a directive line

Blanks put around a line do not change its trimmed text, hence not what it is classified as, and
filling placeholders commutes with them: a blank is neither a brace nor part of a name.  The one
test that sees them is whether a line starts like a loop header, because that start ends in a
blank: `beginsWith_foreach_pad` says when a blank put behind the line completes it.
-/

namespace Stencil

namespace Text

/-- Every character of the text is blank. -/
def AllBlank (text : Text) : Prop := ∀ c ∈ text, isBlank c = true

instance (text : Text) : Decidable text.AllBlank :=
  List.decidableBAll (fun c => isBlank c = true) text

/-! ## Trimming -/

theorem trimStart_append_of_allBlank {before : Text} (blank : before.AllBlank) (text : Text) :
    trimStart (before ++ text) = trimStart text :=
  List.dropWhile_append_of_pos blank

theorem trimEnd_append_of_allBlank {after : Text} (blank : after.AllBlank) (text : Text) :
    trimEnd (text ++ after) = trimEnd text := by
  have nothing : trimEnd after = [] := by
    have reversed : ∀ c ∈ after.reverse, isBlank c = true :=
      fun c member => blank c (List.mem_reverse.mp member)
    rw [trimEnd, List.dropWhile_eq_nil_iff.mpr reversed]
    rfl
  rw [trimEnd_append, if_pos nothing]

theorem trimStart_ne_nil_of_isSpecial {text : Text} (special : text.isSpecial = true) :
    trimStart text ≠ [] := by
  intro nothing
  have start := (beginsWith_iff text Mark.special).mp special
  rw [nothing, List.prefix_nil] at start
  exact absurd start (by decide)

section Pad

variable {text before after : Text}

/-- Behind a directive the blanks are the only thing that is left of the padding at the start. -/
theorem trimStart_pad (special : text.isSpecial = true) (before_blank : before.AllBlank) :
    trimStart (before ++ text ++ after) = trimStart text ++ after := by
  have visible : (text.dropWhile isBlank).isEmpty = false := by
    simpa [trimStart] using trimStart_ne_nil_of_isSpecial special
  rw [List.append_assoc, trimStart_append_of_allBlank before_blank, trimStart,
    List.dropWhile_append, visible]
  rfl

theorem trim_pad (before_blank : before.AllBlank) (after_blank : after.AllBlank) (text : Text) :
    trim (before ++ text ++ after) = trim text := by
  rw [trim, List.append_assoc, trimStart_append_of_allBlank before_blank, ← trimStart_trimEnd,
    trimEnd_append_of_allBlank after_blank, trimStart_trimEnd, trim]

theorem classify_pad (before_blank : before.AllBlank) (after_blank : after.AllBlank) (text : Text) :
    classify (before ++ text ++ after) = classify text := by
  rw [← classify_trim, trim_pad before_blank after_blank, classify_trim]

/-! ## The start of a loop header -/

/-- The line is the bare start of a loop header, and the blanks put behind it begin with the one
that this start lacks. -/
def CompletesHeader (text after : Text) : Prop :=
  trimStart text = Directive.headerWord ∧ after.head? = some ' '

instance (text after : Text) : Decidable (CompletesHeader text after) :=
  inferInstanceAs (Decidable (_ ∧ _))

theorem foreach_prefix_headerWord_append (rest : Text) :
    Mark.foreach <+: Directive.headerWord ++ rest ↔ rest.head? = some ' ' := by
  have foreach_eq : Mark.foreach = Directive.headerWord ++ [' '] := by decide
  rw [foreach_eq, List.prefix_append_right_inj]
  cases rest <;> simp [eq_comm]

theorem beginsWith_foreach_pad_of_completes (completes : CompletesHeader text after)
    (special : text.isSpecial = true) (before_blank : before.AllBlank) :
    (before ++ text ++ after).beginsWith Mark.foreach = true := by
  obtain ⟨start, first⟩ := completes
  rw [beginsWith_iff, trimStart_pad special before_blank, start,
    foreach_prefix_headerWord_append]
  exact first

theorem completes_of_beginsWith_foreach_pad (special : text.isSpecial = true)
    (before_blank : before.AllBlank) (after_blank : after.AllBlank)
    (plain : text.beginsWith Mark.foreach = false)
    (padded : (before ++ text ++ after).beginsWith Mark.foreach = true) :
    CompletesHeader text after := by
  have trimmed := trim_pad before_blank after_blank text
  have lost : (before ++ text ++ after).trim.beginsWith Mark.foreach = false := by
    rw [trimmed, Bool.eq_false_iff]
    intro found
    exact absurd (plain.symm.trans (beginsWith_of_trim found)) (by decide)
  obtain ⟨word, _⟩ := trim_eq_headerWord padded lost
  -- So the line is the word itself with blanks behind it, and the first blank cannot be its own.
  rw [trimmed] at word
  obtain ⟨rest, split⟩ := trim_prefix_trimStart text
  rw [word] at split
  have own : ¬Mark.foreach <+: Directive.headerWord ++ rest := by
    rw [split, ← beginsWith_iff, plain]
    decide
  rw [foreach_prefix_headerWord_append] at own
  rw [beginsWith_iff, trimStart_pad special before_blank, ← split, List.append_assoc,
    foreach_prefix_headerWord_append] at padded
  cases rest with
  | nil => exact ⟨by rw [← split, List.append_nil], by simpa using padded⟩
  | cons c rest => exact absurd (by simpa using padded) own

/-- Blanks put around a directive line make it start like a loop header only by completing the bare
start of one. -/
theorem beginsWith_foreach_pad (special : text.isSpecial = true) (before_blank : before.AllBlank)
    (after_blank : after.AllBlank) (incomplete : ¬CompletesHeader text after) :
    (before ++ text ++ after).beginsWith Mark.foreach = text.beginsWith Mark.foreach := by
  cases plain : text.beginsWith Mark.foreach with
  | true =>
      have start := (beginsWith_iff text Mark.foreach).mp plain
      refine (beginsWith_iff _ _).mpr ?_
      rw [trimStart_pad special before_blank]
      exact start.trans (List.prefix_append _ _)
  | false =>
      rw [Bool.eq_false_iff]
      intro padded
      exact incomplete
        (completes_of_beginsWith_foreach_pad special before_blank after_blank plain padded)

theorem trim_of_completes (completes : CompletesHeader text after) :
    text.trim = Directive.headerWord := by
  rw [trim, completes.1]
  decide

theorem classify_of_completes (completes : CompletesHeader text after) :
    classify text = .unknown := by
  rw [← classify_trim, trim_of_completes completes]
  decide

end Pad

/-! ## Filling placeholders -/

theorem ne_brace_of_isBlank {c : Char} (blank : isBlank c = true) : c ≠ '{' ∧ c ≠ '}' := by
  constructor <;> rintro rfl <;> exact absurd blank (by decide)

/-- Filling placeholders leaves the blanks around a line where they are. -/
theorem fill_pad {before after : Text} (before_blank : before.AllBlank)
    (after_blank : after.AllBlank) (text : Text) (bindings : Bindings) :
    fill (before ++ text ++ after) bindings = before ++ fill text bindings ++ after := by
  have before_no_brace : '{' ∉ before := fun member =>
    (ne_brace_of_isBlank (before_blank _ member)).1 rfl
  have after_no_brace : '{' ∉ after := fun member =>
    (ne_brace_of_isBlank (after_blank _ member)).1 rfl
  have after_no_closing : '}' ∉ after := fun member =>
    (ne_brace_of_isBlank (after_blank _ member)).2 rfl
  have after_filled : fill after bindings = after := by
    simpa [fill, fillFrom] using fill_append_of_no_brace after_no_brace [] bindings
  calc fill (before ++ text ++ after) bindings
      = before ++ fill (text ++ after) bindings := by
        rw [List.append_assoc, fill_append_of_no_brace before_no_brace]
    _ = before ++ (fill text bindings ++ fill after bindings) := by
        rw [fill_append (apart_of_no_closing after_no_closing text)]
    _ = before ++ fill text bindings ++ after := by rw [after_filled, List.append_assoc]

/-- A directive line keeps its mark when its placeholders are filled. -/
theorem isSpecial_fill {text : Text} (special : text.isSpecial = true) (bindings : Bindings) :
    isSpecial (text.fill bindings) = true := by
  obtain ⟨rest, starts⟩ := (beginsWith_iff text Mark.special).mp special
  have leading_blank : AllBlank (text.takeWhile isBlank) := fun c member =>
    List.mem_takeWhile_imp member
  have leading_no_brace : '{' ∉ text.takeWhile isBlank := fun member =>
    (ne_brace_of_isBlank (leading_blank _ member)).1 rfl
  have mark_no_brace : '{' ∉ Mark.special := by decide
  have split : text = text.takeWhile isBlank ++ (Mark.special ++ rest) := by
    rw [starts]
    exact (List.takeWhile_append_dropWhile).symm
  rw [split, fill_append_of_no_brace leading_no_brace, fill_append_of_no_brace mark_no_brace]
  refine (beginsWith_iff _ _).mpr ?_
  rw [trimStart_append_of_allBlank leading_blank]
  have visible : isBlank '/' = false := by decide
  have mark_starts : trimStart (Mark.special ++ fill rest bindings) =
      Mark.special ++ fill rest bindings :=
    trimStart_cons_of_not_isBlank visible _
  rw [mark_starts]
  exact List.prefix_append _ _

end Text

end Stencil

import Stencil.Proofs.Directive.Padding

/-!
# Blanks between the parts of a line

The grammars of directive lines allow blanks between their parts.  What is left of a text after its
leading blanks does not start with a blank, so a text is in one way a run of blanks and such a rest.
Words have no blanks to trim, wherever they stand.
-/

namespace Stencil

/-- A run of blanks, which may be empty. -/
@[ext]
structure Blanks where
  text : Text
  blank : text.AllBlank

namespace Blanks

open Text (trimStart trimEnd)

/-- The blanks that a text starts with. -/
def leading (text : Text) : Blanks where
  text := text.takeWhile isBlank
  blank _ member := List.mem_takeWhile_imp member

theorem leading_append_trimStart (text : Text) : (leading text).text ++ trimStart text = text :=
  List.takeWhile_append_dropWhile

/-- The blanks that a text ends with. -/
def trailing (text : Text) : Blanks where
  text := (text.reverse.takeWhile isBlank).reverse
  blank _ member := List.mem_takeWhile_imp (List.mem_reverse.mp member)

theorem trimEnd_append_trailing (text : Text) : trimEnd text ++ (trailing text).text = text := by
  rw [trimEnd, trailing, ← List.reverse_append, List.takeWhile_append_dropWhile,
    List.reverse_reverse]

theorem trimStart_append (blanks : Blanks) (text : Text) :
    trimStart (blanks.text ++ text) = trimStart text :=
  Text.trimStart_append_of_allBlank blanks.blank text

theorem trimEnd_append (text : Text) (blanks : Blanks) :
    trimEnd (text ++ blanks.text) = trimEnd text :=
  Text.trimEnd_append_of_allBlank blanks.blank text

/-- Nothing is visible of blanks. -/
@[simp]
theorem filter_text (blanks : Blanks) : blanks.text.filter (fun c => !isBlank c) = [] :=
  List.filter_eq_nil_iff.mpr fun c member => by simp [blanks.blank c member]

variable {first second : Blanks} {left right : Text}

/-- The blanks before a text that does not start with a blank are told from it. -/
theorem append_inj (left_visible : trimStart left = left) (right_visible : trimStart right = right)
    (same : first.text ++ left = second.text ++ right) : first = second ∧ left = right := by
  have rest_eq : left = right := by
    rw [← left_visible, ← right_visible, ← first.trimStart_append left, same,
      second.trimStart_append right]
  subst rest_eq
  exact ⟨Blanks.ext (List.append_cancel_right same), rfl⟩

end Blanks

namespace Text

/-- Nothing is trimmed off exactly if the text does not start with a blank. -/
theorem trimStart_eq_self_iff (text : Text) :
    trimStart text = text ↔ ∀ c, text.head? = some c → isBlank c = false := by
  cases text with
  | nil => simp [trimStart]
  | cons c rest =>
      cases blank : isBlank c with
      | false => simp [trimStart, blank]
      | true =>
          have shorter : (trimStart (c :: rest)).length < (c :: rest).length := by
            rw [trimStart_cons_of_isBlank blank, List.length_cons]
            exact Nat.lt_succ_of_le (List.length_dropWhile_le isBlank rest)
          refine iff_of_false (fun same => ?_) (by simp [blank])
          rw [same] at shorter
          exact Nat.lt_irrefl _ shorter

theorem trimEnd_eq_self_iff (text : Text) :
    trimEnd text = text ↔ ∀ c, text.getLast? = some c → isBlank c = false := by
  have reversed : trimEnd text = text ↔ trimStart text.reverse = text.reverse := by
    rw [trimEnd, trimStart, List.reverse_eq_iff]
  rw [reversed, trimStart_eq_self_iff, List.head?_reverse]

/-- What stands in front of a visible end stays when the end is looked at for blanks. -/
theorem trimEnd_append_of_visible {right : Text} (visible : trimEnd right = right)
    (nonempty : right ≠ []) (left : Text) : trimEnd (left ++ right) = left ++ right := by
  rw [trimEnd_append, visible, if_neg nonempty]

/-! ## Words -/

theorem trimStart_word_append {word : Text} (is_word : word.isWord = true) (rest : Text) :
    trimStart (word ++ rest) = word ++ rest := by
  obtain ⟨c, tail, rfl, c_word⟩ := exists_cons_of_isWord is_word
  exact trimStart_cons_of_not_isBlank (not_isBlank_of_isWordChar c_word) _

theorem trimEnd_word {word : Text} (is_word : word.isWord = true) : trimEnd word = word :=
  (trimEnd_eq_self_iff word).mpr fun c last =>
    not_isBlank_of_isWordChar (all_of_isWord is_word c (List.mem_of_getLast? last))

theorem trim_word {word : Text} (is_word : word.isWord = true) : trim word = word := by
  have visible := trimStart_word_append is_word []
  rw [List.append_nil] at visible
  rw [trim, visible, trimEnd_word is_word]

end Text

end Stencil

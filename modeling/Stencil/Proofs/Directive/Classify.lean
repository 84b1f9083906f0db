import Mathlib.Data.List.TakeDrop
import Mathlib.Data.List.TakeWhile
import Stencil.Directive

/-!
# What a line is classified as

A line is plain exactly when it does not carry the special mark.  It is a loop header only if it
starts like one, and a line that ends a loop does not start like a header.  The names in a type
entry are words.
-/

namespace Stencil

namespace Text

theorem trimEnd_prefix_self (text : Text) : text.trimEnd <+: text := by
  have suffix : text.reverse.dropWhile isBlank <:+ text.reverse := List.dropWhile_suffix isBlank
  simpa [trimEnd] using List.reverse_prefix.mpr suffix

theorem trim_prefix_trimStart (text : Text) : text.trim <+: text.trimStart := trimEnd_prefix_self _

/-- A line that is a fixed fragment starts only with what the fragment starts with or extends. -/
theorem beginsWith_of_isLine {text fragment start : Text} (same : text.isLine fragment = true)
    (begins : text.beginsWith start = true) : start <+: fragment ∨ fragment <+: start := by
  have trimmed : text.trim = fragment := by simpa [isLine] using same
  have start_prefix : start <+: text.trimStart := by simpa [beginsWith] using begins
  exact List.prefix_or_prefix_of_prefix start_prefix (trimmed ▸ trim_prefix_trimStart text)

end Text

theorem not_beginsWith_foreach_of_endForeach {text : Text}
    (ends : text.isLine Mark.endForeach = true) : text.beginsWith Mark.foreach = false := by
  cases begins : text.beginsWith Mark.foreach with
  | false => rfl
  | true =>
      have overlap := Text.beginsWith_of_isLine ends begins
      revert overlap
      decide

/-- The fixed directives carry no data. -/
theorem fixed_ne_foreach {entry : Text × Directive} (fixed : entry ∈ Directive.fixed)
    (vars : List Text) (list : Text) : entry.2 ≠ .foreach vars list := by
  simp only [Directive.fixed, List.mem_cons, List.not_mem_nil, or_false] at fixed
  rcases fixed with rfl | rfl | rfl | rfl | rfl | rfl <;> simp

theorem beginsWith_foreach_of_classify {text : Text} {vars : List Text} {list : Text}
    (header : classify text = .directive (.foreach vars list)) :
    text.beginsWith Mark.foreach = true := by
  unfold classify at header
  split at header
  next => simp at header
  next =>
    split at header
    next entry directive found =>
      obtain rfl : directive = .foreach vars list := by simpa using header
      exact absurd rfl (fixed_ne_foreach (List.mem_of_find?_eq_some found) vars list)
    next =>
      split at header
      next begins => exact begins
      next => split at header <;> simp at header

/-- A line that starts like a loop header is what the reader of headers makes of it. -/
theorem classify_eq_of_beginsWith_foreach {text : Text}
    (begins : text.beginsWith Mark.foreach = true) :
    classify text =
      match Directive.readHeader? text with
      | some (vars, list) => .directive (.foreach vars list)
      | none => .unknown := by
  have special : text.isSpecial = true := by
    have start : Mark.special <+: Mark.foreach := by decide
    have foreach_start : Mark.foreach <+: text.trimStart := List.isPrefixOf_iff_prefix.mp begins
    exact List.isPrefixOf_iff_prefix.mpr (start.trans foreach_start)
  have not_fixed : Directive.fixed.find? (fun entry => text.isLine entry.1) = none := by
    refine List.find?_eq_none.mpr fun entry fixed same => ?_
    have apart : ∀ entry ∈ Directive.fixed,
        ¬(Mark.foreach <+: entry.1 ∨ entry.1 <+: Mark.foreach) := by decide
    exact apart entry fixed (Text.beginsWith_of_isLine same begins)
  unfold classify
  rw [special, not_fixed, begins]
  rfl

/-- A line that starts like a loop header is one, or it is malformed. -/
theorem classify_of_beginsWith_foreach {text : Text}
    (begins : text.beginsWith Mark.foreach = true) :
    classify text = .unknown ∨ ∃ vars list, classify text = .directive (.foreach vars list) := by
  rw [classify_eq_of_beginsWith_foreach begins]
  cases Directive.readHeader? text with
  | none => exact .inl rfl
  | some header => exact .inr ⟨header.1, header.2, rfl⟩

/-! ## Plain lines and type entries -/

theorem classify_eq_plain_iff (text : Text) :
    classify text = .plain ↔ text.isSpecial = false := by
  unfold classify
  cases special : text.isSpecial with
  | false => simp
  | true =>
      rw [if_neg (by decide)]
      refine iff_of_false (fun plain => ?_) (by decide)
      repeat' split at plain
      all_goals cases plain

theorem isWord_of_readWord? {text word rest : Text}
    (read : Directive.readWord? text = some (word, rest)) : word.isWord = true := by
  rw [Directive.readWord?, List.span_eq_takeWhile_dropWhile] at read
  split at read
  next => cases read
  next nonempty found =>
    obtain ⟨rfl, rfl⟩ := Prod.mk.inj (Option.some.inj read)
    obtain ⟨rfl, rfl⟩ := Prod.mk.inj found
    have all_word : ∀ c ∈ text.takeWhile isWordChar, isWordChar c = true :=
      fun c member => List.mem_takeWhile_imp member
    have word_ne : (text.takeWhile isWordChar).isEmpty = false := by
      cases taken : text.takeWhile isWordChar with
      | nil => exact absurd taken nonempty
      | cons => rfl
    rw [Text.isWord, word_ne, List.all_eq_true.mpr all_word]
    rfl

theorem isWord_of_readEntry? {line name base : Text}
    (read : Directive.readEntry? line = some (name, base)) :
    name.isWord = true ∧ base.isWord = true := by
  simp only [Directive.readEntry?, Option.bind_eq_bind, Option.bind_eq_some_iff] at read
  obtain ⟨_, _, _, _, ⟨_, _⟩, name_read, _, _, ⟨_, _⟩, base_read, ended⟩ := read
  split at ended
  next =>
    obtain ⟨rfl, rfl⟩ := Prod.mk.inj (Option.some.inj ended)
    exact ⟨isWord_of_readWord? name_read, isWord_of_readWord? base_read⟩
  next => cases ended

theorem fixed_ne_typeEntry {entry : Text × Directive} (fixed : entry ∈ Directive.fixed)
    (name base : Text) : entry.2 ≠ .typeEntry name base := by
  simp only [Directive.fixed, List.mem_cons, List.not_mem_nil, or_false] at fixed
  rcases fixed with rfl | rfl | rfl | rfl | rfl | rfl <;> simp

/-- A type entry carries the special mark, does not start like a loop header, and is read as one. -/
theorem readEntry?_of_classify {text name base : Text}
    (entry : classify text = .directive (.typeEntry name base)) :
    text.isSpecial = true ∧ text.beginsWith Mark.foreach = false ∧
      Directive.readEntry? text = some (name, base) := by
  unfold classify at entry
  split at entry
  next => cases entry
  next special =>
    split at entry
    next fixed directive found =>
      obtain rfl : directive = .typeEntry name base := by simpa using entry
      exact absurd rfl (fixed_ne_typeEntry (List.mem_of_find?_eq_some found) name base)
    next =>
      split at entry
      next => split at entry <;> cases entry
      next other =>
        split at entry
        next found =>
          cases entry
          exact ⟨by simpa using special, by simpa using other, found⟩
        next => cases entry

/-- The name and the base of a type entry are words. -/
theorem isWord_of_classify {text name base : Text}
    (entry : classify text = .directive (.typeEntry name base)) :
    name.isWord = true ∧ base.isWord = true := by
  obtain ⟨_, _, read⟩ := readEntry?_of_classify entry
  exact isWord_of_readEntry? read

end Stencil

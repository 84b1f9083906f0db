import Mathlib.Data.List.Basic
import Mathlib.Data.List.TakeDrop
import Mathlib.Data.List.TakeWhile
import Mathlib.Tactic.ByContra
import Stencil.Pattern
import Stencil.Proofs.Text.ByteSize

/-!
# Patterns with a star

A pattern is cut at its first star, so the part after the cut shows whether the star was the only
one.  The two ends of a name are found apart from each other, and it is their bytes that keep them
from overlapping: where they overlap, they have more bytes than the name.
-/

namespace Stencil

namespace Text

theorem splitFirst?_append {before : Text} {c : Char} (first : c ∉ before) (after : Text) :
    (before ++ c :: after).splitFirst? c = some (before, after) := by
  have other : ∀ d ∈ before, (d != c) = true := fun d member =>
    bne_iff_ne.mpr fun same => first (same ▸ member)
  rw [splitFirst?, List.span_eq_takeWhile_dropWhile, List.takeWhile_append_of_pos other,
    List.dropWhile_append_of_pos other]
  simp

theorem splitFirst?_eq_none {text : Text} {c : Char} (absent : c ∉ text) :
    text.splitFirst? c = none := by
  have other : ∀ d ∈ text, (d != c) = true := fun d member =>
    bne_iff_ne.mpr fun same => absent (same ▸ member)
  rw [splitFirst?, List.span_eq_takeWhile_dropWhile, List.dropWhile_eq_nil_iff.mpr other]

end Text

namespace Pattern

/-- A name with both ends has them without overlap, because there are enough bytes for both. -/
theorem hasEnds_iff (name start stop : Text) :
    hasEnds name start stop = true ↔ ∃ middle, name = start ++ middle ++ stop := by
  rw [hasEnds, Bool.and_eq_true, Bool.and_eq_true, decide_eq_true_iff, List.isPrefixOf_iff_prefix,
    List.isSuffixOf_iff_suffix]
  constructor
  · rintro ⟨⟨fits, rest, starts⟩, front, stops⟩
    rcases List.append_eq_append_iff.mp (starts.trans stops.symm) with
      ⟨middle, front_eq, _⟩ | ⟨shared, start_eq, stop_eq⟩
    · exact ⟨middle, by rw [← front_eq, stops]⟩
    · -- What the ends share is counted twice on the left and once on the right.
      have none_shared : shared = [] := by
        by_contra nonempty
        have positive := Text.byteSize_pos nonempty
        rw [← starts, start_eq, stop_eq] at fits
        simp only [Text.byteSize_append] at fits
        omega
      refine ⟨[], ?_⟩
      rw [List.append_nil, ← stops, start_eq, none_shared, List.append_nil]
  · rintro ⟨middle, rfl⟩
    refine ⟨⟨?_, ?_⟩, List.suffix_append _ stop⟩
    · simp only [Text.byteSize_append]
      omega
    · rw [List.append_assoc]
      exact List.prefix_append start _

theorem globMatches_star {start stop : Text} (start_free : '*' ∉ start) (stop_free : '*' ∉ stop)
    (name : Text) :
    globMatches (start ++ '*' :: stop) name = true ↔ ∃ middle, name = start ++ middle ++ stop := by
  have one_star : ¬stop.contains '*' = true := by simpa using stop_free
  rw [globMatches, Text.splitFirst?_append start_free]
  simp only [if_neg one_star, hasEnds_iff]

/-- Without a star, or with a star after the first one, a pattern stands for itself. -/
theorem globMatches_exact {pattern : Text} (not_one : pattern.count '*' ≠ 1) (name : Text) :
    globMatches pattern name = true ↔ name = pattern := by
  by_cases starred : '*' ∈ pattern
  · obtain ⟨start, stop, rfl, start_free⟩ := List.eq_append_cons_of_mem starred
    have more_stars : stop.contains '*' = true := by
      rw [List.count_append, List.count_eq_zero.mpr start_free, List.count_cons_self] at not_one
      have positive : 0 < stop.count '*' := by omega
      simpa using List.count_pos_iff.mp positive
    rw [globMatches, Text.splitFirst?_append start_free]
    simp only [if_pos more_stars, beq_iff_eq]
  · rw [globMatches, Text.splitFirst?_eq_none starred]
    simp only [beq_iff_eq]

theorem matchesName_of_not_expression {pattern : Text} (no_mark : ¬regexMark <+: pattern)
    (name : Text) : matchesName pattern name = globMatches pattern name := by
  have no_expression : regexMark.isPrefixOf? pattern = none := by
    refine Option.eq_none_iff_forall_ne_some.mpr fun expression found => no_mark ?_
    exact ⟨expression, List.isPrefixOf?_eq_some_iff_append_eq.mp found⟩
  rw [matchesName, no_expression]

/-- A pattern that is no expression means what it says: one star stands for any text between what
is before it and what is after it, and without a star or with several the pattern is the name. -/
theorem matchesName_glob_iff (pattern name : Text) (no_mark : ¬regexMark <+: pattern) :
    (∀ start stop, pattern = start ++ '*' :: stop → pattern.count '*' = 1 →
      (matchesName pattern name = true ↔ ∃ middle, name = start ++ middle ++ stop)) ∧
    (pattern.count '*' ≠ 1 → (matchesName pattern name = true ↔ name = pattern)) := by
  rw [matchesName_of_not_expression no_mark]
  refine ⟨?_, fun not_one => globMatches_exact not_one name⟩
  rintro start stop rfl one_star
  rw [List.count_append, List.count_cons_self] at one_star
  have start_free : '*' ∉ start := List.count_eq_zero.mp (by omega)
  have stop_free : '*' ∉ stop := List.count_eq_zero.mp (by omega)
  exact globMatches_star start_free stop_free name

/-- A star between two ends that are alike and have characters of two bytes. -/
def sharedEnds : Text := "né*né".toList

/-- The end alone does not match, although the name starts and ends with it, and two stars stand
for themselves. -/
theorem matchesName_glob_sharedEnds :
    ¬regexMark <+: sharedEnds ∧ ¬regexMark <+: '*' :: sharedEnds ∧
      sharedEnds.count '*' = 1 ∧ ('*' :: sharedEnds).count '*' ≠ 1 ∧
      matchesName sharedEnds "né".toList = false ∧
      matchesName sharedEnds "néné".toList = true ∧
      ∀ name, matchesName ('*' :: sharedEnds) name = true ↔ name = '*' :: sharedEnds := by
  have no_mark : ¬regexMark <+: sharedEnds := by decide
  have no_mark_stars : ¬regexMark <+: '*' :: sharedEnds := by decide
  have one_star : sharedEnds.count '*' = 1 := by decide
  have two_stars : ('*' :: sharedEnds).count '*' ≠ 1 := by decide
  have ends (name : Text) := (matchesName_glob_iff sharedEnds name no_mark).1 "né".toList
    "né".toList rfl one_star
  refine ⟨no_mark, no_mark_stars, one_star, two_stars, ?_, ?_, fun name => ?_⟩
  · rw [Bool.eq_false_iff, Ne, ends]
    rintro ⟨middle, name_eq⟩
    have length_eq := congrArg List.length name_eq
    simp at length_eq
  · exact (ends _).mpr ⟨[], rfl⟩
  · exact (matchesName_glob_iff ('*' :: sharedEnds) name no_mark_stars).2 two_stars

end Pattern

end Stencil

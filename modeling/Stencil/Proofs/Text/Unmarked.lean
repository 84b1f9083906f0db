import Stencil.Control
import Stencil.Directive

/-!
# Texts without the special mark

A text is unmarked when none of the lines between its line feeds starts with the special mark,
blanks aside.  Unmarked texts can be put one below the other, and names can be filled into an
unmarked text: a name is made of word characters, the mark has none, and what stands before a filled
name stood there before.
-/

namespace Stencil.Text

/-- No line of the text starts with the special mark, where lines are what line feeds separate. -/
def Unmarked (text : Text) : Prop := ∀ line ∈ List.splitOn '\n' text, isSpecial line = false

instance (text : Text) : Decidable text.Unmarked :=
  inferInstanceAs (Decidable (∀ line ∈ List.splitOn '\n' text, isSpecial line = false))

theorem unmarked_append_feed (left right : Text) :
    (left ++ '\n' :: right).Unmarked ↔ left.Unmarked ∧ right.Unmarked := by
  rw [Unmarked, List.splitOn_append_cons_self]
  exact List.forall_mem_append

theorem unmarked_of_no_feed {text : Text} (no_feed : '\n' ∉ text) :
    text.Unmarked ↔ isSpecial text = false := by
  simp [Unmarked, List.splitOn_eq_singleton no_feed]

theorem unmarked_nil : Unmarked [] := by decide

/-- Unmarked texts with line feeds between them are unmarked. -/
theorem unmarked_intercalate {texts : List Text} (unmarked : ∀ text ∈ texts, text.Unmarked) :
    Unmarked (List.intercalate ['\n'] texts) := by
  induction texts with
  | nil => exact unmarked_nil
  | cons first rest ih =>
      obtain ⟨first_unmarked, rest_unmarked⟩ := List.forall_mem_cons.mp unmarked
      cases rest with
      | nil => simpa using first_unmarked
      | cons next rest =>
          rw [List.intercalate_cons_cons, List.append_assoc, List.singleton_append,
            unmarked_append_feed]
          exact ⟨first_unmarked, ih rest_unmarked⟩

/-! ## Word characters -/

/-- The code points of the blanks. -/
def blankPoints : List Nat :=
  List.range' 0x09 5 ++ [0x20, 0x85, 0xA0, 0x1680] ++ List.range' 0x2000 11 ++
    [0x2028, 0x2029, 0x202F, 0x205F, 0x3000]

theorem mem_blankPoints {n : Nat} (blank : blankTable.contains n = true) : n ∈ blankPoints := by
  simp only [blankTable, InversionList.contains, InversionList.passedOdd, Bool.and_eq_true,
    decide_eq_true_eq, Bool.not_eq_true', Bool.and_eq_false_iff, decide_eq_false_iff_not,
    Bool.not_eq_false', reduceCtorEq, or_false] at blank
  simp only [blankPoints, List.mem_append, List.mem_cons, List.mem_range'_1, List.not_mem_nil,
    or_false]
  omega

theorem not_word_blankPoints : ∀ n ∈ blankPoints, wordTable.contains n = false := by
  decide +kernel

theorem not_isBlank_of_isWordChar {c : Char} (word : isWordChar c = true) : isBlank c = false := by
  cases blank : isBlank c with
  | false => rfl
  | true =>
      have not_word := not_word_blankPoints c.toNat (mem_blankPoints blank)
      exact absurd (word.symm.trans not_word) (by decide)

theorem not_isWordChar_of_mem_special : ∀ c ∈ Mark.special, isWordChar c = false := by
  have none_word : Mark.special.any isWordChar = false := by decide +kernel
  simpa using List.any_eq_false.mp none_word

theorem not_isWordChar_feed : isWordChar '\n' = false := by decide +kernel

theorem exists_cons_of_isWord {name : Text} (word : name.isWord = true) :
    ∃ c tail, name = c :: tail ∧ isWordChar c = true := by
  obtain ⟨nonempty, all_word⟩ := (Bool.and_eq_true _ _).mp word
  cases name with
  | nil => simp at nonempty
  | cons c tail => exact ⟨c, tail, rfl, List.all_eq_true.mp all_word c List.mem_cons_self⟩

theorem ne_nil_of_isWord {word : Text} (is_word : word.isWord = true) : word ≠ [] := by
  obtain ⟨c, tail, rfl, _⟩ := exists_cons_of_isWord is_word
  exact List.cons_ne_nil c tail

theorem all_of_isWord {word : Text} (is_word : word.isWord = true) :
    ∀ c ∈ word, isWordChar c = true :=
  List.all_eq_true.mp ((Bool.and_eq_true _ _).mp is_word).2

theorem not_mem_of_isWord {c : Char} (not_word : isWordChar c = false) {name : Text}
    (word : name.isWord = true) : c ∉ name := fun member =>
  absurd ((all_of_isWord word c member).symm.trans not_word) (by decide)

theorem not_mem_feed_of_isWord {name : Text} (word : name.isWord = true) : '\n' ∉ name :=
  not_mem_of_isWord not_isWordChar_feed word

theorem isSpecial_cons (c : Char) (rest : Text) :
    isSpecial (c :: rest) =
      if isBlank c then isSpecial rest else Mark.special.isPrefixOf (c :: rest) := by
  cases blank : isBlank c <;> simp [isSpecial, beginsWith, trimStart, blank]

/-- A text that starts with a word does not start with the special mark. -/
theorem not_isSpecial_word_append {name : Text} (word : name.isWord = true) (rest : Text) :
    isSpecial (name ++ rest) = false := by
  obtain ⟨c, tail, rfl, c_word⟩ := exists_cons_of_isWord word
  rw [List.cons_append, isSpecial_cons, not_isBlank_of_isWordChar c_word, if_neg (by decide),
    Bool.eq_false_iff]
  intro special
  obtain ⟨rfl, _⟩ := List.cons_prefix_cons.mp (List.isPrefixOf_iff_prefix.mp special)
  have slash := not_isWordChar_of_mem_special '/' List.mem_cons_self
  exact absurd (c_word.symm.trans slash) (by decide)

/-! ## Filling a word into a text -/

section Replace

variable {old new : Text}

theorem replaceFrom_zero_cons (old new : Text) (c : Char) (rest : Text) :
    replaceFrom old new 0 (c :: rest) =
      if old.isPrefixOf (c :: rest) then new ++ replaceFrom old new (old.length - 1) rest
      else c :: replaceFrom old new 0 rest := rfl

/-- A word without the line feed stands before the line feed or not at all. -/
theorem isPrefixOf_append_feed (no_feed : '\n' ∉ old) (left right : Text) :
    old.isPrefixOf (left ++ '\n' :: right) = old.isPrefixOf left := by
  induction old generalizing left with
  | nil => simp
  | cons c old ih =>
      simp only [List.mem_cons, not_or] at no_feed
      cases left with
      | nil =>
          have other : ¬(c == '\n') = true := by simpa using Ne.symm no_feed.1
          simp only [List.nil_append, List.isPrefixOf, other, Bool.false_and]
      | cons d left => rw [List.cons_append, List.isPrefixOf, List.isPrefixOf, ih no_feed.2]

theorem replaceFrom_append_feed (old_ne : old ≠ []) (no_feed : '\n' ∉ old) {skip : Nat}
    {left : Text} (inside : skip ≤ left.length) (right : Text) :
    replaceFrom old new skip (left ++ '\n' :: right) =
      replaceFrom old new skip left ++ '\n' :: replaceAll right old new := by
  -- An occurrence never reaches over the line feed, so the characters still to be dropped all stand
  -- before it.
  induction left generalizing skip with
  | nil =>
      obtain rfl : skip = 0 := by simpa using inside
      obtain ⟨c, tail, rfl⟩ := List.exists_cons_of_ne_nil old_ne
      have other : c ≠ '\n' := fun same => no_feed (same ▸ List.mem_cons_self)
      simp [replaceFrom_zero_cons, List.isPrefixOf, other, replaceFrom, replaceAll]
  | cons c left ih =>
      cases skip with
      | succ skip => exact ih (by simpa using inside)
      | zero =>
          have same := isPrefixOf_append_feed no_feed (c :: left) right
          rw [List.cons_append] at same
          rw [List.cons_append, replaceFrom_zero_cons, replaceFrom_zero_cons, same]
          split
          next occurs =>
            have length_le := (List.isPrefixOf_iff_prefix.mp occurs).length_le
            rw [ih (by simp only [List.length_cons] at length_le; omega), List.append_assoc]
          next => rw [ih (Nat.zero_le _), List.cons_append]

theorem replaceAll_append_feed (old_ne : old ≠ []) (no_feed : '\n' ∉ old) (left right : Text) :
    (left ++ '\n' :: right).replaceAll old new =
      left.replaceAll old new ++ '\n' :: right.replaceAll old new :=
  replaceFrom_append_feed old_ne no_feed (Nat.zero_le _) right

theorem not_mem_replaceFrom {c : Char} (not_new : c ∉ new) {skip : Nat} {text : Text}
    (not_text : c ∉ text) : c ∉ replaceFrom old new skip text := by
  fun_induction replaceFrom old new skip text with
  | case1 => simp
  | case2 skip d rest ih => exact ih fun member => not_text (List.mem_cons_of_mem d member)
  | case3 d rest _ ih =>
      have not_rest := ih fun member => not_text (List.mem_cons_of_mem d member)
      simp [not_new, not_rest]
  | case4 d rest _ ih =>
      obtain ⟨not_head, not_tail⟩ := not_or.mp (mt List.mem_cons.mpr not_text)
      simp [not_head, ih not_tail]

/-- What shares no character with the new word and starts the text after the new word is put in,
started it before. -/
theorem prefix_of_prefix_replaceFrom (new_ne : new ≠ []) {start text : Text}
    (fresh : ∀ c ∈ start, c ∉ new) (after : start <+: replaceFrom old new 0 text) :
    start <+: text := by
  induction start generalizing text with
  | nil => exact List.nil_prefix
  | cons c start ih =>
      obtain ⟨c_fresh, start_fresh⟩ := List.forall_mem_cons.mp fresh
      cases text with
      | nil => simp [replaceFrom] at after
      | cons d rest =>
          rw [replaceFrom_zero_cons] at after
          split at after
          next =>
            obtain ⟨e, tail, rfl⟩ := List.exists_cons_of_ne_nil new_ne
            obtain ⟨rfl, _⟩ := List.cons_prefix_cons.mp after
            exact absurd List.mem_cons_self c_fresh
          next =>
            obtain ⟨rfl, rest_after⟩ := List.cons_prefix_cons.mp after
            exact List.cons_prefix_cons.mpr ⟨rfl, ih start_fresh rest_after⟩

/-- Filling a word into a line does not make it start with the special mark. -/
theorem not_isSpecial_replaceAll (word : new.isWord = true) {line : Text}
    (plain : isSpecial line = false) : isSpecial (line.replaceAll old new) = false := by
  rw [Bool.eq_false_iff] at plain ⊢
  refine fun special => plain ?_
  clear plain
  rw [replaceAll] at special
  -- Blanks before the mark are kept as they are; from there on the mark is a beginning.
  induction line with
  | nil => exact special
  | cons c rest ih =>
      rw [isSpecial_cons]
      rw [replaceFrom_zero_cons] at special
      split at special
      next =>
        rw [not_isSpecial_word_append word] at special
        cases special
      next unchanged =>
        rw [isSpecial_cons] at special
        split at special
        next blank => rw [if_pos blank]; exact ih special
        next nonblank =>
          rw [if_neg nonblank, List.isPrefixOf_iff_prefix]
          have after : Mark.special <+: replaceFrom old new 0 (c :: rest) := by
            rw [replaceFrom_zero_cons, if_neg unchanged]
            exact List.isPrefixOf_iff_prefix.mp special
          exact prefix_of_prefix_replaceFrom (ne_nil_of_isWord word)
            (fun c member => not_mem_of_isWord (not_isWordChar_of_mem_special c member) word) after

/-- Filling a word into an unmarked text leaves it unmarked. -/
theorem Unmarked.replaceAll (old_ne : old ≠ []) (no_feed : '\n' ∉ old) (word : new.isWord = true)
    {text : Text} (unmarked : text.Unmarked) : (text.replaceAll old new).Unmarked := by
  have line_unmarked {line : Text} (line_no_feed : '\n' ∉ line) (plain : line.Unmarked) :
      (line.replaceAll old new).Unmarked := by
    have filled_no_feed : '\n' ∉ line.replaceAll old new :=
      not_mem_replaceFrom (not_mem_feed_of_isWord word) line_no_feed
    rw [unmarked_of_no_feed line_no_feed] at plain
    exact (unmarked_of_no_feed filled_no_feed).mpr (not_isSpecial_replaceAll word plain)
  by_cases member : '\n' ∈ text
  · obtain ⟨line, rest, text_eq, line_no_feed⟩ := List.eq_append_cons_of_mem member
    have shorter : rest.length < text.length := by simp [text_eq]; omega
    rw [text_eq, unmarked_append_feed] at unmarked
    rw [text_eq, replaceAll_append_feed old_ne no_feed, unmarked_append_feed]
    exact ⟨line_unmarked line_no_feed unmarked.1,
      Unmarked.replaceAll old_ne no_feed word unmarked.2⟩
  · exact line_unmarked member unmarked
termination_by text.length

end Replace

end Stencil.Text

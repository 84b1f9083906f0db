import Mathlib.Data.List.Basic
import Stencil.Placeholder
import Stencil.Proofs.Directive.Classify
import Stencil.Proofs.Text.Unmarked

/-!
# Filling placeholders part by part

A placeholder is found where the text starts with it, and nowhere else.  Two texts can be filled
apart from each other when no placeholder starts in the first and ends in the second.  This is so
when the second has no closing brace, and also when it starts with a placeholder of its own: inside
a placeholder two opening braces stand at its start only.  Hence filling is one pass over the
placeholders of a text, and `simultaneous_iff` says that its two laws determine it.
-/

namespace Stencil.Text

theorem fillFrom_zero_cons (bindings : Bindings) (c : Char) (rest : Text) :
    fillFrom bindings 0 (c :: rest) =
      match placeholderName? (c :: rest) with
      | some name =>
        (bindings.value? name).getD (placeholder name)
          ++ fillFrom bindings (name.length + 3) rest
      | none => c :: fillFrom bindings 0 rest := rfl

theorem placeholderName?_of_ne_brace {c : Char} (other : c ≠ '{') (rest : Text) :
    placeholderName? (c :: rest) = none := by
  simp [placeholderName?, other]

/-- Text without an opening brace stays in front of what is filled. -/
theorem fill_append_of_no_brace {front : Text} (no_brace : '{' ∉ front) (text : Text)
    (bindings : Bindings) : fill (front ++ text) bindings = front ++ fill text bindings := by
  induction front with
  | nil => rfl
  | cons c front ih =>
      obtain ⟨other, rest_no_brace⟩ := not_or.mp (mt List.mem_cons.mpr no_brace)
      rw [fill, List.cons_append, fillFrom_zero_cons, placeholderName?_of_ne_brace (Ne.symm other)]
      exact congrArg (c :: ·) (ih rest_no_brace)

theorem not_isWordChar_closing : isWordChar '}' = false := by decide +kernel

/-- A placeholder is found at the head of a text exactly when the text starts with it. -/
theorem placeholderName?_eq_some_iff (text name : Text) :
    placeholderName? text = some name ↔ name.isWord = true ∧ placeholder name <+: text := by
  constructor
  · intro found
    unfold placeholderName? at found
    split at found
    next rest =>
      have read : Directive.readWord? rest =
          some (rest.takeWhile isWordChar, rest.dropWhile isWordChar) := by
        rw [Directive.readWord?, List.span_eq_takeWhile_dropWhile]
        split
        next nothing =>
          rw [List.span_eq_takeWhile_dropWhile, nothing] at found
          cases found
        next same => rw [same]
      have whole := List.takeWhile_append_dropWhile (p := isWordChar) (l := rest)
      rw [List.span_eq_takeWhile_dropWhile] at found
      split at found
      next => cases found
      next word tail _ span =>
        obtain rfl := Option.some.inj found
        obtain ⟨taken, dropped⟩ := Prod.mk.inj span
        rw [taken] at read
        rw [taken, dropped] at whole
        exact ⟨isWord_of_readWord? read, tail, by simp [placeholder, ← whole]⟩
      next => cases found
    next => cases found
  · rintro ⟨word, rest, rfl⟩
    have all := all_of_isWord word
    have span : (name ++ '}' :: '}' :: rest).span isWordChar = (name, '}' :: '}' :: rest) := by
      rw [List.span_eq_takeWhile_dropWhile, List.takeWhile_append_of_pos all,
        List.dropWhile_append_of_pos all]
      simp [not_isWordChar_closing]
    have shape : placeholder name ++ rest = '{' :: '{' :: (name ++ '}' :: '}' :: rest) := by
      simp [placeholder]
    obtain ⟨c, letters, rfl, _⟩ := exists_cons_of_isWord word
    rw [shape, placeholderName?, span]
    rfl

/-! ## Texts filled one after the other -/

/-- No placeholder starts in the text and ends in what follows. -/
def Apart (text following : Text) : Prop :=
  ∀ tail name : Text, tail ≠ [] → tail <:+ text → name.isWord = true →
    placeholder name <+: tail ++ following → placeholder name <+: tail

theorem Apart.tail {c : Char} {text following : Text} (apart : Apart (c :: text) following) :
    Apart text following := fun tail name nonempty inside word found =>
  apart tail name nonempty (inside.trans (List.suffix_cons c text)) word found

theorem Apart.placeholderName?_eq {text following : Text} (apart : Apart text following)
    (nonempty : text ≠ []) : placeholderName? (text ++ following) = placeholderName? text := by
  ext name
  rw [placeholderName?_eq_some_iff, placeholderName?_eq_some_iff]
  refine and_congr_right fun word => ⟨?_, ?_⟩
  · exact apart text name nonempty List.suffix_rfl word
  · exact fun found => found.trans (List.prefix_append text following)

theorem fillFrom_append {text following : Text} (apart : Apart text following)
    (bindings : Bindings) {skip : Nat} (inside : skip ≤ text.length) :
    fillFrom bindings skip (text ++ following) =
      fillFrom bindings skip text ++ fill following bindings := by
  induction text generalizing skip with
  | nil =>
      obtain rfl : skip = 0 := by simpa using inside
      rfl
  | cons c rest ih =>
      cases skip with
      | succ skip => exact ih apart.tail (by simpa using inside)
      | zero =>
          have same := apart.placeholderName?_eq (List.cons_ne_nil c rest)
          rw [List.cons_append] at same
          rw [List.cons_append, fillFrom_zero_cons, fillFrom_zero_cons, same]
          cases found : placeholderName? (c :: rest) with
          | none => simp [ih apart.tail (Nat.zero_le _)]
          | some name =>
              obtain ⟨_, starts⟩ := (placeholderName?_eq_some_iff _ _).mp found
              have length_le := starts.length_le
              have bound : name.length + 3 ≤ rest.length := by
                simp only [placeholder, List.length_append, List.length_cons,
                  List.length_nil] at length_le
                omega
              simp [ih apart.tail bound]

theorem fill_append {text following : Text} (apart : Apart text following) (bindings : Bindings) :
    fill (text ++ following) bindings = fill text bindings ++ fill following bindings :=
  fillFrom_append apart bindings (Nat.zero_le _)

/-- What a text starts with ends inside its first part or reaches into the second. -/
theorem prefix_or_overlap {start text following : Text} (found : start <+: text ++ following) :
    start <+: text ∨ ∃ overlap, overlap ≠ [] ∧ start = text ++ overlap ∧ overlap <+: following := by
  rcases List.prefix_or_prefix_of_prefix found (List.prefix_append text following) with
    inside | ⟨overlap, rfl⟩
  · exact .inl inside
  · rcases eq_or_ne overlap [] with rfl | overlap_ne
    · exact .inl (by simp)
    · exact .inr ⟨overlap, overlap_ne, rfl, (List.prefix_append_right_inj text).mp found⟩

theorem apart_of_no_closing {following : Text} (no_closing : '}' ∉ following) (text : Text) :
    Apart text following := by
  intro tail name _ _ _ found
  rcases prefix_or_overlap found with inside | ⟨overlap, overlap_ne, split, reaches⟩
  · exact inside
  · -- What reaches over the end of the text ends in a brace, and none stands there.
    have last : overlap.getLast? = some '}' := by
      rw [← List.getLast?_append_of_ne_nil tail overlap_ne, ← split, placeholder,
        List.getLast?_append_of_ne_nil _ (by simp)]
      rfl
    exact absurd (reaches.subset (List.mem_of_getLast? last)) no_closing

/-! ## Texts around a placeholder -/

theorem not_isWordChar_opening : isWordChar '{' = false := by decide +kernel

/-- A placeholder does not reach into a placeholder that starts after it. -/
theorem apart_placeholder {name : Text} (text following : Text) :
    Apart text (placeholder name ++ following) := by
  intro tail other nonempty _ word found
  rcases prefix_or_overlap found with inside | ⟨overlap, overlap_ne, split, reaches⟩
  · exact inside
  · have no_opening : '{' ∉ other ++ ['}', '}'] := by
      simp [not_mem_of_isWord not_isWordChar_opening word]
    obtain ⟨c, rest, rfl⟩ := List.exists_cons_of_ne_nil overlap_ne
    obtain ⟨rfl, rest_reaches⟩ := List.cons_prefix_cons.mp reaches
    obtain ⟨first, front, rfl⟩ := List.exists_cons_of_ne_nil nonempty
    obtain ⟨_, after_first⟩ : '{' = first ∧
        '{' :: (other ++ ['}', '}']) = front ++ '{' :: rest := by
      simpa [placeholder] using split
    cases front with
    | nil =>
        -- The overlap holds both opening braces of the second placeholder but only one of the
        -- first, whose name would have to start with the other.
        obtain rfl : other ++ ['}', '}'] = rest := by simpa using after_first
        obtain ⟨c, letters, rfl, _⟩ := exists_cons_of_isWord word
        obtain ⟨rfl, _⟩ := List.cons_prefix_cons.mp rest_reaches
        exact absurd List.mem_cons_self no_opening
    | cons second front =>
        obtain ⟨_, after_second⟩ := List.cons.inj after_first
        exact absurd (after_second ▸ by simp) no_opening

theorem fillFrom_length_append (bindings : Bindings) (dropped text : Text) :
    fillFrom bindings dropped.length (dropped ++ text) = fill text bindings := by
  induction dropped with
  | nil => rfl
  | cons c dropped ih => exact ih

/-- What a placeholder becomes: a bound name its value, and an unbound one the placeholder. -/
def filling (bindings : Bindings) (name : Text) : Text :=
  match bindings.value? name with
  | some value => value
  | none => placeholder name

theorem fill_placeholder_append {name : Text} (word : name.isWord = true) (text : Text)
    (bindings : Bindings) :
    fill (placeholder name ++ text) bindings = filling bindings name ++ fill text bindings := by
  have found : placeholderName? (placeholder name ++ text) = some name :=
    (placeholderName?_eq_some_iff _ _).mpr ⟨word, List.prefix_append _ _⟩
  have shape : placeholder name ++ text = '{' :: (('{' :: name ++ ['}', '}']) ++ text) := by
    simp [placeholder]
  have skipped : ('{' :: name ++ ['}', '}']).length = name.length + 3 := by simp
  rw [shape] at found ⊢
  rw [fill, fillFrom_zero_cons, found]
  dsimp only
  rw [← skipped, fillFrom_length_append, filling]
  cases bindings.value? name <;> rfl

/-- A text that has no placeholder is not changed. -/
theorem fill_of_no_placeholder {text : Text}
    (none_occurs : ∀ name : Text, name.isWord = true → ¬placeholder name <:+: text)
    (bindings : Bindings) : fill text bindings = text := by
  induction text with
  | nil => rfl
  | cons c rest ih =>
      have not_here : placeholderName? (c :: rest) = none := by
        refine Option.eq_none_iff_forall_ne_some.mpr fun name found => ?_
        obtain ⟨word, starts⟩ := (placeholderName?_eq_some_iff _ _).mp found
        exact none_occurs name word starts.isInfix
      have not_later : ∀ name : Text, name.isWord = true → ¬placeholder name <:+: rest :=
        fun name word occurs =>
          none_occurs name word (occurs.trans (List.suffix_cons c rest).isInfix)
      rw [fill, fillFrom_zero_cons, not_here]
      exact congrArg (c :: ·) (ih not_later)

/-- A text without placeholders, or one with a placeholder between two shorter texts: what holds of
the first, and of the second when it holds of the shorter texts, holds of every text. -/
theorem placeholder_induction {motive : Text → Prop}
    (free : ∀ text : Text, (∀ name : Text, name.isWord = true → ¬placeholder name <:+: text) →
      motive text)
    (around : ∀ before name after : Text, name.isWord = true → motive before → motive after →
      motive (before ++ placeholder name ++ after)) (text : Text) : motive text := by
  by_cases occurs : ∃ name : Text, name.isWord = true ∧ placeholder name <:+: text
  · obtain ⟨name, word, before, after, split⟩ := occurs
    have length_eq : before.length + (placeholder name).length + after.length = text.length := by
      rw [← split, List.length_append, List.length_append]
    have placeholder_pos : 0 < (placeholder name).length := by simp [placeholder]
    have before_shorter : before.length < text.length := by omega
    have after_shorter : after.length < text.length := by omega
    rw [← split]
    exact around before name after word (placeholder_induction free around before)
      (placeholder_induction free around after)
  · exact free text fun name word found => occurs ⟨name, word, found⟩
termination_by text.length

/-! ## The laws of filling -/

/-- A way to fill texts replaces all placeholders at once: around a placeholder the texts are filled
apart, and what is put in its place is not looked at again; a text without placeholders stays. -/
structure Simultaneous (bindings : Bindings) (filler : Text → Text) : Prop where
  around : ∀ before name after : Text, name.isWord = true →
    filler (before ++ placeholder name ++ after) =
      filler before ++ filling bindings name ++ filler after
  unchanged : ∀ text : Text,
    (∀ name : Text, name.isWord = true → ¬placeholder name <:+: text) → filler text = text

theorem Simultaneous.unique {bindings : Bindings} {first second : Text → Text}
    (first_law : Simultaneous bindings first) (second_law : Simultaneous bindings second)
    (text : Text) : first text = second text := by
  refine placeholder_induction (motive := fun text => first text = second text) ?_ ?_ text
  · intro text none_occurs
    rw [first_law.unchanged text none_occurs, second_law.unchanged text none_occurs]
  · intro before name after word before_same after_same
    rw [first_law.around before name after word, second_law.around before name after word,
      before_same, after_same]

theorem simultaneous_fill (bindings : Bindings) : Simultaneous bindings (fill · bindings) where
  around before name after word := by
    calc fill (before ++ placeholder name ++ after) bindings
        = fill (before ++ (placeholder name ++ after)) bindings := by rw [List.append_assoc]
      _ = fill before bindings ++ fill (placeholder name ++ after) bindings :=
          fill_append (apart_placeholder before after) bindings
      _ = fill before bindings ++ filling bindings name ++ fill after bindings := by
          rw [fill_placeholder_append word, List.append_assoc]
  unchanged _ none_occurs := fill_of_no_placeholder none_occurs bindings

/-- Filling replaces all placeholders at once, whatever stands around them and whatever is put in
their place, and nothing else does so. -/
theorem simultaneous_iff (bindings : Bindings) (filler : Text → Text) :
    Simultaneous bindings filler ↔ ∀ text, filler text = fill text bindings := by
  constructor
  · exact fun law text => law.unique (simultaneous_fill bindings) text
  · intro same
    obtain rfl : filler = (fill · bindings) := funext same
    exact simultaneous_fill bindings

-- A value that looks like a placeholder stays, and stray braces hide nothing.
example :
    fill (['{', '{', 'a'] ++ placeholder ['x'] ++ ['}'] ++ placeholder ['y'] ++ placeholder ['b'])
        [(['x'], placeholder ['b']), (['b'], ['z'])] =
      ['{', '{', 'a'] ++ placeholder ['b'] ++ ['}'] ++ placeholder ['y'] ++ ['z'] := by
  decide +kernel

end Stencil.Text

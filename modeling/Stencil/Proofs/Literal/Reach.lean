import Stencil.Proofs.Literal.Reading

/-!
# How far a list is read

Reading is greedy.  After a literal of the grammar the reader may go on, as a number does with more
digits, but it never stops before the literal's end.  So if a text starts with a list of the
grammar, the part that is left unread is a part of what stands after that list.
-/

namespace Stencil.Literal

/-- The reading is no miss: it leaves a text with a property, or it is broken. -/
def Reading.Leaves {α : Type} (property : Text → Prop) (reading : Reading α) : Prop :=
  (∃ value rest, reading = .found value rest ∧ property rest) ∨ ∃ fault, reading = .broken fault

/-! ## Numbers -/

theorem Digits.append_ne_nil (digits : Digits) (rest : Text) : digits.text ++ rest ≠ [] :=
  List.append_ne_nil_of_left_ne_nil digits.nonempty rest

namespace Numeral

theorem readDigits_suffix (s : Text) : (readDigits s).2 <:+ s := by
  rw [readDigits, List.span_eq_takeWhile_dropWhile]
  exact List.dropWhile_suffix _

/-- Digits are read together with the digits after them. -/
theorem readDigits_more {digits : Text} (all_digits : IsDigits digits) (rest : Text) :
    readDigits (digits ++ rest) = (digits ++ (readDigits rest).1, (readDigits rest).2) := by
  simp only [readDigits, List.span_eq_takeWhile_dropWhile,
    List.takeWhile_append_of_pos all_digits, List.dropWhile_append_of_pos all_digits]

theorem readMagnitude?_reaches (mantissa : Mantissa) (rest : Text) :
    ∃ whole fraction after, readMagnitude? (mantissa.text ++ rest) = some (whole, fraction, after) ∧
      after <:+ rest := by
  have suffix := readDigits_suffix rest
  cases mantissa with
  | whole front =>
      rw [readMagnitude?, Mantissa.text, readDigits_more front.digits]
      split
      next heq => exact absurd (congrArg Prod.fst heq) (front.append_ne_nil _)
      next heq => exact absurd (congrArg Prod.fst heq) (front.append_ne_nil _)
      next after _ heq =>
        have point : (readDigits rest).2 = '.' :: after := congrArg Prod.snd heq
        have after_suffix : after <:+ rest := (List.suffix_cons _ _).trans (point ▸ suffix)
        exact ⟨_, _, _, rfl, (readDigits_suffix after).trans after_suffix⟩
      next heq =>
        obtain ⟨rfl, rfl⟩ := Prod.mk.inj heq
        exact ⟨_, _, _, rfl, suffix⟩
  | pointed front fraction fraction_digits =>
      have before : readDigits (front.text ++ '.' :: (fraction ++ rest)) =
          (front.text, '.' :: (fraction ++ rest)) :=
        readDigits_append front.digits (by simp)
      rw [readMagnitude?, Mantissa.text, List.append_assoc, List.cons_append, before]
      split
      next heq => exact absurd (congrArg Prod.fst heq) front.nonempty
      next heq => exact absurd (congrArg Prod.fst heq) front.nonempty
      next heq =>
        obtain ⟨rfl, point⟩ := Prod.mk.inj heq
        obtain rfl := List.tail_eq_of_cons_eq point
        rw [readDigits_more fraction_digits]
        exact ⟨_, _, _, rfl, suffix⟩
      next no_point heq =>
        obtain ⟨rfl, rfl⟩ := Prod.mk.inj heq
        exact absurd rfl (no_point _)
  | bare fraction =>
      have before : readDigits ('.' :: (fraction.text ++ rest)) =
          ([], '.' :: (fraction.text ++ rest)) :=
        readDigits_append isDigits_nil (by simp)
      rw [readMagnitude?, Mantissa.text, List.cons_append, before]
      simp only [readDigits_more fraction.digits]
      split
      next heq => exact absurd (congrArg Prod.fst heq) (fraction.append_ne_nil _)
      next heq =>
        obtain ⟨rfl, rfl⟩ := Prod.mk.inj heq
        exact ⟨_, _, _, rfl, suffix⟩

theorem readExponent_leaves (s : Text) : (readExponent s).Leaves (· <:+ s) := by
  cases read : readExponent s with
  | found value rest =>
      obtain ⟨exponent, rfl, _⟩ := readExponent_sound read
      exact .inl ⟨value, rest, rfl, List.suffix_append _ _⟩
  | miss =>
      unfold readExponent at read
      split at read
      next => cases read
      next =>
        dsimp only at read
        split at read
        next => split at read <;> cases read
        next => cases read
  | broken fault => exact .inr ⟨fault, rfl⟩

theorem readExponent_some_leaves (exponent : Exponent) (rest : Text) :
    (readExponent (Exponent.text (some exponent) ++ rest)).Leaves (· <:+ rest) := by
  obtain ⟨letter, letter_eq, sign, digits⟩ := exponent
  have signed := readSign_append sign (digits.unsigned rest)
  rw [Exponent.text, List.cons_append, List.append_assoc, readExponent, if_pos letter_eq]
  dsimp only
  rw [signed]
  dsimp only
  rw [readDigits_more digits.digits]
  split
  next heq => exact absurd (congrArg Prod.fst heq) (digits.append_ne_nil _)
  next heq =>
    obtain ⟨rfl, rfl⟩ := Prod.mk.inj heq
    exact .inl ⟨_, _, rfl, readDigits_suffix rest⟩

/-- A number goes on at least to the end of a number of the grammar. -/
theorem read_leaves (sign : Sign) (mantissa : Mantissa) (exponent : Option Exponent) (rest : Text) :
    (read (sign.text ++ mantissa.text ++ Exponent.text exponent ++ rest)).Leaves (· <:+ rest) := by
  have signed := readSign_append sign (mantissa.unsigned (Exponent.text exponent ++ rest))
  obtain ⟨whole, fraction, after, magnitude, power⟩ :
      ∃ whole fraction after, readMagnitude? (mantissa.text ++ (Exponent.text exponent ++ rest)) =
        some (whole, fraction, after) ∧ (readExponent after).Leaves (· <:+ rest) := by
    cases exponent with
    | none =>
        obtain ⟨whole, fraction, after, magnitude, suffix⟩ := readMagnitude?_reaches mantissa rest
        refine ⟨whole, fraction, after, magnitude, ?_⟩
        rcases readExponent_leaves after with ⟨value, left, found, left_suffix⟩ | broken
        · exact .inl ⟨value, left, found, left_suffix.trans suffix⟩
        · exact .inr broken
    | some exponent =>
        exact ⟨_, _, _, readMagnitude?_append mantissa (letter_ends exponent.letter_eq _),
          readExponent_some_leaves exponent rest⟩
  rw [List.append_assoc, List.append_assoc, read, signed]
  dsimp only
  rw [magnitude]
  dsimp only
  rcases power with ⟨value, left, found, left_suffix⟩ | ⟨fault, broken⟩
  · rw [found]
    exact .inl ⟨_, left, rfl, left_suffix⟩
  · rw [broken]
    exact .inr ⟨fault, rfl⟩

end Numeral

/-! ## Literals -/

/-- A literal goes on at least to the end of a literal of the grammar. -/
theorem Derives.read_leaves {text : Text} {value : Literal} (derived : Derives text value)
    {depth : Nat} (enough : text.length < depth) (rest : Text) :
    (read depth (text ++ rest)).Leaves (· <:+ rest) := by
  obtain ⟨depth, rfl⟩ := Nat.exists_eq_succ_of_ne_zero (Nat.ne_of_gt (Nat.zero_lt_of_lt enough))
  have number : ∀ s, (Numeral.read s).Leaves (· <:+ rest) →
      (read (depth + 1) s).Leaves (· <:+ rest) := by
    rintro s (⟨numeral, left, found, suffix⟩ | ⟨fault, broken⟩)
    · exact .inl ⟨_, left, read_number depth found, suffix⟩
    · refine .inr ⟨fault.within s, ?_⟩
      unfold read
      rw [broken]
  cases derived with
  | integer sign digits =>
      have leaves := Numeral.read_leaves sign (.whole digits) none rest
      rw [Exponent.text, List.append_nil] at leaves
      exact number _ leaves
  | double sign mantissa exponent => exact number _ (Numeral.read_leaves sign mantissa exponent rest)
  | string quote quote_eq fragments =>
      exact .inl ⟨_, rest, read_string_append depth quote_eq fragments rest, List.suffix_rfl⟩
  | list layout items =>
      simp only [List.length_cons, List.length_append, List.length_nil] at enough
      have reads : ∀ found ∈ layout.items, Reads (read depth) found :=
        reads_layout items (by omega)
      exact .inl ⟨_, rest, read_brackets_append layout reads rest, List.suffix_rfl⟩
  | group layout items =>
      simp only [List.length_cons, List.length_append, List.length_nil] at enough
      have reads : ∀ found ∈ layout.items, Reads (read depth) found :=
        reads_layout items (by omega)
      exact .inl ⟨_, rest, read_parentheses_append layout reads rest, List.suffix_rfl⟩

/-! ## Sequences -/

theorem skipSpaces_suffix (s : Text) : skipSpaces s <:+ s := List.dropWhile_suffix _

/-- What is left of spaces and a text is, after its spaces, a part of that text. -/
theorem skipSpaces_suffix_of_suffix {s rest : Text} (spaces : Spaces)
    (suffix : s <:+ spaces.text ++ rest) : skipSpaces s <:+ rest := by
  rcases List.suffix_or_suffix_of_suffix suffix (List.suffix_append spaces.text rest) with
    inside | ⟨front, rfl⟩
  · exact (skipSpaces_suffix s).trans inside
  · have front_suffix := ((List.suffix_append_inj_of_length_eq rfl).mp suffix).1
    have front_spaces : ∀ c ∈ front, isSpace c = true :=
      fun c member => spaces.spaces c (front_suffix.mem member)
    rw [skipSpaces_append ⟨front, front_spaces⟩]
    exact skipSpaces_suffix rest

section Reaching

variable {item : Text → Reading Literal} {s rest after : Text}

/-- The reader gets past the item, whatever follows it. -/
structure Reaches (item : Text → Reading Literal) (found : Item) : Prop extends Reads item found where
  leaves : ∀ rest, (item (found.text ++ rest)).Leaves (· <:+ rest)

/-- What is left when an item has been read and further items and a rest follow it.  Before further
items the reader stops exactly; otherwise it may have gone on into the rest. -/
def Remains (rest : Text) : List Item → Text → Prop
  | [], s => s <:+ rest
  | items, s => s = following items ++ rest

theorem readSpaced_leaves {first : Item} (reaches : Reaches item first) (items : List Item)
    (rest : Text) :
    (readSpaced item (first.written ++ (following items ++ rest))).Leaves (Remains rest items) := by
  cases items with
  | nil =>
      have place : skipSpaces (first.written ++ (following [] ++ rest)) =
          first.text ++ (first.after.text ++ rest) := by
        rw [Item.written, List.append_assoc, List.append_assoc, skipSpaces_append,
          skipSpaces_of_head (reaches.no_space _)]
        rfl
      rw [readSpaced, place]
      rcases reaches.leaves (first.after.text ++ rest) with
        ⟨value, left, found, suffix⟩ | ⟨fault, broken⟩
      · rw [found]
        exact .inl ⟨value, _, rfl, skipSpaces_suffix_of_suffix first.after suffix⟩
      · rw [broken]
        exact .inr ⟨fault, rfl⟩
  | cons next items =>
      have delimits : Delimits (following (next :: items) ++ rest) := by simp [Delimits, following]
      have found := readSpaced_append reaches.toReads delimits.stops
      exact .inl ⟨_, _, found, delimits.skipSpaces_eq⟩

theorem readMore_reaches (sound : Sound item) {items : List Item}
    (reaches : ∀ found ∈ items, Reaches item found) (remains : Remains rest items s) {fuel : Nat}
    (enough : items.length ≤ fuel) {values : List Literal}
    (read : readMore item fuel s = .ok (values, after)) : after <:+ rest := by
  induction items generalizing s fuel values with
  | nil =>
      obtain ⟨more, rfl, _⟩ := readMore_sound sound read
      exact (List.suffix_append _ _).trans remains
  | cons first items ih =>
      obtain ⟨first_reaches, items_reach⟩ := List.forall_mem_cons.mp reaches
      obtain ⟨fuel, rfl⟩ := Nat.exists_eq_add_of_le' enough
      have shape : s = ',' :: (first.written ++ (following items ++ rest)) := by
        rw [show s = following (first :: items) ++ rest from remains]
        simp [following]
      rw [shape, List.length_cons, ← Nat.add_assoc, readMore] at read
      rcases readSpaced_leaves first_reaches items rest with
        ⟨value, left, found, left_remains⟩ | ⟨fault, broken⟩
      · rw [found] at read
        dsimp only at read
        split at read
        next values' after' more =>
          obtain ⟨-, rfl⟩ := Prod.mk.inj (Except.ok.inj read)
          exact ih items_reach left_remains (Nat.le_add_left _ _) more
        next => cases read
      · rw [broken] at read
        cases read

theorem length_le_of_remains {items : List Item} (remains : Remains rest items s) :
    items.length ≤ s.length := by
  cases items with
  | nil => exact Nat.zero_le _
  | cons next items =>
      have counted := length_le_following (next :: items)
      rw [show s = following (next :: items) ++ rest from remains, List.length_append]
      omega

theorem readSeparated_reaches (sound : Sound item) {items : List Item}
    (reaches : ∀ found ∈ items, Reaches item found) {values : List Literal}
    (read : readSeparated item (skipSpaces (Layout.separated items ++ rest)) = .ok (values, after)) :
    after <:+ rest := by
  cases items with
  | nil =>
      obtain ⟨more, place, _⟩ := readSeparated_sound sound read
      have left : after <:+ skipSpaces rest := ⟨Layout.separated more, place.symm⟩
      exact left.trans (skipSpaces_suffix rest)
  | cons first items =>
      obtain ⟨first_reaches, items_reach⟩ := List.forall_mem_cons.mp reaches
      rw [readSeparated, readSpaced_skipSpaces, separated_cons, List.append_assoc] at read
      rcases readSpaced_leaves first_reaches items rest with
        ⟨value, left, found, remains⟩ | ⟨fault, broken⟩
      · rw [found] at read
        dsimp only at read
        split at read
        next values' after' more =>
          obtain ⟨-, rfl⟩ := Prod.mk.inj (Except.ok.inj read)
          exact readMore_reaches sound items_reach remains (length_le_of_remains remains) more
        next => cases read
      · rw [broken] at read
        cases read

/-- The optional comma after the items is followed by spaces only, up to the rest. -/
theorem exists_gap (comma : Option Spaces) (trail : Spaces) (rest : Text) :
    ∃ gap : Spaces, ∀ s, s <:+ Layout.commaText comma ++ (trail.text ++ rest) →
      s = ',' :: (gap.text ++ rest) ∨ s <:+ gap.text ++ rest := by
  cases comma with
  | none => exact ⟨trail, fun s suffix => .inr suffix⟩
  | some spaces =>
      have all_spaces : ∀ c ∈ spaces.text ++ trail.text, isSpace c = true := by
        intro c member
        rcases List.mem_append.mp member with before | after
        · exact spaces.spaces c before
        · exact trail.spaces c after
      refine ⟨⟨spaces.text ++ trail.text, all_spaces⟩, fun s suffix => ?_⟩
      rw [List.append_assoc]
      exact List.suffix_cons_iff.mp suffix

/-- The items of a text that starts with a layout are read at least to the end of the layout. -/
theorem readItems_reaches (sound : Sound item) {layout : Layout}
    (reaches : ∀ found ∈ layout.items, Reaches item found) {result : Items}
    (read : readItems item (skipSpaces (layout.text ++ rest)) = .ok result) :
    skipSpaces result.rest <:+ rest := by
  obtain ⟨gap, in_gap⟩ := exists_gap layout.comma layout.trail rest
  rw [skipSpaces_layout, readItems] at read
  split at read
  next values after separated =>
    obtain rfl := Except.ok.inj read
    have after_suffix : after <:+ gap.text ++ rest := by
      rcases in_gap _ (readSeparated_reaches sound reaches separated) with whole | part
      · exact List.tail_eq_of_cons_eq whole ▸ List.suffix_rfl
      · exact (List.suffix_cons _ _).trans part
    rw [skipSpaces_skipSpaces]
    exact skipSpaces_suffix_of_suffix gap after_suffix
  next values after no_comma separated =>
    obtain rfl := Except.ok.inj read
    rcases in_gap _ (readSeparated_reaches sound reaches separated) with rfl | part
    · exact absurd rfl (no_comma _)
    · exact skipSpaces_suffix_of_suffix gap part
  next => cases read

end Reaching

/-! ## Lists -/

/-- What is left of a text that starts with a list is a part of what stands after the list. -/
theorem DerivesList.left_suffix {list rest : Text} {values : List Literal}
    (derived : DerivesList list values) {result : Items}
    (found : readItems (read ((list ++ rest).length + 1)) (skipSpaces (list ++ rest)) = .ok result) :
    skipSpaces result.rest <:+ rest := by
  obtain ⟨layout, rfl, _, items⟩ := derived
  refine readItems_reaches (read_sound _) (fun item member => ?_) found
  have enough : item.text.length < (layout.text ++ rest).length + 1 := by
    have shorter := length_text_le member
    rw [List.length_append]
    omega
  exact ⟨(items item member).reads enough, (items item member).read_leaves enough⟩

end Stencil.Literal

import Stencil.Proofs.Literal.Written

/-!
# Unfinished literals

A text can stop inside a literal: in an exponent before its digits, or in a sequence before its
closing character.  `Unfinished text opens` says that a text is the beginning of a literal and that
`opens` are the literals that are open where it stops, each from its own start on and the innermost
first.  Every such beginning can be completed: an exponent by a digit, and then each open sequence
by its closing character.
-/

namespace Stencil.Literal

/-! ## Brackets -/

/-- The two kinds of sequences. -/
inductive Bracket where
  /-- A list between brackets. -/
  | square
  /-- A sequence between parentheses. -/
  | round
  deriving DecidableEq

namespace Bracket

/-- The character that opens a sequence. -/
def opener : Bracket → Char
  | .square => '['
  | .round => '('

/-- The character that closes a sequence. -/
def closer : Bracket → Char
  | .square => ']'
  | .round => ')'

/-- What is said about the place where the closing character is missing. -/
def complaint : Bracket → Complaint
  | .square => .closingBracket
  | .round => .closingParenthesis

/-- What a closed sequence stands for. -/
def literal (layout : Layout) : Bracket → Literal
  | .square => .list layout.values
  | .round => layout.grouped

theorem derives (bracket : Bracket) (layout : Layout)
    (items : ∀ item ∈ layout.items, Derives item.text item.value) :
    Derives (bracket.opener :: (layout.text ++ [bracket.closer])) (bracket.literal layout) := by
  cases bracket with
  | square => exact .list layout items
  | round => exact .group layout items

end Bracket

/-! ## Beginnings of literals -/

/-- Items with a comma after each. -/
def preceding (items : List Item) : Text := items.flatMap fun item => item.written ++ [',']

theorem preceding_cons (item : Item) (items : List Item) :
    preceding (item :: items) = item.written ++ ',' :: preceding items := by
  simp [preceding]

/-- The part of a sequence before one of its items: spaces, the items before it with a comma after
each, and the spaces that belong to the item. -/
structure Opening where
  lead : Spaces
  items : List Item
  before : Spaces

/-- The part as it is written. -/
def Opening.text (opening : Opening) : Text :=
  opening.lead.text ++ (preceding opening.items ++ opening.before.text)

/-- A text is the beginning of a literal, and the literals that are open at its end are the given
ones, each from its start on, the innermost first. -/
inductive Unfinished : Text → List Text → Prop
  /-- An exponent has no digits yet. -/
  | exponent (sign : Sign) (mantissa : Mantissa) (letter : Char)
      (letter_eq : letter = 'e' ∨ letter = 'E') (power : Sign) :
      Unfinished (sign.text ++ mantissa.text ++ letter :: power.text)
        [sign.text ++ mantissa.text ++ letter :: power.text]
  /-- A sequence has all its items and is not closed. -/
  | unclosed (bracket : Bracket) (layout : Layout)
      (items : ∀ item ∈ layout.items, Derives item.text item.value) :
      Unfinished (bracket.opener :: layout.text) [bracket.opener :: layout.text]
  /-- An item of a sequence is unfinished. -/
  | inside (bracket : Bracket) (opening : Opening)
      (items : ∀ item ∈ opening.items, Derives item.text item.value)
      {text : Text} {opens : List Text} (inner : Unfinished text opens) :
      Unfinished (bracket.opener :: (opening.text ++ text))
        (opens ++ [bracket.opener :: (opening.text ++ text)])

/-- A text is the beginning of a list that stops inside one of its literals, with the literals that
are open at its end. -/
def UnfinishedList (text : Text) (opens : List Text) : Prop :=
  ∃ (opening : Opening) (inner : Text), text = opening.text ++ inner ∧
    (∀ item ∈ opening.items, Derives item.text item.value) ∧ Unfinished inner opens

/-! ## Open literals -/

/-- Each open literal is a proper part of the next one, up to the end of the text. -/
theorem Unfinished.nested {text : Text} {opens : List Text} (unfinished : Unfinished text opens) :
    (∀ start ∈ opens, start ≠ [] ∧ start <:+ text) ∧
      opens.Pairwise fun inner outer => inner <:+ outer ∧ inner.length < outer.length := by
  induction unfinished with
  | exponent sign mantissa letter _ power => simp
  | unclosed bracket layout _ => simp
  | @inside bracket opening _ text opens _ ih =>
      obtain ⟨parts, ordered⟩ := ih
      have longer : text <:+ bracket.opener :: (opening.text ++ text) :=
        (List.suffix_append opening.text text).trans (List.suffix_cons _ _)
      constructor
      · intro start member
        rcases List.mem_append.mp member with within | whole
        · exact ⟨(parts start within).1, (parts start within).2.trans longer⟩
        · obtain rfl := List.mem_singleton.mp whole
          exact ⟨List.cons_ne_nil _ _, List.suffix_rfl⟩
      · refine List.pairwise_append.mpr ⟨ordered, List.pairwise_singleton _ _, ?_⟩
        intro start within whole is_whole
        obtain rfl := List.mem_singleton.mp is_whole
        have shorter := (parts start within).2.length_le
        refine ⟨(parts start within).2.trans longer, ?_⟩
        simp only [List.length_cons, List.length_append]
        omega

/-! ## Completions -/

theorem separated_concat (items : List Item) (last : Item) :
    Layout.separated (items ++ [last]) = preceding items ++ last.written := by
  induction items with
  | nil => simp [Layout.separated, preceding]
  | cons item items ih =>
      obtain ⟨next, rest, split⟩ : ∃ next rest, items ++ [last] = next :: rest :=
        List.exists_cons_of_ne_nil (by simp)
      rw [split] at ih
      rw [List.cons_append, split, preceding_cons, List.append_assoc, List.cons_append, ← ih]
      simp [Layout.separated, List.intercalate_cons_cons]

/-- The sequence that ends with the item that an opening stands before. -/
def Opening.withItem (opening : Opening) (text : Text) (value : Literal) : Layout where
  lead := opening.lead
  items := opening.items ++ [⟨opening.before, text, value, noSpaces⟩]
  comma := none
  trail := noSpaces

theorem Opening.text_withItem (opening : Opening) (text : Text) (value : Literal) :
    (opening.withItem text value).text = opening.text ++ text := by
  simp [withItem, Layout.text, Opening.text, separated_concat, Item.written, Layout.commaText,
    noSpaces]

theorem Opening.derives_withItem {opening : Opening} {text : Text} {value : Literal}
    (items : ∀ item ∈ opening.items, Derives item.text item.value) (derived : Derives text value) :
    ∀ item ∈ (opening.withItem text value).items, Derives item.text item.value := by
  intro item member
  rcases List.mem_append.mp member with earlier | last
  · exact items item earlier
  · obtain rfl := List.mem_singleton.mp last
    exact derived

/-- An unfinished literal can be completed. -/
theorem Unfinished.exists_completion {text : Text} {opens : List Text}
    (unfinished : Unfinished text opens) :
    ∃ completion value, Derives (text ++ completion) value := by
  induction unfinished with
  | exponent sign mantissa letter letter_eq power =>
      have zero : IsDigits ['0'] := List.forall_mem_singleton.mpr rfl
      have derived := Derives.double sign mantissa
        (some ⟨letter, letter_eq, power, ⟨['0'], List.cons_ne_nil _ _, zero⟩⟩) (.inr rfl)
      have shape : sign.text ++ mantissa.text ++ letter :: (power.text ++ ['0']) =
          sign.text ++ mantissa.text ++ letter :: power.text ++ ['0'] := by simp
      exact ⟨['0'], _, shape ▸ derived⟩
  | unclosed bracket layout items => exact ⟨[bracket.closer], _, bracket.derives layout items⟩
  | @inside bracket opening items text _ _ ih =>
      obtain ⟨completion, value, derived⟩ := ih
      have closed := bracket.derives (opening.withItem (text ++ completion) value)
        (Opening.derives_withItem items derived)
      have shape : bracket.opener ::
            ((opening.withItem (text ++ completion) value).text ++ [bracket.closer]) =
          bracket.opener :: (opening.text ++ text) ++ (completion ++ [bracket.closer]) := by
        simp [opening.text_withItem]
      exact ⟨completion ++ [bracket.closer], _, shape ▸ closed⟩

theorem UnfinishedList.exists_completion {text : Text} {opens : List Text}
    (unfinished : UnfinishedList text opens) :
    ∃ completion values, DerivesList (text ++ completion) values := by
  obtain ⟨opening, inner, rfl, items, inner_unfinished⟩ := unfinished
  obtain ⟨completion, value, derived⟩ := inner_unfinished.exists_completion
  refine ⟨completion, _, opening.withItem (inner ++ completion) value, ?_, rfl,
    Opening.derives_withItem items derived⟩
  rw [opening.text_withItem, List.append_assoc]

end Stencil.Literal

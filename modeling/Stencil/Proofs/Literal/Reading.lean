import Stencil.Proofs.Literal.Quoted
import Stencil.Proofs.Literal.Sequence

/-!
# Reading literal lists

A list is read exactly when the grammar derives it, with the values that the grammar gives it.  A
literal is only read from a text of the grammar, whatever the fuel; and a text of the grammar is
read to its end as soon as the fuel exceeds its length, because every sequence is longer than its
items.
-/

namespace Stencil.Literal

/-! ## What a literal is read from -/

/-- A literal is only read from a text of the grammar. -/
theorem read_sound (depth : Nat) : Sound (read depth) := by
  -- The items of a sequence are read with less fuel, and `readEnclosed_sound` holds for any reader
  -- that only reads literals.
  induction depth with
  | zero =>
      intro s value rest found
      simp [read] at found
  | succ depth ih =>
      intro s value rest found
      unfold read at found
      split at found
      next numeral after number =>
        obtain ⟨rfl, rfl⟩ := Reading.found.inj found
        obtain ⟨sign, mantissa, exponent, rfl, rfl⟩ := Numeral.read_sound number
        exact ⟨_, rfl, derives_numeralOf sign mantissa exponent⟩
      next => simp at found
      next =>
        split at found
        next inside =>
          split at found
          next items enclosed =>
            obtain ⟨rfl, rfl⟩ := Reading.found.inj found
            obtain ⟨layout, rfl, items_eq, derived⟩ := readEnclosed_sound ih enclosed
            rw [items_eq]
            exact ⟨_, by simp [itemsOf], Derives.list layout derived⟩
          next => simp at found
        next inside =>
          split at found
          next items enclosed =>
            obtain ⟨rfl, rfl⟩ := Reading.found.inj found
            obtain ⟨layout, rfl, items_eq, derived⟩ := readEnclosed_sound ih enclosed
            rw [items_eq, ofParenthesised_itemsOf]
            exact ⟨_, by simp [itemsOf], Derives.group layout derived⟩
          next => simp at found
        next quote inside _ _ _ =>
          split at found
          next is_quote =>
            split at found
            next content after quoted =>
              obtain ⟨rfl, rfl⟩ := Reading.found.inj found
              obtain ⟨fragments, rfl, rfl⟩ := readQuoted?_sound quoted
              exact ⟨_, by simp, Derives.string quote is_quote fragments⟩
            next => simp at found
          next => simp at found
        next => simp at found

/-! ## What is read from a literal -/

theorem misses_read (depth : Nat) : Misses (read depth) := by
  intro rest delimits
  cases depth with
  | zero => rfl
  | succ depth =>
      cases rest with
      | nil => rfl
      | cons c rest =>
          unfold read
          rcases delimits c rfl with rfl | rfl | rfl <;>
            rw [Numeral.read_eq_miss rest (by decide) (by decide) (by decide)] <;> rfl

theorem isSpace_eq_false_of_isDigit {c : Char} (digit : c.isDigit = true) : isSpace c = false := by
  rw [Bool.eq_false_iff]
  intro space
  rcases isSpace_iff.mp space with rfl | rfl | rfl | rfl <;> simp at digit

theorem number_no_space (sign : Sign) (mantissa : Mantissa) (rest : Text) :
    ∀ c ∈ (sign.text ++ (mantissa.text ++ rest)).head?, isSpace c = false := by
  intro c member
  cases sign with
  | none =>
      rcases mantissa.head_text rest c member with digit | rfl
      · exact isSpace_eq_false_of_isDigit digit
      · rfl
  | plus =>
      obtain rfl : '+' = c := by simpa [Sign.text] using member
      rfl
  | minus =>
      obtain rfl : '-' = c := by simpa [Sign.text] using member
      rfl

/-- No literal starts with a space. -/
theorem Derives.no_space {text : Text} {value : Literal} (derived : Derives text value)
    (rest : Text) : ∀ c ∈ (text ++ rest).head?, isSpace c = false := by
  intro c member
  cases derived with
  | integer sign digits =>
      exact number_no_space sign (.whole digits) rest c (by simpa [Mantissa.text] using member)
  | double sign mantissa exponent =>
      exact number_no_space sign mantissa (Exponent.text exponent ++ rest) c
        (by simpa using member)
  | string quote quote_eq =>
      obtain rfl : quote = c := by simpa using member
      rcases quote_eq with rfl | rfl <;> rfl
  | list =>
      obtain rfl : '[' = c := by simpa using member
      rfl
  | group =>
      obtain rfl : '(' = c := by simpa using member
      rfl

theorem length_text_le_following {item : Item} {items : List Item} (member : item ∈ items) :
    item.text.length ≤ (following items).length := by
  obtain ⟨front, back, rfl⟩ := List.append_of_mem member
  simp only [following, List.flatMap_append, List.flatMap_cons, Item.written, List.length_append,
    List.length_cons]
  omega

/-- A layout is at least as long as each of its items. -/
theorem length_text_le {item : Item} {layout : Layout} (member : item ∈ layout.items) :
    item.text.length ≤ layout.text.length := by
  obtain ⟨lead, items, comma, trail⟩ := layout
  have inside : item.text.length ≤ (Layout.separated items).length := by
    cases items with
    | nil => simp at member
    | cons first items =>
        rw [separated_cons, List.length_append]
        rcases List.mem_cons.mp member with rfl | member
        · simp only [Item.written, List.length_append]
          omega
        · exact Nat.le_add_left_of_le (length_text_le_following member)
  simp only [Layout.text, List.length_append]
  omega

/-- The text is read to its end, wherever no literal goes on, if the fuel exceeds its length. -/
def ReadsBack (text : Text) (value : Literal) : Prop :=
  ∀ depth rest, text.length ≤ depth → Stops rest →
    read (depth + 1) (text ++ rest) = .found value rest

theorem reads_of_readsBack {found : Item} {depth : Nat} (derived : Derives found.text found.value)
    (reads_back : ReadsBack found.text found.value) (enough : found.text.length < depth) :
    Reads (read depth) found := by
  refine ⟨derived.no_space, fun rest stops => ?_⟩
  obtain ⟨depth, rfl⟩ := Nat.exists_eq_add_of_lt enough
  exact reads_back _ rest (by omega) stops

theorem reads_items {layout : Layout} {depth : Nat}
    (derived : ∀ item ∈ layout.items, Derives item.text item.value)
    (reads_back : ∀ item ∈ layout.items, ReadsBack item.text item.value)
    (enough : layout.text.length < depth) :
    ∀ found ∈ layout.items, Reads (read depth) found := by
  intro found member
  have shorter := length_text_le member
  exact reads_of_readsBack (derived found member) (reads_back found member) (by omega)

theorem read_number {s rest : Text} {numeral : Numeral} (depth : Nat)
    (number : Numeral.read s = .found numeral rest) :
    read (depth + 1) s = .found numeral.toLiteral rest := by
  unfold read
  rw [number]

theorem read_string {quote : Char} {s content rest : Text} (depth : Nat)
    (quote_eq : quote = '"' ∨ quote = '\'') (quoted : readQuoted? quote s = some (content, rest)) :
    read (depth + 1) (quote :: s) = .found (.str content) rest := by
  unfold read
  rcases quote_eq with rfl | rfl <;>
    rw [Numeral.read_eq_miss s (by decide) (by decide) (by decide)] <;> simp [quoted]

theorem read_brackets {depth : Nat} {s : Text} {items : Items}
    (enclosed : readEnclosed (read depth) ']' .closingBracket s = .ok items) :
    read (depth + 1) ('[' :: s) = .found (.list items.values) items.rest := by
  unfold read
  rw [Numeral.read_eq_miss s (by decide) (by decide) (by decide)]
  simp [enclosed]

theorem read_parentheses {depth : Nat} {s : Text} {items : Items}
    (enclosed : readEnclosed (read depth) ')' .closingParenthesis s = .ok items) :
    read (depth + 1) ('(' :: s) = .found (ofParenthesised items) items.rest := by
  unfold read
  rw [Numeral.read_eq_miss s (by decide) (by decide) (by decide)]
  simp [enclosed]

/-! Strings and sequences have a closing character, so they are read to it whatever follows. -/

theorem read_string_append (depth : Nat) {quote : Char} (quote_eq : quote = '"' ∨ quote = '\'')
    (fragments : List (Fragment quote)) (rest : Text) :
    read (depth + 1) (quote :: (fragments.flatMap Fragment.text ++ [quote]) ++ rest) =
      .found (.str (fragments.flatMap Fragment.content)) rest := by
  have not_backslash : quote ≠ '\\' := by rcases quote_eq with rfl | rfl <;> decide
  rw [List.cons_append, List.append_assoc]
  exact read_string depth quote_eq (readQuoted?_append not_backslash fragments rest)

theorem read_brackets_append {depth : Nat} (layout : Layout)
    (reads : ∀ found ∈ layout.items, Reads (read depth) found) (rest : Text) :
    read (depth + 1) ('[' :: (layout.text ++ [']']) ++ rest) =
      .found (.list layout.values) rest := by
  rw [List.cons_append, List.append_assoc]
  exact read_brackets
    (readEnclosed_append (misses_read depth) layout reads .closingBracket (.inl rfl) rest)

theorem read_parentheses_append {depth : Nat} (layout : Layout)
    (reads : ∀ found ∈ layout.items, Reads (read depth) found) (rest : Text) :
    read (depth + 1) ('(' :: (layout.text ++ [')']) ++ rest) = .found layout.grouped rest := by
  rw [List.cons_append, List.append_assoc, ← ofParenthesised_itemsOf layout rest]
  exact read_parentheses
    (readEnclosed_append (misses_read depth) layout reads .closingParenthesis (.inr rfl) rest)

/-- A literal of the grammar is read back. -/
theorem Derives.readsBack {text : Text} {value : Literal} (derived : Derives text value) :
    ReadsBack text value := by
  induction derived with
  | integer sign digits =>
      intro depth rest enough stops
      have number := Numeral.read_append sign (.whole digits) none stops
      rw [Exponent.text, List.append_nil] at number
      exact read_number depth number
  | double sign mantissa exponent marked =>
      intro depth rest enough stops
      rw [read_number depth (Numeral.read_append sign mantissa exponent stops),
        toLiteral_numeralOf sign mantissa exponent marked]
  | string quote quote_eq fragments =>
      intro depth rest enough stops
      exact read_string_append depth quote_eq fragments rest
  | list layout derived reads_back =>
      intro depth rest enough stops
      simp only [List.length_cons, List.length_append, List.length_nil] at enough
      exact read_brackets_append layout (reads_items derived reads_back (by omega)) rest
  | group layout derived reads_back =>
      intro depth rest enough stops
      simp only [List.length_cons, List.length_append, List.length_nil] at enough
      exact read_parentheses_append layout (reads_items derived reads_back (by omega)) rest

theorem reads_layout {layout : Layout} {depth : Nat}
    (items : ∀ item ∈ layout.items, Derives item.text item.value)
    (enough : layout.text.length < depth) : ∀ found ∈ layout.items, Reads (read depth) found :=
  reads_items items (fun item member => (items item member).readsBack) enough

theorem Derives.reads {found : Item} {depth : Nat} (derived : Derives found.text found.value)
    (enough : found.text.length < depth) : Reads (read depth) found :=
  reads_of_readsBack derived derived.readsBack enough

/-! ## Lists -/

theorem readList_sound {input : Text} {values : List Literal} (read : readList input = .ok values) :
    DerivesList input values := by
  obtain ⟨lead, input_eq⟩ := exists_spaces input
  unfold readList at read
  split at read
  next => simp at read
  next items found =>
    obtain ⟨inside, comma, inside_eq, items_eq, derived⟩ := readItems_sound (read_sound _) found
    obtain ⟨trail, rest_eq⟩ := exists_spaces items.rest
    split at read
    next ended =>
      obtain rfl := Except.ok.inj read
      rw [ended, List.append_nil] at rest_eq
      refine ⟨⟨lead, inside, comma, trail⟩, ?_, ?_, derived⟩
      · rw [input_eq, inside_eq, rest_eq]
        simp only [Layout.text, List.append_assoc]
      · rw [items_eq]
        rfl
    next => simp at read

theorem DerivesList.readList_eq {input : Text} {values : List Literal}
    (derived : DerivesList input values) : readList input = .ok values := by
  obtain ⟨layout, rfl, rfl, items⟩ := derived
  have reads := reads_layout items (Nat.lt_succ_self _)
  have ended : Closes [] := by simp [Closes]
  have read := readItems_append (misses_read _) layout.items reads layout.comma layout.trail ended
  have place := skipSpaces_layout layout []
  rw [List.append_nil] at place
  rw [readList, place, read]
  rfl

/-- A text is read as a list exactly when the grammar derives it as the list with these values. -/
theorem readList_eq_ok_iff (input : Text) (values : List Literal) :
    readList input = .ok values ↔ DerivesList input values :=
  ⟨readList_sound, DerivesList.readList_eq⟩

/-- Parentheses around one item are a tuple only with a comma. -/
example : readList "(2), ('a', ), ()".toList = .ok [.int 2, .tuple [.str ['a']], .tuple []] := by
  rfl

end Stencil.Literal

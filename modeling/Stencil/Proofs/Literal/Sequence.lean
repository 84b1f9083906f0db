import Stencil.Proofs.Literal.Numeral

/-!
# Reading sequences

The items of a sequence are read by a reader of single items, and everything here is about any such
reader.  If the reader only reads literals, a sequence is only read from a layout; and if the reader
reads every item of a layout and nothing else, the sequence is read from the layout to its end.
-/

namespace Stencil.Literal

/-! ## Spaces -/

theorem exists_spaces (s : Text) : ∃ spaces : Spaces, s = spaces.text ++ skipSpaces s :=
  ⟨⟨s.takeWhile isSpace, fun _ member => List.mem_takeWhile_imp member⟩,
    List.takeWhile_append_dropWhile.symm⟩

theorem skipSpaces_append (spaces : Spaces) (rest : Text) :
    skipSpaces (spaces.text ++ rest) = skipSpaces rest :=
  List.dropWhile_append_of_pos spaces.spaces

theorem skipSpaces_of_head {s : Text} (no_space : ∀ c ∈ s.head?, isSpace c = false) :
    skipSpaces s = s := by
  cases s with
  | nil => rfl
  | cons c rest => simp [skipSpaces, no_space c rfl]

theorem skipSpaces_skipSpaces (s : Text) : skipSpaces (skipSpaces s) = skipSpaces s := by
  refine skipSpaces_of_head fun c member => ?_
  have head := List.head?_dropWhile_not isSpace s
  rw [skipSpaces, Option.mem_def] at member
  rwa [member] at head

theorem stops_append (spaces : Spaces) {rest : Text} (stops : Stops rest) :
    Stops (spaces.text ++ rest) := by
  obtain ⟨text, all_spaces⟩ := spaces
  cases text with
  | nil => exact stops
  | cons c tail =>
      intro d member
      obtain rfl : c = d := by simpa using member
      exact .inl (all_spaces c (by simp))

/-- The text is empty or starts with a comma or a closing character. -/
def Delimits (rest : Text) : Prop := ∀ c ∈ rest.head?, c = ',' ∨ c = ']' ∨ c = ')'

theorem Delimits.stops {rest : Text} (delimits : Delimits rest) : Stops rest :=
  fun c member => .inr (delimits c member)

theorem Delimits.skipSpaces_eq {rest : Text} (delimits : Delimits rest) :
    skipSpaces rest = rest := by
  refine skipSpaces_of_head fun c member => ?_
  rcases delimits c member with rfl | rfl | rfl <;> decide

/-! ## Items and commas -/

/-- Items that follow an item, each after a comma. -/
def following (items : List Item) : Text := items.flatMap fun item => ',' :: item.written

theorem separated_cons (item : Item) (items : List Item) :
    Layout.separated (item :: items) = item.written ++ following items := by
  induction items generalizing item with
  | nil => simp [Layout.separated, following]
  | cons next items ih =>
      have inner : List.intercalate [','] ((next :: items).map Item.written) =
          next.written ++ following items := ih next
      simp only [Layout.separated, List.map_cons, List.intercalate_cons_cons] at inner ⊢
      rw [inner]
      simp [following]

theorem length_le_following (items : List Item) : items.length ≤ (following items).length := by
  induction items with
  | nil => simp
  | cons item items ih =>
      simp only [following, List.flatMap_cons, List.length_append, List.length_cons] at ih ⊢
      omega

/-- What is read for the given items, the comma after them, and the text that is left. -/
def itemsOf (items : List Item) (comma : Option Spaces) (rest : Text) : Items :=
  ⟨items.map Item.value, comma.isSome || decide (1 < items.length), rest⟩

theorem ofParenthesised_itemsOf (layout : Layout) (rest : Text) :
    ofParenthesised (itemsOf layout.items layout.comma rest) = layout.grouped := by
  obtain ⟨lead, items, comma, trail⟩ := layout
  rcases items with _ | ⟨item, _ | ⟨next, items⟩⟩ <;> cases comma <;>
    simp [ofParenthesised, itemsOf, Layout.grouped, Layout.values]

/-! ## What a sequence is read from -/

section Soundness

variable {item : Text → Reading Literal} {s rest : Text}

/-- The reader only reads literals. -/
def Sound (item : Text → Reading Literal) : Prop :=
  ∀ s value rest, item s = .found value rest → ∃ text, s = text ++ rest ∧ Derives text value

theorem readSpaced_sound (sound : Sound item) {value : Literal}
    (read : readSpaced item s = .found value rest) :
    ∃ found : Item, s = found.written ++ rest ∧ value = found.value ∧
      Derives found.text found.value := by
  obtain ⟨before, s_eq⟩ := exists_spaces s
  unfold readSpaced at read
  split at read
  next value' after found =>
    obtain ⟨rfl, rfl⟩ := Reading.found.inj read
    obtain ⟨text, text_eq, derived⟩ := sound _ _ _ found
    obtain ⟨spaces, after_eq⟩ := exists_spaces after
    refine ⟨⟨before, text, value', spaces⟩, ?_, rfl, derived⟩
    rw [Item.written, List.append_assoc, List.append_assoc, ← after_eq, ← text_eq, ← s_eq]
  next => simp at read
  next => simp at read

theorem readMore_sound (sound : Sound item) {fuel : Nat} {values : List Literal}
    (read : readMore item fuel s = .ok (values, rest)) :
    ∃ items : List Item, s = following items ++ rest ∧ values = items.map Item.value ∧
      ∀ item ∈ items, Derives item.text item.value := by
  fun_induction readMore item fuel s generalizing values with
  | case1 fuel s value after found values' rest' more ih =>
      obtain ⟨rfl, rfl⟩ := Prod.mk.inj (Except.ok.inj read)
      obtain ⟨first, rfl, rfl, first_derived⟩ := readSpaced_sound sound found
      obtain ⟨items, rfl, rfl, derived⟩ := ih more
      exact ⟨first :: items, by simp [following], rfl, by simpa using ⟨first_derived, derived⟩⟩
  | case2 => simp at read
  | case3 =>
      obtain ⟨rfl, rfl⟩ := Prod.mk.inj (Except.ok.inj read)
      exact ⟨[], rfl, rfl, by simp⟩
  | case4 => simp at read
  | case5 =>
      obtain ⟨rfl, rfl⟩ := Prod.mk.inj (Except.ok.inj read)
      exact ⟨[], rfl, rfl, by simp⟩

theorem readSeparated_sound (sound : Sound item) {values : List Literal}
    (read : readSeparated item s = .ok (values, rest)) :
    ∃ items : List Item, s = Layout.separated items ++ rest ∧ values = items.map Item.value ∧
      ∀ item ∈ items, Derives item.text item.value := by
  unfold readSeparated at read
  split at read
  next value after found =>
    split at read
    next values' rest' more =>
      obtain ⟨rfl, rfl⟩ := Prod.mk.inj (Except.ok.inj read)
      obtain ⟨first, rfl, rfl, first_derived⟩ := readSpaced_sound sound found
      obtain ⟨items, rfl, rfl, derived⟩ := readMore_sound sound more
      exact ⟨first :: items, by simp [separated_cons], rfl, by simpa using ⟨first_derived, derived⟩⟩
    next => simp at read
  next =>
    obtain ⟨rfl, rfl⟩ := Prod.mk.inj (Except.ok.inj read)
    exact ⟨[], rfl, rfl, by simp⟩
  next => simp at read

theorem readItems_sound (sound : Sound item) {result : Items}
    (read : readItems item s = .ok result) :
    ∃ items comma, s = Layout.separated items ++ Layout.commaText comma ++ result.rest ∧
      result = itemsOf items comma result.rest ∧
      ∀ item ∈ items, Derives item.text item.value := by
  unfold readItems at read
  split at read
  next values after separated =>
    obtain rfl := Except.ok.inj read
    obtain ⟨items, rfl, rfl, derived⟩ := readSeparated_sound sound separated
    obtain ⟨spaces, after_eq⟩ := exists_spaces after
    refine ⟨items, some spaces, ?_, rfl, derived⟩
    rw [Layout.commaText, List.append_assoc, List.cons_append, ← after_eq]
  next values after _ separated =>
    obtain rfl := Except.ok.inj read
    obtain ⟨items, rfl, rfl, derived⟩ := readSeparated_sound sound separated
    exact ⟨items, none, by simp [Layout.commaText], by simp [itemsOf], derived⟩
  next => simp at read

/-- The inside of a sequence is only read from a layout before the closing character. -/
theorem readEnclosed_sound (sound : Sound item) {closer : Char} {closing : Complaint}
    {result : Items} (read : readEnclosed item closer closing s = .ok result) :
    ∃ layout : Layout, s = layout.text ++ closer :: result.rest ∧
      result = itemsOf layout.items layout.comma result.rest ∧
      ∀ item ∈ layout.items, Derives item.text item.value := by
  obtain ⟨lead, s_eq⟩ := exists_spaces s
  unfold readEnclosed at read
  split at read
  next => simp at read
  next inner found =>
    obtain ⟨items, comma, inner_eq, result_eq, derived⟩ := readItems_sound sound found
    obtain ⟨trail, rest_eq⟩ := exists_spaces inner.rest
    dsimp only at read
    split at read
    next c after place =>
      split at read
      next closes =>
        subst closes
        obtain rfl := Except.ok.inj read
        refine ⟨⟨lead, items, comma, trail⟩, ?_, ?_, derived⟩
        · rw [s_eq, inner_eq, rest_eq, place]
          simp only [Layout.text, List.append_assoc]
        · rw [result_eq]
          rfl
      next => simp at read
    next => simp at read

end Soundness

/-! ## What is read from a layout -/

section Completeness

variable {item : Text → Reading Literal} {rest : Text}

/-- The reader reads the given item, wherever no literal goes on. -/
structure Reads (item : Text → Reading Literal) (found : Item) : Prop where
  /-- The item does not start with a space. -/
  no_space : ∀ rest, ∀ c ∈ (found.text ++ rest).head?, isSpace c = false
  /-- The item is read to its end. -/
  read : ∀ rest, Stops rest → item (found.text ++ rest) = .found found.value rest

/-- The reader finds nothing before a comma, a closing character or the end. -/
def Misses (item : Text → Reading Literal) : Prop := ∀ rest, Delimits rest → item rest = .miss

theorem readSpaced_append {found : Item} (reads : Reads item found) (stops : Stops rest) :
    readSpaced item (found.written ++ rest) = .found found.value (skipSpaces rest) := by
  have place : skipSpaces (found.written ++ rest) = found.text ++ (found.after.text ++ rest) := by
    rw [Item.written, List.append_assoc, List.append_assoc, skipSpaces_append,
      skipSpaces_of_head (reads.no_space _)]
  rw [readSpaced, place, reads.read _ (stops_append found.after stops)]
  dsimp only
  rw [skipSpaces_append]

theorem readSpaced_skipSpaces (s : Text) : readSpaced item (skipSpaces s) = readSpaced item s := by
  rw [readSpaced, skipSpaces_skipSpaces, ← readSpaced]

theorem readSpaced_eq_miss (misses : Misses item) {s : Text} (delimits : Delimits (skipSpaces s)) :
    readSpaced item s = .miss := by
  rw [readSpaced, misses _ delimits]

/-- The items of a sequence end at the text: no item stands there or after a comma there. -/
structure EndsItems (item : Text → Reading Literal) (rest : Text) : Prop where
  /-- No literal goes on with the text. -/
  stops : Stops rest
  /-- There is no item. -/
  no_item : readSpaced item rest = .miss
  /-- There is no item after a comma. -/
  no_more : ∀ after, skipSpaces rest = ',' :: after → readSpaced item after = .miss

theorem stops_following (items : List Item) (stops : Stops rest) :
    Stops (following items ++ rest) := by
  cases items with
  | nil => exact stops
  | cons item items => exact Delimits.stops (by simp [Delimits, following])

theorem skipSpaces_following_cons (first : Item) (items : List Item) (rest : Text) :
    skipSpaces (following (first :: items) ++ rest) =
      ',' :: (first.written ++ (following items ++ rest)) := by
  rw [Delimits.skipSpaces_eq (by simp [Delimits, following])]
  simp [following]

theorem readMore_append (items : List Item) (reads : ∀ found ∈ items, Reads item found)
    (ends : EndsItems item rest) {fuel : Nat} (enough : items.length ≤ fuel) :
    readMore item fuel (skipSpaces (following items ++ rest)) =
      .ok (items.map Item.value, skipSpaces rest) := by
  -- Each item uses one unit of fuel.  Without fuel a comma is left unread, and so it is with fuel
  -- when no item follows it, so the last step is the same for every fuel.
  induction items generalizing fuel with
  | nil =>
      rw [following, List.flatMap_nil, List.nil_append]
      unfold readMore
      split
      next after comma => rw [ends.no_more after comma, comma, List.map_nil]
      next => rfl
  | cons first items ih =>
      obtain ⟨first_reads, items_read⟩ := List.forall_mem_cons.mp reads
      cases fuel with
      | zero => simp at enough
      | succ fuel =>
          have remaining := ih items_read (Nat.le_of_succ_le_succ enough)
          have found := readSpaced_append first_reads (stops_following items ends.stops)
          rw [skipSpaces_following_cons, readMore, found]
          dsimp only
          rw [remaining]
          rfl

theorem readSeparated_append (items : List Item) (reads : ∀ found ∈ items, Reads item found)
    (ends : EndsItems item rest) :
    readSeparated item (skipSpaces (Layout.separated items ++ rest)) =
      .ok (items.map Item.value, skipSpaces rest) := by
  rw [readSeparated, readSpaced_skipSpaces]
  cases items with
  | nil =>
      rw [Layout.separated, List.map_nil, List.intercalate_nil, List.nil_append, ends.no_item]
      rfl
  | cons first items =>
      obtain ⟨first_reads, items_read⟩ := List.forall_mem_cons.mp reads
      have found := readSpaced_append first_reads (stops_following items ends.stops)
      have enough : items.length ≤ (skipSpaces (following items ++ rest)).length := by
        cases items with
        | nil => exact Nat.zero_le _
        | cons next items =>
            have counted := length_le_following items
            simp only [skipSpaces_following_cons, List.length_cons, List.length_append]
            omega
      rw [separated_cons, List.append_assoc, found]
      dsimp only
      rw [readMore_append items items_read ends enough]
      rfl

/-- The text is empty or starts with a closing character. -/
def Closes (rest : Text) : Prop := ∀ c ∈ rest.head?, c = ']' ∨ c = ')'

theorem Closes.delimits {rest : Text} (closes : Closes rest) : Delimits rest :=
  fun c member => .inr (closes c member)

theorem skipSpaces_commaText_none (trail : Spaces) (closes : Closes rest) :
    skipSpaces (Layout.commaText none ++ (trail.text ++ rest)) = rest := by
  rw [Layout.commaText, List.nil_append, skipSpaces_append, closes.delimits.skipSpaces_eq]

theorem skipSpaces_commaText_some (spaces trail : Spaces) (rest : Text) :
    skipSpaces (Layout.commaText (some spaces) ++ (trail.text ++ rest)) =
      ',' :: (spaces.text ++ (trail.text ++ rest)) :=
  Delimits.skipSpaces_eq (by simp [Delimits, Layout.commaText])

theorem endsItems (misses : Misses item) (comma : Option Spaces) (trail : Spaces)
    (closes : Closes rest) :
    EndsItems item (Layout.commaText comma ++ (trail.text ++ rest)) := by
  cases comma with
  | none =>
      have place := skipSpaces_commaText_none trail closes
      refine ⟨stops_append trail closes.delimits.stops, ?_, fun after comma => ?_⟩
      · exact readSpaced_eq_miss misses (by rw [place]; exact closes.delimits)
      · rw [place] at comma
        rcases closes ',' (by rw [comma]; rfl) with impossible | impossible <;> cases impossible
  | some spaces =>
      have place := skipSpaces_commaText_some spaces trail rest
      refine ⟨Delimits.stops (by simp [Delimits, Layout.commaText]), ?_, fun after comma => ?_⟩
      · exact readSpaced_eq_miss misses (by rw [place]; simp [Delimits])
      · rw [place] at comma
        obtain rfl := (List.cons.inj comma).2
        refine readSpaced_eq_miss misses ?_
        rw [skipSpaces_append, skipSpaces_append, closes.delimits.skipSpaces_eq]
        exact closes.delimits

theorem skipSpaces_layout (layout : Layout) (rest : Text) :
    skipSpaces (layout.text ++ rest) = skipSpaces (Layout.separated layout.items ++
      (Layout.commaText layout.comma ++ (layout.trail.text ++ rest))) := by
  rw [Layout.text, List.append_assoc, List.append_assoc, List.append_assoc, skipSpaces_append]

theorem readItems_append (misses : Misses item) (items : List Item)
    (reads : ∀ found ∈ items, Reads item found) (comma : Option Spaces) (trail : Spaces)
    (closes : Closes rest) :
    readItems item (skipSpaces (Layout.separated items ++
      (Layout.commaText comma ++ (trail.text ++ rest)))) = .ok (itemsOf items comma rest) := by
  rw [readItems, readSeparated_append items reads (endsItems misses comma trail closes)]
  cases comma with
  | none =>
      rw [skipSpaces_commaText_none trail closes]
      split
      next found =>
        obtain ⟨-, rfl⟩ := Prod.mk.inj (Except.ok.inj found)
        rcases closes ',' rfl with impossible | impossible <;> cases impossible
      next found =>
        obtain ⟨rfl, rfl⟩ := Prod.mk.inj (Except.ok.inj found)
        simp [itemsOf]
      next found => cases found
  | some spaces =>
      rw [skipSpaces_commaText_some]
      show Except.ok (Items.mk _ true (skipSpaces _)) = _
      rw [skipSpaces_append, skipSpaces_append, closes.delimits.skipSpaces_eq]
      rfl

/-- The inside of a sequence is read from a layout up to the closing character. -/
theorem readEnclosed_append (misses : Misses item) (layout : Layout)
    (reads : ∀ found ∈ layout.items, Reads item found) {closer : Char} (closing : Complaint)
    (closes : closer = ']' ∨ closer = ')') (rest : Text) :
    readEnclosed item closer closing (layout.text ++ closer :: rest) =
      .ok (itemsOf layout.items layout.comma rest) := by
  have closed : Closes (closer :: rest) := by simpa [Closes] using closes
  have read := readItems_append misses layout.items reads layout.comma layout.trail closed
  rw [readEnclosed, skipSpaces_layout, read]
  dsimp only
  rw [itemsOf, closed.delimits.skipSpaces_eq]
  dsimp only
  rw [if_pos rfl]
  rfl

end Completeness

end Stencil.Literal

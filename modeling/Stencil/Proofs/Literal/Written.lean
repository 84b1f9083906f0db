import Stencil.Proofs.Literal.Reading

/-!
# Reading what was written

A written literal is a text of the grammar, so a list of written literals is read back as the list
itself.  This holds of every string and every nesting; only two kinds of leaves matter: a wide
integer has to be one that a numeral denotes, and a double has to be one that its own text denotes.
What a list is read as has no other wide integers.
-/

namespace Stencil.Literal

/-- The digits of a wide integer: the canonical decimal of an integer that does not fit into 64
bits. -/
def IsWide (digits : Text) : Prop :=
  ∃ n : Int, (n < Int64.minValue.toInt ∨ Int64.maxValue.toInt < n) ∧ digits = Decimal.ofInt n

/-- The text of a double is a numeral with nothing after it, and the numeral denotes the double. -/
def IsReadBack (x : Double) : Prop :=
  ∃ numeral, Numeral.read x.toText = .found numeral [] ∧ numeral.toLiteral = .double x

/-- The wide integers and the doubles inside a literal satisfy two conditions, at any depth. -/
inductive Leaves (wide : Text → Prop) (double : Double → Prop) : Literal → Prop
  | int (value : Int64) : Leaves wide double (.int value)
  | wide (digits : Text) (holds : wide digits) : Leaves wide double (.wide digits)
  | double (value : Double) (holds : double value) : Leaves wide double (.double value)
  | str (content : Text) : Leaves wide double (.str content)
  | tuple (items : List Literal) (all : ∀ item ∈ items, Leaves wide double item) :
      Leaves wide double (.tuple items)
  | list (items : List Literal) (all : ∀ item ∈ items, Leaves wide double item) :
      Leaves wide double (.list items)

theorem Leaves.merge {wide : Text → Prop} {double : Double → Prop} {value : Literal}
    (wides : Leaves wide (fun _ => True) value) (doubles : Leaves (fun _ => True) double value) :
    Leaves wide double value := by
  induction wides with
  | int value => exact .int value
  | wide digits holds => exact .wide digits holds
  | double value _ =>
      cases doubles with
      | double _ holds => exact .double value holds
  | str content => exact .str content
  | tuple items _ ih =>
      cases doubles with
      | tuple _ all => exact .tuple items fun item member => ih item member (all item member)
  | list items _ ih =>
      cases doubles with
      | list _ all => exact .list items fun item member => ih item member (all item member)

/-! ## Numbers -/

theorem isDigits_ofNat (n : Nat) : IsDigits (Decimal.ofNat n) :=
  fun _ member => Nat.isDigit_of_mem_toDigits (by decide) (by decide) member

/-- The canonical decimal of an integer is a text of the grammar for that integer. -/
theorem derives_ofInt (n : Int) : Derives (Decimal.ofInt n) (.ofInt n) := by
  cases n with
  | ofNat n =>
      have derived := Derives.integer .none ⟨Decimal.ofNat n, Nat.toDigits_ne_nil, isDigits_ofNat n⟩
      have value : Sign.none.apply (Decimal.toNat (Decimal.ofNat n)) = n := by
        rw [Decimal.toNat_ofNat]
        rfl
      rwa [value] at derived
  | negSucc n =>
      have derived := Derives.integer .minus
        ⟨Decimal.ofNat (n + 1), Nat.toDigits_ne_nil, isDigits_ofNat (n + 1)⟩
      have value : Sign.minus.apply (Decimal.toNat (Decimal.ofNat (n + 1))) = Int.negSucc n := by
        rw [Decimal.toNat_ofNat]
        rfl
      rwa [value] at derived

theorem ofInt_toInt (value : Int64) : ofInt value.toInt = .int value := by
  rw [ofInt, if_pos ⟨Int64.minValue_le_toInt value, Int64.toInt_le value⟩, Int64.ofInt_toInt]

theorem ofInt_of_isWide {n : Int} (wide : n < Int64.minValue.toInt ∨ Int64.maxValue.toInt < n) :
    ofInt n = .wide (Decimal.ofInt n) := by
  rw [ofInt, if_neg (by omega)]

/-- A number is an integer of 64 bits, a wide integer or a double, and the wide ones are wide. -/
theorem leaves_ofInt (n : Int) : Leaves IsWide (fun _ => True) (ofInt n) := by
  rw [ofInt]
  split
  next => exact .int _
  next unfit => exact .wide _ ⟨n, by omega, rfl⟩

theorem derives_double {x : Double} (back : IsReadBack x) : Derives x.toText (.double x) := by
  obtain ⟨numeral, found, value⟩ := back
  obtain ⟨sign, mantissa, exponent, text_eq, rfl⟩ := Numeral.read_sound found
  rw [List.append_nil] at text_eq
  rw [text_eq, ← value]
  exact derives_numeralOf sign mantissa exponent

/-! ## Strings -/

theorem writtenChar_fragment (c : Char) :
    ∃ fragment : Fragment '\'', fragment.text = writtenChar c ∧ fragment.content = [c] := by
  unfold writtenChar
  by_cases special : c = '\\' ∨ c = '\''
  · rw [if_pos special]
    have known : (c, c) ∈ escapes := by rcases special with rfl | rfl <;> decide
    exact ⟨.escape c c known, rfl, rfl⟩
  · rw [if_neg special]
    obtain ⟨not_backslash, not_quote⟩ := not_or.mp special
    exact ⟨.char c not_quote not_backslash, rfl, rfl⟩

theorem written_fragments (content : Text) :
    ∃ fragments : List (Fragment '\''),
      fragments.flatMap Fragment.text = content.flatMap writtenChar ∧
      fragments.flatMap Fragment.content = content := by
  induction content with
  | nil => exact ⟨[], rfl, rfl⟩
  | cons c rest ih =>
      obtain ⟨fragment, text_eq, content_eq⟩ := writtenChar_fragment c
      obtain ⟨fragments, texts_eq, contents_eq⟩ := ih
      exact ⟨fragment :: fragments, by simp [text_eq, texts_eq], by simp [content_eq, contents_eq]⟩

theorem derives_str (content : Text) : Derives (written (.str content)) (.str content) := by
  obtain ⟨fragments, text_eq, content_eq⟩ := written_fragments content
  have derived := Derives.string '\'' (.inr rfl) fragments
  rwa [text_eq, content_eq] at derived

/-! ## Sequences -/

/-- No spaces. -/
def noSpaces : Spaces := ⟨[], by simp⟩

/-- One space. -/
def oneSpace : Spaces := ⟨[' '], List.forall_mem_singleton.mpr rfl⟩

/-- The literal after the given spaces. -/
def writtenItem (before : Spaces) (value : Literal) : Item :=
  ⟨before, value.written, value, noSpaces⟩

/-- Written literals with one space after each comma. -/
def writtenItems : List Literal → List Item
  | [] => []
  | first :: rest => writtenItem noSpaces first :: rest.map (writtenItem oneSpace)

/-- The inside of a written sequence. -/
def writtenLayout (values : List Literal) (comma : Option Spaces) : Layout :=
  ⟨noSpaces, writtenItems values, comma, noSpaces⟩

theorem values_writtenLayout (values : List Literal) (comma : Option Spaces) :
    (writtenLayout values comma).values = values := by
  cases values with
  | nil => rfl
  | cons first rest =>
      simp [Layout.values, writtenLayout, writtenItems, writtenItem, Function.comp_def]

theorem writtenAll_cons (first : Literal) (rest : List Literal) :
    writtenAll (first :: rest) =
      first.written ++ rest.flatMap fun value => [',', ' '] ++ value.written := by
  induction rest generalizing first with
  | nil => simp [writtenAll]
  | cons next rest ih => simp [writtenAll, ih]

theorem writtenAll_eq_intercalate (values : List Literal) :
    writtenAll values = List.intercalate [',', ' '] (values.map written) := by
  induction values with
  | nil => rfl
  | cons first rest ih =>
      cases rest with
      | nil => simp [writtenAll]
      | cons next rest => simp [writtenAll, ih, List.intercalate_cons_cons]

theorem separated_writtenItems (values : List Literal) :
    Layout.separated (writtenItems values) = writtenAll values := by
  cases values with
  | nil => rfl
  | cons first rest =>
      rw [writtenItems, separated_cons, writtenAll_cons]
      simp [following, List.flatMap_map, writtenItem, Item.written, noSpaces, oneSpace]

theorem text_writtenLayout (values : List Literal) (comma : Option Spaces) :
    (writtenLayout values comma).text = writtenAll values ++ Layout.commaText comma := by
  simp [Layout.text, writtenLayout, separated_writtenItems, noSpaces]

theorem derives_writtenLayout {values : List Literal}
    (derived : ∀ value ∈ values, Derives value.written value) (comma : Option Spaces) :
    ∀ item ∈ (writtenLayout values comma).items, Derives item.text item.value := by
  cases values with
  | nil => simp [writtenLayout, writtenItems]
  | cons first rest => simpa [writtenLayout, writtenItems, writtenItem] using derived

/-- A written tuple is a group: one item has a comma after it, and no or several items have none. -/
theorem derives_tuple {items : List Literal}
    (derived : ∀ item ∈ items, Derives item.written item) :
    Derives (written (.tuple items)) (.tuple items) := by
  rcases items with _ | ⟨first, _ | ⟨next, rest⟩⟩
  · exact Derives.group (writtenLayout [] none) (derives_writtenLayout derived none)
  · have group := Derives.group (writtenLayout [first] (some noSpaces))
      (derives_writtenLayout derived (some noSpaces))
    have grouped : (writtenLayout [first] (some noSpaces)).grouped = .tuple [first] := rfl
    rw [text_writtenLayout, grouped] at group
    simpa [writtenAll, written, Layout.commaText, noSpaces] using group
  · have group := Derives.group (writtenLayout (first :: next :: rest) none)
      (derives_writtenLayout derived none)
    have grouped : (writtenLayout (first :: next :: rest) none).grouped =
        .tuple (first :: next :: rest) :=
      congrArg Literal.tuple (values_writtenLayout (first :: next :: rest) none)
    rwa [text_writtenLayout, grouped, Layout.commaText, List.append_nil] at group

theorem derives_list {items : List Literal}
    (derived : ∀ item ∈ items, Derives item.written item) :
    Derives (written (.list items)) (.list items) := by
  have list := Derives.list (writtenLayout items none) (derives_writtenLayout derived none)
  rwa [text_writtenLayout, values_writtenLayout, Layout.commaText, List.append_nil] at list

/-- A written literal is a text of the grammar for that literal. -/
theorem derives_written {value : Literal} (leaves : Leaves IsWide IsReadBack value) :
    Derives value.written value := by
  induction leaves with
  | int value =>
      have derived := derives_ofInt value.toInt
      rwa [ofInt_toInt] at derived
  | wide digits holds =>
      obtain ⟨n, wide, rfl⟩ := holds
      have derived := derives_ofInt n
      rwa [ofInt_of_isWide wide] at derived
  | double x holds => exact derives_double holds
  | str content => exact derives_str content
  | tuple items _ ih => exact derives_tuple ih
  | list items _ ih => exact derives_list ih

/-! ## What is read -/

theorem Derives.leaves {text : Text} {value : Literal} (derived : Derives text value) :
    Leaves IsWide (fun _ => True) value := by
  induction derived with
  | integer sign digits => exact leaves_ofInt _
  | double sign mantissa exponent _ => exact .double _ trivial
  | string quote _ fragments => exact .str _
  | list layout _ ih => exact .list _ (by simpa [Layout.values] using ih)
  | group layout _ ih =>
      unfold Layout.grouped
      split
      next item items_eq _ => exact ih item (by simp [items_eq])
      next => exact .tuple _ (by simpa [Layout.values] using ih)

theorem leaves_of_readList {input : Text} {values : List Literal}
    (read : readList input = .ok values) :
    ∀ value ∈ values, Leaves IsWide (fun _ => True) value := by
  obtain ⟨layout, _, rfl, derived⟩ := readList_sound read
  intro value member
  obtain ⟨item, item_mem, rfl⟩ := List.mem_map.mp member
  exact (derived item item_mem).leaves

theorem readList_writtenAll {values : List Literal}
    (leaves : ∀ value ∈ values, Leaves IsWide IsReadBack value) :
    readList (writtenAll values) = .ok values := by
  have derived := derives_writtenLayout (fun value member => derives_written (leaves value member))
    none
  refine DerivesList.readList_eq ⟨writtenLayout values none, ?_, values_writtenLayout _ _, derived⟩
  rw [text_writtenLayout, Layout.commaText, List.append_nil]

/-- What is no finite number is written as a name, and no numeral starts with a letter. -/
theorem not_isReadBack_of_not_finite {x : Double}
    (not_finite : ∀ negative mantissa exponent, x.view ≠ .finite negative mantissa exponent) :
    ¬IsReadBack x := by
  rintro ⟨numeral, found, _⟩
  have text_eq : x.toText = ['N', 'a', 'N'] ∨ x.toText = ['i', 'n', 'f'] ∨
      x.toText = ['-', 'i', 'n', 'f'] := by
    unfold Double.toText
    cases view : x.view with
    | nan => simp
    | infinite negative => cases negative <;> simp [Double.signed]
    | finite negative mantissa exponent => exact absurd view (not_finite _ _ _)
  rcases text_eq with text_eq | text_eq | text_eq <;> rw [text_eq] at found <;> cases found

/-- Literals that are written one after the other, with a comma and a space between them, are read
back, if their wide integers and doubles are such as numerals denote.  What a list is read as has
only such wide integers, so it is read back from its written form whenever its doubles are, which
excludes those that are no finite number. -/
theorem readList_written :
    (∀ values : List Literal, (∀ value ∈ values, Leaves IsWide IsReadBack value) →
      readList (List.intercalate [',', ' '] (values.map written)) = .ok values) ∧
    (∀ (input : Text) (values : List Literal), readList input = .ok values →
      (∀ value ∈ values, Leaves IsWide (fun _ => True) value) ∧
      ((∀ value ∈ values, Leaves (fun _ => True) IsReadBack value) →
        readList (List.intercalate [',', ' '] (values.map written)) = .ok values)) ∧
    ∀ x : Double, (∀ negative mantissa exponent, x.view ≠ .finite negative mantissa exponent) →
      ¬IsReadBack x := by
  refine ⟨fun values leaves => ?_, fun input values read => ?_,
    fun x => not_isReadBack_of_not_finite⟩
  · rw [← writtenAll_eq_intercalate]
    exact readList_writtenAll leaves
  · have wides := leaves_of_readList read
    refine ⟨wides, fun doubles => ?_⟩
    rw [← writtenAll_eq_intercalate]
    exact readList_writtenAll fun value member => (wides value member).merge (doubles value member)

/-- Quotes, backslashes, delimiters and line feeds in strings, a tuple of one item, a wide integer
and a double are all read back, and so is a list that was spelled in another way. -/
theorem readList_written_nested :
    readList "('it\\'s, \\\\',), [-7, 99999999999999999999, 2.5], '\n\"]'".toList =
      .ok [.tuple [.str "it's, \\".toList],
        .list [.int (-7), .wide "99999999999999999999".toList, .double ⟨0x4004000000000000⟩],
        .str "\n\"]".toList] ∧
    readList "+07,\t(\"a\"), -00099999999999999999999 ,".toList =
      .ok [.int 7, .str ['a'], .wide "-99999999999999999999".toList] ∧
    readList "7, 'a', -99999999999999999999".toList =
      .ok [.int 7, .str ['a'], .wide "-99999999999999999999".toList] := by
  have half : IsReadBack ⟨0x4004000000000000⟩ := by
    have text_eq : (⟨0x4004000000000000⟩ : Double).toText = ['2', '.', '5'] := by decide +kernel
    have value_eq : Double.ofDecimal false 25 (-1) = ⟨0x4004000000000000⟩ := by decide +kernel
    exact ⟨⟨false, ['2'], some ['5'], none⟩, by rw [text_eq]; rfl, congrArg Literal.double value_eq⟩
  have wide : IsWide "99999999999999999999".toList :=
    ⟨99999999999999999999, .inr (by decide), by decide +kernel⟩
  have numbers : Leaves IsWide IsReadBack
      (.list [.int (-7), .wide "99999999999999999999".toList, .double ⟨0x4004000000000000⟩]) :=
    .list _ (by simpa using ⟨.int _, .wide _ wide, .double _ half⟩)
  have strings : Leaves IsWide IsReadBack (.tuple [.str "it's, \\".toList]) :=
    .tuple _ (by simpa using .str _)
  have spelled : readList "+07,\t(\"a\"), -00099999999999999999999 ,".toList =
      .ok [.int 7, .str ['a'], .wide "-99999999999999999999".toList] := by rfl
  refine ⟨?_, spelled, ?_⟩
  · have read := readList_written.1 _ (List.forall_mem_cons.mpr ⟨strings, List.forall_mem_cons.mpr
      ⟨numbers, List.forall_mem_singleton.mpr (.str "\n\"]".toList)⟩⟩)
    have text_eq : List.intercalate [',', ' '] ([.tuple [.str "it's, \\".toList],
        .list [.int (-7), .wide "99999999999999999999".toList, .double ⟨0x4004000000000000⟩],
        .str "\n\"]".toList].map written) =
        "('it\\'s, \\\\',), [-7, 99999999999999999999, 2.5], '\n\"]'".toList := by
      decide +kernel
    rwa [text_eq] at read
  · refine (readList_written.2.1 _ _ spelled).2 ?_
    simpa using ⟨.int _, .str _, .wide _ trivial⟩

end Stencil.Literal

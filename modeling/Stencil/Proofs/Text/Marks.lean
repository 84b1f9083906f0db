import Mathlib.Data.List.Infix
import Stencil.Proofs.Text.BoundNames

/-!
# Marks between single braces

The mark of a key is the key between braces, and marks in a text never overlap.  `fillMarks` puts
values for the marks of several keys in one pass, and `fillsMarks_iff` says by which laws: what
stands around a mark is filled apart, a value that was put is not looked at again, and a text
without marks stays.
-/

namespace Stencil.Text

/-- The mark of a key. -/
def mark (key : Text) : Text := '{' :: (key ++ ['}'])

/-- The entry of a key whose mark the text starts with. -/
def markedEntry? (table : Bindings) (text : Text) : Option (Text × Text) :=
  table.find? fun entry => (mark entry.1).isPrefixOf text

/-- `fillMarksFrom table skip text` drops `skip` characters of `text`, which belong to a mark that
was replaced, and puts the values of the table for the marks of what follows. -/
def fillMarksFrom (table : Bindings) : Nat → Text → Text
  | _, [] => []
  | skip + 1, _ :: rest => fillMarksFrom table skip rest
  | 0, c :: rest =>
    match markedEntry? table (c :: rest) with
    | some (key, value) => value ++ fillMarksFrom table (key.length + 1) rest
    | none => c :: fillMarksFrom table 0 rest

/-- The text with the values of the table for the marks of their keys, all in one pass. -/
def fillMarks (table : Bindings) (text : Text) : Text := fillMarksFrom table 0 text

/-! ## Where marks stand -/

/-- A text is cut in one way before the first of two characters. -/
theorem eq_of_append_cons_eq {left right x y : Text} {c d : Char} (not_right : c ∉ right)
    (not_left : d ∉ left) (same : left ++ c :: x = right ++ d :: y) :
    left = right ∧ c = d ∧ x = y := by
  induction left generalizing right with
  | nil =>
      cases right with
      | nil => simpa using same
      | cons e right =>
          obtain ⟨rfl, _⟩ := List.cons.inj same
          exact absurd List.mem_cons_self not_right
  | cons e left ih =>
      cases right with
      | nil =>
          obtain ⟨rfl, _⟩ := List.cons.inj same
          exact absurd List.mem_cons_self not_left
      | cons f right =>
          obtain ⟨rfl, tail_same⟩ := List.cons.inj same
          obtain ⟨rfl, rest_same⟩ := ih (fun later => not_right (List.mem_cons_of_mem _ later))
            (fun later => not_left (List.mem_cons_of_mem _ later)) tail_same
          exact ⟨rfl, rest_same⟩

theorem mark_append (key rest : Text) : mark key ++ rest = '{' :: (key ++ '}' :: rest) := by
  simp [mark]

theorem not_mem_opening {key : Text} (word : key.isWord = true) : '{' ∉ key :=
  not_mem_of_isWord not_isWordChar_opening word

theorem not_mem_closing {key : Text} (word : key.isWord = true) : '}' ∉ key :=
  not_mem_of_isWord not_isWordChar_closing word

theorem head_eq_of_starts {key rest : Text} {c : Char} (found : mark key <+: c :: rest) :
    c = '{' := (List.cons_prefix_cons.mp found).1.symm

/-- The mark at the head of a text is that of one key. -/
theorem eq_of_mark_prefix_mark {key other rest : Text} (key_word : key.isWord = true)
    (other_word : other.isWord = true) (found : mark key <+: mark other ++ rest) : key = other := by
  obtain ⟨tail, same⟩ := found
  rw [mark_append, mark_append, List.cons.injEq] at same
  exact (eq_of_append_cons_eq (not_mem_closing other_word) (not_mem_closing key_word) same.2).1

/-- A mark does not start in front of a mark and end in it. -/
theorem mark_prefix_of_append_mark {key other front after : Text} {c : Char}
    (word : key.isWord = true) (found : mark key <+: c :: front ++ (mark other ++ after)) :
    mark key <+: c :: front := by
  rcases prefix_or_overlap found with inside | ⟨overlap, overlap_ne, split, reaches⟩
  · exact inside
  · -- The overlap starts with an opening brace, and that of the mark stands in front of it.
    obtain ⟨d, tail, rfl⟩ := List.exists_cons_of_ne_nil overlap_ne
    obtain rfl : d = '{' := (List.cons_prefix_cons.mp reaches).1
    obtain ⟨_, behind⟩ := List.cons.inj split
    have opening_later : '{' ∈ key ++ ['}'] := by simp [behind]
    simp [not_mem_opening word] at opening_later

/-! ## One pass -/

/-- The keys of a table are different words. -/
structure Keyed (table : Bindings) : Prop where
  words : ∀ key ∈ table.names, key.isWord = true
  distinct : table.names.Nodup

theorem Keyed.perm {table reordered : Bindings} (keyed : Keyed table)
    (same : table.Perm reordered) : Keyed reordered where
  words key is_key := keyed.words key ((same.map Prod.fst).mem_iff.mpr is_key)
  distinct := (same.map Prod.fst).nodup keyed.distinct

variable {table : Bindings} {key value other rest : Text}

theorem mem_names (entry : (key, value) ∈ table) : key ∈ table.names :=
  List.mem_map.mpr ⟨_, entry, rfl⟩

theorem fillMarksFrom_length_append (table : Bindings) (dropped rest : Text) :
    fillMarksFrom table dropped.length (dropped ++ rest) = fillMarks table rest := by
  induction dropped with
  | nil => rfl
  | cons c dropped ih => exact ih

theorem markedEntry?_eq_some {text : Text}
    (found : markedEntry? table text = some (key, value)) :
    (key, value) ∈ table ∧ mark key <+: text := by
  have starts := List.find?_some found
  exact ⟨List.mem_of_find?_eq_some found, List.isPrefixOf_iff_prefix.mp starts⟩

theorem fillMarks_mark_append (keyed : Keyed table) (entry : (key, value) ∈ table) (rest : Text) :
    fillMarks table (mark key ++ rest) = value ++ fillMarks table rest := by
  have found : markedEntry? table (mark key ++ rest) = some (key, value) := by
    cases at_head : markedEntry? table (mark key ++ rest) with
    | none =>
        have absent := List.find?_eq_none.mp at_head (key, value) entry
        simp at absent
    | some marked =>
        obtain ⟨found_key, found_value⟩ := marked
        obtain ⟨is_entry, starts⟩ := markedEntry?_eq_some at_head
        obtain rfl := eq_of_mark_prefix_mark (keyed.words _ (mem_names is_entry))
          (keyed.words _ (mem_names entry)) starts
        have value_eq := (Bindings.value?_eq_some_iff keyed.distinct).mpr entry
        rw [(Bindings.value?_eq_some_iff keyed.distinct).mpr is_entry] at value_eq
        rw [Option.some.inj value_eq]
  have shape : mark key ++ rest = '{' :: ((key ++ ['}']) ++ rest) := rfl
  have skipped : (key ++ ['}']).length = key.length + 1 := by simp
  rw [shape] at found ⊢
  rw [fillMarks, fillMarksFrom, found]
  dsimp only
  rw [← skipped, fillMarksFrom_length_append]

theorem fillMarks_cons {c : Char} (unmarked : ∀ key ∈ table.names, ¬mark key <+: c :: rest) :
    fillMarks table (c :: rest) = c :: fillMarks table rest := by
  have none_here : markedEntry? table (c :: rest) = none := by
    refine List.find?_eq_none.mpr fun entry member starts => ?_
    exact unmarked entry.1 (mem_names member) (List.isPrefixOf_iff_prefix.mp starts)
  rw [fillMarks, fillMarksFrom, none_here]
  rfl

/-- A text is empty, or it starts with a mark, or with a character that starts none. -/
theorem marks_induction {motive : Text → Prop} (table : Bindings) (nil : motive [])
    (marked : ∀ key value rest, (key, value) ∈ table → motive rest → motive (mark key ++ rest))
    (plain : ∀ c rest, (∀ key ∈ table.names, ¬mark key <+: c :: rest) → motive rest →
      motive (c :: rest)) (text : Text) : motive text := by
  cases text with
  | nil => exact nil
  | cons c rest =>
      by_cases starts : ∃ key ∈ table.names, mark key <+: c :: rest
      · obtain ⟨key, is_key, after, split⟩ := starts
        obtain ⟨⟨_, value⟩, entry, rfl⟩ := List.mem_map.mp is_key
        have shorter : after.length < rest.length + 1 := by
          rw [← List.length_cons, ← split, List.length_append]
          simp [mark]
        rw [← split]
        exact marked _ value after entry (marks_induction table nil marked plain after)
      · exact plain c rest (fun key is_key found => starts ⟨key, is_key, found⟩)
          (marks_induction table nil marked plain rest)
termination_by text.length

/-- A way to put the values of a table for its marks: around a mark the text is filled apart, what
is put in its place is not looked at again, and a text without marks stays. -/
structure FillsMarks (table : Bindings) (filler : Text → Text) : Prop where
  around : ∀ before key value after, (key, value) ∈ table →
    filler (before ++ mark key ++ after) = filler before ++ value ++ filler after
  unchanged : ∀ text, (∀ key ∈ table.names, ¬mark key <:+: text) → filler text = text

theorem FillsMarks.unique {first second : Text → Text} (first_fills : FillsMarks table first)
    (second_fills : FillsMarks table second) (text : Text) : first text = second text := by
  by_cases occurs : ∃ key ∈ table.names, mark key <:+: text
  · obtain ⟨key, is_key, before, after, split⟩ := occurs
    have length_eq : before.length + (mark key).length + after.length = text.length := by
      rw [← split, List.length_append, List.length_append]
    have mark_pos : 0 < (mark key).length := by simp [mark]
    have before_shorter : before.length < text.length := by omega
    have after_shorter : after.length < text.length := by omega
    obtain ⟨⟨_, value⟩, entry, rfl⟩ := List.mem_map.mp is_key
    rw [← split, first_fills.around before _ value after entry,
      second_fills.around before _ value after entry, first_fills.unique second_fills before,
      first_fills.unique second_fills after]
  · have none_occurs : ∀ key ∈ table.names, ¬mark key <:+: text :=
      fun key is_key found => occurs ⟨key, is_key, found⟩
    rw [first_fills.unchanged text none_occurs, second_fills.unchanged text none_occurs]
termination_by text.length

theorem fillsMarks_fillMarks (keyed : Keyed table) : FillsMarks table (fillMarks table) where
  around before key value after entry := by
    rw [List.append_assoc]
    induction before using marks_induction table with
    | nil => exact fillMarks_mark_append keyed entry after
    | marked first firstValue rest first_entry ih =>
        rw [List.append_assoc, fillMarks_mark_append keyed first_entry, ih,
          fillMarks_mark_append keyed first_entry]
        simp only [List.append_assoc]
    | plain c rest unmarked ih =>
        have still_unmarked : ∀ other ∈ table.names,
            ¬mark other <+: c :: (rest ++ (mark key ++ after)) := fun other is_key found =>
          unmarked other is_key (mark_prefix_of_append_mark (keyed.words other is_key) found)
        rw [List.cons_append, fillMarks_cons still_unmarked, ih, fillMarks_cons unmarked]
        rfl
  unchanged text none_occurs := by
    induction text with
    | nil => rfl
    | cons c rest ih =>
        rw [fillMarks_cons fun key is_key found => none_occurs key is_key found.isInfix]
        refine congrArg (c :: ·) (ih fun key is_key found => none_occurs key is_key ?_)
        exact found.trans (List.suffix_cons c rest).isInfix

/-- The laws hold of one pass over the text and of nothing else. -/
theorem fillsMarks_iff (keyed : Keyed table) (filler : Text → Text) :
    FillsMarks table filler ↔ filler = fillMarks table := by
  constructor
  · exact fun fills => funext (fills.unique (fillsMarks_fillMarks keyed))
  · rintro rfl
    exact fillsMarks_fillMarks keyed

/-- The order of the entries does not matter. -/
theorem fillMarks_perm {reordered : Bindings} (keyed : Keyed table)
    (same : table.Perm reordered) : fillMarks table = fillMarks reordered := by
  obtain ⟨around, unchanged⟩ := fillsMarks_fillMarks keyed
  refine (fillsMarks_iff (keyed.perm same) _).mp ⟨fun before key value after entry => ?_,
    fun text none_occurs => ?_⟩
  · exact around before key value after (same.mem_iff.mpr entry)
  · exact unchanged text fun key is_key =>
      none_occurs key ((same.map Prod.fst).mem_iff.mp is_key)

end Stencil.Text

import Stencil.Proofs.Literal.Broken
import Stencil.Proofs.Literal.Reach
import Stencil.Proofs.Text.ByteSize

/-!
# Where a list is refused

The first place of a fault is where the input leaves the grammar: what stands before it is the
beginning of some list, and it is either a list itself, the longest one that the input starts with,
or it stops inside literals whose starts are the other places of the fault.
-/

namespace Stencil

namespace Literal

/-! ## Places of an input -/

theorem Place.before_append (complaint : Complaint) (text rest : Text) :
    (Place.mk complaint rest).before (text ++ rest) = text := by
  simp [Place.before]

theorem Place.offset_append (complaint : Complaint) (text rest : Text) :
    (Place.mk complaint rest).offset (text ++ rest) = text.byteSize := by
  rw [Place.offset, Place.before_append]

theorem offset_literalPlace {start text : Text} (suffix : start <:+ text) (rest : Text) :
    (literalPlace rest start).offset (text ++ rest) + start.byteSize = text.byteSize := by
  obtain ⟨front, rfl⟩ := suffix
  rw [literalPlace, List.append_assoc, Place.offset_append, Text.byteSize_append]

/-! ## Refused lists -/

theorem UnfinishedList.nested {text : Text} {opens : List Text}
    (unfinished : UnfinishedList text opens) :
    (∀ start ∈ opens, start ≠ [] ∧ start <:+ text) ∧
      opens.Pairwise fun inner outer => inner <:+ outer ∧ inner.length < outer.length := by
  obtain ⟨opening, inner, rfl, _, inner_unfinished⟩ := unfinished
  obtain ⟨parts, ordered⟩ := inner_unfinished.nested
  refine ⟨fun start member => ?_, ordered⟩
  exact ⟨(parts start member).1, (parts start member).2.trans (List.suffix_append _ _)⟩

/-- The places of open literals lie one before the other, and all before the end of the text. -/
theorem UnfinishedList.offsets_decrease {text : Text} {opens : List Text}
    (unfinished : UnfinishedList text opens) (rest : Text) :
    (text.byteSize :: (opens.map (literalPlace rest)).map
      fun place => place.offset (text ++ rest)).Pairwise (· > ·) := by
  obtain ⟨parts, ordered⟩ := unfinished.nested
  refine List.pairwise_cons.mpr ⟨fun offset member => ?_, ?_⟩
  · simp only [List.map_map, List.mem_map, Function.comp_apply] at member
    obtain ⟨start, opened, rfl⟩ := member
    have split := offset_literalPlace (parts start opened).2 rest
    have positive := Text.byteSize_pos (parts start opened).1
    omega
  · rw [List.map_map, List.pairwise_map]
    refine ordered.imp_of_mem fun {inner outer} inner_opened outer_opened nested => ?_
    have inner_split := offset_literalPlace (parts inner inner_opened).2 rest
    have outer_split := offset_literalPlace (parts outer outer_opened).2 rest
    have smaller := Text.byteSize_lt_of_suffix nested.1 nested.2
    simp only [Function.comp_apply]
    omega

/-- A list is refused where it stops inside a literal, or after the longest list that the input
starts with. -/
theorem readList_error_cases {input : Text} {fault : Fault} (refused : readList input = .error fault) :
    (∃ text rest reason opens, input = text ++ rest ∧ UnfinishedList text opens ∧
      fault = faultOf reason opens rest) ∨
    (∃ list rest values, input = list ++ rest ∧ DerivesList list values ∧
      fault = ⟨[⟨.unread, rest⟩]⟩ ∧
      ∀ other left others, input = other ++ left → DerivesList other others → rest <:+ left) := by
  obtain ⟨lead, input_eq⟩ := exists_spaces input
  unfold readList at refused
  split at refused
  next reason failed =>
    obtain rfl := Except.error.inj refused
    obtain ⟨items, before, text, rest, reason, opens, inner_eq, derived, unfinished, rfl⟩ :=
      readItems_breaks (read_sound _) (read_explained _) failed
    have shape : input = (Opening.mk lead items before).text ++ text ++ rest := by
      rw [input_eq, inner_eq]
      simp [Opening.text]
    exact .inl ⟨_, rest, reason, opens, shape, ⟨_, text, rfl, derived, unfinished⟩, rfl⟩
  next result found =>
    obtain ⟨items, comma, inner_eq, _, derived⟩ := readItems_sound (read_sound _) found
    obtain ⟨trail, rest_eq⟩ := exists_spaces result.rest
    have shape : input = (Layout.mk lead items comma trail).text ++ skipSpaces result.rest := by
      rw [input_eq, inner_eq]
      nth_rewrite 1 [rest_eq]
      simp [Layout.text]
    have fault_eq : fault = ⟨[⟨.unread, skipSpaces result.rest⟩]⟩ := by
      split at refused
      next => cases refused
      next => exact (Except.error.inj refused).symm
    refine .inr ⟨_, _, _, shape, ⟨_, rfl, rfl, derived⟩, fault_eq, ?_⟩
    rintro other left others rfl other_derived
    exact other_derived.left_suffix found

/-- What the first place of a fault says about the input. -/
structure Locates (input : Text) (place : Place) : Prop where
  /-- The input is cut in two at the place. -/
  split : place.before input ++ place.rest = input
  /-- The place is no further than the end of the input. -/
  inside : place.offset input ≤ input.byteSize
  /-- The place is between two characters. -/
  boundary : String.Pos.Raw.IsValid input.string ⟨place.offset input⟩
  /-- The input before the place is the beginning of a list. -/
  viable : ∃ completion values, readList (place.before input ++ completion) = .ok values

/-- The input before the place is the longest list that the input starts with. -/
structure EndsList (input : Text) (place : Place) : Prop where
  accepted : ∃ values, readList (place.before input) = .ok values
  longest : ∀ (longer : Text) values, longer <+: input → place.offset input < longer.byteSize →
    readList longer ≠ .ok values

/-- The given places are the starts of the literals that are open at a place, from the innermost to
the outermost. -/
structure Encloses (input : Text) (place : Place) (starts : List Place) : Prop where
  opens : ∃ opens, (∀ others, UnfinishedList (place.before input) others ↔ others = opens) ∧
    starts = opens.map (literalPlace place.rest)
  decreasing : (place.offset input :: starts.map fun start => start.offset input).Pairwise (· > ·)

theorem locates_append {text completion : Text} {values : List Literal} (complaint : Complaint)
    (rest : Text) (derived : DerivesList (text ++ completion) values) :
    Locates (text ++ rest) ⟨complaint, rest⟩ where
  split := by rw [Place.before_append]
  inside := by
    rw [Place.offset_append, Text.byteSize_append]
    exact Nat.le_add_right _ _
  boundary := by
    rw [Place.offset_append]
    exact Text.isValid_byteSize text rest
  viable := by
    rw [Place.before_append]
    exact ⟨completion, values, derived.readList_eq⟩

theorem encloses_append {text : Text} {opens : List Text} (unfinished : UnfinishedList text opens)
    (complaint : Complaint) (reason : Reason) (rest : Text) :
    Encloses (text ++ rest) ⟨complaint, rest⟩ (faultOf reason opens rest).literals where
  opens := by
    rw [Place.before_append, literals_faultOf]
    refine ⟨opens, fun others => ⟨fun other => other.unique unfinished, ?_⟩, rfl⟩
    rintro rfl
    exact unfinished
  decreasing := by
    rw [Place.offset_append, literals_faultOf]
    exact unfinished.offsets_decrease rest

/-- The first place of a fault is where the input stops being the beginning of a list.  A fault has
no other place if a list ends there, and no list that the input starts with ends later; otherwise a
digit or a closing character is missing, and the literals of the fault are those open there. -/
theorem readList_error_place {input : Text} {fault : Fault}
    (refused : readList input = .error fault) :
    ∃ first others, fault.places = first :: others ∧ Locates input first ∧
      ((first.complaint = .unread ∧ others = [] ∧ EndsList input first) ∨
        ((first.complaint = .missingDigit ∨ ∃ closer, first.complaint = .expected closer) ∧
          Encloses input first fault.literals)) := by
  rcases readList_error_cases refused with
    ⟨text, rest, reason, opens, rfl, unfinished, rfl⟩ |
    ⟨list, rest, values, rfl, derived, rfl, longest⟩
  · obtain ⟨completion, values, completed⟩ := unfinished.exists_completion
    cases reason with
    | exponent =>
        exact ⟨_, _, rfl, locates_append _ rest completed, .inr ⟨.inl rfl,
          encloses_append unfinished _ _ rest⟩⟩
    | unclosed bracket =>
        exact ⟨_, _, rfl, locates_append _ rest completed, .inr ⟨.inr ⟨_, rfl⟩,
          encloses_append unfinished _ _ rest⟩⟩
  · have located : Locates (list ++ rest) ⟨.unread, rest⟩ :=
      locates_append _ rest (by rwa [List.append_nil] : DerivesList (list ++ []) values)
    refine ⟨_, _, rfl, located, .inl ⟨rfl, rfl, ?_, ?_⟩⟩
    · rw [Place.before_append]
      exact ⟨values, derived.readList_eq⟩
    · rintro longer others ⟨left, cut⟩ further read
      rw [Place.offset_append] at further
      have smaller := Text.byteSize_le_of_suffix (longest longer left others cut.symm
        (readList_sound read))
      have sizes : longer.byteSize + Text.byteSize left = list.byteSize + rest.byteSize := by
        rw [← Text.byteSize_append, cut, Text.byteSize_append]
      omega

/-- An exponent without digits in a tuple in a list, and a list after which the input goes on. -/
theorem readList_error_place_nested :
    Encloses "[1, ('é', 2e x".toList ⟨.missingDigit, " x".toList⟩
        [⟨.literal, "2e x".toList⟩, ⟨.literal, "('é', 2e x".toList⟩,
          ⟨.literal, "[1, ('é', 2e x".toList⟩] ∧
      EndsList "1, 2, é".toList ⟨.unread, "é".toList⟩ := by
  have nested : readList "[1, ('é', 2e x".toList = .error ⟨[⟨.missingDigit, " x".toList⟩,
      ⟨.literal, "2e x".toList⟩, ⟨.literal, "('é', 2e x".toList⟩,
      ⟨.literal, "[1, ('é', 2e x".toList⟩]⟩ := by
    rfl
  have unread : readList "1, 2, é".toList = .error ⟨[⟨.unread, "é".toList⟩]⟩ := by rfl
  constructor
  · obtain ⟨first, others, places, -, outcome⟩ := readList_error_place nested
    obtain ⟨rfl, rfl⟩ := List.cons.inj places
    rcases outcome with ⟨ended, _⟩ | ⟨_, encloses⟩
    · cases ended
    · exact encloses
  · obtain ⟨first, others, places, -, outcome⟩ := readList_error_place unread
    obtain ⟨rfl, rfl⟩ := List.cons.inj places
    rcases outcome with ⟨_, _, ends⟩ | ⟨missing, _⟩
    · exact ends
    · rcases missing with missing | ⟨closer, missing⟩ <;> cases missing

end Literal

end Stencil

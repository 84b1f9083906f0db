import Mathlib.Data.Set.Function
import Stencil.Proofs.Text.Fill

/-!
# Bound names

What a text is filled to depends on the value of each name alone.  So the order of the bindings does
not matter when no name is bound twice, and neither do the names themselves: `fill_renamed` says
that a text whose bound names are renamed is filled to the same text under the renamed bindings.  A
placeholder that was put in is found again whatever braces stand around it, and an unbound one stays
unbound because no new name stands in the text.
-/

namespace Stencil

namespace Bindings

/-- The bound names. -/
def names (bindings : Bindings) : List Text := bindings.map Prod.fst

variable {bindings : Bindings} {name : Text}

@[simp]
theorem names_cons (key value : Text) (bindings : Bindings) :
    names ((key, value) :: bindings) = key :: bindings.names := rfl

@[simp]
theorem value?_cons (key value : Text) (bindings : Bindings) (name : Text) :
    value? ((key, value) :: bindings) name =
      if name = key then some value else bindings.value? name := by
  rw [value?, List.lookup_cons]
  by_cases here : name = key
  · simp [here]
  · rw [beq_false_of_ne here, if_neg here]
    rfl

theorem value?_eq_none_iff : bindings.value? name = none ↔ name ∉ bindings.names := by
  induction bindings with
  | nil => simp [value?, names]
  | cons entry rest ih =>
      obtain ⟨key, value⟩ := entry
      by_cases here : name = key
      · simp [here]
      · simpa [here] using ih

theorem exists_value_of_mem (bound : name ∈ bindings.names) :
    ∃ value, bindings.value? name = some value :=
  Option.ne_none_iff_exists'.mp (mt value?_eq_none_iff.mp (not_not_intro bound))

/-- When no name is bound twice, the order of the bindings plays no part in the value of a name. -/
theorem value?_eq_some_iff (distinct : bindings.names.Nodup) {value : Text} :
    bindings.value? name = some value ↔ (name, value) ∈ bindings := by
  induction bindings with
  | nil => simp [value?]
  | cons entry rest ih =>
      obtain ⟨key, first⟩ := entry
      obtain ⟨key_free, rest_distinct⟩ := List.nodup_cons.mp distinct
      by_cases here : name = key
      · subst here
        have not_later : (name, value) ∉ rest := fun later =>
          key_free (List.mem_map.mpr ⟨_, later, rfl⟩)
        simp [not_later, eq_comm]
      · simpa [here] using ih rest_distinct

theorem value?_perm {other : Bindings} (distinct : bindings.names.Nodup)
    (reordered : bindings.Perm other) (name : Text) : bindings.value? name = other.value? name := by
  have other_distinct : other.names.Nodup := (reordered.map Prod.fst).nodup distinct
  ext value
  rw [value?_eq_some_iff distinct, value?_eq_some_iff other_distinct]
  exact reordered.mem_iff

/-! ## New names -/

variable {rename : Text → Text}

/-- Each bound name is bound to the placeholder of its new name. -/
def tokens (rename : Text → Text) (bindings : Bindings) : Bindings :=
  bindings.map fun (name, _) => (name, Text.placeholder (rename name))

/-- Each new name is bound to the value of the old one. -/
def renamed (rename : Text → Text) (bindings : Bindings) : Bindings :=
  bindings.map fun (name, value) => (rename name, value)

theorem names_tokens (rename : Text → Text) (bindings : Bindings) :
    (bindings.tokens rename).names = bindings.names := by
  simp [names, tokens, Function.comp_def]

theorem names_renamed (rename : Text → Text) (bindings : Bindings) :
    (bindings.renamed rename).names = bindings.names.map rename := by
  simp [names, renamed, Function.comp_def]

theorem value?_tokens (rename : Text → Text) (bound : name ∈ bindings.names) :
    (bindings.tokens rename).value? name = some (Text.placeholder (rename name)) := by
  induction bindings with
  | nil => cases bound
  | cons entry rest ih =>
      obtain ⟨key, value⟩ := entry
      rw [tokens, List.map_cons, ← tokens, value?_cons]
      by_cases here : name = key
      · rw [if_pos here, here]
      · rw [if_neg here]
        exact ih ((List.mem_cons.mp bound).resolve_left here)

/-- A new name has the value of the old one, when no two names are renamed alike. -/
theorem value?_renamed (distinct : Set.InjOn rename {name | name ∈ bindings.names})
    (bound : name ∈ bindings.names) :
    (bindings.renamed rename).value? (rename name) = bindings.value? name := by
  induction bindings with
  | nil => cases bound
  | cons entry rest ih =>
      obtain ⟨key, value⟩ := entry
      rw [renamed, List.map_cons, ← renamed, value?_cons, value?_cons]
      by_cases here : name = key
      · rw [if_pos here, if_pos (congrArg rename here)]
      · have renamed_ne : rename name ≠ rename key := fun same =>
          here (distinct bound List.mem_cons_self same)
        rw [if_neg here, if_neg renamed_ne]
        apply ih
        · exact distinct.mono fun other later => List.mem_cons_of_mem key later
        · exact (List.mem_cons.mp bound).resolve_left here

end Bindings

namespace Text

variable {bindings : Bindings} {name : Text}

/-- Bindings with the same values fill alike. -/
theorem fill_congr {other : Bindings}
    (same : ∀ name, bindings.value? name = other.value? name) (text : Text) :
    fill text bindings = fill text other := by
  have other_fills : Simultaneous bindings (fill · other) := by
    obtain ⟨around, unchanged⟩ := simultaneous_fill other
    refine ⟨fun before name after word => ?_, unchanged⟩
    have same_filling : filling bindings name = filling other name := by
      rw [filling, filling, same]
    rw [same_filling]
    exact around before name after word
  exact (simultaneous_fill bindings).unique other_fills text

theorem filling_of_unbound (unbound : name ∉ bindings.names) :
    filling bindings name = placeholder name := by
  rw [filling, Bindings.value?_eq_none_iff.mpr unbound]

/-- A placeholder is renamed to a placeholder that is filled as the first one was. -/
theorem exists_token {rename : Text → Text} (word : name.isWord = true)
    (words : ∀ bound ∈ bindings.names, (rename bound).isWord = true)
    (distinct : Set.InjOn rename {name | name ∈ bindings.names})
    (fresh : ∀ bound ∈ bindings.names, rename bound ≠ name) :
    ∃ token : Text, token.isWord = true ∧
      filling (bindings.tokens rename) name = placeholder token ∧
      filling (bindings.renamed rename) token = filling bindings name := by
  by_cases bound : name ∈ bindings.names
  · obtain ⟨value, found⟩ := Bindings.exists_value_of_mem bound
    refine ⟨rename name, words name bound, ?_, ?_⟩
    · rw [filling, Bindings.value?_tokens rename bound]
    · rw [filling, filling, Bindings.value?_renamed distinct bound, found]
  · have not_token : name ∉ (bindings.tokens rename).names := by
      rwa [Bindings.names_tokens]
    have not_renamed : name ∉ (bindings.renamed rename).names := by
      rw [Bindings.names_renamed]
      intro member
      obtain ⟨other, other_bound, same⟩ := List.mem_map.mp member
      exact fresh other other_bound same
    refine ⟨name, word, filling_of_unbound not_token, ?_⟩
    rw [filling_of_unbound not_renamed, filling_of_unbound bound]

/-- Renaming the bound names in a text and in the bindings does not change what the text is filled
to, if the new names are words, differ from each other and have no placeholder in the text. -/
theorem fill_renamed (text : Text) (bindings : Bindings) (rename : Text → Text)
    (words : ∀ name ∈ bindings.names, (rename name).isWord = true)
    (distinct : Set.InjOn rename {name | name ∈ bindings.names})
    (fresh : ∀ name ∈ bindings.names, ¬placeholder (rename name) <:+: text) :
    fill (fill text (bindings.tokens rename)) (bindings.renamed rename) = fill text bindings := by
  induction text using placeholder_induction with
  | free text none_occurs =>
      rw [fill_of_no_placeholder none_occurs, fill_of_no_placeholder none_occurs,
        fill_of_no_placeholder none_occurs]
  | around before name after word before_same after_same =>
      have split (values : Bindings) := (simultaneous_fill values).around
      have fresh_before : ∀ bound ∈ bindings.names, ¬placeholder (rename bound) <:+: before :=
        fun bound member occurs =>
          fresh bound member (occurs.trans ⟨[], placeholder name ++ after, by simp⟩)
      have fresh_after : ∀ bound ∈ bindings.names, ¬placeholder (rename bound) <:+: after :=
        fun bound member occurs =>
          fresh bound member (occurs.trans ⟨before ++ placeholder name, [], by simp⟩)
      have not_here : ∀ bound ∈ bindings.names, rename bound ≠ name := by
        rintro bound member rfl
        exact fresh bound member ⟨before, after, rfl⟩
      obtain ⟨token, token_word, renamed_here, filled_here⟩ :=
        exists_token word words distinct not_here
      calc fill (fill (before ++ placeholder name ++ after) (bindings.tokens rename))
            (bindings.renamed rename)
          = fill (fill before (bindings.tokens rename) ++ placeholder token ++
              fill after (bindings.tokens rename)) (bindings.renamed rename) := by
            rw [split _ before name after word, renamed_here]
        _ = fill before bindings ++ filling bindings name ++ fill after bindings := by
            rw [split _ _ token _ token_word, before_same fresh_before, after_same fresh_after,
              filled_here]
        _ = fill (before ++ placeholder name ++ after) bindings :=
            (split _ before name after word).symm

/-- Braces touch the placeholders, one value looks like a placeholder of a new name, and one
placeholder is unbound. -/
theorem fill_renamed_besideBraces :
    fill ('{' :: (placeholder ['x'] ++ placeholder ['y'] ++ '}' :: placeholder ['c']))
        [(['x'], placeholder ['y']), (['y'], ['v'])] =
      fill ('{' :: (placeholder ['a'] ++ placeholder ['b'] ++ '}' :: placeholder ['c']))
        [(['a'], placeholder ['y']), (['b'], ['v'])] := by
  have distinct : Set.InjOn (fun name : Text => if name = ['a'] then ['x'] else ['y'])
      {name | name ∈ Bindings.names [(['a'], placeholder ['y']), (['b'], ['v'])]} := by
    simp [Set.InjOn, Bindings.names]
  have renamed := fill_renamed
    ('{' :: (placeholder ['a'] ++ placeholder ['b'] ++ '}' :: placeholder ['c']))
    [(['a'], placeholder ['y']), (['b'], ['v'])]
    (fun name => if name = ['a'] then ['x'] else ['y']) (by decide +kernel) distinct
    (by decide +kernel)
  rw [← renamed]
  decide +kernel

end Text

end Stencil

import Stencil.Proofs.Literal.Grammar

/-!
# Reading strings

A string is read up to its first bare quote.  What is read before that quote is a sequence of
fragments, and every sequence of fragments is read back.
-/

namespace Stencil.Literal

theorem unescape_of_mem {c decoded : Char} (known : (c, decoded) ∈ escapes) :
    unescape c = [decoded] := by
  simp only [escapes, List.mem_cons, Prod.mk.injEq, List.not_mem_nil, or_false] at known
  rcases known with ⟨rfl, rfl⟩ | ⟨rfl, rfl⟩ | ⟨rfl, rfl⟩ | ⟨rfl, rfl⟩ | ⟨rfl, rfl⟩ | ⟨rfl, rfl⟩
  all_goals rfl

theorem unescape_of_unknown {c : Char} (unknown : ∀ decoded, (c, decoded) ∉ escapes) :
    unescape c = ['\\', c] := by
  unfold unescape
  split
  next => exact absurd (by simp [escapes]) (unknown '\n')
  next => exact absurd (by simp [escapes]) (unknown '\r')
  next => exact absurd (by simp [escapes]) (unknown '\t')
  next => exact absurd (by simp [escapes]) (unknown '\\')
  next => exact absurd (by simp [escapes]) (unknown '"')
  next => exact absurd (by simp [escapes]) (unknown '\'')
  next => rfl

/-- A backslash and a character are a fragment, whatever the character is. -/
theorem exists_escaped_fragment (quote c : Char) :
    ∃ fragment : Fragment quote, fragment.text = ['\\', c] ∧ fragment.content = unescape c := by
  by_cases known : ∃ decoded, (c, decoded) ∈ escapes
  · obtain ⟨decoded, known⟩ := known
    exact ⟨.escape c decoded known, rfl, (unescape_of_mem known).symm⟩
  · have unknown : ∀ decoded, (c, decoded) ∉ escapes := not_exists.mp known
    exact ⟨.kept c unknown, rfl, (unescape_of_unknown unknown).symm⟩

/-- The content of a string is only read from fragments. -/
theorem readQuoted?_sound {quote : Char} {s content rest : Text}
    (read : readQuoted? quote s = some (content, rest)) :
    ∃ fragments : List (Fragment quote), s = fragments.flatMap Fragment.text ++ quote :: rest ∧
      content = fragments.flatMap Fragment.content := by
  fun_induction readQuoted? quote s generalizing content with
  | case1 => simp at read
  | case2 c tail ih =>
      obtain ⟨⟨inner, after⟩, found, pair⟩ := Option.map_eq_some_iff.mp read
      obtain ⟨rfl, rfl⟩ := Prod.mk.inj pair
      obtain ⟨fragments, rfl, rfl⟩ := ih found
      obtain ⟨fragment, text_eq, content_eq⟩ := exists_escaped_fragment quote c
      exact ⟨fragment :: fragments, by simp [text_eq], by simp [content_eq]⟩
  | case3 tail =>
      obtain ⟨rfl, rfl⟩ := Prod.mk.inj (Option.some.inj read)
      exact ⟨[], rfl, rfl⟩
  | case4 => simp at read
  | case5 c tail _ not_quote not_backslash ih =>
      obtain ⟨⟨inner, after⟩, found, pair⟩ := Option.map_eq_some_iff.mp read
      obtain ⟨rfl, rfl⟩ := Prod.mk.inj pair
      obtain ⟨fragments, rfl, rfl⟩ := ih found
      exact ⟨.char c not_quote not_backslash :: fragments, rfl, rfl⟩

/-- Fragments are read up to the quote after them. -/
theorem readQuoted?_append {quote : Char} (not_backslash : quote ≠ '\\')
    (fragments : List (Fragment quote)) (rest : Text) :
    readQuoted? quote (fragments.flatMap Fragment.text ++ quote :: rest) =
      some (fragments.flatMap Fragment.content, rest) := by
  induction fragments with
  | nil => simp [readQuoted?, not_backslash]
  | cons fragment fragments ih =>
      cases fragment with
      | char c not_quote c_not_backslash =>
          simp [Fragment.text, Fragment.content, readQuoted?, not_quote, c_not_backslash, ih]
      | escape c decoded known =>
          simp [Fragment.text, Fragment.content, readQuoted?, unescape_of_mem known, ih]
      | kept c unknown =>
          simp [Fragment.text, Fragment.content, readQuoted?, unescape_of_unknown unknown, ih]

end Stencil.Literal

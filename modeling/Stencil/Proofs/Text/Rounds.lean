import Stencil.Proofs.Text.Marks

/-!
# Marks replaced in rounds

When the marks of two keys are replaced one key after the other, the second round also reads what
the first one has put.  A value then completes the mark of the second key where it stands between
the right braces and letters, and `replaceAll_replaceAll_eq_iff` says that nothing else sets two
rounds apart from one pass.
-/

namespace Stencil.Text

variable {key value other otherValue rest : Text}

/-! ## One round -/

theorem replaceFrom_length_append (old new dropped rest : Text) :
    replaceFrom old new dropped.length (dropped ++ rest) = rest.replaceAll old new := by
  induction dropped with
  | nil => rfl
  | cons c dropped ih => exact ih

theorem replaceAll_mark_append (key value rest : Text) :
    (mark key ++ rest).replaceAll (mark key) value = value ++ rest.replaceAll (mark key) value := by
  have shape : mark key ++ rest = '{' :: ((key ++ ['}']) ++ rest) := rfl
  have occurs : (mark key).isPrefixOf (mark key ++ rest) = true :=
    List.isPrefixOf_iff_prefix.mpr (List.prefix_append _ _)
  rw [shape] at occurs ⊢
  rw [replaceAll, replaceFrom_zero_cons, if_pos occurs]
  exact congrArg (value ++ ·) (replaceFrom_length_append _ _ (key ++ ['}']) rest)

theorem replaceAll_cons {c : Char} (unmarked : ¬mark key <+: c :: rest) :
    replaceAll (c :: rest) (mark key) value = c :: rest.replaceAll (mark key) value := by
  rw [replaceAll, replaceFrom_zero_cons, if_neg (mt List.isPrefixOf_iff_prefix.mp unmarked)]
  rfl

theorem replaceAll_append_of_no_opening {front : Text} (no_opening : '{' ∉ front) :
    (front ++ rest).replaceAll (mark key) value = front ++ rest.replaceAll (mark key) value := by
  induction front with
  | nil => rfl
  | cons c front ih =>
      obtain ⟨not_head, not_later⟩ := not_or.mp (mt List.mem_cons.mpr no_opening)
      rw [List.cons_append, replaceAll_cons fun found => not_head (head_eq_of_starts found).symm,
        ih not_later, List.cons_append]

theorem replaceAll_other_mark (key_word : key.isWord = true) (other_word : other.isWord = true)
    (differ : key ≠ other) :
    (mark other ++ rest).replaceAll (mark key) value =
      mark other ++ rest.replaceAll (mark key) value := by
  have unmarked : ¬mark key <+: mark other ++ rest := fun found =>
    differ (eq_of_mark_prefix_mark key_word other_word found)
  have no_opening : '{' ∉ other ++ ['}'] := by simp [not_mem_opening other_word]
  exact (replaceAll_cons unmarked).trans
    (congrArg ('{' :: ·) (replaceAll_append_of_no_opening no_opening))

/-- What a text starts with after a round, it started with before, or a value is part of it. -/
theorem prefix_replaceAll_cases {start text : Text}
    (found : start <+: text.replaceAll (mark key) value) :
    start <+: text ∨ ∃ before behind after, start = before ++ behind ∧ behind ≠ [] ∧
      text = before ++ mark key ++ after ∧
      behind <+: value ++ after.replaceAll (mark key) value := by
  induction text using marks_induction [(key, value)] generalizing start with
  | nil => exact .inl found
  | marked marked_key marked_value rest entry _ =>
      obtain ⟨rfl, rfl⟩ : marked_key = key ∧ marked_value = value := by simpa using entry
      rw [replaceAll_mark_append] at found
      rcases eq_or_ne start [] with rfl | start_ne
      · exact .inl List.nil_prefix
      · exact .inr ⟨[], start, rest, rfl, start_ne, rfl, found⟩
  | plain c rest unmarked ih =>
      rw [replaceAll_cons (unmarked key (by simp [Bindings.names]))] at found
      cases start with
      | nil => exact .inl List.nil_prefix
      | cons d start =>
          obtain ⟨rfl, start_found⟩ := List.cons_prefix_cons.mp found
          rcases ih start_found with stood | ⟨before, behind, after, rfl, behind_ne, rfl, reaches⟩
          · exact .inl (List.cons_prefix_cons.mpr ⟨rfl, stood⟩)
          · exact .inr ⟨d :: before, behind, after, rfl, behind_ne, rfl, reaches⟩

/-! ## Marks that a value completes -/

/-- The mark of a key stands between braces, and its value spells another key together with the
letters around it there: in place of the mark the value completes the mark of the other key. -/
def Completes (key value other text : Text) : Prop :=
  ∃ before after, before ++ value ++ after = other ∧
    mark (before ++ mark key ++ after) <:+: text

/-- A value completes a mark at the head of the text. -/
def CompletesHead (key value other text : Text) : Prop :=
  ∃ before after, before ++ value ++ after = other ∧ mark (before ++ mark key ++ after) <+: text

theorem completes_cons (key value other : Text) (c : Char) (rest : Text) :
    Completes key value other (c :: rest) ↔
      CompletesHead key value other (c :: rest) ∨ Completes key value other rest := by
  simp only [Completes, CompletesHead, List.infix_cons_iff, and_or_left, exists_or]

theorem not_completes_nil : ¬Completes key value other [] := by
  rintro ⟨before, after, _, found⟩
  simp [mark] at found

theorem completes_append_of_no_opening {front : Text} (no_opening : '{' ∉ front) :
    Completes key value other (front ++ rest) ↔ Completes key value other rest := by
  induction front with
  | nil => rfl
  | cons c front ih =>
      obtain ⟨not_head, not_later⟩ := not_or.mp (mt List.mem_cons.mpr no_opening)
      rw [List.cons_append, completes_cons, ih not_later]
      refine or_iff_right ?_
      rintro ⟨_, _, _, found⟩
      exact not_head (head_eq_of_starts found).symm

/-- A mark is no beginning of one with a mark in it. -/
theorem completes_mark_append {marked : Text} (marked_word : marked.isWord = true)
    (other_word : other.isWord = true) :
    Completes key value other (mark marked ++ rest) ↔ Completes key value other rest := by
  have no_opening : '{' ∉ marked ++ ['}'] := by simp [not_mem_opening marked_word]
  have shape : mark marked ++ rest = '{' :: ((marked ++ ['}']) ++ rest) := rfl
  rw [shape, completes_cons, completes_append_of_no_opening no_opening, ← shape]
  refine or_iff_right ?_
  rintro ⟨before, after, rfl, behind, same⟩
  rw [mark_append, mark_append, List.cons.injEq] at same
  have before_closed : '}' ∉ before := fun member =>
    not_mem_closing other_word (by simp [member])
  have cut : before ++ '{' :: (key ++ '}' :: (after ++ '}' :: behind)) = marked ++ '}' :: rest := by
    simpa [mark] using same.2
  obtain ⟨_, brace_eq, _⟩ :=
    eq_of_append_cons_eq (not_mem_opening marked_word) before_closed cut
  exact absurd brace_eq (by decide)

/-- The rest of a mark reaches beyond a value that it starts in, because it ends in a brace. -/
theorem exists_after_value {before behind tail : Text} (value_word : value.isWord = true)
    (other_eq : other ++ ['}'] = before ++ behind) (behind_ne : behind ≠ [])
    (reaches : behind <+: value ++ tail) :
    ∃ after, before ++ value ++ after = other ∧ after ++ ['}'] <+: tail := by
  have last : behind.getLast? = some '}' := by
    rw [← List.getLast?_append_of_ne_nil before behind_ne, ← other_eq]
    simp
  rcases prefix_or_overlap reaches with inside | ⟨overlap, overlap_ne, rfl, overlap_found⟩
  · exact absurd (inside.subset (List.mem_of_getLast? last)) (not_mem_closing value_word)
  · rw [List.getLast?_append_of_ne_nil value overlap_ne] at last
    obtain ⟨after, rfl⟩ := List.getLast?_eq_some_iff.mp last
    have same : other ++ ['}'] = before ++ value ++ after ++ ['}'] := by simpa using other_eq
    exact ⟨after, (List.append_cancel_right same).symm, overlap_found⟩

theorem mark_prefix_of_completesHead (other_word : other.isWord = true) {c : Char}
    (completes : CompletesHead key value other (c :: rest)) :
    mark other <+: c :: replaceAll rest (mark key) value := by
  obtain ⟨before, after, rfl, behind, split⟩ := completes
  obtain ⟨rfl, rest_eq⟩ := List.cons.inj split
  have no_opening := not_mem_opening other_word
  simp only [List.mem_append, not_or] at no_opening
  have after_closing : '{' ∉ after ++ ['}'] := by simp [no_opening.2]
  have shape : rest = before ++ (mark key ++ ((after ++ ['}']) ++ behind)) := by
    rw [← rest_eq]
    simp
  rw [shape, replaceAll_append_of_no_opening no_opening.1.1, replaceAll_mark_append,
    replaceAll_append_of_no_opening after_closing]
  exact ⟨replaceAll behind (mark key) value, by simp [mark]⟩

/-- After a round the mark of another key stands at the head where it stood before or where a value
completes it. -/
theorem mark_prefix_replaceAll_iff (other_word : other.isWord = true) (distinct : other.Nodup)
    (value_word : value.isWord = true) {c : Char} (unmarked : ¬mark other <+: c :: rest) :
    mark other <+: c :: replaceAll rest (mark key) value ↔
      CompletesHead key value other (c :: rest) := by
  refine ⟨fun found => ?_, mark_prefix_of_completesHead other_word⟩
  obtain ⟨rfl, inner_found⟩ := List.cons_prefix_cons.mp found
  rcases prefix_replaceAll_cases inner_found with
    stood | ⟨before, behind, tail, other_eq, behind_ne, rfl, reaches⟩
  · exact absurd (List.cons_prefix_cons.mpr ⟨rfl, stood⟩) unmarked
  · obtain ⟨after, spelled, after_found⟩ :=
      exists_after_value value_word other_eq behind_ne reaches
    -- The letters after the value are not in it, so the round has left them as they were.
    have fresh : ∀ d ∈ after ++ ['}'], d ∉ value := by
      intro d member in_value
      rcases List.mem_append.mp member with later | closing
      · rw [← spelled, List.append_assoc] at distinct
        have apart := (List.nodup_append.mp (List.nodup_append.mp distinct).2.1).2.2
        exact apart d in_value d later rfl
      · obtain rfl := List.mem_singleton.mp closing
        exact not_mem_closing value_word in_value
    obtain ⟨behind, rfl⟩ :=
      prefix_of_prefix_replaceFrom (ne_nil_of_isWord value_word) fresh after_found
    exact ⟨before, after, spelled, behind, by simp [mark]⟩

/-! ## Two rounds -/

/-- Two rounds put the same as one pass exactly if no value of the first round completes a mark of
the second. -/
theorem replaceAll_replaceAll_eq_iff (keyed : Keyed [(key, value), (other, otherValue)])
    (distinct : other.Nodup) (value_word : value.isWord = true)
    (otherValue_word : otherValue.isWord = true) (text : Text) :
    (text.replaceAll (mark key) value).replaceAll (mark other) otherValue =
        fillMarks [(key, value), (other, otherValue)] text ↔
      ¬Completes key value other text := by
  have key_word : key.isWord = true := keyed.words key (by simp [Bindings.names])
  have other_word : other.isWord = true := keyed.words other (by simp [Bindings.names])
  have differ : key ≠ other := by simpa [Bindings.names] using keyed.distinct
  induction text using marks_induction [(key, value), (other, otherValue)] with
  | nil => exact iff_of_true rfl not_completes_nil
  | marked marked_key marked_value rest entry ih =>
      rw [fillMarks_mark_append keyed entry]
      obtain ⟨rfl, rfl⟩ | ⟨rfl, rfl⟩ : marked_key = key ∧ marked_value = value ∨
          marked_key = other ∧ marked_value = otherValue := by simpa using entry
      · rw [replaceAll_mark_append, replaceAll_append_of_no_opening (not_mem_opening value_word),
          List.append_cancel_left_eq, completes_mark_append key_word other_word]
        exact ih
      · rw [replaceAll_other_mark key_word other_word differ, replaceAll_mark_append,
          List.append_cancel_left_eq, completes_mark_append other_word other_word]
        exact ih
  | plain c rest unmarked ih =>
      have not_key : ¬mark key <+: c :: rest := unmarked key (by simp [Bindings.names])
      have not_other : ¬mark other <+: c :: rest := unmarked other (by simp [Bindings.names])
      have head_iff : mark other <+: c :: replaceAll rest (mark key) value ↔
          CompletesHead key value other (c :: rest) :=
        mark_prefix_replaceAll_iff other_word distinct value_word not_other
      rw [replaceAll_cons not_key, fillMarks_cons unmarked, completes_cons]
      by_cases completed : CompletesHead key value other (c :: rest)
      · -- One pass leaves the brace, and the second round puts a word in its place.
        obtain ⟨behind, split⟩ := head_iff.mpr completed
        obtain rfl := head_eq_of_starts (head_iff.mpr completed)
        refine iff_of_false (fun same => ?_) (not_not_intro (.inl completed))
        obtain ⟨d, letters, rfl, d_word⟩ := exists_cons_of_isWord otherValue_word
        rw [← split, replaceAll_mark_append, List.cons_append, List.cons.injEq] at same
        exact absurd (d_word.symm.trans (same.1 ▸ not_isWordChar_opening)) (by decide)
      · rw [replaceAll_cons (mt head_iff.mp completed), List.cons.injEq, eq_self, true_and,
          or_iff_right completed]
        exact ih

end Stencil.Text

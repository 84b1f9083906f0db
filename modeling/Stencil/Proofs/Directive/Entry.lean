import Stencil.Proofs.Text.Blanks

/-!
# The grammar of type entries

A type entry is the special mark, a word, a colon and a word, with blanks anywhere between them and
optionally two dashes at the end.  `IsEntry` says so of a trimmed line without mentioning how the
line is read, and the reader finds the one name and the one base that such a line has.
-/

namespace Stencil

namespace Directive

open Text (trimStart trimEnd)

/-- What may stand behind the base of a type entry. -/
inductive EntryEnd where
  | bare
  | dashed (before : Blanks)

/-- The end of a type entry as it is written. -/
def EntryEnd.text : EntryEnd → Text
  | .bare => []
  | .dashed before => before.text ++ ['-', '-']

/-- The text is a type entry with this name and this base. -/
structure IsEntry (text name base : Text) : Prop where
  name_word : name.isWord = true
  base_word : base.isWord = true
  written : ∃ (beforeName beforeColon beforeBase : Blanks) (ending : EntryEnd),
    text = Mark.special ++ (beforeName.text ++ (name ++ (beforeColon.text ++
      ':' :: (beforeBase.text ++ (base ++ ending.text)))))

/-! ## Words -/

theorem readWord?_append {word rest : Text} (is_word : word.isWord = true)
    (stops : ∀ c, rest.head? = some c → isWordChar c = false) :
    readWord? (word ++ rest) = some (word, rest) := by
  have all_word := Text.all_of_isWord is_word
  have taken : (word ++ rest).takeWhile isWordChar = word := by
    rw [List.takeWhile_append_of_pos all_word]
    cases rest with
    | nil => simp
    | cons c rest => simp [stops c rfl]
  have dropped : (word ++ rest).dropWhile isWordChar = rest := by
    rw [List.dropWhile_append_of_pos all_word]
    cases rest with
    | nil => rfl
    | cons c rest => simp [stops c rfl]
  obtain ⟨c, tail, rfl, _⟩ := Text.exists_cons_of_isWord is_word
  simp only [readWord?, List.span_eq_takeWhile_dropWhile, taken, dropped]

theorem eq_append_of_readWord? {text word rest : Text} (read : readWord? text = some (word, rest)) :
    text = word ++ rest := by
  rw [readWord?, List.span_eq_takeWhile_dropWhile] at read
  split at read
  next => cases read
  next found =>
    obtain ⟨rfl, rfl⟩ := Prod.mk.inj (Option.some.inj read)
    obtain ⟨rfl, rfl⟩ := Prod.mk.inj found
    exact List.takeWhile_append_dropWhile.symm

/-- Blanks and then something other than a word character end a word. -/
theorem stops_blanks_append (blanks : Blanks) {rest : Text}
    (stops : ∀ c, rest.head? = some c → isWordChar c = false) :
    ∀ c, (blanks.text ++ rest).head? = some c → isWordChar c = false := by
  obtain ⟨text, blank⟩ := blanks
  cases text with
  | nil => exact stops
  | cons first others =>
      rintro c first_eq
      obtain rfl : first = c := by simpa using first_eq
      cases word : isWordChar first with
      | false => rfl
      | true =>
          have visible := Text.not_isBlank_of_isWordChar word
          exact absurd (visible.symm.trans (blank first List.mem_cons_self)) (by decide)

theorem not_isWordChar_colon : isWordChar ':' = false := by decide +kernel

theorem not_isWordChar_dash : isWordChar '-' = false := by decide +kernel

theorem EntryEnd.stops (ending : EntryEnd) :
    ∀ c, ending.text.head? = some c → isWordChar c = false := by
  cases ending with
  | bare => simp [EntryEnd.text]
  | dashed before =>
      refine stops_blanks_append before fun c first_eq => ?_
      obtain rfl : '-' = c := by simpa using first_eq
      exact not_isWordChar_dash

/-! ## Ends of entries -/

theorem EntryEnd.isEntryEnd (ending : EntryEnd) : isEntryEnd ending.text = true := by
  cases ending with
  | bare => rfl
  | dashed before =>
      have dashes : trimStart (before.text ++ ['-', '-']) = ['-', '-'] :=
        before.trimStart_append ['-', '-']
      rw [EntryEnd.text, Directive.isEntryEnd, dashes]
      rfl

theorem exists_end_of_isEntryEnd {text : Text} (ends : isEntryEnd text = true) :
    ∃ ending : EntryEnd, trimEnd text = ending.text := by
  have split := Blanks.leading_append_trimStart text
  rw [isEntryEnd] at ends
  split at ends
  next nothing =>
    refine ⟨.bare, ?_⟩
    rw [nothing, List.append_nil] at split
    rw [← split, ← List.nil_append (Blanks.leading text).text, Blanks.trimEnd_append]
    rfl
  next rest dashes =>
    have blank_rest : (Blanks.leading rest).text = rest := by
      have nothing : trimStart rest = [] := by simpa using ends
      simpa [nothing] using Blanks.leading_append_trimStart rest
    refine ⟨.dashed (Blanks.leading text), ?_⟩
    calc trimEnd text
        = trimEnd (((Blanks.leading text).text ++ ['-', '-']) ++ (Blanks.leading rest).text) := by
          rw [blank_rest, List.append_assoc, List.cons_append, List.cons_append, List.nil_append,
            ← dashes, split]
      _ = trimEnd ((Blanks.leading text).text ++ ['-', '-']) := Blanks.trimEnd_append _ _
      _ = (Blanks.leading text).text ++ ['-', '-'] :=
          Text.trimEnd_append_of_visible (by decide) (by simp) _
  next => cases ends

/-! ## Entries -/

theorem IsEntry.readEntry?_eq {text name base : Text} (entry : IsEntry text name base) :
    readEntry? text = some (name, base) := by
  obtain ⟨name_word, base_word, beforeName, beforeColon, beforeBase, ending, rfl⟩ := entry
  have colon_stops : ∀ c, (':' :: (beforeBase.text ++ (base ++ ending.text))).head? = some c →
      isWordChar c = false := by
    intro c first_eq
    obtain rfl : ':' = c := by simpa using first_eq
    exact not_isWordChar_colon
  have name_read := readWord?_append name_word (stops_blanks_append beforeColon colon_stops)
  have base_read := readWord?_append base_word ending.stops
  have colon : trimStart (':' :: (beforeBase.text ++ (base ++ ending.text))) =
      ':' :: (beforeBase.text ++ (base ++ ending.text)) :=
    Text.trimStart_cons_of_not_isBlank (by decide) _
  have mark (rest : Text) : readEntry? (Mark.special ++ rest) = (do
      let named ← readWord? (trimStart rest)
      let rest ← List.isPrefixOf? [':'] (trimStart named.2)
      let based ← readWord? (trimStart rest)
      if isEntryEnd based.2 then some (named.1, based.1) else none) := rfl
  rw [mark, beforeName.trimStart_append, Text.trimStart_word_append name_word, name_read]
  simp only [Option.bind_eq_bind, Option.bind_some, beforeColon.trimStart_append, colon]
  have colon_read : List.isPrefixOf? [':'] (':' :: (beforeBase.text ++ (base ++ ending.text))) =
      some (beforeBase.text ++ (base ++ ending.text)) := rfl
  rw [colon_read]
  simp only [Option.bind_some, beforeBase.trimStart_append,
    Text.trimStart_word_append base_word, base_read, ending.isEntryEnd, if_true]

/-- The special mark leaves room for one blank between its slashes and its dashes. -/
theorem trimStart_eq_special_append {line behindSlashes behindMark : Text}
    (special : line.isSpecial = true) (slashes : ['/', '/'] ++ behindSlashes = trimStart line)
    (dashes : ['-', '-'] ++ behindMark = trimStart behindSlashes) :
    trimStart line = Mark.special ++ behindMark := by
  obtain ⟨rest, starts⟩ := (Text.beginsWith_iff line Mark.special).mp special
  have same : ['/', '/'] ++ (' ' :: '-' :: '-' :: rest) = ['/', '/'] ++ behindSlashes :=
    starts.trans slashes.symm
  have dashed : trimStart (' ' :: '-' :: '-' :: rest) = ['-', '-'] ++ rest := rfl
  rw [← List.append_cancel_left same, dashed] at dashes
  rw [← starts, List.append_cancel_left dashes]

theorem exists_parts_of_read {line name base : Text} (special : line.isSpecial = true)
    (read : readEntry? line = some (name, base)) :
    ∃ (beforeName beforeColon beforeBase : Blanks) (rest : Text), isEntryEnd rest = true ∧
      trimStart line = Mark.special ++ (beforeName.text ++ (name ++ (beforeColon.text ++
        ':' :: (beforeBase.text ++ (base ++ rest))))) := by
  unfold readEntry? at read
  simp only [Option.bind_eq_bind, Option.bind_eq_some_iff] at read
  obtain ⟨behindSlashes, slashes, behindMark, dashes, ⟨first, behindName⟩, name_read,
    behindColon, colon, ⟨second, behindBase⟩, base_read, ended⟩ := read
  split at ended
  next ends =>
    obtain ⟨rfl, rfl⟩ : name = first ∧ base = second :=
      Prod.mk.inj (Option.some.inj ended.symm)
    have mark_eq := trimStart_eq_special_append special
      (List.isPrefixOf?_eq_some_iff_append_eq.mp slashes)
      (List.isPrefixOf?_eq_some_iff_append_eq.mp dashes)
    have colon_eq := List.isPrefixOf?_eq_some_iff_append_eq.mp colon
    refine ⟨.leading behindMark, .leading behindName, .leading behindColon, behindBase, ends, ?_⟩
    rw [← eq_append_of_readWord? base_read, Blanks.leading_append_trimStart,
      ← List.singleton_append, colon_eq, Blanks.leading_append_trimStart,
      ← eq_append_of_readWord? name_read, Blanks.leading_append_trimStart, mark_eq]
  next => cases ended

/-- A line with the special mark that is read as a type entry is one, blanks around it aside. -/
theorem isEntry_of_read {line name base : Text} (special : line.isSpecial = true)
    (read : readEntry? line = some (name, base)) : IsEntry line.trim name base := by
  obtain ⟨name_word, base_word⟩ := isWord_of_readEntry? read
  obtain ⟨beforeName, beforeColon, beforeBase, rest, ends, line_eq⟩ :=
    exists_parts_of_read special read
  obtain ⟨ending, ending_eq⟩ := exists_end_of_isEntryEnd ends
  refine ⟨name_word, base_word, beforeName, beforeColon, beforeBase, ending, ?_⟩
  have base_visible (front : Text) :
      trimEnd (front ++ (base ++ rest)) = front ++ (base ++ ending.text) := by
    have visible := Text.trimEnd_append_of_visible (Text.trimEnd_word base_word)
      (Text.ne_nil_of_isWord base_word) front
    rw [← List.append_assoc, Text.trimEnd_append_of_trimmed visible, ending_eq, List.append_assoc]
  have trimmed := base_visible (Mark.special ++ (beforeName.text ++ (name ++ (beforeColon.text ++
    ':' :: beforeBase.text))))
  rw [Text.trim, line_eq]
  simpa only [List.append_assoc, List.cons_append] using trimmed

theorem readEntry?_eq_some_iff {line : Text} (special : line.isSpecial = true)
    (name base : Text) :
    readEntry? line = some (name, base) ↔ IsEntry line.trim name base := by
  refine ⟨isEntry_of_read special, fun entry => ?_⟩
  rw [← readEntry?_trim]
  exact entry.readEntry?_eq

/-- A line has at most one name and one base. -/
theorem IsEntry.unique {text name base otherName otherBase : Text} (entry : IsEntry text name base)
    (other : IsEntry text otherName otherBase) : name = otherName ∧ base = otherBase :=
  Prod.mk.inj (Option.some.inj (entry.readEntry?_eq.symm.trans other.readEntry?_eq))

theorem IsEntry.isSpecial {line name base : Text} (entry : IsEntry line.trim name base) :
    line.isSpecial = true := by
  obtain ⟨_, _, beforeName, beforeColon, beforeBase, ending, line_eq⟩ := entry
  rw [← Text.isSpecial_trim, Text.isSpecial, Text.beginsWith_iff, Text.trimStart_trim, line_eq]
  exact List.prefix_append _ _

/-- No fixed directive has a colon. -/
theorem IsEntry.not_fixed {line name base : Text} (entry : IsEntry line.trim name base) :
    fixed.find? (fun candidate => line.isLine candidate.1) = none := by
  have no_colon : ∀ candidate ∈ fixed, ':' ∉ candidate.1 := by decide
  refine List.find?_eq_none.mpr fun candidate member same => ?_
  have trimmed : line.trim = candidate.1 := by simpa [Text.isLine] using same
  obtain ⟨_, _, beforeName, beforeColon, beforeBase, ending, line_eq⟩ := entry
  exact no_colon candidate member (by simp [← trimmed, line_eq])

end Directive

open Directive (IsEntry readEntry?_eq_some_iff)

theorem classify_eq_typeEntry_iff_isEntry (line name base : Text) :
    classify line = .directive (.typeEntry name base) ↔
      line.beginsWith Mark.foreach = false ∧ IsEntry line.trim name base := by
  constructor
  · intro classified
    obtain ⟨special, other, read⟩ := readEntry?_of_classify classified
    exact ⟨other, (readEntry?_eq_some_iff special name base).mp read⟩
  · rintro ⟨other, entry⟩
    have read := (readEntry?_eq_some_iff entry.isSpecial name base).mpr entry
    rw [classify, entry.isSpecial, entry.not_fixed, other, read]
    rfl

/-- A line is a type entry exactly if it does not start like a loop header and its trimmed text is
the mark, a name, a colon and a base with blanks between them and optionally two dashes at the end;
the line determines the name and the base.  Blanks around a line of any kind do not matter. -/
theorem typeEntry_grammar (line : Text) :
    (∀ name base, classify line = .directive (.typeEntry name base) ↔
      line.beginsWith Mark.foreach = false ∧ IsEntry line.trim name base) ∧
    (∀ name base otherName otherBase, IsEntry line.trim name base →
      IsEntry line.trim otherName otherBase → name = otherName ∧ base = otherBase) ∧
    ∀ before after : Text, before.AllBlank → after.AllBlank →
      classify (before ++ line ++ after) = classify line :=
  ⟨classify_eq_typeEntry_iff_isEntry line,
    fun _ _ _ _ entry other => entry.unique other,
    fun _ _ before_blank after_blank => Text.classify_pad before_blank after_blank line⟩

/-- An entry without blanks where they can be left out. -/
def compactEntry : Text := "// --Btn:Button--".toList

theorem isEntry_compactEntry : IsEntry compactEntry.trim "Btn".toList "Button".toList where
  name_word := by decide +kernel
  base_word := by decide +kernel
  written := ⟨⟨[], by simp [Text.AllBlank]⟩, ⟨[], by simp [Text.AllBlank]⟩,
    ⟨[], by simp [Text.AllBlank]⟩, .dashed ⟨[], by simp [Text.AllBlank]⟩, by decide⟩

theorem typeEntry_grammar_compactEntry :
    compactEntry.beginsWith Mark.foreach = false ∧
    IsEntry compactEntry.trim "Btn".toList "Button".toList ∧
    classify compactEntry = .directive (.typeEntry "Btn".toList "Button".toList) ∧
    Text.AllBlank ['\t'] ∧ Text.AllBlank [' ', '\n'] ∧
    classify (['\t'] ++ compactEntry ++ [' ', '\n']) = classify compactEntry := by
  obtain ⟨entry_iff, _, padded⟩ := typeEntry_grammar compactEntry
  have other : compactEntry.beginsWith Mark.foreach = false := by decide
  have before_blank : Text.AllBlank ['\t'] := by decide
  have after_blank : Text.AllBlank [' ', '\n'] := by decide
  exact ⟨other, isEntry_compactEntry, (entry_iff _ _).mpr ⟨other, isEntry_compactEntry⟩,
    before_blank, after_blank, padded _ _ before_blank after_blank⟩

end Stencil

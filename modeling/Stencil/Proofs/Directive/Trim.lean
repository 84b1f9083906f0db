import Mathlib.Data.List.DropRight
import Stencil.Proofs.Directive.Classify
import Stencil.Proofs.Text.Unmarked

/-!
# Blanks around a line

A line is classified as its trimmed text is, so the content that a fault quotes shows what was
wrong with the line.  Every reader of a directive takes something off the front of a text, and
it takes the same off the text without its trailing blanks: the two rests differ by trailing blanks
again.
-/

namespace Stencil

namespace Text

/-! ## Trimming -/

@[simp]
theorem trimEnd_nil : trimEnd [] = [] := rfl

theorem trimEnd_append (left right : Text) :
    trimEnd (left ++ right) =
      if trimEnd right = [] then trimEnd left else left ++ trimEnd right := by
  rw [trimEnd, List.reverse_append, List.dropWhile_append]
  by_cases blank : right.reverse.dropWhile isBlank = [] <;> simp [trimEnd, blank]

/-- A text that does not end in a blank stays whole in front of any other. -/
theorem trimEnd_append_of_trimmed {left : Text} (trimmed : trimEnd left = left) (right : Text) :
    trimEnd (left ++ right) = left ++ trimEnd right := by
  rw [trimEnd_append]
  split
  next blank => rw [trimmed, blank, List.append_nil]
  next => rfl

theorem trimEnd_cons_of_not_isBlank {c : Char} (nonblank : isBlank c = false) (rest : Text) :
    trimEnd (c :: rest) = c :: trimEnd rest := by
  have alone : trimEnd [c] = [c] := by simp [trimEnd, nonblank]
  exact trimEnd_append_of_trimmed alone rest

/-- In front of a text a blank is dropped exactly when nothing else is left of the text. -/
theorem trimEnd_cons_of_isBlank {c : Char} (blank : isBlank c = true) (rest : Text) :
    trimEnd (c :: rest) = if trimEnd rest = [] then [] else c :: trimEnd rest := by
  have alone : trimEnd [c] = [] := by simp [trimEnd, blank]
  simpa [alone] using trimEnd_append [c] rest

@[simp]
theorem trimEnd_trimEnd (text : Text) : trimEnd (trimEnd text) = trimEnd text :=
  List.rdropWhile_idempotent isBlank text

@[simp]
theorem trimStart_trimStart (text : Text) : trimStart (trimStart text) = trimStart text :=
  List.dropWhile_idempotent isBlank text

theorem trimStart_cons_of_isBlank {c : Char} (blank : isBlank c = true) (rest : Text) :
    trimStart (c :: rest) = trimStart rest :=
  List.dropWhile_cons_of_pos blank

theorem trimStart_cons_of_not_isBlank {c : Char} (nonblank : isBlank c = false) (rest : Text) :
    trimStart (c :: rest) = c :: rest :=
  List.dropWhile_cons_of_neg (by simp [nonblank])

theorem not_isBlank_of_trimStart {text rest : Text} {c : Char}
    (starts : trimStart text = c :: rest) : isBlank c = false := by
  have first := List.head?_dropWhile_not isBlank text
  rwa [← trimStart, starts] at first

theorem trimStart_trimEnd (text : Text) : trimStart (trimEnd text) = trimEnd (trimStart text) := by
  induction text with
  | nil => rfl
  | cons c rest ih =>
      cases blank : isBlank c with
      | false =>
          rw [trimEnd_cons_of_not_isBlank blank, trimStart_cons_of_not_isBlank blank,
            trimStart_cons_of_not_isBlank blank, trimEnd_cons_of_not_isBlank blank]
      | true =>
          rw [trimEnd_cons_of_isBlank blank, trimStart_cons_of_isBlank blank, ← ih]
          split
          next none_left => rw [none_left]
          next => exact trimStart_cons_of_isBlank blank _

theorem trim_eq_nil_iff (text : Text) : trim text = [] ↔ trimStart text = [] := by
  rw [trim]
  cases start : trimStart text with
  | nil => simp
  | cons c rest => simp [trimEnd_cons_of_not_isBlank (not_isBlank_of_trimStart start)]

@[simp]
theorem trimStart_trim (text : Text) : trimStart (trim text) = trim text := by
  rw [trim, trimStart_trimEnd, trimStart_trimStart]

@[simp]
theorem trim_trim (text : Text) : trim (trim text) = trim text := by
  rw [trim, trimStart_trim, trim, trimEnd_trimEnd]

/-! ## Reading from the front -/

theorem isPrefixOf?_trimEnd {start : Text} (trimmed : trimEnd start = start) (text : Text) :
    start.isPrefixOf? (trimEnd text) = (start.isPrefixOf? text).map trimEnd := by
  cases found : start.isPrefixOf? text with
  | some rest =>
      obtain rfl := List.isPrefixOf?_eq_some_iff_append_eq.mp found
      rw [trimEnd_append_of_trimmed trimmed]
      exact List.isPrefixOf?_eq_some_iff_append_eq.mpr rfl
  | none =>
      refine Option.eq_none_iff_forall_ne_some.mpr fun rest found_trimmed => ?_
      have start_prefix : start <+: trimEnd text :=
        ⟨rest, List.isPrefixOf?_eq_some_iff_append_eq.mp found_trimmed⟩
      obtain ⟨tail, rfl⟩ := start_prefix.trans (trimEnd_prefix_self text)
      have found_whole : start.isPrefixOf? (start ++ tail) = some tail :=
        List.isPrefixOf?_eq_some_iff_append_eq.mpr rfl
      exact absurd (found.symm.trans found_whole) (by simp)

/-- After blanks something other than blanks has to follow, so trailing blanks do not count as the
blanks in front of it. -/
theorem dropBlanks?_trimEnd {start : Text} (nonempty : start ≠ []) (trimmed : trimEnd start = start)
    (text : Text) :
    (dropBlanks? (trimEnd text)).bind start.isPrefixOf? =
      ((dropBlanks? text).bind start.isPrefixOf?).map trimEnd := by
  have start_nil : start.isPrefixOf? [] = none := by
    cases start with
    | nil => exact absurd rfl nonempty
    | cons => rfl
  cases text with
  | nil => rfl
  | cons c rest =>
      cases blank : isBlank c with
      | false =>
          rw [trimEnd_cons_of_not_isBlank blank]
          simp [dropBlanks?, blank]
      | true =>
          have whole : (dropBlanks? (c :: rest)).bind start.isPrefixOf? =
              start.isPrefixOf? (trimStart rest) := by simp [dropBlanks?, blank]
          rw [whole, ← isPrefixOf?_trimEnd trimmed, ← trimStart_trimEnd,
            trimEnd_cons_of_isBlank blank]
          split
          next none_left => simp [none_left, dropBlanks?, trimStart, start_nil]
          next => simp [dropBlanks?, blank]

theorem beginsWith_iff (text start : Text) :
    text.beginsWith start = true ↔ start <+: text.trimStart :=
  List.isPrefixOf_iff_prefix

theorem beginsWith_of_trim {text start : Text} (begins : text.trim.beginsWith start = true) :
    text.beginsWith start = true := by
  rw [beginsWith_iff, trimStart_trim] at begins
  exact (beginsWith_iff text start).mpr (begins.trans (trim_prefix_trimStart text))

theorem beginsWith_trim {start : Text} (trimmed : trimEnd start = start) (text : Text) :
    text.trim.beginsWith start = text.beginsWith start := by
  refine Bool.eq_iff_iff.mpr ⟨beginsWith_of_trim, fun begins => ?_⟩
  obtain ⟨rest, starts⟩ := (beginsWith_iff text start).mp begins
  rw [beginsWith_iff, trimStart_trim, trim, ← starts, trimEnd_append_of_trimmed trimmed]
  exact List.prefix_append start (trimEnd rest)

theorem isSpecial_trim (text : Text) : text.trim.isSpecial = text.isSpecial :=
  beginsWith_trim (by decide) text

theorem isLine_trim (text fragment : Text) : text.trim.isLine fragment = text.isLine fragment := by
  rw [isLine, isLine, trim_trim]

end Text

namespace Directive

open Text (trimStart trimEnd)

/-! ## Type entries -/

theorem span_isWordChar_trimEnd (text : Text) :
    (trimEnd text).takeWhile isWordChar = text.takeWhile isWordChar ∧
      (trimEnd text).dropWhile isWordChar = trimEnd (text.dropWhile isWordChar) := by
  induction text with
  | nil => exact ⟨rfl, rfl⟩
  | cons c rest ih =>
      cases word : isWordChar c with
      | true =>
          rw [Text.trimEnd_cons_of_not_isBlank (Text.not_isBlank_of_isWordChar word)]
          simpa [word] using ih
      | false =>
          have stays : (c :: rest).dropWhile isWordChar = c :: rest :=
            List.dropWhile_cons_of_neg (by simp [word])
          rw [stays]
          cases blank : isBlank c with
          | false => simp [Text.trimEnd_cons_of_not_isBlank blank, word]
          | true =>
              rw [Text.trimEnd_cons_of_isBlank blank]
              split <;> simp [word]

theorem readWord?_trimEnd (text : Text) :
    readWord? (trimEnd text) = (readWord? text).map (Prod.map id trimEnd) := by
  obtain ⟨word, rest⟩ := span_isWordChar_trimEnd text
  simp only [readWord?, List.span_eq_takeWhile_dropWhile, word, rest]
  cases text.takeWhile isWordChar <;> rfl

theorem isEntryEnd_trimEnd (text : Text) : isEntryEnd (trimEnd text) = isEntryEnd text := by
  rw [isEntryEnd, isEntryEnd, Text.trimStart_trimEnd]
  cases start : trimStart text with
  | nil => rfl
  | cons c rest =>
      rw [Text.trimEnd_cons_of_not_isBlank (Text.not_isBlank_of_trimStart start)]
      by_cases dash : c = '-'
      · subst dash
        cases rest with
        | nil => rfl
        | cons d rest =>
            cases blank : isBlank d with
            | false =>
                rw [Text.trimEnd_cons_of_not_isBlank blank]
                by_cases second : d = '-'
                · subst second
                  have ends : trimStart (trimEnd rest) = [] ↔ trimStart rest = [] := by
                    rw [Text.trimStart_trimEnd]
                    exact Text.trim_eq_nil_iff rest
                  simp only [beq_eq_decide, ends]
                · simp [second]
            | true =>
                have second : d ≠ '-' := by
                  rintro rfl
                  exact absurd blank (by decide)
                rw [Text.trimEnd_cons_of_isBlank blank]
                by_cases left : trimEnd rest = [] <;> simp [left, second]
      · simp [dash]

theorem readEntry?_trim (line : Text) : readEntry? line.trim = readEntry? line := by
  have slashes : trimEnd ['/', '/'] = ['/', '/'] := by decide
  have dashes : trimEnd ['-', '-'] = ['-', '-'] := by decide
  have colon : trimEnd [':'] = [':'] := by decide
  unfold readEntry?
  rw [Text.trimStart_trim, Text.trim, Text.isPrefixOf?_trimEnd slashes]
  simp only [Option.bind_eq_bind, Option.bind_map, Function.comp_def,
    Text.trimStart_trimEnd, Text.isPrefixOf?_trimEnd dashes, Text.isPrefixOf?_trimEnd colon,
    readWord?_trimEnd, isEntryEnd_trimEnd, Prod.map]
  rfl

/-! ## Loop headers -/

theorem readIn?_trimEnd (text : Text) : readIn? (trimEnd text) = (readIn? text).map trimEnd := by
  have word : trimEnd ['i', 'n'] = ['i', 'n'] := by decide
  have bracket : trimEnd ['['] = ['['] := by decide
  have readIn?_eq (text : Text) : readIn? text =
      ((text.dropBlanks?.bind (List.isPrefixOf? ['i', 'n'])).bind fun rest =>
        (Text.dropBlanks? rest).bind (List.isPrefixOf? ['['])) := by
    simp only [readIn?, Option.bind_eq_bind, Option.bind_assoc]
  rw [readIn?_eq, readIn?_eq, Text.dropBlanks?_trimEnd (by simp) word]
  cases text.dropBlanks?.bind (List.isPrefixOf? ['i', 'n']) with
  | none => rfl
  | some rest => exact Text.dropBlanks?_trimEnd (by simp) bracket rest

theorem splitAtIn?_trimEnd (text : Text) :
    splitAtIn? (trimEnd text) = (splitAtIn? text).map (Prod.map id trimEnd) := by
  induction text with
  | nil => rfl
  | cons c rest ih =>
      have read := readIn?_trimEnd rest
      by_cases kept : trimEnd (c :: rest) = c :: trimEnd rest
      · rw [kept, splitAtIn?, splitAtIn?, read, ih]
        cases readIn? rest <;> cases splitAtIn? rest <;> rfl
      · -- Only blanks are left, and neither `in` nor a bracket is found behind them.
        have blank : isBlank c = true := by
          by_contra nonblank
          exact kept (Text.trimEnd_cons_of_not_isBlank (by simpa using nonblank) rest)
        have none_left : trimEnd rest = [] := by
          by_contra left
          exact kept (by rw [Text.trimEnd_cons_of_isBlank blank, if_neg left])
        rw [none_left] at read ih
        have no_in : readIn? rest = none := Option.map_eq_none_iff.mp read.symm
        have no_split : splitAtIn? rest = none := Option.map_eq_none_iff.mp ih.symm
        rw [Text.trimEnd_cons_of_isBlank blank, if_pos none_left, splitAtIn?, splitAtIn?, no_in,
          no_split]
        rfl

/-- The start of a loop header without the blank at its end. -/
def headerWord : Text := "// -- foreach".toList

theorem trimEnd_foreach_append (rest : Text) :
    trimEnd (Mark.foreach ++ rest) =
      if trimEnd rest = [] then headerWord else Mark.foreach ++ trimEnd rest := by
  have trimmed : trimEnd Mark.foreach = headerWord := by decide
  rw [Text.trimEnd_append, trimmed]

theorem readListEnd?_trimEnd (text : Text) : readListEnd? (trimEnd text) = readListEnd? text := by
  rw [readListEnd?, readListEnd?, Text.trimEnd_trimEnd]

theorem readHeader?_of_not_beginsWith {line : Text}
    (other : line.beginsWith Mark.foreach = false) : readHeader? line = none := by
  have none_found : Mark.foreach.isPrefixOf? (trimStart line) = none := by
    refine Option.eq_none_iff_forall_ne_some.mpr fun rest found => ?_
    have begins : line.beginsWith Mark.foreach = true := (Text.beginsWith_iff _ _).mpr
      ⟨rest, List.isPrefixOf?_eq_some_iff_append_eq.mp found⟩
    exact absurd (other.symm.trans begins) (by decide)
  rw [readHeader?, none_found]
  rfl

theorem readHeader?_of_foreach {line rest : Text} (starts : trimStart line = Mark.foreach ++ rest) :
    readHeader? line = (do
      let (vars, rest) ← splitAtIn? (trimStart rest)
      let list ← readListEnd? rest
      if vars.contains '\n' || list.contains '\n' then none
      else
        let vars ← readVars? vars
        some (vars, list)) := by
  have found : Mark.foreach.isPrefixOf? (trimStart line) = some rest :=
    List.isPrefixOf?_eq_some_iff_append_eq.mpr starts.symm
  rw [readHeader?, found]
  rfl

theorem readHeader?_of_blank_rest {line rest : Text}
    (starts : trimStart line = Mark.foreach ++ rest) (blank : trimEnd rest = []) :
    readHeader? line = none := by
  have nothing : trimStart rest = [] := by
    rw [← Text.trim_eq_nil_iff, Text.trim, ← Text.trimStart_trimEnd, blank]
    rfl
  rw [readHeader?_of_foreach starts, nothing]
  rfl

theorem readHeader?_trim (line : Text) : readHeader? line.trim = readHeader? line := by
  cases begins : line.beginsWith Mark.foreach with
  | false =>
      have begins_trimmed : line.trim.beginsWith Mark.foreach = false :=
        Bool.eq_false_iff.mpr fun found =>
          absurd (begins.symm.trans (Text.beginsWith_of_trim found)) (by decide)
      rw [readHeader?_of_not_beginsWith begins, readHeader?_of_not_beginsWith begins_trimmed]
  | true =>
      obtain ⟨rest, starts⟩ := (Text.beginsWith_iff _ _).mp begins
      have trimmed : line.trim = trimEnd (Mark.foreach ++ rest) := by rw [Text.trim, starts]
      rw [trimEnd_foreach_append] at trimmed
      by_cases blank : trimEnd rest = []
      · rw [trimmed, if_pos blank, readHeader?_of_blank_rest starts.symm blank]
        decide
      · have starts_trimmed : trimStart line.trim = Mark.foreach ++ trimEnd rest := by
          rw [Text.trimStart_trim, trimmed, if_neg blank]
        rw [readHeader?_of_foreach starts_trimmed, readHeader?_of_foreach starts.symm,
          Text.trimStart_trimEnd, splitAtIn?_trimEnd]
        cases splitAtIn? (trimStart rest) with
        | none => rfl
        | some split => simp [Prod.map, readListEnd?_trimEnd]

end Directive

/-- A line whose trimmed text no longer starts like a loop header has nothing behind that start. -/
theorem trim_eq_headerWord {line : Text} (begins : line.beginsWith Mark.foreach = true)
    (lost : line.trim.beginsWith Mark.foreach = false) :
    line.trim = Directive.headerWord ∧ Directive.readHeader? line = none := by
  obtain ⟨rest, starts⟩ := (Text.beginsWith_iff _ _).mp begins
  have trimmed : line.trim = Text.trimEnd (Mark.foreach ++ rest) := by rw [Text.trim, starts]
  rw [Directive.trimEnd_foreach_append] at trimmed
  split at trimmed
  next blank => exact ⟨trimmed, Directive.readHeader?_of_blank_rest starts.symm blank⟩
  next =>
    have kept : line.trim.beginsWith Mark.foreach = true := by
      rw [Text.beginsWith_iff, Text.trimStart_trim, trimmed]
      exact List.prefix_append _ _
    exact absurd (lost.symm.trans kept) (by decide)

/-- Blanks around a line do not matter to what it is. -/
theorem classify_trim (line : Text) : classify line.trim = classify line := by
  unfold classify
  simp only [Text.isSpecial_trim, Text.isLine_trim, Directive.readHeader?_trim,
    Directive.readEntry?_trim]
  by_cases same : line.trim.beginsWith Mark.foreach = line.beginsWith Mark.foreach
  · rw [same]
  · -- The bare start of a header is no type entry either, so both are malformed.
    obtain ⟨lost, begins⟩ : line.trim.beginsWith Mark.foreach = false ∧
        line.beginsWith Mark.foreach = true := by
      cases found : line.trim.beginsWith Mark.foreach with
      | true => exact absurd (found.trans (Text.beginsWith_of_trim found).symm) same
      | false => exact ⟨rfl, by simpa [found] using same⟩
    obtain ⟨trimmed, no_header⟩ := trim_eq_headerWord begins lost
    have no_entry : Directive.readEntry? line = none := by
      rw [← Directive.readEntry?_trim, trimmed]
      decide
    simp [no_header, no_entry]

theorem classify_eq_endForeach_iff (text : Text) :
    classify text = .directive .endForeach ↔ text.isLine Mark.endForeach = true := by
  constructor
  · intro ends
    unfold classify at ends
    split at ends
    next => cases ends
    next =>
      split at ends
      next entry directive found =>
        obtain rfl : directive = .endForeach := by simpa using ends
        have same := List.find?_some found
        have fixed := List.mem_of_find?_eq_some found
        obtain rfl : entry = Mark.endForeach := by simpa [Directive.fixed] using fixed
        exact same
      next => split at ends <;> split at ends <;> cases ends
  · intro same
    have trimmed : text.trim = Mark.endForeach := by simpa [Text.isLine] using same
    rw [← classify_trim, trimmed]
    decide

end Stencil

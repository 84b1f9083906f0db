import Stencil.Proofs.Text.Blanks

/-!
# The grammar of loop headers

Behind its start a loop header has variables, the word `in` and a list in brackets, with blanks
between them and two dashes at the end.  `HeaderLayout` keeps these parts.  The text of the list may
hold anything, even what looks like the end of the header or like another `in` and bracket.  A
header is still laid out in one way only: no bracket stands among the variables, so the first one
opens the list, and the last one that only blanks and the dashes follow closes it.
-/

namespace Stencil

namespace Directive

open Text (trimStart trimEnd dropBlanks?)

/-- The parts of a loop header behind its start. -/
@[ext]
structure HeaderLayout where
  beforeVars : Blanks
  vars : Text
  beforeIn : Blanks
  afterIn : Blanks
  list : Text
  beforeDashes : Blanks

namespace HeaderLayout

/-- The list and what closes it. -/
def listText (layout : HeaderLayout) : Text :=
  layout.list ++ ']' :: (layout.beforeDashes.text ++ ['-', '-'])

/-- What stands behind the start of a loop header. -/
def text (layout : HeaderLayout) : Text :=
  layout.beforeVars.text ++ (layout.vars ++ (layout.beforeIn.text ++ 'i' :: 'n' ::
    (layout.afterIn.text ++ '[' :: layout.listText)))

/-- The layout is that of a header of a loop over these variables. -/
structure Declares (layout : HeaderLayout) (vars : List Text) : Prop where
  blank_before_in : layout.beforeIn.text ≠ []
  blank_after_in : layout.afterIn.text ≠ []
  vars_no_feed : '\n' ∉ layout.vars
  list_no_feed : '\n' ∉ layout.list
  vars_start : ∃ c, layout.vars.head? = some c ∧ isBlank c = false
  vars_end : ∃ c, layout.vars.getLast? = some c ∧ isBlank c = false
  vars_eq : (layout.vars.splitOn ',').map Text.trim = vars
  words : ∀ name ∈ vars, name.isWord = true
  distinct : vars.Nodup

end HeaderLayout

/-! ## The word between the variables and the list -/

theorem dropBlanks?_append {blanks : Blanks} {rest : Text} (nonempty : blanks.text ≠ [])
    (visible : trimStart rest = rest) : dropBlanks? (blanks.text ++ rest) = some rest := by
  obtain ⟨text, blank⟩ := blanks
  cases text with
  | nil => exact absurd rfl nonempty
  | cons c others =>
      have others_blank : Text.AllBlank others := fun d member =>
        blank d (List.mem_cons_of_mem c member)
      have dropped : trimStart (others ++ rest) = rest :=
        (Text.trimStart_append_of_allBlank others_blank rest).trans visible
      simp [dropBlanks?, blank c List.mem_cons_self, dropped]

theorem exists_blanks_of_dropBlanks? {text rest : Text} (dropped : dropBlanks? text = some rest) :
    ∃ blanks : Blanks, blanks.text ≠ [] ∧ text = blanks.text ++ rest := by
  cases text with
  | nil => cases dropped
  | cons c others =>
      rw [dropBlanks?] at dropped
      split at dropped
      next blank =>
        obtain rfl := Option.some.inj dropped
        refine ⟨.leading (c :: others), by simp [Blanks.leading, blank], ?_⟩
        rw [← Text.trimStart_cons_of_isBlank blank, Blanks.leading_append_trimStart]
      next => cases dropped

theorem readIn?_append {before after : Blanks} (before_ne : before.text ≠ [])
    (after_ne : after.text ≠ []) (list : Text) :
    readIn? (before.text ++ 'i' :: 'n' :: (after.text ++ '[' :: list)) = some list := by
  have word_visible : trimStart ('i' :: 'n' :: (after.text ++ '[' :: list)) =
      'i' :: 'n' :: (after.text ++ '[' :: list) :=
    Text.trimStart_cons_of_not_isBlank (by decide) _
  have bracket_visible : trimStart ('[' :: list) = '[' :: list :=
    Text.trimStart_cons_of_not_isBlank (by decide) _
  have word_read : List.isPrefixOf? ['i', 'n'] ('i' :: 'n' :: (after.text ++ '[' :: list)) =
      some (after.text ++ '[' :: list) := rfl
  rw [readIn?, dropBlanks?_append before_ne word_visible]
  simp only [Option.bind_eq_bind, Option.bind_some, word_read,
    dropBlanks?_append after_ne bracket_visible]
  rfl

theorem exists_parts_of_readIn? {text list : Text} (read : readIn? text = some list) :
    ∃ before after : Blanks, before.text ≠ [] ∧ after.text ≠ [] ∧
      text = before.text ++ 'i' :: 'n' :: (after.text ++ '[' :: list) := by
  simp only [readIn?, Option.bind_eq_bind, Option.bind_eq_some_iff] at read
  obtain ⟨behindVars, vars_dropped, behindWord, word, behindBlanks, word_dropped, bracket⟩ := read
  obtain ⟨before, before_ne, rfl⟩ := exists_blanks_of_dropBlanks? vars_dropped
  obtain ⟨after, after_ne, rfl⟩ := exists_blanks_of_dropBlanks? word_dropped
  obtain rfl := List.isPrefixOf?_eq_some_iff_append_eq.mp word
  obtain rfl := List.isPrefixOf?_eq_some_iff_append_eq.mp bracket
  exact ⟨before, after, before_ne, after_ne, rfl⟩

theorem readIn?_cons_of_isBlank {c : Char} {rest list : Text} (blank : isBlank c = true)
    (read : readIn? rest = some list) : readIn? (c :: rest) = some list := by
  obtain ⟨⟨before, before_blank⟩, after, before_ne, after_ne, rfl⟩ := exists_parts_of_readIn? read
  let longer : Blanks := ⟨c :: before, List.forall_mem_cons.mpr ⟨blank, before_blank⟩⟩
  have longer_ne : longer.text ≠ [] := List.cons_ne_nil c before
  exact readIn?_append longer_ne after_ne list

/-- The word is not read where more than blanks stands before it: up to the first bracket there
would be more than the two letters of the word. -/
theorem readIn?_eq_none {vars : Text} {c : Char} (member : c ∈ vars) (visible : isBlank c = false)
    (no_bracket : '[' ∉ vars) (before after : Blanks) (list : Text) :
    readIn? (vars ++ (before.text ++ 'i' :: 'n' :: (after.text ++ '[' :: list))) = none := by
  refine Option.eq_none_iff_forall_ne_some.mpr fun other read => ?_
  obtain ⟨otherBefore, otherAfter, _, _, same⟩ := exists_parts_of_readIn? read
  have word : isBlank 'i' = false ∧ isBlank 'n' = false ∧ isBlank '[' = false := by decide
  have letters := congrArg (List.filter fun d => !isBlank d) same
  simp only [List.filter_append, Blanks.filter_text, List.filter_cons, word, Bool.not_false,
    if_true, List.nil_append] at letters
  have in_vars : ∀ d ∈ vars.filter (fun d => !isBlank d), d ≠ '[' := fun d found is_bracket =>
    no_bracket (is_bracket ▸ (List.mem_filter.mp found).1)
  have found : c ∈ vars.filter fun d => !isBlank d :=
    List.mem_filter.mpr ⟨member, by simp [visible]⟩
  generalize vars.filter (fun d => !isBlank d) = seen at letters in_vars found
  match seen with
  | [] => cases found
  | [first] => simp at letters
  | [first, second] => simp at letters
  | first :: second :: third :: more =>
      obtain ⟨_, _, third_eq, _⟩ : first = 'i' ∧ second = 'n' ∧ third = '[' ∧ _ := by
        simpa using letters
      exact in_vars third (by simp) third_eq

theorem splitAtIn?_append {vars : Text} (nonempty : vars ≠ [])
    (vars_end : ∃ c, vars.getLast? = some c ∧ isBlank c = false) (no_bracket : '[' ∉ vars)
    {before after : Blanks} (before_ne : before.text ≠ []) (after_ne : after.text ≠ [])
    (list : Text) :
    splitAtIn? (vars ++ (before.text ++ 'i' :: 'n' :: (after.text ++ '[' :: list))) =
      some (vars, list) := by
  induction vars with
  | nil => exact absurd rfl nonempty
  | cons c rest ih =>
      rw [List.cons_append, splitAtIn?]
      cases rest with
      | nil => simp [readIn?_append before_ne after_ne list]
      | cons d others =>
          have last_eq : (c :: d :: others).getLast? = (d :: others).getLast? :=
            List.getLast?_cons_cons
          rw [last_eq] at vars_end
          have rest_no_bracket : '[' ∉ d :: others := fun member =>
            no_bracket (List.mem_cons_of_mem c member)
          obtain ⟨last, is_last, visible⟩ := vars_end
          rw [readIn?_eq_none (List.mem_of_getLast? is_last) visible rest_no_bracket,
            ih (List.cons_ne_nil d others) ⟨last, is_last, visible⟩ rest_no_bracket]
          rfl

/-- The variables end where blanks begin: one blank earlier the word would have been read too. -/
theorem exists_parts_of_splitAtIn? {text vars list : Text}
    (found : splitAtIn? text = some (vars, list)) (unread : readIn? text = none) :
    (∃ c, vars.getLast? = some c ∧ isBlank c = false) ∧
    ∃ before after : Blanks, before.text ≠ [] ∧ after.text ≠ [] ∧
      text = vars ++ (before.text ++ 'i' :: 'n' :: (after.text ++ '[' :: list)) := by
  induction text generalizing vars with
  | nil => cases found
  | cons c rest ih =>
      rw [splitAtIn?] at found
      cases read : readIn? rest with
      | some behind =>
          rw [read] at found
          obtain ⟨rfl, rfl⟩ := Prod.mk.inj (Option.some.inj found)
          obtain ⟨before, after, before_ne, after_ne, rfl⟩ := exists_parts_of_readIn? read
          refine ⟨⟨c, rfl, ?_⟩, before, after, before_ne, after_ne, rfl⟩
          cases blank : isBlank c with
          | false => rfl
          | true => cases unread.symm.trans (readIn?_cons_of_isBlank blank read)
      | none =>
          rw [read] at found
          obtain ⟨⟨front, behind⟩, split, both⟩ := Option.map_eq_some_iff.mp found
          obtain ⟨rfl, rfl⟩ := Prod.mk.inj both
          obtain ⟨⟨last, is_last, visible⟩, before, after, before_ne, after_ne, rfl⟩ :=
            ih split read
          refine ⟨⟨last, ?_, visible⟩, before, after, before_ne, after_ne, rfl⟩
          rw [List.getLast?_cons, is_last]
          rfl

theorem readIn?_trimStart (text : Text) : readIn? (trimStart text) = none := by
  cases starts : trimStart text with
  | nil => rfl
  | cons c rest => simp [readIn?, dropBlanks?, Text.not_isBlank_of_trimStart starts]

/-! ## The end of the list -/

theorem readListEnd?_eq_some_iff (text list : Text) :
    readListEnd? text = some list ↔
      ∃ before : Blanks, trimEnd text = list ++ ']' :: (before.text ++ ['-', '-']) := by
  constructor
  · intro read
    rw [readListEnd?] at read
    split at read
    next rest dashes =>
      split at read
      next behind bracket =>
        obtain rfl := Option.some.inj read
        have front_eq : trimEnd rest.reverse = behind.reverse ++ [']'] := by
          rw [trimEnd, List.reverse_reverse, bracket, List.reverse_cons]
        refine ⟨.trailing rest.reverse, ?_⟩
        calc trimEnd text
            = rest.reverse ++ ['-', '-'] := by
              rw [← List.reverse_reverse (trimEnd text), dashes]
              simp
          _ = (trimEnd rest.reverse ++ (Blanks.trailing rest.reverse).text) ++ ['-', '-'] := by
              rw [Blanks.trimEnd_append_trailing]
          _ = behind.reverse ++ ']' :: ((Blanks.trailing rest.reverse).text ++ ['-', '-']) := by
              rw [front_eq]
              simp
      next => cases read
    next => cases read
  · rintro ⟨before, ends⟩
    have reversed : (trimEnd text).reverse =
        '-' :: '-' :: (before.text.reverse ++ ']' :: list.reverse) := by
      rw [ends]
      simp
    have blank : ∀ c ∈ before.text.reverse, isBlank c = true := fun c member =>
      before.blank c (List.mem_reverse.mp member)
    have dropped : (before.text.reverse ++ ']' :: list.reverse).dropWhile isBlank =
        ']' :: list.reverse := by
      rw [List.dropWhile_append_of_pos blank]
      rfl
    rw [readListEnd?, reversed]
    simp only [dropped, List.reverse_reverse]

/-! ## The variables -/

theorem readVars?_eq_some_iff (text : Text) (vars : List Text) :
    readVars? text = some vars ↔
      (text.splitOn ',').map Text.trim = vars ∧ (∀ name ∈ vars, name.isWord = true) ∧
        vars.Nodup := by
  rw [readVars?]
  constructor
  · intro read
    split at read
    next passed =>
      obtain rfl := Option.some.inj read
      obtain ⟨words, distinct⟩ := (Bool.and_eq_true _ _).mp passed
      exact ⟨rfl, List.all_eq_true.mp words, of_decide_eq_true distinct⟩
    next => cases read
  · rintro ⟨rfl, words, distinct⟩
    have passed : (((text.splitOn ',').map Text.trim).all Text.isWord &&
        decide ((text.splitOn ',').map Text.trim).Nodup) = true :=
      (Bool.and_eq_true _ _).mpr ⟨List.all_eq_true.mpr words, decide_eq_true distinct⟩
    rw [if_pos passed]

/-- Trimming keeps what is visible. -/
theorem mem_trim_of_visible {text : Text} {c : Char} (member : c ∈ text)
    (visible : isBlank c = false) : c ∈ text.trim := by
  have not_blank (blanks : Blanks) : c ∉ blanks.text := fun found =>
    absurd (visible.symm.trans (blanks.blank c found)) (by decide)
  rw [← Blanks.leading_append_trimStart text] at member
  have behind := (List.mem_append.mp member).resolve_left (not_blank _)
  rw [← Blanks.trimEnd_append_trailing (trimStart text)] at behind
  exact (List.mem_append.mp behind).resolve_right (not_blank _)

theorem mem_intercalate {separator c : Char} {pieces : List Text}
    (member : c ∈ List.intercalate [separator] pieces) (other : c ≠ separator) :
    ∃ piece ∈ pieces, c ∈ piece := by
  induction pieces with
  | nil => simp at member
  | cons piece rest ih =>
      cases rest with
      | nil => exact ⟨piece, List.mem_cons_self, by simpa using member⟩
      | cons next others =>
          rw [List.intercalate_cons_cons, List.mem_append, List.mem_append] at member
          rcases member with (here | at_separator) | later
          · exact ⟨piece, List.mem_cons_self, here⟩
          · exact absurd (List.mem_singleton.mp at_separator) other
          · obtain ⟨found, is_piece, inside⟩ := ih later
            exact ⟨found, List.mem_cons_of_mem piece is_piece, inside⟩

theorem not_isWordChar_bracket : isWordChar '[' = false := by decide +kernel

theorem not_isWordChar_comma : isWordChar ',' = false := by decide +kernel

/-- Variables are words between commas and blanks, so no bracket stands among them. -/
theorem HeaderLayout.Declares.no_bracket {layout : HeaderLayout} {vars : List Text}
    (declares : layout.Declares vars) : '[' ∉ layout.vars := by
  intro member
  have joined : List.intercalate [','] (layout.vars.splitOn ',') = layout.vars :=
    List.intercalate_splitOn ','
  rw [← joined] at member
  obtain ⟨piece, is_piece, inside⟩ := mem_intercalate member (by decide)
  have named : piece.trim ∈ vars := declares.vars_eq ▸ List.mem_map_of_mem is_piece
  exact Text.not_mem_of_isWord not_isWordChar_bracket (declares.words piece.trim named)
    (mem_trim_of_visible inside (by decide))

theorem intercalate_comma_blank (first : Text) (rest : List Text) :
    List.intercalate [',', ' '] (first :: rest) =
      List.intercalate [','] (first :: rest.map (' ' :: ·)) := by
  induction rest generalizing first with
  | nil => simp
  | cons next others ih =>
      rw [List.intercalate_cons_cons, ih next, List.map_cons, List.intercalate_cons_cons,
        List.intercalate_cons_cons_left]
      simp

/-- Words with commas and blanks between them are read as these words. -/
theorem map_trim_splitOn {names : List Text} (nonempty : names ≠ [])
    (words : ∀ name ∈ names, name.isWord = true) :
    ((List.intercalate [',', ' '] names).splitOn ',').map Text.trim = names := by
  obtain ⟨first, rest, rfl⟩ := List.exists_cons_of_ne_nil nonempty
  obtain ⟨first_word, rest_words⟩ := List.forall_mem_cons.mp words
  have no_comma {name : Text} (word : name.isWord = true) : ',' ∉ name :=
    Text.not_mem_of_isWord not_isWordChar_comma word
  have pieces_no_comma : ∀ piece ∈ first :: rest.map (' ' :: ·), ',' ∉ piece := by
    intro piece member
    rcases List.mem_cons.mp member with rfl | later
    · exact no_comma first_word
    · obtain ⟨name, is_name, rfl⟩ := List.mem_map.mp later
      simp [no_comma (rest_words name is_name)]
  have trimmed : rest.map (fun name => Text.trim (' ' :: name)) = rest := by
    have each : ∀ name ∈ rest, Text.trim (' ' :: name) = name := fun name is_name => by
      rw [Text.trim, Text.trimStart_cons_of_isBlank (by decide), ← Text.trim,
        Text.trim_word (rest_words name is_name)]
    exact (List.map_congr_left each).trans (List.map_id' rest)
  rw [intercalate_comma_blank, List.splitOn_intercalate ',' pieces_no_comma (by simp),
    List.map_cons, Text.trim_word first_word, List.map_map]
  exact congrArg (first :: ·) trimmed

/-! ## Headers -/

namespace HeaderLayout.Declares

variable {layout other : HeaderLayout} {vars otherVars : List Text}

theorem vars_ne (declares : layout.Declares vars) : layout.vars ≠ [] := by
  intro empty
  obtain ⟨c, starts, _⟩ := declares.vars_start
  rw [empty] at starts
  cases starts

theorem trimStart_vars_append (declares : layout.Declares vars) (rest : Text) :
    trimStart (layout.vars ++ rest) = layout.vars ++ rest := by
  obtain ⟨c, starts, visible⟩ := declares.vars_start
  obtain ⟨others, vars_eq⟩ := List.head?_eq_some_iff.mp starts
  rw [vars_eq]
  exact Text.trimStart_cons_of_not_isBlank visible _

theorem splitAtIn?_eq (declares : layout.Declares vars) :
    splitAtIn? (trimStart layout.text) = some (layout.vars, layout.listText) := by
  rw [text, Blanks.trimStart_append, declares.trimStart_vars_append]
  exact splitAtIn?_append declares.vars_ne declares.vars_end declares.no_bracket
    declares.blank_before_in declares.blank_after_in layout.listText

end HeaderLayout.Declares

theorem HeaderLayout.trimEnd_listText (layout : HeaderLayout) :
    trimEnd layout.listText = layout.listText := by
  have dashes : trimEnd ['-', '-'] = ['-', '-'] := by decide
  have visible := Text.trimEnd_append_of_visible dashes (by simp)
    (layout.list ++ ']' :: layout.beforeDashes.text)
  simpa [listText] using visible

theorem HeaderLayout.readListEnd?_eq (layout : HeaderLayout) :
    readListEnd? layout.listText = some layout.list :=
  (readListEnd?_eq_some_iff _ _).mpr ⟨layout.beforeDashes, layout.trimEnd_listText⟩

theorem HeaderLayout.Declares.readHeader?_eq {layout : HeaderLayout} {vars : List Text}
    (declares : layout.Declares vars) {line : Text}
    (starts : trimStart line = Mark.foreach ++ layout.text) :
    readHeader? line = some (vars, layout.list) := by
  have vars_read := (readVars?_eq_some_iff layout.vars vars).mpr
    ⟨declares.vars_eq, declares.words, declares.distinct⟩
  rw [readHeader?_of_foreach starts, declares.splitAtIn?_eq]
  simp [layout.readListEnd?_eq, declares.vars_no_feed, declares.list_no_feed, vars_read]

/-- A header is laid out in one way. -/
theorem HeaderLayout.Declares.layout_unique {layout other : HeaderLayout}
    {vars otherVars : List Text} (declares : layout.Declares vars)
    (other_declares : other.Declares otherVars) (same : layout.text = other.text) :
    layout = other := by
  obtain ⟨before_eq, rest_eq⟩ := Blanks.append_inj (declares.trimStart_vars_append _)
    (other_declares.trimStart_vars_append _) same
  have split := declares.splitAtIn?_eq
  rw [same, other_declares.splitAtIn?_eq] at split
  obtain ⟨vars_eq, list_eq⟩ := Prod.mk.inj (Option.some.inj split)
  rw [vars_eq] at rest_eq
  have word_visible (rest : Text) : trimStart ('i' :: 'n' :: rest) = 'i' :: 'n' :: rest :=
    Text.trimStart_cons_of_not_isBlank (by decide) _
  have bracket_visible (rest : Text) : trimStart ('[' :: rest) = '[' :: rest :=
    Text.trimStart_cons_of_not_isBlank (by decide) _
  obtain ⟨before_in_eq, word_eq⟩ := Blanks.append_inj (word_visible _) (word_visible _)
    (List.append_cancel_left rest_eq)
  obtain ⟨after_in_eq, _⟩ := Blanks.append_inj (bracket_visible _) (bracket_visible _)
    (List.cons.inj (List.cons.inj word_eq).2).2
  have list_read := layout.readListEnd?_eq
  rw [← list_eq, other.readListEnd?_eq] at list_read
  have lists_eq := Option.some.inj list_read
  have dashes_eq : other.beforeDashes.text = layout.beforeDashes.text := by
    rw [listText, listText, lists_eq] at list_eq
    exact List.append_cancel_right (List.cons.inj (List.append_cancel_left list_eq)).2
  exact HeaderLayout.ext before_eq vars_eq.symm before_in_eq after_in_eq lists_eq.symm
    (Blanks.ext dashes_eq.symm)

/-- What stands behind a visible character at the end of a trimmed line is trimmed at its end. -/
theorem trimEnd_of_trim_eq {line front rest : Text} {c : Char} (visible : isBlank c = false)
    (line_eq : line.trim = front ++ c :: rest) : trimEnd rest = rest := by
  have trimmed : trimEnd line.trim = line.trim := Text.trimEnd_trimEnd _
  have alone : trimEnd [c] = [c] := by simp [trimEnd, visible]
  have kept := Text.trimEnd_append_of_visible alone (by simp) front
  rw [line_eq, ← List.singleton_append, ← List.append_assoc,
    Text.trimEnd_append_of_trimmed kept] at trimmed
  exact List.append_cancel_left trimmed

/-- A line that is read as a loop header is laid out as one, blanks around it aside. -/
theorem exists_layout_of_readHeader? {line list : Text} {vars : List Text}
    (read : readHeader? line = some (vars, list)) :
    ∃ layout : HeaderLayout, line.trim = Mark.foreach ++ layout.text ∧ layout.Declares vars ∧
      layout.list = list := by
  rw [← readHeader?_trim] at read
  have begins : line.trim.beginsWith Mark.foreach = true := by
    by_contra other
    rw [readHeader?_of_not_beginsWith (by simpa using other)] at read
    cases read
  obtain ⟨rest, starts⟩ := (Text.beginsWith_iff _ _).mp begins
  rw [readHeader?_of_foreach starts.symm] at read
  simp only [Option.bind_eq_bind, Option.bind_eq_some_iff] at read
  obtain ⟨⟨written, behind⟩, split, found, list_read, checked⟩ := read
  split at checked
  next => cases checked
  next no_feed =>
    obtain ⟨names, names_read, both⟩ := Option.bind_eq_some_iff.mp checked
    obtain ⟨rfl, rfl⟩ : vars = names ∧ list = found := Prod.mk.inj (Option.some.inj both.symm)
    obtain ⟨vars_eq, words, distinct⟩ := (readVars?_eq_some_iff _ _).mp names_read
    obtain ⟨vars_end, before, after, before_ne, after_ne, rest_eq⟩ :=
      exists_parts_of_splitAtIn? split (readIn?_trimStart rest)
    obtain ⟨beforeDashes, list_eq⟩ := (readListEnd?_eq_some_iff _ _).mp list_read
    have line_eq : line.trim = Mark.foreach ++ ((Blanks.leading rest).text ++ (written ++
        (before.text ++ 'i' :: 'n' :: (after.text ++ '[' :: behind)))) := by
      rw [← rest_eq, Blanks.leading_append_trimStart, starts, Text.trimStart_trim]
    have behind_trimmed : trimEnd behind = behind := by
      have open_eq : line.trim = (Mark.foreach ++ ((Blanks.leading rest).text ++ (written ++
          (before.text ++ 'i' :: 'n' :: after.text)))) ++ '[' :: behind := by
        rw [line_eq]
        simp
      exact trimEnd_of_trim_eq (by decide) open_eq
    have vars_start : ∃ c, written.head? = some c ∧ isBlank c = false := by
      cases written with
      | nil =>
          obtain ⟨c, is_last, _⟩ := vars_end
          cases is_last
      | cons c others => exact ⟨c, rfl, Text.not_isBlank_of_trimStart rest_eq⟩
    obtain ⟨written_no_feed, list_no_feed⟩ : '\n' ∉ written ∧ '\n' ∉ list := by
      simpa using no_feed
    refine ⟨⟨.leading rest, written, before, after, list, beforeDashes⟩, ?_,
      ⟨before_ne, after_ne, written_no_feed, list_no_feed, vars_start, vars_end, vars_eq, words,
        distinct⟩, rfl⟩
    rw [line_eq, ← behind_trimmed, list_eq]
    rfl

theorem readHeader?_eq_some_iff (line list : Text) (vars : List Text) :
    readHeader? line = some (vars, list) ↔
      ∃ layout : HeaderLayout, line.trim = Mark.foreach ++ layout.text ∧ layout.Declares vars ∧
        layout.list = list := by
  refine ⟨exists_layout_of_readHeader?, ?_⟩
  rintro ⟨layout, line_eq, declares, rfl⟩
  rw [← readHeader?_trim]
  exact declares.readHeader?_eq ((Text.trimStart_trim line).trans line_eq)

end Directive

open Directive (HeaderLayout readHeader?_eq_some_iff)

theorem classify_eq_foreach_iff_readHeader? (line list : Text) (vars : List Text) :
    classify line = .directive (.foreach vars list) ↔
      Directive.readHeader? line = some (vars, list) := by
  cases begins : line.beginsWith Mark.foreach with
  | true =>
      rw [classify_eq_of_beginsWith_foreach begins]
      cases Directive.readHeader? line <;> simp [Prod.ext_iff]
  | false =>
      rw [Directive.readHeader?_of_not_beginsWith begins]
      refine iff_of_false (fun header => ?_) (by simp)
      exact absurd (begins.symm.trans (beginsWith_foreach_of_classify header)) (by decide)

/-- A header names at least one variable, by words without repetition. -/
theorem vars_of_classify {line list : Text} {vars : List Text}
    (header : classify line = .directive (.foreach vars list)) :
    vars ≠ [] ∧ (∀ name ∈ vars, name.isWord = true) ∧ vars.Nodup := by
  rw [classify_eq_foreach_iff_readHeader?, Directive.readHeader?_eq_some_iff] at header
  obtain ⟨layout, _, declares, _⟩ := header
  refine ⟨?_, declares.words, declares.distinct⟩
  rw [← declares.vars_eq]
  simp

/-! ## Headers that are written with given names -/

/-- Words with commas and blanks between them start and end with word characters. -/
theorem ends_of_joined {names : List Text} (nonempty : names ≠ [])
    (words : ∀ name ∈ names, name.isWord = true) :
    (∃ c, (List.intercalate [',', ' '] names).head? = some c ∧ isWordChar c = true) ∧
    ∃ c, (List.intercalate [',', ' '] names).getLast? = some c ∧ isWordChar c = true := by
  induction names with
  | nil => exact absurd rfl nonempty
  | cons first rest ih =>
      obtain ⟨first_word, rest_words⟩ := List.forall_mem_cons.mp words
      obtain ⟨c, tail, rfl, c_word⟩ := Text.exists_cons_of_isWord first_word
      cases rest with
      | nil =>
          rw [List.intercalate_singleton]
          have last := List.getLast?_eq_some_getLast (List.cons_ne_nil c tail)
          exact ⟨⟨c, rfl, c_word⟩, _, last,
            Text.all_of_isWord first_word _ (List.mem_of_getLast? last)⟩
      | cons next others =>
          obtain ⟨_, last, is_last, last_word⟩ := ih (List.cons_ne_nil next others) rest_words
          rw [List.intercalate_cons_cons]
          refine ⟨⟨c, rfl, c_word⟩, last, ?_, last_word⟩
          rw [List.getLast?_append, is_last]
          rfl

theorem not_mem_feed_of_joined {names : List Text} (words : ∀ name ∈ names, name.isWord = true) :
    '\n' ∉ List.intercalate [',', ' '] names := by
  intro member
  cases names with
  | nil => cases member
  | cons first rest =>
      rw [Directive.intercalate_comma_blank] at member
      obtain ⟨piece, is_piece, inside⟩ := Directive.mem_intercalate member (by decide)
      rcases List.mem_cons.mp is_piece with rfl | later
      · exact Text.not_mem_feed_of_isWord (words _ List.mem_cons_self) inside
      · obtain ⟨name, is_name, rfl⟩ := List.mem_map.mp later
        have in_name := (List.mem_cons.mp inside).resolve_left (by decide)
        exact Text.not_mem_feed_of_isWord (words name (List.mem_cons_of_mem _ is_name)) in_name

namespace Directive

/-- The usual layout of a header: one blank where blanks have to be. -/
def plainLayout (names : List Text) (list : Text) : HeaderLayout where
  beforeVars := ⟨[], by simp [Text.AllBlank]⟩
  vars := List.intercalate [',', ' '] names
  beforeIn := ⟨[' '], by decide⟩
  afterIn := ⟨[' '], by decide⟩
  list := list
  beforeDashes := ⟨[' '], by decide⟩

theorem plainLayout_declares {names : List Text} {list : Text} (nonempty : names ≠ [])
    (words : ∀ name ∈ names, name.isWord = true) (distinct : names.Nodup)
    (no_feed : '\n' ∉ list) : (plainLayout names list).Declares names where
  blank_before_in := List.cons_ne_nil _ _
  blank_after_in := List.cons_ne_nil _ _
  vars_no_feed := not_mem_feed_of_joined words
  list_no_feed := no_feed
  vars_start := by
    obtain ⟨⟨c, starts, c_word⟩, _⟩ := ends_of_joined nonempty words
    exact ⟨c, starts, Text.not_isBlank_of_isWordChar c_word⟩
  vars_end := by
    obtain ⟨_, c, is_last, c_word⟩ := ends_of_joined nonempty words
    exact ⟨c, is_last, Text.not_isBlank_of_isWordChar c_word⟩
  vars_eq := map_trim_splitOn nonempty words
  words := words
  distinct := distinct

end Directive

/-- The line of a loop over a list with given names. -/
def headerLine (names : List Text) (list : Text) : Text :=
  Mark.foreach ++ List.intercalate ", ".toList names ++ " in [".toList ++ list ++ "] --".toList

theorem classify_headerLine {names : List Text} {list : Text} (nonempty : names ≠ [])
    (words : ∀ name ∈ names, name.isWord = true) (distinct : names.Nodup)
    (no_feed : '\n' ∉ list) :
    classify (headerLine names list) = .directive (.foreach names list) := by
  have declares := Directive.plainLayout_declares nonempty words distinct no_feed
  have line_eq : headerLine names list =
      Mark.foreach ++ (Directive.plainLayout names list).text := by
    simp [headerLine, HeaderLayout.text, HeaderLayout.listText, Directive.plainLayout]
  have starts : Text.trimStart (headerLine names list) =
      Mark.foreach ++ (Directive.plainLayout names list).text := by
    rw [line_eq]
    exact Text.trimStart_cons_of_not_isBlank (by decide) _
  exact (classify_eq_foreach_iff_readHeader? _ _ _).mpr (declares.readHeader?_eq starts)

/-- A line is a loop header exactly if its trimmed text is laid out as one, in at most one way.  So
names and a list that are written into a header are read back whatever the text of the list. -/
theorem foreach_grammar :
    (∀ line list vars, classify line = .directive (.foreach vars list) ↔
      ∃ layout : HeaderLayout, line.trim = Mark.foreach ++ layout.text ∧ layout.Declares vars ∧
        layout.list = list) ∧
    (∀ (layout other : HeaderLayout) (vars otherVars : List Text), layout.Declares vars →
      other.Declares otherVars → layout.text = other.text → layout = other ∧ vars = otherVars) ∧
    ∀ (names : List Text) (list : Text), names ≠ [] → (∀ name ∈ names, name.isWord = true) →
      names.Nodup → '\n' ∉ list →
      classify (headerLine names list) = .directive (.foreach names list) := by
  refine ⟨fun line list vars => ?_,
    fun layout other vars otherVars declares other_declares same => ?_,
    fun names list => classify_headerLine⟩
  · rw [classify_eq_foreach_iff_readHeader?, readHeader?_eq_some_iff]
  · obtain rfl := declares.layout_unique other_declares same
    exact ⟨rfl, declares.vars_eq.symm.trans other_declares.vars_eq⟩

/-- A list that holds what closes a header and what opens another list. -/
def deceptiveList : Text := "']', \" -- in [\"] -- in [".toList

/-- Names that look like the word behind them. -/
def deceptiveNames : List Text := ["in".toList, "inn".toList]

theorem foreach_grammar_deceptive :
    deceptiveNames ≠ [] ∧ (∀ name ∈ deceptiveNames, name.isWord = true) ∧ deceptiveNames.Nodup ∧
    '\n' ∉ deceptiveList ∧
    (Directive.plainLayout deceptiveNames deceptiveList).Declares deceptiveNames ∧
    classify (headerLine deceptiveNames deceptiveList) =
      .directive (.foreach deceptiveNames deceptiveList) := by
  have nonempty : deceptiveNames ≠ [] := List.cons_ne_nil _ _
  have words : ∀ name ∈ deceptiveNames, name.isWord = true := by decide +kernel
  have distinct : deceptiveNames.Nodup := by decide
  have no_feed : '\n' ∉ deceptiveList := by decide
  obtain ⟨_, _, read_back⟩ := foreach_grammar
  exact ⟨nonempty, words, distinct, no_feed,
    Directive.plainLayout_declares nonempty words distinct no_feed,
    read_back deceptiveNames deceptiveList nonempty words distinct no_feed⟩

end Stencil

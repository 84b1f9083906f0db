import Stencil.Proofs.Section.Unmarked
import Stencil.Proofs.Template.Padding

/-!
# Templates without directives

A template without directives is copied below the notice.  Only line ends change: a carriage return
before a line feed is dropped, and the last line is ended if it was not.  Cutting a text into lines
and ending each of them again does just that, and neither pass touches a plain line.
-/

namespace Stencil

/-! ## Cutting and ending lines -/

namespace Text

/-- The text with every line end written as a line feed, and with a line end behind the last
line. -/
def withLineEnds (text : Text) : Text :=
  let unified := text.replaceAll ['\r', '\n'] ['\n']
  if text = [] ∨ text.getLast? = some '\n' then unified else unified ++ ['\n']

theorem replaceAll_lineEnd (rest : Text) :
    replaceAll ('\r' :: '\n' :: rest) ['\r', '\n'] ['\n'] =
      '\n' :: replaceAll rest ['\r', '\n'] ['\n'] := by
  simp [replaceAll, replaceFrom]

theorem replaceAll_other {c : Char} {rest : Text} (other : ¬['\r', '\n'] <+: c :: rest) :
    replaceAll (c :: rest) ['\r', '\n'] ['\n'] = c :: replaceAll rest ['\r', '\n'] ['\n'] := by
  have not_found : ¬List.isPrefixOf ['\r', '\n'] (c :: rest) = true := by
    rwa [List.isPrefixOf_iff_prefix]
  rw [replaceAll, replaceFrom_zero_cons, if_neg not_found]
  rfl

/-- In front of other text a character is copied, unless it starts a line end. -/
theorem withLineEnds_cons {c : Char} {rest : Text} (rest_ne : rest ≠ [])
    (other : ¬['\r', '\n'] <+: c :: rest) :
    withLineEnds (c :: rest) = c :: withLineEnds rest := by
  have last : (c :: rest).getLast? = rest.getLast? := List.getLast?_cons_of_ne_nil rest_ne
  unfold withLineEnds
  simp only [reduceCtorEq, rest_ne, false_or, last, replaceAll_other other]
  split <;> rfl

theorem withLineEnds_feed (rest : Text) :
    withLineEnds ('\n' :: rest) = '\n' :: withLineEnds rest := by
  by_cases rest_nil : rest = []
  · subst rest_nil
    decide
  · exact withLineEnds_cons rest_nil (by simp)

theorem withLineEnds_return_feed (rest : Text) :
    withLineEnds ('\r' :: '\n' :: rest) = '\n' :: withLineEnds rest := by
  rw [← withLineEnds_feed]
  have feed : replaceAll ('\n' :: rest) ['\r', '\n'] ['\n'] =
      '\n' :: replaceAll rest ['\r', '\n'] ['\n'] := replaceAll_other (by simp)
  simp [withLineEnds, replaceAll_lineEnd, feed, List.getLast?_cons_cons]

theorem lines_eq_nil_iff (text : Text) : lines text = [] ↔ text = [] := by
  fun_cases lines text <;> simp_all

/-- The lines of a text, each of them ended, are the text with its line ends written alike. -/
theorem endLines_lines (text : Text) : Section.endLines text.lines = text.withLineEnds := by
  fun_induction lines text with
  | case1 => decide
  | case2 rest ih =>
      rw [withLineEnds_feed, ← ih]
      rfl
  | case3 rest ih =>
      rw [withLineEnds_return_feed, ← ih]
      rfl
  | case4 c rest not_feed _ none_left =>
      obtain rfl := (lines_eq_nil_iff rest).mp none_left
      have alone : replaceAll [c] ['\r', '\n'] ['\n'] = [c] := replaceAll_other (by simp)
      have unended : ¬([c] = [] ∨ [c].getLast? = some '\n') := by simpa using not_feed
      rw [withLineEnds, if_neg unended, alone]
      rfl
  | case5 c rest _ not_return first others found ih =>
      have rest_ne : rest ≠ [] := by
        rintro rfl
        cases found
      have other : ¬['\r', '\n'] <+: c :: rest := by
        rintro ⟨tail, starts⟩
        obtain ⟨rfl, rfl⟩ := List.cons.inj starts
        exact not_return tail rfl rfl
      rw [withLineEnds_cons rest_ne other, ← ih, found]
      rfl

end Text

/-! ## Plain lines in both passes -/

namespace Loop

theorem isControl_of_plain {line : Line} (plain : classify line.text = .plain) :
    isControl line = false := by
  rw [isControl, Bool.or_eq_false_iff, Bool.eq_false_iff, Bool.eq_false_iff]
  constructor
  · intro begins
    rcases classify_of_beginsWith_foreach begins with unknown | ⟨vars, list, header⟩
    · cases unknown.symm.trans plain
    · cases header.symm.trans plain
  · intro ends
    cases ((classify_eq_endForeach_iff line.text).mpr ends).symm.trans plain

theorem run_of_free {lines : List Line} (free : ∀ line ∈ lines, isControl line = false)
    (output : List Line) : State.run ⟨none, output⟩ lines = .ok ⟨none, output ++ lines⟩ := by
  induction lines generalizing output with
  | nil => simp
  | cons line rest ih =>
      obtain ⟨line_free, rest_free⟩ := List.forall_mem_cons.mp free
      have kept := ih rest_free (output ++ [line])
      rw [State.run_cons_ok (State.feed_free _ line_free)]
      simpa [State.apply] using kept

/-- Lines that neither start nor end a loop are put as they are. -/
theorem expand_of_free {lines : List Line} (free : ∀ line ∈ lines, isControl line = false) :
    expand lines = .ok lines :=
  (expand_eq_ok_iff_run lines lines).mpr (run_of_free free [])

end Loop

namespace Template

theorem texts_ofText (template : Text) : (Line.ofText template).map Line.text = template.lines := by
  have texts : (fun place : Text × Nat => (Line.mk place.2 place.1).text) = Prod.fst := rfl
  rw [Line.ofText, List.map_map, Function.comp_def, texts, List.zipIdx_map_fst]

/-- A template without directives is copied below the notice, with its line ends written alike. -/
theorem generate_of_plain (style : Style) {template : Text}
    (plain : ∀ line ∈ Line.ofText template, line.text.isSpecial = false) :
    generate style template = .ok (banner ++ template.withLineEnds) := by
  have all_plain : ∀ line ∈ Line.ofText template, classify line.text = .plain :=
    fun line member => (classify_eq_plain_iff line.text).mpr (plain line member)
  have expanded : Loop.expand (Line.ofText template) = .ok (Line.ofText template) :=
    Loop.expand_of_free fun line member => Loop.isControl_of_plain (all_plain line member)
  have copied : Section.compile style (Line.ofText template) = .ok template.withLineEnds := by
    rw [Section.compile_of_plain style all_plain, texts_ofText, Text.endLines_lines]
  have read : passes style (Line.ofText template) = .ok template.withLineEnds := by
    rw [passes, expanded]
    exact copied
  rw [generate_eq_passes, read]
  rfl

/-- Blank lines, a mark that does not start its line, carriage returns with and without a line feed
behind them, and no line end behind the last line. -/
def mixedLineEnds : Text := "a; // -- b\r\r\n\r\n\nc\rd\r".toList

/-- Only the carriage return of each line end is dropped, and a line end is added. -/
theorem generate_mixedLineEnds :
    (∀ line ∈ Line.ofText mixedLineEnds, line.text.isSpecial = false) ∧
      generate Style.standard mixedLineEnds =
        .ok (banner ++ "a; // -- b\r\n\n\nc\rd\r\n".toList) := by
  have plain : ∀ line ∈ Line.ofText mixedLineEnds, line.text.isSpecial = false := by decide
  have ends : mixedLineEnds.withLineEnds = "a; // -- b\r\n\n\nc\rd\r\n".toList := by decide
  exact ⟨plain, ends ▸ generate_of_plain Style.standard plain⟩

end Template

end Stencil

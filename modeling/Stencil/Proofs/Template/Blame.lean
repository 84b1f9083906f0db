import Stencil.Proofs.Loop.Fault
import Stencil.Proofs.Section.Fault
import Stencil.Template

/-!
# Faults point at the responsible line

A template goes through two passes, and the second one sees copies of its lines that loops have
filled.  Every copy keeps the number of its line, so each fault of either pass carries the number of
a line of the template.  `Blames` says for each kind of fault what is wrong with that line, and
the central theorem says that every fault is of this form.
-/

namespace Stencil

/-! ## Numbers -/

/-- The numbers of lines that a fault carries. -/
def Fault.lineNumbers : Fault → List Nat
  | .malformedDirective line _ => [line]
  | .invalidList line _ _ => [line]
  | .unmatchedEnd line _ => [line]
  | .nestedLoop line openedAt _ => [line, openedAt]
  | .unclosedLoop line => [line]
  | .loopArity line _ _ _ => [line]
  | .unclosedSection _ line => [line]

/-- The lines of a template are its texts at their places, counted from one. -/
theorem Line.mem_ofText_iff (template : Text) (line : Line) :
    line ∈ Line.ofText template ↔
      1 ≤ line.number ∧ template.lines[line.number - 1]? = some line.text := by
  obtain ⟨number, text⟩ := line
  simp [Line.ofText, List.mem_zipIdx_iff_le_and_getElem?_sub]

theorem Line.length_ofText (template : Text) :
    (Line.ofText template).length = template.lines.length := by
  simp [Line.ofText]

theorem Line.number_le_of_mem_ofText {template : Text} {line : Line}
    (member : line ∈ Line.ofText template) :
    1 ≤ line.number ∧ line.number ≤ (Line.ofText template).length := by
  obtain ⟨positive, found⟩ := (Line.mem_ofText_iff template line).mp member
  obtain ⟨bound, _⟩ := List.getElem?_eq_some_iff.mp found
  rw [Line.length_ofText]
  omega

theorem ordered_ofText (template : Text) : Loop.Ordered (Line.ofText template) := by
  have numbers : (Line.ofText template).map Line.number = List.range' 1 template.lines.length := by
    simp [Line.ofText, Function.comp_def]
  have grow : ((Line.ofText template).map Line.number).Pairwise (· < ·) := by
    rw [numbers]
    exact List.pairwise_lt_range' 1
  exact List.pairwise_map.mp grow

namespace Template

open Loop (IsHeader IsEnd FirstMisfit ClosedLoop)

/-! ## Copies -/

/-- The texts in which a line can reach the second pass: its own, or with the values of an element
in the places of the variables, if it stands in the body of a loop. -/
inductive IsCopy (lines : List Line) (line : Line) : Text → Prop where
  /-- The line itself. -/
  | same : IsCopy lines line line.text
  /-- The line filled by the loop around it. -/
  | filled {loop : ClosedLoop} {item : Literal} (around : loop.lines <:+: lines)
    (inside : line ∈ loop.body) (element : item ∈ loop.items) :
    IsCopy lines line (line.text.fill (Loop.bindings loop.vars item))

/-- Every line that the first pass puts is a copy of a line with its number. -/
theorem exists_isCopy_of_expand {lines expanded : List Line}
    (done : Loop.expand lines = .ok expanded) {put : Line} (member : put ∈ expanded) :
    ∃ line ∈ lines, put.number = line.number ∧ IsCopy lines line put.text := by
  have run := (Loop.expand_eq_ok_iff_run lines expanded).mp done
  obtain ⟨added, rfl, pieces, rfl, rfl⟩ := Loop.completes_of_run lines none [] expanded run
  obtain ⟨piece, piece_mem, put_mem⟩ := List.mem_flatMap.mp (by simpa using member)
  cases piece with
  | free line free =>
      obtain rfl := List.mem_singleton.mp put_mem
      exact ⟨put, List.mem_flatMap.mpr ⟨_, piece_mem, by simp [Loop.Piece.lines]⟩, rfl, .same⟩
  | closed loop =>
      have around : loop.lines <:+: pieces.flatMap Loop.Piece.lines := by
        obtain ⟨front, back, rfl⟩ := List.append_of_mem piece_mem
        refine ⟨front.flatMap Loop.Piece.lines, back.flatMap Loop.Piece.lines, ?_⟩
        simp [Loop.Piece.lines]
      obtain ⟨item, element, copied⟩ := List.mem_flatMap.mp put_mem
      obtain ⟨line, inside, rfl⟩ := List.mem_map.mp copied
      refine ⟨line, around.subset ?_, rfl, .filled around inside element⟩
      simp [ClosedLoop.lines, inside]

/-! ## Blame -/

/-- What a fault says about the lines of the template that it names. -/
inductive Blames (style : Style) (lines : List Line) : Fault → Prop where
  /-- The line, or a filled copy of it, is malformed. -/
  | malformedDirective {line : Line} {copy : Text} (present : line ∈ lines)
    (copied : IsCopy lines line copy) (unknown : classify copy.trim = .unknown) :
    Blames style lines (.malformedDirective line.number copy.trim)
  /-- The line is a header, and its list cannot be read for this reason. -/
  | invalidList {header : Line} {vars : List Text} {list : Text} {reason : Literal.Fault}
    (present : header ∈ lines)
    (header_eq : classify header.text = .directive (.foreach vars list))
    (unreadable : Literal.readList list = .error reason) :
    Blames style lines (.invalidList header.number list reason)
  /-- The line is a header, and the element is the first one that does not fit its variables. -/
  | loopArity {header : Line} {vars : List Text} {list : Text} {items : List Literal}
    {index found : Nat} (present : header ∈ lines)
    (header_eq : classify header.text = .directive (.foreach vars list))
    (items_eq : Literal.readList list = .ok items)
    (misfit : FirstMisfit vars.length items index found) :
    Blames style lines (.loopArity header.number index vars.length found)
  /-- Both lines are headers, and no loop is ended between them. -/
  | nestedLoop {outer inner : Line} (outer_present : outer ∈ lines) (outer_header : IsHeader outer)
    (inner_present : inner ∈ lines) (inner_header : IsHeader inner)
    (order : outer.number < inner.number)
    (unended : ∀ line ∈ lines, outer.number < line.number → line.number < inner.number →
      ¬IsEnd line) :
    Blames style lines (.nestedLoop inner.number outer.number inner.text.trim)
  /-- The line ends a loop, and every header before it has an end of its own before it. -/
  | unmatchedEnd {closing : Line} (present : closing ∈ lines) (ends : IsEnd closing)
    (ended : ∀ header ∈ lines, header.number < closing.number → IsHeader header →
      ∃ line ∈ lines, header.number < line.number ∧ line.number < closing.number ∧ IsEnd line) :
    Blames style lines (.unmatchedEnd closing.number closing.text.trim)
  /-- The line is a header, and no loop is ended after it. -/
  | unclosedLoop {header : Line} (present : header ∈ lines) (is_header : IsHeader header)
    (unended : ∀ line ∈ lines, header.number < line.number → ¬IsEnd line) :
    Blames style lines (.unclosedLoop header.number)
  /-- A copy of the line opens the section after lines that can be read, and no line put after it
  closes the section. -/
  | unclosedSection {line opener : Line} {before after : List Line} {kind : SectionKind}
    {text : Text} (present : line ∈ lines) (number_eq : opener.number = line.number)
    (copied : IsCopy lines line opener.text)
    (expanded : Loop.expand lines = .ok (before ++ opener :: after))
    (read : Section.compile style before = .ok text)
    (opens : Section.opened? opener = some kind)
    (unclosed : ∀ later ∈ after, Section.closes kind later = false) :
    Blames style lines (.unclosedSection kind line.number)

theorem Blames.exists_line {style : Style} {lines : List Line} {fault : Fault}
    (blames : Blames style lines fault) :
    ∀ number ∈ fault.lineNumbers, ∃ line ∈ lines, line.number = number := by
  cases blames with
  | nestedLoop outer_present _ inner_present =>
      intro number named
      rcases List.mem_pair.mp named with rfl | rfl
      · exact ⟨_, inner_present, rfl⟩
      · exact ⟨_, outer_present, rfl⟩
  | _ present =>
      intro number named
      obtain rfl := List.mem_singleton.mp named
      exact ⟨_, present, rfl⟩

/-! ## The first pass -/

theorem blames_of_refusal {style : Style} {front back : List Line} {line : Line}
    {state : Loop.State} {fault : Fault} (ordered : Loop.Ordered (front ++ line :: back))
    (standing : Loop.Standing front state.active) (refusal : Loop.Refusal state line fault) :
    Blames style (front ++ line :: back) fault := by
  have present : line ∈ front ++ line :: back := by simp
  -- The lines with smaller numbers are those that were read before, of which `standing` speaks.
  cases refusal with
  | malformed _ unknown =>
      exact .malformedDirective present .same (by rwa [classify_trim])
  | unreadable _ header refused => exact .invalidList present header refused
  | misfit _ header reads misfit => exact .loopArity present header reads misfit
  | nested header active =>
      rw [active] at standing
      obtain ⟨outer, outer_mem, outer_header, outer_number, unended⟩ := standing
      rw [← outer_number]
      refine .nestedLoop (List.mem_append_left _ outer_mem) outer_header present header
        (ordered.number_lt outer outer_mem) ?_
      intro other member after before
      exact unended other (ordered.mem_front member before) after
  | unmatched ends idle =>
      rw [idle] at standing
      refine .unmatchedEnd present ends ?_
      intro header member before is_header
      obtain ⟨closing, closing_mem, after, closing_ends⟩ :=
        standing header (ordered.mem_front member before) is_header
      exact ⟨closing, List.mem_append_left _ closing_mem, after,
        ordered.number_lt closing closing_mem, closing_ends⟩

theorem blames_of_expand {style : Style} {lines : List Line} {fault : Fault}
    (ordered : Loop.Ordered lines) (failed : Loop.expand lines = .error fault) :
    Blames style lines fault := by
  rw [Loop.expand, ← Loop.State.run] at failed
  cases run : Loop.State.initial.run lines with
  | error reason =>
      obtain rfl : reason = fault := by simpa [run, bind, Except.bind] using failed
      obtain ⟨front, line, back, state, rfl, done, refused⟩ := Loop.State.exists_refused_of_run run
      have ordered_front : Loop.Ordered front := (List.pairwise_append.mp ordered).1
      exact blames_of_refusal ordered (Loop.standing_of_run ordered_front done)
        (Loop.refusal_of_feed refused)
  | ok state =>
      have finished : state.finish = .error fault := by simpa [run, bind, Except.bind] using failed
      have standing := Loop.standing_of_run ordered run
      rw [Loop.State.finish] at finished
      split at finished
      next loop active =>
        obtain rfl := Except.error.inj finished
        rw [active] at standing
        obtain ⟨header, present, is_header, number, unended⟩ := standing
        rw [← number]
        exact .unclosedLoop present is_header unended
      next => cases finished

/-! ## Both passes -/

theorem blames_of_compile {style : Style} {lines expanded : List Line} {fault : Fault}
    (done : Loop.expand lines = .ok expanded)
    (failed : Section.compile style expanded = .error fault) : Blames style lines fault := by
  cases Section.failure_of_compile failed with
  | malformed put_mem unknown =>
      obtain ⟨line, present, number, copied⟩ := exists_isCopy_of_expand done put_mem
      rw [number]
      exact .malformedDirective present copied (by rwa [classify_trim])
  | unclosed before opener after split read opens unclosed =>
      -- The section is left open by a copy; the number leads back to the line that was copied.
      subst split
      have put_mem : opener ∈ before ++ opener :: after := by simp
      obtain ⟨line, present, number, copied⟩ := exists_isCopy_of_expand done put_mem
      rw [number]
      exact .unclosedSection present number copied done read opens unclosed

/-- Every fault of a template blames lines that the template has, and says what is wrong with
them. -/
theorem blames_of_generate {style : Style} {template : Text} {fault : Fault}
    (failed : generate style template = .error fault) :
    (∀ number ∈ fault.lineNumbers, 1 ≤ number ∧ number ≤ (Line.ofText template).length) ∧
      Blames style (Line.ofText template) fault := by
  have blames : Blames style (Line.ofText template) fault := by
    unfold generate at failed
    cases expanded : Loop.expand (Line.ofText template) with
    | error reason =>
        obtain rfl : reason = fault := by simpa [expanded, bind, Except.bind] using failed
        exact blames_of_expand (ordered_ofText template) expanded
    | ok lines =>
        cases compiled : Section.compile style lines with
        | error reason =>
            obtain rfl : reason = fault := by
              simpa [expanded, compiled, bind, Except.bind] using failed
            exact blames_of_compile expanded compiled
        | ok body =>
            simp [expanded, compiled, bind, Except.bind, pure, Except.pure] at failed
  refine ⟨fun number named => ?_, blames⟩
  obtain ⟨line, member, rfl⟩ := blames.exists_line number named
  exact Line.number_le_of_mem_ofText member

/-- A template whose loop fills the words that open a section into its second line. -/
def filledOpening : Text :=
  Section.joinLines [ "// -- foreach w in [\"begin types\"] --".toList, "// -- {{w}} --".toList,
    Mark.endForeach ]

/-- The line that is filled is to blame when the section stays open. -/
theorem blames_of_generate_filledOpening :
    generate Style.standard filledOpening = .error (.unclosedSection .types 2) ∧
      (∀ number ∈ (Fault.unclosedSection .types 2).lineNumbers,
        1 ≤ number ∧ number ≤ (Line.ofText filledOpening).length) ∧
      Blames Style.standard (Line.ofText filledOpening) (.unclosedSection .types 2) := by
  have failed : generate Style.standard filledOpening = .error (.unclosedSection .types 2) := by
    decide +kernel
  exact ⟨failed, blames_of_generate failed⟩

end Template

end Stencil

import Mathlib.Data.List.Induction
import Stencil.Proofs.Section.Compile

/-!
# Why the reading of sections stops

`place_offer` says where a line leaves the reader, and nothing but the line and the place before it
matters.  Hence a section that is open after some lines was opened by one of them, which stood
outside sections, and none of the lines after that one closes it.  Reading fails at the first
malformed line, or else at the end because such a section is open.
-/

namespace Stencil.Section

/-- The place that a line leads to. -/
def Place.next (place : Place) (line : Line) : Place :=
  match place with
  | .outside =>
    match opened? line with
    | some kind => .inside kind line.number
    | none => .outside
  | .inside kind openedAt => if closes kind line then .outside else .inside kind openedAt

theorem Place.next_of_not_directive {line : Line}
    (other : ∀ directive, classify line.text ≠ .directive directive) (place : Place) :
    place.next line = place := by
  cases place with
  | outside => simp [next, opened?, other]
  | inside kind => cases kind <;> simp [next, closes, other]

namespace State

theorem place_push (state : State) (text : Text) : (state.push text).place = state.place := by
  cases place : state.place with
  | outside =>
      rw [push_outside place]
      exact place
  | inside =>
      rw [push_inside place]
      exact place

/-- The place that a directive leads to. -/
theorem place_apply (style : Style) (state : State) (number : Nat) (action : Action) :
    (state.apply style number action).place =
      match action with
      | .start kind => .inside kind number
      | .stop _ => .outside
      | _ => state.place := by
  cases action with
  | stop kind => cases kind <;> rfl
  | declare => exact flush_place state
  | _ => rfl

theorem place_offer (style : Style) (state : State) (line : Line) :
    (state.offer style line).place = state.place.next line := by
  cases kind : classify line.text with
  | plain =>
      have other : ∀ directive, classify line.text ≠ .directive directive := by simp [kind]
      rw [offer_plain kind, place_push, Place.next_of_not_directive other]
  | unknown =>
      have other : ∀ directive, classify line.text ≠ .directive directive := by simp [kind]
      rw [offer_unknown kind, Place.next_of_not_directive other]
  | directive directive =>
      rw [offer_directive kind, place_apply]
      cases state.place with
      | outside => cases directive <;> simp [Place.next, Place.action, opened?, kind]
      | inside section_kind =>
          cases section_kind <;> cases directive <;>
            simp [Place.next, Place.action, closes, kind]

end State

/-! ## Open sections and the lines before -/

/-- What a place means for the lines read so far: the section at hand was opened outside sections by
one of them, and no line after that one closes it. -/
def Standing (style : Style) (lines : List Line) : Place → Prop
  | .outside => True
  | .inside kind openedAt => ∃ before opener after, lines = before ++ opener :: after ∧
      (State.initial.after style before).place = .outside ∧
      opened? opener = some kind ∧ opener.number = openedAt ∧
      ∀ line ∈ after, closes kind line = false

theorem standing_after (style : Style) (lines : List Line) :
    Standing style lines (State.initial.after style lines).place := by
  induction lines using List.reverseRecOn with
  | nil => trivial
  | append_singleton lines line ih =>
      rw [State.after_append, State.after_cons, State.after_nil, State.place_offer]
      cases place : (State.initial.after style lines).place with
      | outside =>
          rw [Place.next]
          cases opens : opened? line with
          | none => trivial
          | some kind => exact ⟨lines, line, [], rfl, place, opens, rfl, by simp⟩
      | inside kind openedAt =>
          rw [place] at ih
          rw [Place.next]
          cases closing : closes kind line with
          | true => trivial
          | false =>
              obtain ⟨before, opener, after, rfl, outside, opens, number, unclosed⟩ := ih
              refine ⟨before, opener, after ++ [line], by simp, outside, opens, number, ?_⟩
              exact List.forall_mem_append.mpr ⟨unclosed, by simpa using closing⟩

/-! ## Faults -/

/-- The faults with which the reading of lines stops. -/
inductive Failure (style : Style) (lines : List Line) : Fault → Prop where
  /-- A line is malformed. -/
  | malformed {line : Line} (present : line ∈ lines) (unknown : classify line.text = .unknown) :
    Failure style lines (.malformedDirective line.number line.text.trim)
  /-- A section is opened after lines that can be read, and never closed. -/
  | unclosed (before : List Line) (opener : Line) (after : List Line) {kind : SectionKind}
    {text : Text} (split : lines = before ++ opener :: after)
    (read : compile style before = .ok text)
    (opens : opened? opener = some kind) (unclosed : ∀ line ∈ after, closes kind line = false) :
    Failure style lines (.unclosedSection kind opener.number)

theorem failure_of_compile {style : Style} {lines : List Line} {fault : Fault}
    (failed : compile style lines = .error fault) : Failure style lines fault := by
  cases malformed : lines.find? isMalformed with
  | some bad =>
      have unknown : classify bad.text = .unknown := by
        simpa [isMalformed] using List.find?_some malformed
      rw [compile_of_malformed style malformed] at failed
      obtain rfl := Except.error.inj failed
      exact .malformed (List.mem_of_find?_eq_some malformed) unknown
  | none =>
      have standing := standing_after style lines
      rw [compile_of_known style malformed, State.finish] at failed
      split at failed
      next => cases failed
      next kind openedAt place =>
        obtain rfl := Except.error.inj failed
        rw [place] at standing
        obtain ⟨before, opener, after, rfl, outside, opens, rfl, unclosed⟩ := standing
        have known : before.find? isMalformed = none := by
          rw [List.find?_append] at malformed
          exact (Option.or_eq_none_iff.mp malformed).1
        have read : compile style before =
            .ok (State.initial.after style before).output := by
          rw [compile_of_known style known, State.finish, outside]
        exact .unclosed before opener after rfl read opens unclosed

end Stencil.Section

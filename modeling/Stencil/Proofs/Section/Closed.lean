import Stencil.Proofs.Section.Fault

/-!
# Closed sections

A closed section leads from outside sections back outside, and nothing is left of it but what later
write lines remember: `after_closed` gives the whole state after it.  A types section changes the
controls, a copy section changes the shared lines and a plain line changes the text, so any two of
them can change places.
-/

namespace Stencil.Section

/-- A closed section: the line that opens it, lines of which none is malformed or closes it, and the
line that closes it. -/
structure ClosedSection (kind : SectionKind) where
  /-- The first line. -/
  opener : Line
  /-- The lines inside. -/
  inner : List Line
  /-- The last line. -/
  closing : Line
  opens : opened? opener = some kind
  known : ∀ line ∈ inner, isMalformed line = false
  unclosed : ∀ line ∈ inner, closes kind line = false
  closed : closes kind closing = true

namespace ClosedSection

variable {kind : SectionKind}

/-- The lines of a closed section. -/
def lines (closed : ClosedSection kind) : List Line :=
  closed.opener :: closed.inner ++ [closed.closing]

/-- What a closed section stands for. -/
def block (closed : ClosedSection kind) : Block := .ofSection kind closed.inner

theorem not_malformed_of_opened {line : Line} (opens : opened? line = some kind) :
    isMalformed line = false := by
  cases found : classify line.text <;> simp [opened?, isMalformed, found] at opens ⊢

theorem not_malformed_of_closes {line : Line} (closed : closes kind line = true) :
    isMalformed line = false := by
  cases kind <;> simp_all [closes, isMalformed]

theorem lines_known (closed : ClosedSection kind) :
    ∀ line ∈ closed.lines, isMalformed line = false := by
  refine List.forall_mem_append.mpr ⟨List.forall_mem_cons.mpr ⟨?_, closed.known⟩, ?_⟩
  · exact not_malformed_of_opened closed.opens
  · simpa using not_malformed_of_closes closed.closed

end ClosedSection

/-! ## What a closed section does -/

namespace State

/-- The state outside sections that has written what a state has, with another memory. -/
def withMemory (state : State) (memory : Memory) : State :=
  ⟨.outside, [], memory.controls, memory.copyBody, state.output⟩

theorem eq_withMemory {state next : State} {memory : Memory} (place : next.place = .outside)
    (pending : next.pending = []) (output : next.output = state.output)
    (remembered : next.memory = memory) : next = state.withMemory memory := by
  obtain ⟨_, _, _, _, _⟩ := next
  subst remembered
  simp_all [withMemory, State.memory]

theorem pending_offer_closing (style : Style) {state : State} {kind : SectionKind} {openedAt : Nat}
    (inside : state.place = .inside kind openedAt) {line : Line}
    (closed : closes kind line = true) : (state.offer style line).pending = [] := by
  cases kind with
  | types =>
      have ends : classify line.text = .directive .endTypes := by simpa [closes] using closed
      rw [offer_directive ends, inside]
      rfl
  | copy =>
      have ends : classify line.text = .directive .endCopy := by simpa [closes] using closed
      rw [offer_directive ends, inside]
      rfl

/-- After a closed section only the memory has changed. -/
theorem after_closed (style : Style) {state : State} (outside : state.place = .outside)
    {kind : SectionKind} (closed : ClosedSection kind) :
    state.after style closed.lines = state.withMemory (state.memory.remember closed.block) := by
  rw [ClosedSection.lines, List.cons_append, after_cons, offer_opening closed.opens style outside,
    after_append, after_cons, after_nil]
  obtain ⟨place, output, memory⟩ := after_section style
    { state with place := .inside kind closed.opener.number, pending := [] } rfl rfl
    closed.unclosed closed.closed
  have inside := after_inside style
    { state with place := .inside kind closed.opener.number, pending := [] } rfl closed.unclosed
  exact eq_withMemory place (pending_offer_closing style inside closed.closed) output memory

/-- A types section and a copy section can change places. -/
theorem after_types_copy_comm (style : Style) {state : State} (outside : state.place = .outside)
    (types : ClosedSection .types) (copy : ClosedSection .copy) :
    state.after style (types.lines ++ copy.lines) =
      state.after style (copy.lines ++ types.lines) := by
  rw [after_append, after_append, after_closed style outside types, after_closed style outside copy,
    after_closed style rfl copy, after_closed style rfl types]
  -- Each kind of section remembers in a field of its own, so the two memories are the same record.
  rfl

/-- A closed section and plain lines can change places. -/
theorem after_closed_plain_comm (style : Style) {state : State} (outside : state.place = .outside)
    {kind : SectionKind} (closed : ClosedSection kind) {plain : List Line}
    (all_plain : ∀ line ∈ plain, classify line.text = .plain) :
    state.after style (closed.lines ++ plain) = state.after style (plain ++ closed.lines) := by
  rw [after_append, after_append, after_closed style outside closed,
    after_of_plain style all_plain rfl, after_of_plain style all_plain outside,
    after_closed style (by exact outside) closed]
  rfl

end State

/-! ## Lines that do not write controls -/

/-- The text that a line adds at a place, unless it writes controls. -/
def Place.adds (place : Place) (line : Line) : Text :=
  match place, classify line.text with
  | .outside, .plain => line.text ++ ['\n']
  | _, _ => []

theorem action_ne_writeAll {directive : Directive} (not_write : directive ≠ .writeAll)
    (place : Place) : place.action directive ≠ .writeAll := by
  intro action
  unfold Place.action at action
  split at action <;> cases action
  exact not_write rfl

namespace State

theorem output_apply (style : Style) (state : State) (number : Nat) {action : Action}
    (not_write : action ≠ .writeAll) : (state.apply style number action).output = state.output := by
  cases action with
  | writeAll => exact absurd rfl not_write
  | declare => exact flush_output state
  | stop kind =>
      cases kind with
      | types => exact flush_output state
      | copy => rfl
  | _ => rfl

theorem output_offer (style : Style) (state : State) {line : Line}
    (not_write : classify line.text ≠ .directive .writeAll) :
    (state.offer style line).output = state.output ++ state.place.adds line := by
  cases kind : classify line.text with
  | plain =>
      rw [offer_plain kind]
      cases place : state.place with
      | outside => simp [push_outside place, Place.adds, kind]
      | inside => simp [push_inside place, Place.adds]
  | unknown => simp [offer_unknown kind, Place.adds, kind]
  | directive directive =>
      have other : directive ≠ .writeAll := by
        rintro rfl
        exact not_write kind
      rw [offer_directive kind, output_apply style state _ (action_ne_writeAll other state.place)]
      simp [Place.adds, kind]

/-- Without write lines, where a run leads and what it writes depend only on where it starts and
what has been written. -/
theorem after_congr (style : Style) {first second : State} (place : first.place = second.place)
    (output : first.output = second.output) {lines : List Line}
    (no_write : ∀ line ∈ lines, classify line.text ≠ .directive .writeAll) :
    (first.after style lines).place = (second.after style lines).place ∧
      (first.after style lines).output = (second.after style lines).output := by
  induction lines generalizing first second with
  | nil => exact ⟨place, output⟩
  | cons line rest ih =>
      obtain ⟨not_write, rest_no_write⟩ := List.forall_mem_cons.mp no_write
      refine ih ?_ ?_ rest_no_write
      · rw [place_offer, place_offer, place]
      · rw [output_offer style first not_write, output_offer style second not_write, place, output]

theorem finish_congr {first second : State} (place : first.place = second.place)
    (output : first.output = second.output) : first.finish = second.finish := by
  rw [finish, finish, place, output]

/-! ## Lines read from a state on -/

/-- What lines stand for when they are read from a state on. -/
def answer (style : Style) (state : State) (lines : List Line) : Except Fault Text := do
  let final ← lines.foldlM (State.feed style) state
  final.finish

theorem answer_append (style : Style) (state : State) {front : List Line}
    (known : ∀ line ∈ front, isMalformed line = false) (rest : List Line) :
    state.answer style (front ++ rest) = (state.after style front).answer style rest := by
  rw [answer, List.foldlM_append, foldlM_feed_of_known style front known]
  rfl

theorem answer_congr (style : Style) {first second : State} (place : first.place = second.place)
    (output : first.output = second.output) {lines : List Line}
    (no_write : ∀ line ∈ lines, classify line.text ≠ .directive .writeAll) :
    first.answer style lines = second.answer style lines := by
  cases malformed : lines.find? isMalformed with
  | some bad =>
      rw [answer, answer, foldlM_feed_of_malformed style lines bad malformed,
        foldlM_feed_of_malformed style lines bad malformed]
  | none =>
      have known : ∀ line ∈ lines, isMalformed line = false := by
        simpa using List.find?_eq_none.mp malformed
      obtain ⟨same_place, same_output⟩ := after_congr style place output no_write
      rw [answer, answer, foldlM_feed_of_known style lines known,
        foldlM_feed_of_known style lines known]
      exact finish_congr same_place same_output

end State

theorem compile_append_of_read (style : Style) {before : List Line} {state : State}
    (read : before.foldlM (State.feed style) State.initial = .ok state) (rest : List Line) :
    compile style (before ++ rest) = state.answer style rest := by
  rw [compile, List.foldlM_append, read]
  rfl

/-! ## Lines that change places -/

section Exchange

variable (style : Style) {before : List Line} {state : State}

/-- Lines can change places if they lead to the same state in either order. -/
theorem compile_swap (read : before.foldlM (State.feed style) State.initial = .ok state)
    {left right : List Line} (left_known : ∀ line ∈ left, isMalformed line = false)
    (right_known : ∀ line ∈ right, isMalformed line = false)
    (same : state.after style (left ++ right) = state.after style (right ++ left))
    (rest : List Line) :
    compile style (before ++ left ++ right ++ rest) =
      compile style (before ++ right ++ left ++ rest) := by
  have left_first := List.forall_mem_append.mpr ⟨left_known, right_known⟩
  have right_first := List.forall_mem_append.mpr ⟨right_known, left_known⟩
  calc compile style (before ++ left ++ right ++ rest)
      = state.answer style ((left ++ right) ++ rest) := by
        rw [List.append_assoc, List.append_assoc, compile_append_of_read style read,
          List.append_assoc]
    _ = state.answer style ((right ++ left) ++ rest) := by
        rw [State.answer_append style state left_first, same,
          State.answer_append style state right_first]
    _ = compile style (before ++ right ++ left ++ rest) := by
        rw [List.append_assoc, ← compile_append_of_read style read, List.append_assoc,
          List.append_assoc]

/-- A closed section can be left out if no line after it writes controls. -/
theorem compile_without_closed (read : before.foldlM (State.feed style) State.initial = .ok state)
    (outside : state.place = .outside) {kind : SectionKind} (closed : ClosedSection kind)
    {rest : List Line} (no_write : ∀ line ∈ rest, classify line.text ≠ .directive .writeAll) :
    compile style (before ++ closed.lines ++ rest) = compile style (before ++ rest) := by
  have same_place : (state.after style closed.lines).place = state.place := by
    rw [State.after_closed style outside closed, outside]
    rfl
  have same_output : (state.after style closed.lines).output = state.output := by
    rw [State.after_closed style outside closed]
    rfl
  rw [List.append_assoc, compile_append_of_read style read, compile_append_of_read style read,
    State.answer_append style state closed.lines_known]
  exact State.answer_congr style same_place same_output no_write

/-- After lines that can be read and lead outside sections, a types section, a copy section and
plain lines can change places, whatever follows and whatever fault that may be; and a section
without a later write line can be left out. -/
theorem compile_exchange (read : before.foldlM (State.feed style) State.initial = .ok state)
    (outside : state.place = .outside) (types : ClosedSection .types) (copy : ClosedSection .copy)
    {plain : List Line} (all_plain : ∀ line ∈ plain, classify line.text = .plain)
    (rest : List Line) :
    compile style (before ++ types.lines ++ copy.lines ++ rest) =
        compile style (before ++ copy.lines ++ types.lines ++ rest) ∧
      compile style (before ++ types.lines ++ plain ++ rest) =
        compile style (before ++ plain ++ types.lines ++ rest) ∧
      compile style (before ++ copy.lines ++ plain ++ rest) =
        compile style (before ++ plain ++ copy.lines ++ rest) ∧
      ((∀ line ∈ rest, classify line.text ≠ .directive .writeAll) →
        compile style (before ++ types.lines ++ rest) = compile style (before ++ rest) ∧
        compile style (before ++ copy.lines ++ rest) = compile style (before ++ rest)) := by
  have plain_known : ∀ line ∈ plain, isMalformed line = false := fun line member => by
    simp [isMalformed, all_plain line member]
  have with_plain {kind : SectionKind} (closed : ClosedSection kind) :=
    compile_swap style read closed.lines_known plain_known
      (State.after_closed_plain_comm style outside closed all_plain) rest
  refine ⟨?_, with_plain types, with_plain copy, fun no_write => ⟨?_, ?_⟩⟩
  · exact compile_swap style read types.lines_known copy.lines_known
      (State.after_types_copy_comm style outside types copy) rest
  · exact compile_without_closed style read outside types no_write
  · exact compile_without_closed style read outside copy no_write

end Exchange

/-- A types section with directives that mean nothing in it. -/
def busyTypes : ClosedSection .types where
  opener := ⟨2, Mark.beginTypes⟩
  inner := [⟨3, Mark.endCopy⟩, ⟨4, "// -- A : B --".toList⟩, ⟨5, Mark.writeAll⟩, ⟨6, ['a']⟩]
  closing := ⟨7, Mark.endTypes⟩
  opens := by decide
  known := by decide +kernel
  unclosed := by decide +kernel
  closed := by decide

/-- A copy section with a directive that means nothing in it. -/
def busyCopy : ClosedSection .copy where
  opener := ⟨8, Mark.beginCopy⟩
  inner := [⟨9, Mark.beginTypes⟩, ⟨10, ['c']⟩]
  closing := ⟨11, Mark.endCopy⟩
  opens := by decide
  known := by decide
  unclosed := by decide
  closed := by decide

/-- Two sections change places before a write line, and so do one of them and a blank line; before
the blank line alone a section can be left out. -/
theorem compile_exchange_busyTypes :
    (State.initial.after Style.standard [⟨1, ['x']⟩]).place = .outside ∧
      compile Style.standard
          ([⟨1, ['x']⟩] ++ busyTypes.lines ++ busyCopy.lines ++ [⟨12, Mark.writeAll⟩]) =
        compile Style.standard
          ([⟨1, ['x']⟩] ++ busyCopy.lines ++ busyTypes.lines ++ [⟨12, Mark.writeAll⟩]) ∧
      compile Style.standard
          ([⟨1, ['x']⟩] ++ busyTypes.lines ++ [⟨13, []⟩] ++ [⟨12, Mark.writeAll⟩]) =
        compile Style.standard
          ([⟨1, ['x']⟩] ++ [⟨13, []⟩] ++ busyTypes.lines ++ [⟨12, Mark.writeAll⟩]) ∧
      compile Style.standard ([⟨1, ['x']⟩] ++ busyCopy.lines ++ [⟨13, []⟩]) =
        compile Style.standard ([⟨1, ['x']⟩] ++ [⟨13, []⟩]) := by
  have read := State.foldlM_feed_of_known Style.standard [⟨1, ['x']⟩] (by decide) State.initial
  have outside : (State.initial.after Style.standard [⟨1, ['x']⟩]).place = .outside := by decide
  have blank_plain : ∀ line ∈ [(⟨13, []⟩ : Line)], classify line.text = .plain := by decide
  have no_write : ∀ line ∈ [(⟨13, []⟩ : Line)], classify line.text ≠ .directive .writeAll :=
    fun line member => by simp [blank_plain line member]
  have exchanged := compile_exchange Style.standard read outside busyTypes busyCopy blank_plain
  exact ⟨outside, (exchanged _).1, (exchanged _).2.1, ((exchanged _).2.2.2 no_write).2⟩

end Stencil.Section

import Mathlib.Data.List.Basic
import Stencil.Proofs.Directive.Trim
import Stencil.Proofs.Loop.Pieces

/-!
# Why the expansion of loops stops

`Refusal` says for which lines a state has no next state, and with which fault.  What the state
knows of the lines before is whether a loop is open: `Standing` says what that means for the headers
and the ends among them, each line keeps it so, and with it the fault of a refused line is a fact
about the lines alone.
-/

namespace Stencil.Loop

/-- The line is a loop header. -/
def IsHeader (line : Line) : Prop :=
  ∃ vars list, classify line.text = .directive (.foreach vars list)

/-- The line ends a loop. -/
def IsEnd (line : Line) : Prop := classify line.text = .directive .endForeach

/-! ## Refused lines -/

/-- An element has the wrong number of values, and it is the first one. -/
structure FirstMisfit (expected : Nat) (items : List Literal) (index found : Nat) : Prop where
  here : ∃ item, items[index]? = some item ∧ item.bindings.length = found
  wrong : found ≠ expected
  first : ∀ earlier < index, ∀ item, items[earlier]? = some item →
    item.bindings.length = expected

theorem firstMisfit_of_arityMismatch? {expected : Nat} {items : List Literal} {index found : Nat}
    (mismatch : arityMismatch? expected items = some (index, found)) :
    FirstMisfit expected items index found := by
  obtain ⟨⟨item, place⟩, found_eq, pair_eq⟩ := Option.map_eq_some_iff.mp mismatch
  obtain ⟨rfl, rfl⟩ := Prod.mk.inj pair_eq
  obtain ⟨wrong, place', bound, pair, fits⟩ := List.find?_eq_some_iff_getElem.mp found_eq
  have inside : place' < items.length := by simpa using bound
  obtain ⟨rfl, rfl⟩ : items[place'] = item ∧ place' = place := by simpa using pair
  refine ⟨⟨_, List.getElem?_eq_getElem inside, rfl⟩, by simpa using wrong, ?_⟩
  intro earlier before item found
  obtain ⟨_, rfl⟩ := List.getElem?_eq_some_iff.mp found
  simpa using fits earlier before

/-- The faults with which a state refuses a line. -/
inductive Refusal (state : State) (line : Line) : Fault → Prop where
  /-- The line starts like a header and is none. -/
  | malformed (begins : line.text.beginsWith Mark.foreach = true)
    (unknown : classify line.text = .unknown) :
    Refusal state line (.malformedDirective line.number line.text.trim)
  /-- A loop is open where a header stands. -/
  | nested {loop : OpenLoop} (header : IsHeader line) (active : state.active = some loop) :
    Refusal state line (.nestedLoop line.number loop.openedAt line.text.trim)
  /-- The list of the header cannot be read. -/
  | unreadable {vars : List Text} {list : Text} {reason : Literal.Fault}
    (idle : state.active = none)
    (header : classify line.text = .directive (.foreach vars list))
    (refused : Literal.readList list = .error reason) :
    Refusal state line (.invalidList line.number list reason)
  /-- An element of the list does not fit the variables. -/
  | misfit {vars : List Text} {list : Text} {items : List Literal} {index found : Nat}
    (idle : state.active = none)
    (header : classify line.text = .directive (.foreach vars list))
    (reads : Literal.readList list = .ok items)
    (misfit : FirstMisfit vars.length items index found) :
    Refusal state line (.loopArity line.number index vars.length found)
  /-- A loop is closed where none is open. -/
  | unmatched (ends : IsEnd line) (idle : state.active = none) :
    Refusal state line (.unmatchedEnd line.number line.text.trim)

theorem refusal_of_openLoop {state : State} {line : Line} {vars : List Text} {list : Text}
    {fault : Fault} (header : classify line.text = .directive (.foreach vars list))
    (refused : state.openLoop line vars list = .error fault) : Refusal state line fault := by
  unfold State.openLoop at refused
  split at refused
  next loop active =>
    obtain rfl := Except.error.inj refused
    exact .nested ⟨vars, list, header⟩ active
  next idle =>
    split at refused
    next reason unreadable =>
      obtain rfl := Except.error.inj refused
      exact .unreadable idle header unreadable
    next items reads =>
      split at refused
      next index found mismatch =>
        obtain rfl := Except.error.inj refused
        exact .misfit idle header reads (firstMisfit_of_arityMismatch? mismatch)
      next => cases refused

theorem refusal_of_feed {state : State} {line : Line} {fault : Fault}
    (refused : state.feed line = .error fault) : Refusal state line fault := by
  cases begins : line.text.beginsWith Mark.foreach with
  | true =>
      unfold State.feed State.action at refused
      rw [if_pos begins] at refused
      rcases classify_of_beginsWith_foreach begins with unknown | ⟨vars, list, header⟩
      · rw [unknown] at refused
        obtain rfl := Except.error.inj refused
        exact .malformed begins unknown
      · rw [header] at refused
        cases opened : state.openLoop line vars list with
        | ok loop => simp [opened, Except.map] at refused
        | error reason =>
            obtain rfl : reason = fault := by simpa [opened, Except.map] using refused
            exact refusal_of_openLoop header opened
  | false =>
      cases ends : line.text.isLine Mark.endForeach with
      | true =>
          rw [State.feed_end state ends] at refused
          split at refused
          next => cases refused
          next idle =>
            obtain rfl := Except.error.inj refused
            exact .unmatched ((classify_eq_endForeach_iff line.text).mpr ends) idle
      | false =>
          have free : isControl line = false := by simp [isControl, begins, ends]
          rw [State.feed_free state free] at refused
          cases refused

/-! ## Open loops and the lines before -/

/-- The numbers of the lines grow. -/
def Ordered (lines : List Line) : Prop :=
  lines.Pairwise fun left right => left.number < right.number

section Ordered

variable {front back : List Line} {line : Line}

theorem Ordered.number_lt (ordered : Ordered (front ++ line :: back)) :
    ∀ earlier ∈ front, earlier.number < line.number := fun earlier member =>
  (List.pairwise_append.mp ordered).2.2 earlier member line List.mem_cons_self

theorem Ordered.mem_front (ordered : Ordered (front ++ line :: back)) {other : Line}
    (member : other ∈ front ++ line :: back) (before : other.number < line.number) :
    other ∈ front := by
  obtain ⟨_, ordered_back, _⟩ := List.pairwise_append.mp ordered
  rcases List.mem_append.mp member with in_front | in_back
  · exact in_front
  · rcases List.mem_cons.mp in_back with rfl | in_back
    · exact absurd before (Nat.lt_irrefl _)
    · have after := (List.pairwise_cons.mp ordered_back).1 other in_back
      exact absurd before (Nat.lt_asymm after)

end Ordered

/-- What an open loop, or none, means for the lines read so far: the header of an open loop has no
end after it, and without an open loop every header has one. -/
def Standing (lines : List Line) : Option OpenLoop → Prop
  | none => ∀ header ∈ lines, IsHeader header →
      ∃ line ∈ lines, header.number < line.number ∧ IsEnd line
  | some loop => ∃ header ∈ lines, IsHeader header ∧ header.number = loop.openedAt ∧
      ∀ line ∈ lines, header.number < line.number → ¬IsEnd line

theorem not_isHeader_of_free {line : Line} (free : isControl line = false) : ¬IsHeader line := by
  rintro ⟨vars, list, header⟩
  simp [isControl, beginsWith_foreach_of_classify header] at free

theorem not_isEnd_of_free {line : Line} (free : isControl line = false) : ¬IsEnd line := by
  intro ends
  simp [isControl, (classify_eq_endForeach_iff line.text).mp ends] at free

/-- Each line that is taken keeps the standing of the lines before it. -/
theorem Standing.feed {seen : List Line} {state next : State} {line : Line}
    (standing : Standing seen state.active) (later : ∀ earlier ∈ seen, earlier.number < line.number)
    (fed : state.feed line = .ok next) : Standing (seen ++ [line]) next.active := by
  rcases (State.feed_eq_ok_iff state next line).mp fed with
    ⟨free, rfl⟩ | ⟨loop, idle, opens, rfl⟩ | ⟨loop, active, ends, rfl⟩
  · obtain ⟨active, output⟩ := state
    cases active with
    | none =>
        intro header member is_header
        rcases List.mem_append.mp member with old | new
        · obtain ⟨closing, closing_mem, after, ends⟩ := standing header old is_header
          exact ⟨closing, List.mem_append_left _ closing_mem, after, ends⟩
        · obtain rfl := List.mem_singleton.mp new
          exact absurd is_header (not_isHeader_of_free free)
    | some loop =>
        obtain ⟨header, member, is_header, opened, unended⟩ := standing
        refine ⟨header, List.mem_append_left _ member, is_header, opened, ?_⟩
        intro other other_mem after
        rcases List.mem_append.mp other_mem with old | new
        · exact unended other old after
        · obtain rfl := List.mem_singleton.mp new
          exact not_isEnd_of_free free
  · obtain ⟨list, header, _⟩ := opens.reads
    refine ⟨line, by simp, ⟨loop.vars, list, header⟩, opens.openedAt.symm, ?_⟩
    intro other other_mem after
    rcases List.mem_append.mp other_mem with old | new
    · exact absurd (later other old) (Nat.lt_asymm after)
    · obtain rfl := List.mem_singleton.mp new
      exact absurd after (Nat.lt_irrefl _)
  · intro header member is_header
    have is_end : IsEnd line := (classify_eq_endForeach_iff line.text).mpr ends
    refine ⟨line, by simp, ?_, is_end⟩
    rcases List.mem_append.mp member with old | new
    · exact later header old
    · obtain rfl := List.mem_singleton.mp new
      obtain ⟨vars, list, header_eq⟩ := is_header
      exact absurd (is_end.symm.trans header_eq) (by simp)

theorem Standing.run {seen lines : List Line} {state next : State}
    (standing : Standing seen state.active) (ordered : Ordered (seen ++ lines))
    (done : state.run lines = .ok next) : Standing (seen ++ lines) next.active := by
  induction lines generalizing seen state with
  | nil =>
      obtain rfl : state = next := by simpa using done
      simpa using standing
  | cons line rest ih =>
      cases fed : state.feed line with
      | error fault => simp [State.run_cons_error fed] at done
      | ok middle =>
          rw [State.run_cons_ok fed] at done
          have stands := standing.feed ordered.number_lt fed
          rw [List.append_cons] at ordered ⊢
          exact ih stands ordered done

theorem standing_of_run {lines : List Line} (ordered : Ordered lines) {state : State}
    (done : State.initial.run lines = .ok state) : Standing lines state.active := by
  have start : Standing [] State.initial.active := by
    intro header member
    cases member
  simpa using start.run (by simpa using ordered) done

/-! ## The first refused line -/

theorem State.exists_refused_of_run {state : State} {lines : List Line} {fault : Fault}
    (failed : state.run lines = .error fault) :
    ∃ front line back middle, lines = front ++ line :: back ∧ state.run front = .ok middle ∧
      middle.feed line = .error fault := by
  induction lines generalizing state with
  | nil => simp at failed
  | cons line rest ih =>
      cases fed : state.feed line with
      | error reason =>
          rw [State.run_cons_error fed] at failed
          obtain rfl := Except.error.inj failed
          exact ⟨[], line, rest, state, rfl, rfl, fed⟩
      | ok next =>
          rw [State.run_cons_ok fed] at failed
          obtain ⟨front, refused_line, back, middle, rfl, done, refused⟩ := ih failed
          exact ⟨line :: front, refused_line, back, middle, rfl, by rwa [State.run_cons_ok fed],
            refused⟩

end Stencil.Loop

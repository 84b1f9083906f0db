import Stencil.Loop
import Stencil.Proofs.Directive.Classify

/-!
# Steps and runs of the loop expansion

`feed_eq_ok_iff` says once what a line that is taken can do: a free line is kept, a header opens a
loop where none is open, and an end puts the copies of the open loop.  `State.run` is a run over
several lines, which stops at the first one that is refused.
-/

namespace Stencil.Loop

/-- A line that the expansion reads itself: one that starts like a loop header or ends a loop. -/
def isControl (line : Line) : Bool :=
  line.text.beginsWith Mark.foreach || line.text.isLine Mark.endForeach

/-- A header line opens a loop: its list can be read, and each element has one value for each
variable. -/
structure Opens (line : Line) (loop : OpenLoop) : Prop where
  /-- The header names the variables, and its list holds the elements. -/
  reads : ∃ list, classify line.text = .directive (.foreach loop.vars list) ∧
    Literal.readList list = .ok loop.items
  /-- Each element has as many values as there are variables. -/
  fits : ∀ item ∈ loop.items, item.bindings.length = loop.vars.length
  /-- The loop remembers where it was opened. -/
  openedAt : loop.openedAt = line.number
  /-- No line has been captured yet. -/
  captured : loop.captured = []

theorem Opens.beginsWith {line : Line} {loop : OpenLoop} (opens : Opens line loop) :
    line.text.beginsWith Mark.foreach = true := by
  obtain ⟨list, header, _⟩ := opens.reads
  exact beginsWith_foreach_of_classify header

theorem Opens.header_isControl {line : Line} {loop : OpenLoop} (opens : Opens line loop) :
    isControl line = true := by
  simp [isControl, opens.beginsWith]

theorem isControl_of_endForeach {line : Line}
    (ends : line.text.isLine Mark.endForeach = true) : isControl line = true := by
  simp [isControl, ends]

theorem arityMismatch?_eq_none_iff (expected : Nat) (items : List Literal) :
    arityMismatch? expected items = none ↔ ∀ item ∈ items, item.bindings.length = expected := by
  simp only [arityMismatch?, Option.map_eq_none_iff, List.find?_eq_none]
  constructor
  · intro all item member
    obtain ⟨index, bound, rfl⟩ := List.getElem_of_mem member
    have fit := all (items[index], index) (by simp [List.mem_zipIdx_iff_getElem?, bound])
    simpa using fit
  · rintro all ⟨item, index⟩ member
    have item_mem : item ∈ items := List.fst_mem_of_mem_zipIdx member
    simp [all item item_mem]

namespace State

theorem openLoop_eq_ok_iff (state : State) (line : Line) (vars : List Text) (list : Text)
    (loop : OpenLoop) :
    state.openLoop line vars list = .ok loop ↔
      state.active = none ∧ ∃ items, Literal.readList list = .ok items ∧
        (∀ item ∈ items, item.bindings.length = vars.length) ∧
        loop = ⟨line.number, vars, items, []⟩ := by
  unfold openLoop
  cases state.active with
  | some opened => simp
  | none =>
      cases Literal.readList list with
      | error reason => simp
      | ok items =>
          cases mismatch : arityMismatch? vars.length items with
          | none =>
              have fits := (arityMismatch?_eq_none_iff vars.length items).mp mismatch
              constructor
              · intro opened
                exact ⟨rfl, items, rfl, fits, by simpa [mismatch, eq_comm] using opened⟩
              · rintro ⟨_, _, ⟨rfl⟩, _, rfl⟩
                simp [mismatch]
          | some place =>
              have unfit := mt (arityMismatch?_eq_none_iff vars.length items).mpr
                (by simp [mismatch])
              simp [mismatch, unfit]

theorem feed_free (state : State) {line : Line} (free : isControl line = false) :
    state.feed line = .ok (state.apply line .keep) := by
  obtain ⟨not_header, not_end⟩ : line.text.beginsWith Mark.foreach = false ∧
      line.text.isLine Mark.endForeach = false := by simpa [isControl] using free
  simp [feed, action, not_header, not_end, Except.map]

theorem feed_end (state : State) {line : Line}
    (ends : line.text.isLine Mark.endForeach = true) :
    state.feed line =
      match state.active with
      | some loop => .ok ⟨none, state.output ++ loop.unrolled⟩
      | none => .error (.unmatchedEnd line.number line.text.trim) := by
  have not_header := not_beginsWith_foreach_of_endForeach ends
  cases active : state.active <;>
    simp [feed, action, not_header, ends, active, Except.map, apply]

/-- A line that starts like a header is taken exactly when it opens a loop where none is open. -/
theorem feed_header_eq_ok_iff (state next : State) {line : Line}
    (begins : line.text.beginsWith Mark.foreach = true) :
    state.feed line = .ok next ↔
      ∃ loop, state.active = none ∧ Opens line loop ∧ next = ⟨some loop, state.output⟩ := by
  unfold feed action
  rw [if_pos begins]
  constructor
  · intro fed
    split at fed
    next vars list header =>
      cases opened : state.openLoop line vars list with
      | error fault => simp [opened, Except.map] at fed
      | ok loop =>
          obtain ⟨idle, items, reads, fits, rfl⟩ :=
            (openLoop_eq_ok_iff state line vars list loop).mp opened
          refine ⟨⟨line.number, vars, items, []⟩, idle, ⟨⟨list, header, reads⟩, fits, rfl, rfl⟩, ?_⟩
          simpa [opened, Except.map, apply, eq_comm] using fed
    next => simp [Except.map] at fed
  · rintro ⟨loop, idle, opens, rfl⟩
    obtain ⟨list, header, reads⟩ := opens.reads
    have opened : state.openLoop line loop.vars list = .ok loop := by
      refine (openLoop_eq_ok_iff state line loop.vars list loop).mpr
        ⟨idle, loop.items, reads, opens.fits, ?_⟩
      rw [← opens.openedAt, ← opens.captured]
    simp [header, opened, Except.map, apply]

/-- What a line that is taken does. -/
theorem feed_eq_ok_iff (state next : State) (line : Line) :
    state.feed line = .ok next ↔
      (isControl line = false ∧ next = state.apply line .keep) ∨
      (∃ loop, state.active = none ∧ Opens line loop ∧ next = ⟨some loop, state.output⟩) ∨
      (∃ loop, state.active = some loop ∧ line.text.isLine Mark.endForeach = true ∧
        next = ⟨none, state.output ++ loop.unrolled⟩) := by
  cases begins : line.text.beginsWith Mark.foreach with
  | true =>
      have control : isControl line = true := by simp [isControl, begins]
      have not_end : line.text.isLine Mark.endForeach ≠ true := by
        intro ends
        simp [not_beginsWith_foreach_of_endForeach ends] at begins
      simp [feed_header_eq_ok_iff state next begins, control, not_end]
  | false =>
      have not_opens : ∀ loop, ¬Opens line loop := by
        intro loop opens
        simp [opens.beginsWith] at begins
      cases ends : line.text.isLine Mark.endForeach with
      | true =>
          have control : isControl line = true := isControl_of_endForeach ends
          rw [feed_end state ends]
          cases state.active <;> simp [control, not_opens, eq_comm]
      | false =>
          have free : isControl line = false := by simp [isControl, begins, ends]
          simp [feed_free state free, free, not_opens, eq_comm]

/-! ## Runs -/

/-- The state after several lines, all of which are taken. -/
def run (state : State) (lines : List Line) : Except Fault State := lines.foldlM feed state

@[simp]
theorem run_nil (state : State) : state.run [] = .ok state := rfl

theorem run_cons_ok {state next : State} {line : Line} (fed : state.feed line = .ok next)
    (rest : List Line) : state.run (line :: rest) = next.run rest := by
  rw [run, List.foldlM_cons, fed]
  rfl

theorem run_cons_error {state : State} {line : Line} {fault : Fault}
    (refused : state.feed line = .error fault) (rest : List Line) :
    state.run (line :: rest) = .error fault := by
  rw [run, List.foldlM_cons, refused]
  rfl

theorem run_append_ok {state next : State} {left : List Line} (done : state.run left = .ok next)
    (right : List Line) : state.run (left ++ right) = next.run right := by
  rw [run, List.foldlM_append, ← run, done]
  rfl

/-- A run ends with lines exactly when every line is taken and no loop is open after the last. -/
theorem run_finish_eq_ok_iff (state : State) (lines out : List Line) :
    (state.run lines >>= finish) = .ok out ↔ state.run lines = .ok ⟨none, out⟩ := by
  cases state.run lines with
  | error fault => simp [bind, Except.bind]
  | ok final =>
      obtain ⟨active, output⟩ := final
      cases active <;> simp [bind, Except.bind, finish]

end State

theorem expand_eq_ok_iff_run (lines out : List Line) :
    expand lines = .ok out ↔ State.initial.run lines = .ok ⟨none, out⟩ :=
  State.run_finish_eq_ok_iff State.initial lines out

end Stencil.Loop

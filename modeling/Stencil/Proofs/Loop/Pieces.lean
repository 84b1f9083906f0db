import Stencil.Proofs.Loop.Step

/-!
# Templates as pieces

A list of lines that can be expanded is a sequence of pieces, each of them a free line or a closed
loop, and the expansion puts the free lines and the copies of the loops in order.  The central
theorem says that the expansion succeeds exactly when the pieces are there, and that they are
unique.
-/

namespace Stencil.Loop

/-- A loop header, its body without loop lines, and the line that ends it. -/
structure ClosedLoop where
  /-- The header line. -/
  header : Line
  /-- The variables that the header names. -/
  vars : List Text
  /-- The text of the header's list. -/
  list : Text
  /-- The elements of the list. -/
  items : List Literal
  /-- The lines between the header and the end. -/
  body : List Line
  /-- The line that ends the loop. -/
  closing : Line
  /-- The header is a loop header. -/
  header_eq : classify header.text = .directive (.foreach vars list)
  /-- Its list can be read. -/
  items_eq : Literal.readList list = .ok items
  /-- Each element has one value for each variable. -/
  fits : ∀ item ∈ items, item.bindings.length = vars.length
  /-- No line of the body starts or ends a loop. -/
  body_free : ∀ line ∈ body, isControl line = false
  /-- The last line ends a loop. -/
  closing_end : closing.text.isLine Mark.endForeach = true

/-- The lines of a loop in the template. -/
def ClosedLoop.lines (loop : ClosedLoop) : List Line := loop.header :: loop.body ++ [loop.closing]

/-- The copies of the body of a loop: for each element and each line of the body, the line with
its number and with the values of the element in the places of the variables. -/
def ClosedLoop.copies (loop : ClosedLoop) : List Line :=
  loop.items.flatMap fun item => loop.body.map fun line =>
    ⟨line.number, line.text.fill (loop.vars.zip (item.bindings.map Literal.toText))⟩

/-- A part of a template that is expanded on its own. -/
inductive Piece where
  /-- A line that neither starts nor ends a loop. -/
  | free (line : Line) (line_free : isControl line = false)
  /-- A closed loop. -/
  | closed (loop : ClosedLoop)

/-- The lines of a piece in the template. -/
def Piece.lines : Piece → List Line
  | .free line _ => [line]
  | .closed loop => loop.lines

/-- The lines that a piece puts. -/
def Piece.output : Piece → List Line
  | .free line _ => [line]
  | .closed loop => loop.copies

/-- The open loop that a closed loop is before its end. -/
def ClosedLoop.opened (loop : ClosedLoop) : OpenLoop :=
  ⟨loop.header.number, loop.vars, loop.items, []⟩

theorem ClosedLoop.opens (loop : ClosedLoop) : Opens loop.header loop.opened where
  reads := ⟨loop.list, loop.header_eq, loop.items_eq⟩
  fits := loop.fits
  openedAt := rfl
  captured := rfl

/-! ## From pieces to runs -/

theorem run_body (loop : OpenLoop) (output body : List Line)
    (body_free : ∀ line ∈ body, isControl line = false) :
    State.run ⟨some loop, output⟩ body =
      .ok ⟨some { loop with captured := loop.captured ++ body }, output⟩ := by
  induction body generalizing loop with
  | nil => simp
  | cons line rest ih =>
      obtain ⟨line_free, rest_free⟩ := List.forall_mem_cons.mp body_free
      rw [State.run_cons_ok (State.feed_free _ line_free)]
      have rest_run := ih { loop with captured := loop.captured ++ [line] } rest_free
      simpa [State.apply] using rest_run

theorem run_closedLoop (loop : ClosedLoop) (output : List Line) :
    State.run ⟨none, output⟩ loop.lines = .ok ⟨none, output ++ loop.copies⟩ := by
  have header_step : State.feed ⟨none, output⟩ loop.header = .ok ⟨some loop.opened, output⟩ :=
    (State.feed_eq_ok_iff _ _ _).mpr (.inr (.inl ⟨loop.opened, rfl, loop.opens, rfl⟩))
  have closing_step := State.feed_end
    ⟨some { loop.opened with captured := loop.opened.captured ++ loop.body }, output⟩
    loop.closing_end
  rw [ClosedLoop.lines, List.cons_append, State.run_cons_ok header_step,
    State.run_append_ok (run_body _ _ _ loop.body_free), State.run_cons_ok closing_step]
  rfl

theorem run_pieces (pieces : List Piece) (output : List Line) :
    State.run ⟨none, output⟩ (pieces.flatMap Piece.lines) =
      .ok ⟨none, output ++ pieces.flatMap Piece.output⟩ := by
  induction pieces generalizing output with
  | nil => simp
  | cons piece rest ih =>
      have piece_run : State.run ⟨none, output⟩ piece.lines =
          .ok ⟨none, output ++ piece.output⟩ := by
        cases piece with
        | free line line_free => exact State.run_cons_ok (State.feed_free _ line_free) []
        | closed loop => exact run_closedLoop loop output
      rw [List.flatMap_cons, State.run_append_ok piece_run, ih, List.flatMap_cons,
        List.append_assoc]

/-! ## From runs to pieces -/

/-- What a run from an open loop, or from outside loops, up to a state outside loops has read and
put: with an open loop the rest of its body and its end come first. -/
def Completes (lines added : List Line) : Option OpenLoop → Prop
  | none => ∃ pieces : List Piece,
      lines = pieces.flatMap Piece.lines ∧ added = pieces.flatMap Piece.output
  | some loop => ∃ (body : List Line) (closing : Line) (pieces : List Piece),
      lines = body ++ closing :: pieces.flatMap Piece.lines ∧
      (∀ line ∈ body, isControl line = false) ∧
      closing.text.isLine Mark.endForeach = true ∧
      added = { loop with captured := loop.captured ++ body }.unrolled
        ++ pieces.flatMap Piece.output

theorem Opens.exists_closedLoop {line : Line} {loop : OpenLoop} (opens : Opens line loop)
    {body : List Line} (body_free : ∀ inner ∈ body, isControl inner = false) {closing : Line}
    (closing_end : closing.text.isLine Mark.endForeach = true) :
    ∃ closed : ClosedLoop, closed.lines = line :: body ++ [closing] ∧
      closed.copies = { loop with captured := loop.captured ++ body }.unrolled := by
  obtain ⟨list, header, reads⟩ := opens.reads
  refine ⟨⟨line, loop.vars, list, loop.items, body, closing, header, reads, opens.fits, body_free,
    closing_end⟩, rfl, ?_⟩
  rw [opens.captured]
  rfl

theorem completes_of_run (lines : List Line) (active : Option OpenLoop) (output out : List Line)
    (done : State.run ⟨active, output⟩ lines = .ok ⟨none, out⟩) :
    ∃ added, out = output ++ added ∧ Completes lines added active := by
  -- The open loop is generalised with the output: a header leaves the lines after it to the case
  -- with an open loop, and the end of the loop leaves its rest to the case without one.
  induction lines generalizing active output with
  | nil =>
      obtain ⟨rfl, rfl⟩ : active = none ∧ output = out := by simpa using done
      exact ⟨[], by simp, [], rfl, rfl⟩
  | cons line rest ih =>
      cases fed : State.feed ⟨active, output⟩ line with
      | error fault => simp [State.run_cons_error fed] at done
      | ok next =>
          rw [State.run_cons_ok fed] at done
          rcases (State.feed_eq_ok_iff _ _ _).mp fed with
            ⟨free, rfl⟩ | ⟨loop, idle, opens, rfl⟩ | ⟨loop, opened, ends, rfl⟩
          · cases active with
            | none =>
                obtain ⟨added, rfl, pieces, rfl, rfl⟩ := ih _ _ done
                exact ⟨line :: pieces.flatMap Piece.output, by simp, .free line free :: pieces, rfl,
                  rfl⟩
            | some loop =>
                obtain ⟨added, rfl, body, closing, pieces, rfl, body_free, ends, rfl⟩ := ih _ _ done
                exact ⟨_, rfl, line :: body, closing, pieces, rfl,
                  List.forall_mem_cons.mpr ⟨free, body_free⟩, ends, by simp⟩
          · obtain rfl : active = none := idle
            obtain ⟨added, rfl, body, closing, pieces, rfl, body_free, ends, rfl⟩ := ih _ _ done
            obtain ⟨closed, closed_lines, closed_copies⟩ :=
              opens.exists_closedLoop body_free ends
            refine ⟨_, rfl, .closed closed :: pieces, ?_, ?_⟩
            · simp [Piece.lines, closed_lines]
            · simp [Piece.output, closed_copies]
          · obtain rfl : active = some loop := opened
            obtain ⟨added, rfl, pieces, rfl, rfl⟩ := ih _ _ done
            exact ⟨loop.unrolled ++ pieces.flatMap Piece.output, by simp, [], line, pieces, rfl,
              by simp, ends, by simp⟩

/-! ## Uniqueness -/

/-- A list has at most one cut before its first loop line. -/
theorem body_unique {left right : List Line} {last last' : Line} {rest rest' : List Line}
    (left_free : ∀ line ∈ left, isControl line = false)
    (right_free : ∀ line ∈ right, isControl line = false)
    (last_control : isControl last = true) (last_control' : isControl last' = true)
    (same : left ++ last :: rest = right ++ last' :: rest') :
    left = right ∧ last = last' ∧ rest = rest' := by
  induction left generalizing right with
  | nil =>
      cases right with
      | nil => simpa using same
      | cons line right =>
          obtain ⟨rfl, _⟩ := List.cons.inj same
          simp [right_free last List.mem_cons_self] at last_control
  | cons line left ih =>
      cases right with
      | nil =>
          obtain ⟨rfl, _⟩ := List.cons.inj same
          simp [left_free line List.mem_cons_self] at last_control'
      | cons line' right =>
          obtain ⟨rfl, same_rest⟩ := List.cons.inj same
          obtain ⟨rfl, tails⟩ := ih (List.forall_mem_cons.mp left_free).2
            (List.forall_mem_cons.mp right_free).2 same_rest
          exact ⟨rfl, tails⟩

/-- A closed loop is determined by its lines. -/
theorem ClosedLoop.eq_of_lines {left right : ClosedLoop} (header : left.header = right.header)
    (body : left.body = right.body) (closing : left.closing = right.closing) : left = right := by
  obtain ⟨_, vars, list, items, _, _, header_eq, items_eq, _, _, _⟩ := left
  obtain ⟨_, vars', list', items', _, _, header_eq', items_eq', _, _, _⟩ := right
  obtain rfl : _ = _ := header
  obtain rfl : _ = _ := body
  obtain rfl : _ = _ := closing
  obtain ⟨rfl, rfl⟩ : vars = vars' ∧ list = list' := by
    simpa using header_eq.symm.trans header_eq'
  obtain rfl : items = items' := by simpa using items_eq.symm.trans items_eq'
  rfl

theorem pieces_unique (left right : List Piece)
    (same : left.flatMap Piece.lines = right.flatMap Piece.lines) : left = right := by
  induction left generalizing right with
  | nil =>
      cases right with
      | nil => rfl
      | cons piece rest => cases piece <;> simp [Piece.lines, ClosedLoop.lines] at same
  | cons piece left ih =>
      cases right with
      | nil => cases piece <;> simp [Piece.lines, ClosedLoop.lines] at same
      | cons piece' right =>
          rw [List.flatMap_cons, List.flatMap_cons] at same
          cases piece with
          | free line line_free =>
              cases piece' with
              | free line' line_free' =>
                  obtain ⟨rfl, same_rest⟩ := List.cons.inj same
                  rw [ih right same_rest]
              | closed loop' =>
                  obtain ⟨rfl, _⟩ := List.cons.inj same
                  simp [loop'.opens.header_isControl] at line_free
          | closed loop =>
              cases piece' with
              | free line' line_free' =>
                  obtain ⟨rfl, _⟩ := List.cons.inj same
                  simp [loop.opens.header_isControl] at line_free'
              | closed loop' =>
                  obtain ⟨header, same_rest⟩ := List.cons.inj same
                  obtain ⟨body, closing, tails⟩ := body_unique loop.body_free loop'.body_free
                    (isControl_of_endForeach loop.closing_end)
                    (isControl_of_endForeach loop'.closing_end) (by simpa using same_rest)
                  rw [ClosedLoop.eq_of_lines header body closing, ih right tails]

/-- The expansion of a list of lines succeeds exactly when the lines are a sequence of free lines
and closed loops, and it puts the free lines and the copies of the loops.  A list of lines is such a
sequence in at most one way. -/
theorem expand_eq_ok_iff (lines out : List Line) :
    (expand lines = .ok out ↔
      ∃ pieces : List Piece,
        pieces.flatMap Piece.lines = lines ∧ pieces.flatMap Piece.output = out) ∧
      ∀ left right : List Piece,
        left.flatMap Piece.lines = lines → right.flatMap Piece.lines = lines → left = right := by
  rw [expand_eq_ok_iff_run]
  refine ⟨⟨?_, ?_⟩, ?_⟩
  · intro done
    obtain ⟨added, rfl, pieces, rfl, rfl⟩ := completes_of_run lines none [] out done
    exact ⟨pieces, rfl, rfl⟩
  · rintro ⟨pieces, rfl, rfl⟩
    exact run_pieces pieces []
  · intro left right left_lines right_lines
    exact pieces_unique left right (left_lines.trans right_lines.symm)

end Stencil.Loop

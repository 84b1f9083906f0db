import Stencil.Proofs.Loop.Fault

/-!
# Expanding one list after another

What a line does depends on the open loop and never on the lines already put, so lines that were put
earlier only stay in front.  A list that can be expanded leaves no loop open, and the expansion of
what follows it starts afresh; a list that leaves a loop open needs the end of that loop first.
-/

namespace Stencil.Loop

namespace State

/-- The state with lines put before its own. -/
def prepend (earlier : List Line) (state : State) : State :=
  { state with output := earlier ++ state.output }

theorem apply_prepend (earlier : List Line) (state : State) (line : Line) (action : Action) :
    (state.prepend earlier).apply line action = (state.apply line action).prepend earlier := by
  obtain ⟨active, output⟩ := state
  cases action with
  | keep => cases active <;> simp [prepend, apply]
  | start loop => rfl
  | stop loop => simp [prepend, apply]

theorem feed_prepend (earlier : List Line) (state : State) (line : Line) :
    (state.prepend earlier).feed line = (state.feed line).map (prepend earlier) := by
  have same_action : (state.prepend earlier).action line = state.action line := rfl
  rw [feed, feed, same_action]
  cases state.action line with
  | error fault => rfl
  | ok action => exact congrArg Except.ok (apply_prepend earlier state line action)

/-- Lines that were put before a run stay in front of what it puts, and its faults are the same. -/
theorem run_prepend (earlier : List Line) (state : State) (lines : List Line) :
    (state.prepend earlier).run lines = (state.run lines).map (prepend earlier) := by
  induction lines generalizing state with
  | nil => rfl
  | cons line rest ih =>
      have fed := feed_prepend earlier state line
      cases answer : state.feed line with
      | error fault =>
          rw [answer] at fed
          rw [run_cons_error fed, run_cons_error answer]
          rfl
      | ok next =>
          rw [answer] at fed
          rw [run_cons_ok fed, run_cons_ok answer]
          exact ih next

theorem finish_prepend (earlier : List Line) (state : State) :
    (state.prepend earlier).finish = state.finish.map (earlier ++ ·) := by
  obtain ⟨active, output⟩ := state
  cases active <;> rfl

end State

/-! ## From runs to expansions -/

theorem expand_append_of_run_ok {left : List Line} {state : State}
    (done : State.initial.run left = .ok state) (right : List Line) :
    expand (left ++ right) = state.run right >>= State.finish := by
  rw [expand, ← State.run, State.run_append_ok done]

theorem expand_append_of_run_error {left : List Line} {fault : Fault}
    (refused : State.initial.run left = .error fault) (right : List Line) :
    expand (left ++ right) = .error fault := by
  rw [expand, List.foldlM_append, ← State.run, refused]
  rfl

/-- No line is refused because a loop is open at the end. -/
theorem run_ne_unclosedLoop (state : State) (lines : List Line) (number : Nat) :
    state.run lines ≠ .error (.unclosedLoop number) := by
  intro failed
  obtain ⟨_, _, _, _, _, _, refused⟩ := State.exists_refused_of_run failed
  cases refusal_of_feed refused

/-- An expansion fails at a line that is refused, or at the end with an open loop. -/
theorem run_of_expand_error {lines : List Line} {fault : Fault}
    (failed : expand lines = .error fault) :
    State.initial.run lines = .error fault ∨
      ∃ loop output, State.initial.run lines = .ok ⟨some loop, output⟩ ∧
        fault = .unclosedLoop loop.openedAt := by
  rw [expand, ← State.run] at failed
  cases ended : State.initial.run lines with
  | error reason =>
      rw [ended] at failed
      exact .inl (congrArg Except.error (Except.error.inj failed))
  | ok final =>
      obtain ⟨active, output⟩ := final
      rw [ended] at failed
      cases active with
      | none => cases failed
      | some loop => exact .inr ⟨loop, output, rfl, (Except.error.inj failed).symm⟩

/-- From outside loops the lines put so far stay in front of the expansion of what follows. -/
theorem run_finish_of_idle (output lines : List Line) :
    (State.run ⟨none, output⟩ lines >>= State.finish) = (expand lines).map (output ++ ·) := by
  have idle : (⟨none, output⟩ : State) = State.initial.prepend output := by
    simp [State.prepend, State.initial]
  rw [idle, State.run_prepend, expand, ← State.run]
  cases State.initial.run lines with
  | error fault => rfl
  | ok final => exact State.finish_prepend output final

/-- The lines that follow an open loop start with the rest of its body and its end, and what comes
after that can be expanded. -/
def Resumes (lines : List Line) : Prop :=
  ∃ (body : List Line) (closing : Line) (rest : List Line), lines = body ++ closing :: rest ∧
    (∀ line ∈ body, isControl line = false) ∧ closing.text.isLine Mark.endForeach = true ∧
    ∃ out, expand rest = .ok out

theorem run_finish_of_open (loop : OpenLoop) (output lines : List Line) :
    (∃ out, (State.run ⟨some loop, output⟩ lines >>= State.finish) = .ok out) ↔
      Resumes lines := by
  constructor
  · rintro ⟨out, done⟩
    have run_done := (State.run_finish_eq_ok_iff _ lines out).mp done
    obtain ⟨_, _, body, closing, pieces, rfl, body_free, ends, _⟩ :=
      completes_of_run lines (some loop) output out run_done
    exact ⟨body, closing, _, rfl, body_free, ends, _,
      (expand_eq_ok_iff_run _ _).mpr (run_pieces pieces [])⟩
  · rintro ⟨body, closing, rest, rfl, body_free, ends, out, rest_out⟩
    rw [State.run_append_ok (run_body loop output body body_free),
      State.run_cons_ok (State.feed_end _ ends), run_finish_of_idle, rest_out]
    exact ⟨_, rfl⟩

/-- Expanding one list after another.  After a list that can be expanded, the expansion of the next
one follows, with its faults.  A refused line is refused whatever comes after it.  After a list that
leaves a loop open the expansion succeeds exactly when the next list ends that loop before any other
loop line, and can be expanded from there on. -/
theorem expand_append (left right : List Line) :
    (∀ out, expand left = .ok out →
      expand (left ++ right) = (expand right).map (out ++ ·)) ∧
    (∀ fault, expand left = .error fault → (∀ number, fault ≠ .unclosedLoop number) →
      expand (left ++ right) = .error fault) ∧
    ∀ number, expand left = .error (.unclosedLoop number) →
      ((∃ out, expand (left ++ right) = .ok out) ↔ Resumes right) := by
  refine ⟨fun out done => ?_, fun fault failed refused => ?_, fun number failed => ?_⟩
  · rw [expand_append_of_run_ok ((expand_eq_ok_iff_run left out).mp done), run_finish_of_idle]
  · rcases run_of_expand_error failed with stopped | ⟨loop, output, _, unclosed⟩
    · exact expand_append_of_run_error stopped right
    · exact absurd unclosed (refused loop.openedAt)
  · rcases run_of_expand_error failed with stopped | ⟨loop, output, done, _⟩
    · exact absurd stopped (run_ne_unclosedLoop State.initial left number)
    · rw [expand_append_of_run_ok done]
      exact run_finish_of_open loop output right

/-- The start of a loop. -/
def openLines : List Line :=
  [⟨1, "// -- foreach x in [1, 2] --".toList⟩, ⟨2, Text.placeholder ['x']⟩]

/-- The rest of the body of a loop, its end and another line. -/
def resumingLines : List Line := [⟨3, ['y']⟩, ⟨4, Mark.endForeach⟩, ⟨5, ['z']⟩]

/-- A loop that is cut in two can be expanded when the parts are put together. -/
theorem expand_append_openLines :
    expand openLines = .error (.unclosedLoop 1) ∧ Resumes resumingLines ∧
      ∃ out, expand (openLines ++ resumingLines) = .ok out := by
  have unclosed : expand openLines = .error (.unclosedLoop 1) := by decide +kernel
  have rest_out : expand [⟨5, ['z']⟩] = .ok [⟨5, ['z']⟩] := by decide
  have resumes : Resumes resumingLines :=
    ⟨[⟨3, ['y']⟩], ⟨4, Mark.endForeach⟩, [⟨5, ['z']⟩], rfl, by decide, by decide, _, rest_out⟩
  exact ⟨unclosed, resumes, ((expand_append openLines resumingLines).2.2 1 unclosed).mpr resumes⟩

end Stencil.Loop

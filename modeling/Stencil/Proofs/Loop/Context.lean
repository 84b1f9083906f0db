import Stencil.Proofs.Directive.Header
import Stencil.Proofs.Loop.Step
import Stencil.Proofs.Machine.Refusal
import Stencil.Proofs.Text.BoundNames

/-!
# What an open loop can rely on

A loop is opened only by a header whose variables are words without repetition and whose elements
have one value for each variable, and only lines between loops are captured.  No later line changes
this, refused or not: `Sound` holds after every sequence of lines.  So when a loop is closed, names
and values are paired without a remainder, and each name keeps its value.
-/

namespace Stencil.Loop

/-! ## Pairs of names and values -/

/-- Every variable is bound to the value in its place, and no variable or value is left over. -/
structure BindsAll (vars : List Text) (item : Literal) : Prop where
  /-- The bound names are the variables. -/
  names : (bindings vars item).names = vars
  /-- The bound values are those of the element. -/
  values : (bindings vars item).map Prod.snd = item.bindings.map Literal.toText
  /-- A variable has the value in its place. -/
  value : ∀ (place : Nat) (name : Text), vars[place]? = some name →
    ∃ value, item.bindings[place]? = some value ∧
      (bindings vars item).value? name = some value.toText

theorem bindsAll {vars : List Text} {item : Literal} (distinct : vars.Nodup)
    (fits : item.bindings.length = vars.length) : BindsAll vars item := by
  have length_eq : vars.length = (item.bindings.map Literal.toText).length := by
    rw [List.length_map, fits]
  have names_eq : (bindings vars item).names = vars := List.map_fst_zip length_eq.le
  refine ⟨names_eq, List.map_snd_zip length_eq.ge, fun place name found => ?_⟩
  obtain ⟨inside, rfl⟩ := List.getElem?_eq_some_iff.mp found
  have bound : place < item.bindings.length := by rwa [fits]
  refine ⟨item.bindings[place], List.getElem?_eq_getElem bound, ?_⟩
  rw [Bindings.value?_eq_some_iff (names_eq.symm ▸ distinct)]
  refine List.mem_iff_getElem.mpr ⟨place, ?_, ?_⟩
  · simpa [bindings] using ⟨inside, bound⟩
  · simp [bindings]

/-! ## The invariant -/

/-- The number is that of a line that was fed. -/
def NumberOf (fed : List Line) (number : Nat) : Prop := ∃ line ∈ fed, line.number = number

/-- What holds of an open loop after some lines. -/
structure OpenLoop.Sound (fed : List Line) (loop : OpenLoop) : Prop where
  /-- There is a variable. -/
  vars_ne : loop.vars ≠ []
  /-- The variables are words. -/
  words : ∀ name ∈ loop.vars, name.isWord = true
  /-- No variable is named twice. -/
  distinct : loop.vars.Nodup
  /-- Each element has one value for each variable. -/
  fits : ∀ item ∈ loop.items, item.bindings.length = loop.vars.length
  /-- No captured line starts like a header or ends a loop. -/
  free : ∀ line ∈ loop.captured, isControl line = false
  /-- The loop was opened at a line that was fed. -/
  openedAt : NumberOf fed loop.openedAt
  /-- The captured lines were fed. -/
  captured : ∀ line ∈ loop.captured, line ∈ fed

/-- What holds of a state after some lines. -/
structure Sound (fed : List Line) (state : State) : Prop where
  /-- An open loop is sound. -/
  active : ∀ loop, state.active = some loop → loop.Sound fed
  /-- The lines put have numbers of lines that were fed. -/
  output : ∀ line ∈ state.output, NumberOf fed line.number

variable {fed : List Line} {state : State} {loop : OpenLoop} {line : Line}

theorem NumberOf.later {number : Nat} (found : NumberOf fed number) (line : Line) :
    NumberOf (fed ++ [line]) number := by
  obtain ⟨other, member, number_eq⟩ := found
  exact ⟨other, List.mem_append_left _ member, number_eq⟩

theorem OpenLoop.Sound.later (sound : loop.Sound fed) (line : Line) :
    loop.Sound (fed ++ [line]) :=
  { sound with
    openedAt := sound.openedAt.later line
    captured := fun other member => List.mem_append_left _ (sound.captured other member) }

/-- A line that is refused, like any other line, leaves a sound state sound. -/
theorem Sound.later (sound : Sound fed state) (line : Line) : Sound (fed ++ [line]) state where
  active loop open_loop := (sound.active loop open_loop).later line
  output other member := (sound.output other member).later line

theorem Opens.sound (opens : Opens line loop) (fed : List Line) : loop.Sound (fed ++ [line]) := by
  obtain ⟨list, header, _⟩ := opens.reads
  obtain ⟨vars_ne, words, distinct⟩ := vars_of_classify header
  exact
    { vars_ne, words, distinct
      fits := opens.fits
      free := by simp [opens.captured]
      openedAt := ⟨line, by simp, opens.openedAt.symm⟩
      captured := by simp [opens.captured] }

theorem OpenLoop.Sound.capture (sound : loop.Sound fed) (free : isControl line = false) :
    OpenLoop.Sound (fed ++ [line]) { loop with captured := loop.captured ++ [line] } :=
  { sound.later line with
    free := by simpa [or_imp, forall_and, free] using sound.free
    captured := by
      intro other member
      exact List.mem_append.mpr ((List.mem_append.mp member).imp_left (sound.captured other)) }

/-- The copies of captured lines keep their numbers. -/
theorem OpenLoop.Sound.unrolled (sound : loop.Sound fed) :
    ∀ copy ∈ loop.unrolled, NumberOf fed copy.number := by
  intro copy member
  obtain ⟨item, _, member⟩ := List.mem_flatMap.mp member
  obtain ⟨line, captured, rfl⟩ := List.mem_map.mp member
  exact ⟨line, sound.captured line captured, rfl⟩

theorem Sound.keep (sound : Sound fed state) (free : isControl line = false) :
    Sound (fed ++ [line]) (state.apply line .keep) := by
  obtain ⟨active, output⟩ := state
  have later := sound.later line
  cases active with
  | some loop =>
      refine ⟨?_, later.output⟩
      rintro _ ⟨rfl⟩
      exact (sound.active loop rfl).capture free
  | none =>
      refine ⟨later.active, fun put member => ?_⟩
      rcases List.mem_append.mp member with earlier | new
      · exact later.output put earlier
      · obtain rfl := List.mem_singleton.mp new
        exact ⟨put, by simp, rfl⟩

theorem Sound.stop (sound : Sound fed state) (open_loop : state.active = some loop) (line : Line) :
    Sound (fed ++ [line]) ⟨none, state.output ++ loop.unrolled⟩ where
  active _ := nofun
  output put member := by
    rcases List.mem_append.mp member with earlier | copy
    · exact (sound.output put earlier).later line
    · exact ((sound.active loop open_loop).unrolled put copy).later line

/-- Every line, taken or refused, leaves a sound state. -/
theorem Sound.step (sound : Sound fed state) (line : Line) :
    Sound (fed ++ [line]) (machine.step state line).2 := by
  rw [step_machine, State.offer]
  cases answer : state.feed line with
  | error fault => exact sound.later line
  | ok next =>
      rcases (State.feed_eq_ok_iff state next line).mp answer with
        ⟨free, rfl⟩ | ⟨loop, _, opens, rfl⟩ | ⟨loop, open_loop, _, rfl⟩
      · exact sound.keep free
      · refine ⟨?_, (sound.later line).output⟩
        rintro _ ⟨rfl⟩
        exact opens.sound fed
      · exact sound.stop open_loop line

/-- After any lines, refused ones among them, the state is sound, and every element of an open loop
gives each variable its value. -/
theorem sound_after (fed : List Line) :
    Sound fed (machine.after fed) ∧
      ∀ loop, (machine.after fed).active = some loop →
        ∀ item ∈ loop.items, BindsAll loop.vars item := by
  have start : Sound [] machine.initial := ⟨nofun, nofun⟩
  have sound : Sound fed (machine.after fed) :=
    machine.invariant_after start (fun _ _ line holds => holds.step line) fed
  refine ⟨sound, fun loop open_loop item member => ?_⟩
  have loop_sound := sound.active loop open_loop
  exact bindsAll loop_sound.distinct (loop_sound.fits item member)

end Stencil.Loop

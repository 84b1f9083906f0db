import Mathlib.Data.List.Basic
import Stencil.Proofs.Section.Compile

/-!
# What later lines do to declared controls

A control keeps its name and base for ever, and its lines as soon as another control is declared
after it.  The lines of the control declared last are not final when its section closes: the plain
lines that a later types section has before its first entry take their place.
`controls_prefix_after_iff` says exactly when the controls of a state outside sections stay.
-/

namespace Stencil.Section

/-- The text of lines, of which there is at least one. -/
def joined? : List Text → Option Text
  | [] => none
  | lines => some (joinLines lines)

/-- The text that blocks put in the place of the lines of the control declared last before them.
Only types sections up to the first one with an entry reach that control, and a later one of them
prevails. -/
def replacement? : List Block → Option Text
  | [] => none
  | .types strays entries :: rest =>
    if entries = [] then (replacement? rest).or (joined? strays) else joined? strays
  | _ :: rest => replacement? rest

/-- The blocks of an outline, and the open types section if it has declared a control. -/
def Outline.declaring (outline : Outline) : List Block :=
  match outline.unclosed with
  | some ⟨.types, _, lines⟩ =>
    if (divide lines).2 = [] then outline.blocks
    else outline.blocks ++ [.ofSection .types lines]
  | _ => outline.blocks

/-- The control with a text in the place of its lines, if there is such a text. -/
def amend (control : Control) (body? : Option Text) : Control :=
  { control with body := body?.getD control.body }

theorem amend_amend (control : Control) (first? second? : Option Text) :
    amend (amend control first?) second? = amend control (second?.or first?) := by
  cases second? <;> rfl

theorem amend_eq_self_iff (control : Control) (body? : Option Text) :
    amend control body? = control ↔ ∀ body ∈ body?, body = control.body := by
  cases control
  cases body? <;> simp [amend]

/-! ## Memories -/

theorem amendLast_concat_amend (front : List Control) (last : Control) (lines : List Text) :
    amendLast (front ++ [last]) lines = front ++ [amend last (joined? lines)] := by
  cases lines with
  | nil => rfl
  | cons line rest => exact amendLast_concat front last (by simp)

theorem extend_concat (front : List Control) (last : Control) (strays : List Text)
    (entries : List Entry) :
    extend (front ++ [last]) strays entries =
      front ++ [amend last (joined? strays)] ++ entries.map Entry.control := by
  have declared : front ++ [last] ≠ [] := by simp
  rw [extend, if_neg declared, amendLast_concat_amend]

theorem length_amendLast (controls : List Control) (lines : List Text) :
    (amendLast controls lines).length = controls.length := by
  rcases List.eq_nil_or_concat' controls with rfl | ⟨front, last, rfl⟩
  · simp
  · simp [amendLast_concat_amend]

/-- Blocks keep every control but the last, and replace the lines of that one as `replacement?`
says. -/
theorem prefix_rememberAll (blocks : List Block) (memory : Memory) (front : List Control)
    (last : Control) (controls : memory.controls = front ++ [last]) :
    front ++ [amend last (replacement? blocks)] <+: (memory.rememberAll blocks).controls := by
  induction blocks generalizing memory front last with
  | nil => simp [replacement?, amend, Memory.rememberAll, controls]
  | cons block rest ih =>
      rw [Memory.rememberAll, List.foldl_cons, ← Memory.rememberAll]
      cases block with
      | types strays entries =>
          have step : (memory.remember (.types strays entries)).controls =
              front ++ [amend last (joined? strays)] ++ entries.map Entry.control := by
            rw [Memory.remember, controls, extend_concat]
          rcases List.eq_nil_or_concat' entries with rfl | ⟨others, final, rfl⟩
          · have kept := ih _ front (amend last (joined? strays)) (by simpa using step)
            rwa [amend_amend] at kept
          · have kept := ih _ (front ++ [amend last (joined? strays)] ++ others.map Entry.control)
              final.control (by simpa using step)
            rw [List.append_assoc] at kept
            have here : replacement? (.types strays (others ++ [final]) :: rest) =
                joined? strays := by simp [replacement?]
            rw [here]
            exact (List.prefix_append _ _).trans kept
      | _ => exact ih _ front last controls

/-! ## Runs -/

namespace State

/-- The lines of a types section amend the control declared last before their first entry, and
without an entry they change no control before the section closes. -/
theorem controls_after_types (style : Style) (state : State) {openedAt : Nat}
    (inside : state.place = .inside .types openedAt) {lines : List Line}
    (unclosed : ∀ line ∈ lines, closes .types line = false) (declared : state.controls ≠ []) :
    if (divide lines).2 = [] then (state.after style lines).controls = state.controls
    else amendLast state.controls (state.pending ++ (divide lines).1) <+:
      (state.after style lines).controls := by
  induction lines generalizing state with
  | nil => simp [divide]
  | cons line rest ih =>
      obtain ⟨line_open, rest_open⟩ := List.forall_mem_cons.mp unclosed
      rw [after_cons]
      cases kind : classify line.text with
      | plain =>
          rw [offer_plain kind, push_inside inside]
          simpa [divide, kind] using
            ih { state with pending := state.pending ++ [line.text] } inside rest_open declared
      | unknown =>
          rw [offer_unknown kind]
          simpa [divide, kind] using ih state inside rest_open declared
      | directive directive =>
          rw [offer_directive kind, inside]
          cases directive with
          | typeEntry name base =>
              -- From here on the new control is last, and only it can still be amended.
              have rest_run := ih
                { state.flush with controls := state.flush.controls ++ [⟨name, base, []⟩] }
                (by simp [inside]) rest_open (by simp)
              simp only [divide, kind, Place.action, apply, List.append_nil]
              rw [if_neg (by simp), ← flush_controls]
              split at rest_run
              next => exact rest_run ▸ List.prefix_append _ _
              next =>
                rw [amendLast_concat_amend] at rest_run
                exact (List.prefix_append _ _).trans rest_run
          | endTypes => simp [closes, kind] at line_open
          | _ => simpa [divide, kind, Place.action, apply] using ih state inside rest_open declared

/-- Lines keep every control of a state outside sections but the last, and replace the lines of that
one as their outline says. -/
theorem prefix_after (style : Style) (state : State) (outside : state.place = .outside)
    (lines : List Line) (front : List Control) (last : Control)
    (controls : state.controls = front ++ [last]) :
    front ++ [amend last (replacement? (outline lines).declaring)] <+:
      (state.after style lines).controls := by
  have ends := ends_outline style lines state outside
  have blocks_prefix := fun blocks =>
    prefix_rememberAll blocks state.memory front last controls
  unfold Ends at ends
  unfold Outline.declaring
  cases unclosed : (outline lines).unclosed with
  | none =>
      rw [unclosed] at ends
      obtain ⟨_, follows⟩ := ends
      have closed : (state.after style lines).controls =
          (state.memory.rememberAll (outline lines).blocks).controls :=
        congrArg Memory.controls follows.memory
      rw [closed]
      exact blocks_prefix (outline lines).blocks
  | some opened =>
      rw [unclosed] at ends
      obtain ⟨start, inside, fresh, follows, open_lines, final_eq⟩ := ends
      have start_controls : start.controls =
          (state.memory.rememberAll (outline lines).blocks).controls :=
        congrArg Memory.controls follows.memory
      have start_prefix := blocks_prefix (outline lines).blocks
      rw [← start_controls] at start_prefix
      obtain ⟨kind, openedAt, inner⟩ := opened
      rw [final_eq]
      cases kind with
      | copy =>
          rw [after_copy style start inside open_lines]
          exact start_prefix
      | types =>
          have start_length : front.length + 1 ≤ start.controls.length := by
            simpa using start_prefix.length_le
          have declared : start.controls ≠ [] := List.ne_nil_of_length_pos (by omega)
          have run := controls_after_types style start inside open_lines declared
          rw [fresh, List.nil_append] at run
          dsimp only at run ⊢
          split at run
          next no_entry => rwa [if_pos no_entry, run]
          next entry =>
            -- The open section amends the same control as it would if it were closed here.
            have with_section :=
              blocks_prefix ((outline lines).blocks ++ [.ofSection .types inner])
            rw [Memory.rememberAll, List.foldl_concat, ← Memory.rememberAll, Block.ofSection,
              Memory.remember, ← start_controls, extend, if_neg declared] at with_section
            rw [if_neg entry]
            have amended := List.prefix_of_prefix_length_le with_section (List.prefix_append _ _)
              (by rw [length_amendLast, List.length_append]; exact start_length)
            exact amended.trans run

end State

/-- The name and the base of a control. -/
def heading (control : Control) : Text × Text := (control.name, control.base)

/-- Whatever lines follow a state outside sections, all its controls but the last stay as they are,
and the last one keeps its name and base.  It keeps its lines exactly when the lines have nothing to
put in their place, or put the same. -/
theorem controls_prefix_after_iff (style : Style) (state : State)
    (outside : state.place = .outside) (lines : List Line) :
    state.controls.dropLast <+: (state.after style lines).controls ∧
      state.controls.map heading <+: (state.after style lines).controls.map heading ∧
      (state.controls <+: (state.after style lines).controls ↔
        ∀ last ∈ state.controls.getLast?,
          ∀ body ∈ replacement? (outline lines).declaring, body = last.body) := by
  rcases List.eq_nil_or_concat' state.controls with empty | ⟨front, last, controls⟩
  · simp [empty]
  · have kept := State.prefix_after style state outside lines front last controls
    have same_length : (front ++ [last]).length =
        (front ++ [amend last (replacement? (outline lines).declaring)]).length := by simp
    rw [controls]
    refine ⟨?_, ?_, ?_⟩
    · rw [List.dropLast_concat]
      exact (List.prefix_append _ _).trans kept
    · have headings := kept.map heading
      simpa [heading, amend] using headings
    · simp only [List.getLast?_concat, Option.mem_some_iff, forall_eq', ← amend_eq_self_iff]
      constructor
      · intro whole
        have inner := List.prefix_of_prefix_length_le whole kept (Nat.le_of_eq same_length)
        simpa using (inner.eq_of_length same_length).symm
      · intro unchanged
        rwa [unchanged] at kept

/-- A types section that declares a control with lines of its own. -/
def declaringLines : List Line :=
  [ ⟨1, Mark.beginTypes⟩, ⟨2, "// -- A : B --".toList⟩, ⟨3, "own();".toList⟩, ⟨4, Mark.endTypes⟩ ]

/-- A later types section with a plain line and no entry. -/
def strayLines : List Line :=
  [ ⟨5, Mark.beginTypes⟩, ⟨6, "stray();".toList⟩, ⟨7, Mark.endTypes⟩ ]

/-- The state after the declaring section. -/
def declared : State := State.initial.after Style.standard declaringLines

/-- A plain line of a later types section takes the place of the lines of a declared control. -/
theorem not_controls_prefix_after_stray :
    declared.place = .outside ∧
      ¬declared.controls <+: (declared.after Style.standard strayLines).controls := by
  decide +kernel

/-- The later section has a line to put in place of the line of the declared control, which is
another one, so the control does not stay as it is. -/
theorem controls_prefix_after_stray_iff :
    declared.place = .outside ∧
      declared.controls.dropLast <+: (declared.after Style.standard strayLines).controls ∧
      declared.controls.map heading <+:
        (declared.after Style.standard strayLines).controls.map heading ∧
      (declared.controls <+: (declared.after Style.standard strayLines).controls ↔
        ∀ last ∈ declared.controls.getLast?,
          ∀ body ∈ replacement? (outline strayLines).declaring, body = last.body) ∧
      ¬declared.controls <+: (declared.after Style.standard strayLines).controls := by
  have outside : declared.place = .outside := by decide +kernel
  have last : declared.controls.getLast? = some ⟨['A'], ['B'], "own();".toList⟩ := by
    decide +kernel
  have body : replacement? (outline strayLines).declaring = some "stray();".toList := by
    decide +kernel
  obtain ⟨others_kept, headings_kept, kept_iff⟩ :=
    controls_prefix_after_iff Style.standard declared outside strayLines
  have replaced : ¬declared.controls <+: (declared.after Style.standard strayLines).controls :=
    fun kept => absurd (kept_iff.mp kept _ last _ body) (by decide)
  exact ⟨outside, others_kept, headings_kept, kept_iff, replaced⟩

end Stencil.Section

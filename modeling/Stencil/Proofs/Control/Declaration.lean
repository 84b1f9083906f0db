import Stencil.Proofs.Text.Rounds

/-!
# Declaration lines

A declaration line is filled in two rounds, the name first and the base second.  This is one pass
over the line as it is written unless the name stands between braces and letters that, together with
it, are the mark of the base: then the base replaces all of them.
-/

namespace Stencil

open Text (FillsMarks Keyed mark fillMarks Completes)

namespace Style

/-- The key of the name. -/
def nameKey : Text := "name".toList

/-- The key of the base. -/
def baseKey : Text := "base".toList

theorem nameMark_eq : nameMark = mark nameKey := rfl

theorem baseMark_eq : baseMark = mark baseKey := rfl

end Style

open Style (nameKey baseKey nameMark baseMark nameMark_eq baseMark_eq)

namespace Control

/-- What a control puts for the marks of a declaration line. -/
def entries (control : Control) : Bindings :=
  [(nameKey, control.name), (baseKey, control.base)]

/-- The declaration line when the base is filled first and the name second. -/
def swappedDeclaration (control : Control) (style : Style) : Text :=
  (style.declaration.replaceAll baseMark control.base).replaceAll nameMark control.name

theorem keyed_entries (control : Control) : Keyed control.entries where
  words := by
    have words : nameKey.isWord = true ∧ baseKey.isWord = true := by decide +kernel
    simpa [entries, Bindings.names] using words
  distinct := by
    simp only [entries, Bindings.names, List.map_cons, List.map_nil]
    decide

/-- Two rounds fill a declaration line as one pass does, exactly if the value of the first round
completes no mark of the second; so much for either order.  What one pass does is what the laws of
filling marks ask for, and nothing else does so. -/
theorem declaration_eq_fillMarks_iff (control : Control) (style : Style)
    (name_word : control.name.isWord = true) (base_word : control.base.isWord = true) :
    (∀ filler, FillsMarks control.entries filler ↔ filler = fillMarks control.entries) ∧
    (control.declaration style = fillMarks control.entries style.declaration ↔
      ¬Completes nameKey control.name baseKey style.declaration) ∧
    (control.swappedDeclaration style = fillMarks control.entries style.declaration ↔
      ¬Completes baseKey control.base nameKey style.declaration) := by
  have keyed := control.keyed_entries
  have reordered : control.entries.Perm [(baseKey, control.base), (nameKey, control.name)] :=
    List.Perm.swap _ _ []
  refine ⟨Text.fillsMarks_iff keyed, ?_, ?_⟩
  · rw [declaration, nameMark_eq, baseMark_eq]
    exact Text.replaceAll_replaceAll_eq_iff keyed (by decide) name_word base_word _
  · rw [swappedDeclaration, nameMark_eq, baseMark_eq, Text.fillMarks_perm keyed reordered]
    exact Text.replaceAll_replaceAll_eq_iff (keyed.perm reordered) (by decide) base_word name_word _

/-- A control whose name is the key of the base. -/
def baseNamed : Control := ⟨baseKey, "Button".toList, []⟩

/-- A style that writes the name between braces. -/
def bracedName : Style := { Style.standard with declaration := mark nameMark ++ baseMark }

/-- The name becomes a mark of the base, and the base is put for it. -/
theorem declaration_baseNamed :
    (baseNamed.declaration bracedName, fillMarks baseNamed.entries bracedName.declaration) =
      ("ButtonButton".toList, baseMark ++ "Button".toList) := by
  decide +kernel

theorem not_declaration_eq_fillMarks :
    ¬∀ (control : Control) (style : Style), control.name.isWord = true →
      control.base.isWord = true →
      control.declaration style = fillMarks control.entries style.declaration ∧
        control.swappedDeclaration style = control.declaration style := by
  intro simultaneous
  obtain ⟨same, _⟩ := simultaneous baseNamed bracedName (by decide +kernel) (by decide +kernel)
  obtain ⟨filled, at_once⟩ := Prod.mk.inj declaration_baseNamed
  rw [filled, at_once] at same
  exact absurd same (by decide)

theorem declaration_eq_fillMarks_iff_baseNamed :
    baseNamed.name.isWord = true ∧ baseNamed.base.isWord = true ∧
      baseNamed.declaration bracedName ≠
        fillMarks baseNamed.entries bracedName.declaration ∧
      baseNamed.swappedDeclaration bracedName =
        fillMarks baseNamed.entries bracedName.declaration := by
  have name_word : baseNamed.name.isWord = true := by decide +kernel
  have base_word : baseNamed.base.isWord = true := by decide +kernel
  obtain ⟨_, in_order, swapped⟩ :=
    declaration_eq_fillMarks_iff baseNamed bracedName name_word base_word
  have completes : Completes nameKey baseNamed.name baseKey bracedName.declaration :=
    ⟨[], [], rfl, [], baseMark, rfl⟩
  have not_completes : ¬Completes baseKey baseNamed.base nameKey bracedName.declaration := by
    rintro ⟨before, after, spelled, _⟩
    have length_eq := congrArg List.length spelled
    simp [baseNamed, nameKey] at length_eq
    omega
  exact ⟨name_word, base_word, fun same => in_order.mp same completes, swapped.mpr not_completes⟩

end Control

end Stencil

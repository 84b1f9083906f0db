import Stencil.Proofs.FileTree.Rewriting
import Stencil.Proofs.Generator.Frame

/-!
# Generating a file again

A run that stores its text first sees to the directory of the output and then puts the text at one
location.  What it needs for that it also finds later: the directory stands, the output leads to the
same location, and the template reads alike unless it was written.  So the same text can be stored
there again.
-/

namespace Stencil.Generator

open FileTree (KeepsItems)
open InMemory (Yields)

variable {generator : Generator} {template output : Path} {old new tree grown after : FileTree}
  {location : Location} {text : Text}

/-! ## The directory of the output -/

theorem Ensured.parentStands (ensured : Ensured output tree (.ok ()) grown) :
    ParentStands output grown := by
  cases ensured with
  | stood stands => exact stands
  | @made parent found missing done =>
      intro other has_parent
      obtain rfl := Option.some.inj (found.symm.trans has_parent)
      by_cases empty : parent.text = []
      · exact .inl empty
      · exact .inr (FileTree.has_of_makeDirectories empty done)

theorem ParentStands.later (stands : ParentStands output old) (keeps : KeepsItems old new) :
    ParentStands output new := by
  intro parent has_parent
  exact (stands parent has_parent).imp_right keeps.has

/-- Making directories leaves items in place. -/
theorem Ensured.put_eq {given : Except Fault Unit} {item : Item}
    (ensured : Ensured output tree given grown) (in_place : tree.put location item = tree) :
    grown.put location item = grown := by
  cases ensured with
  | stood => exact in_place
  | made => exact FileTree.put_eq_of_makeAll in_place _
  | refused => exact FileTree.put_eq_of_makeAll in_place _

/-! ## Runs that store their text -/

/-- A real run gives a text exactly if it has one and can put it where the output leads. -/
theorem yields_generate_ok_iff (real_run : generator.dryRun = false) :
    Yields (generator.generate template output) tree (.ok text) after ↔
      generator.prepare template output tree = .ok text ∧
      ∃ grown location, Ensured output tree (.ok ()) grown ∧ grown.Writable output location ∧
        after = grown.put location (.file (.text text)) := by
  constructor
  · intro yields
    cases prepared : generator.prepare template output tree with
    | error fault =>
        obtain ⟨refused, _⟩ := yields.unique (yields_generate_of_refused prepared)
        cases refused
    | ok found =>
        rcases writable_or_yields_store output found tree with
          ⟨grown, location, ensured, writable⟩ | ⟨path, error, left, stopped, _⟩
        · obtain ⟨same, rfl⟩ := yields.unique
            (yields_generate_of_writable prepared real_run ensured writable)
          obtain rfl := Except.ok.inj same
          exact ⟨rfl, grown, location, ensured, writable, rfl⟩
        · obtain ⟨refused, _⟩ := yields.unique
            (yields_generate_of_unstored prepared real_run stopped)
          cases refused
  · rintro ⟨prepared, grown, location, ensured, writable, rfl⟩
    exact yields_generate_of_writable prepared real_run ensured writable

theorem prepare_of_read_eq (prepared : generator.prepare template output old = .ok text)
    (read_eq : ∀ source, old.read template = .ok source → new.read template = .ok source) :
    generator.prepare template output new = .ok text := by
  obtain ⟨named, source, read, generated⟩ := (prepare_eq_ok_iff _ _ _ _ _).mp prepared
  exact (prepare_eq_ok_iff _ _ _ _ _).mpr ⟨named, source, read_eq source read, generated⟩

end Stencil.Generator

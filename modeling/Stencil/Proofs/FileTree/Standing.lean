import Stencil.Proofs.FileTree.Growth

/-!
# What stands stays standing

Neither making directories nor writing files takes anything away: a directory stays a directory and
a file stays a file, though its text may change.  So a path at which something stands leads to it
later on, and directories that were made once need not be made again.
-/

namespace Stencil.FileTree

variable {old middle new : FileTree} {location : Location} {path : Path}

/-! ## Looking a path up -/

/-- Something stands at a path that leads to a directory by its dots, or to an entry; a file does
not stand at a path that ends in a slash. -/
theorem lookup_eq_ok_iff (tree : FileTree) (path : Path) (item : Item) :
    tree.lookup path = .ok item ↔
      (∃ location, tree.resolve path = .ok (.directory location) ∧ item = .directory) ∨
      ∃ location, tree.resolve path = .ok (.entry location) ∧
        (location.getLastD []).byteSize ≤ nameLimit ∧ tree.find? location = some item ∧
        (path.hasTrailingSlash = true → item = .directory) := by
  constructor
  · intro found
    rw [lookup] at found
    split at found
    next => cases found
    next location leads => exact .inl ⟨location, leads, (Except.ok.inj found).symm⟩
    next location leads =>
      refine .inr ⟨location, leads, ?_⟩
      split at found
      next => cases found
      next => cases found
      next entered =>
        obtain rfl := Except.ok.inj found
        obtain ⟨short, stood⟩ := (entry_eq_ok_iff _ _ _).mp entered
        exact ⟨short, stood, fun _ => rfl⟩
      next content entered =>
        obtain ⟨short, stood⟩ := (entry_eq_ok_iff _ _ _).mp entered
        split at found
        next => cases found
        next no_slash =>
          obtain rfl := Except.ok.inj found
          exact ⟨short, stood, fun slash => absurd slash no_slash⟩
  · rintro (⟨location, leads, rfl⟩ | ⟨location, leads, short, stood, no_file⟩)
    · rw [lookup, leads]
    · have entered := (entry_eq_ok_iff tree location _).mpr ⟨short, stood⟩
      rw [lookup, leads]
      cases item with
      | directory => simp only [entered]
      | file content =>
          have no_slash : ¬path.hasTrailingSlash = true := by
            intro slash
            cases no_file slash
          simp only [entered, if_neg no_slash]

theorem read_eq_ok_iff_lookup (tree : FileTree) (path : Path) (text : Text) :
    tree.read path = .ok text ↔ tree.lookup path = .ok (.file (.text text)) := by
  rw [read]
  split <;> simp_all

theorem read_eq_ok_iff (tree : FileTree) (path : Path) (text : Text) :
    tree.read path = .ok text ↔
      ∃ location, tree.resolve path = .ok (.entry location) ∧
        (location.getLastD []).byteSize ≤ nameLimit ∧
        tree.find? location = some (.file (.text text)) ∧ path.hasTrailingSlash = false := by
  rw [read_eq_ok_iff_lookup, lookup_eq_ok_iff]
  simp

theorem has_iff (tree : FileTree) (path : Path) :
    tree.has path = true ↔ ∃ item, tree.lookup path = .ok item := by
  rw [has]
  cases tree.lookup path <;> simp

theorem hasDirectory_iff (tree : FileTree) (path : Path) :
    tree.hasDirectory path = true ↔ tree.lookup path = .ok .directory := by
  rw [hasDirectory]
  split <;> simp_all

theorem file?_eq_some_iff (tree : FileTree) (location : Location) (content : Content) :
    tree.file? location = some content ↔ tree.find? location = some (.file content) := by
  rw [file?]
  split <;> simp_all

/-! ## While nothing goes away -/

/-- Directories stay directories, and files stay files. -/
structure KeepsItems (old new : FileTree) : Prop extends KeepsDirectories old new where
  file : ∀ location content, old.find? location = some (.file content) →
    ∃ later, new.find? location = some (.file later)

namespace KeepsItems

theorem refl (tree : FileTree) : KeepsItems tree tree where
  workdir := rfl
  directory _ stood := stood
  file _ content stood := ⟨content, stood⟩

theorem trans (first : KeepsItems old middle) (second : KeepsItems middle new) :
    KeepsItems old new where
  workdir := second.workdir.trans first.workdir
  directory location stood := second.directory location (first.directory location stood)
  file location content stood := by
    obtain ⟨between, found⟩ := first.file location content stood
    exact second.file location between found

theorem has (keeps : KeepsItems old new) (stands : old.has path = true) :
    new.has path = true := by
  obtain ⟨item, found⟩ := (has_iff old path).mp stands
  refine (has_iff new path).mpr ?_
  rcases (lookup_eq_ok_iff old path item).mp found with ⟨location, leads, rfl⟩ |
    ⟨location, leads, short, stood, no_file⟩
  · exact ⟨.directory, (lookup_eq_ok_iff new path _).mpr
      (.inl ⟨location, keeps.resolve leads, rfl⟩)⟩
  · cases item with
    | directory =>
        exact ⟨.directory, (lookup_eq_ok_iff new path _).mpr (.inr ⟨location,
          keeps.resolve leads, short, keeps.directory location stood, fun _ => rfl⟩)⟩
    | file content =>
        obtain ⟨later, found⟩ := keeps.file location content stood
        refine ⟨.file later, (lookup_eq_ok_iff new path _).mpr (.inr ⟨location,
          keeps.resolve leads, short, found, fun slash => ?_⟩)⟩
        cases no_file slash

/-- A path reads alike as long as nothing is written where it leads. -/
theorem read_eq (keeps : KeepsItems old new) {text : Text} (read : old.read path = .ok text)
    (unwritten : ∀ location, old.resolve path = .ok (.entry location) →
      new.file? location = old.file? location) :
    new.read path = .ok text := by
  obtain ⟨location, leads, short, stood, no_slash⟩ := (read_eq_ok_iff old path text).mp read
  have same := unwritten location leads
  rw [(file?_eq_some_iff old location _).mpr stood] at same
  exact (read_eq_ok_iff new path text).mpr
    ⟨location, keeps.resolve leads, short, (file?_eq_some_iff new location _).mp same, no_slash⟩

end KeepsItems

theorem Grows.keepsItems {named : Path → Prop} (grows : Grows named old new) :
    KeepsItems old new where
  toKeepsDirectories := grows.keeps
  file location content stood := by
    rcases grows.item location with same | added
    · exact ⟨content, same.trans stood⟩
    · cases added.absent.symm.trans stood

/-- Writing a file takes nothing away. -/
theorem Writable.keepsItems (writable : old.Writable path location) (text : Text) :
    KeepsItems old (old.put location (.file (.text text))) where
  toKeepsDirectories := writable.keeps text
  file other content stood := by
    rw [find?_put old (ne_nil_of_resolve writable.leads)]
    split
    next => exact ⟨_, rfl⟩
    next => exact ⟨content, stood⟩

/-! ## Directories that were made -/

theorem hasDirectory_of_makeDirectory (done : old.makeDirectory path = .ok new) :
    new.hasDirectory path = true := by
  unfold makeDirectory at done
  split at done
  next => cases done
  next => cases done
  next location leads =>
    have below_root := ne_nil_of_resolve leads
    split at done
    next => cases done
    next => cases done
    next entered =>
      obtain rfl := Except.ok.inj done
      obtain ⟨short, _⟩ := (entry_eq_ok_iff _ _ _).mp entered
      have keeps : KeepsDirectories old (old.put location .directory) :=
        keepsDirectories_put below_root fun _ => rfl
      refine (hasDirectory_iff _ path).mpr ((lookup_eq_ok_iff _ path _).mpr (.inr
        ⟨location, keeps.resolve leads, short, ?_, fun _ => rfl⟩))
      rw [find?_put old below_root, if_pos rfl]

theorem hasDirectory_of_makeAll (parents : List Path)
    (done : (old.makeAll (path :: parents)).2 = .ok ()) :
    (old.makeAll (path :: parents)).1.hasDirectory path = true := by
  rw [makeAll] at done ⊢
  split
  next after made => exact hasDirectory_of_makeDirectory made
  next missing =>
    rw [missing] at done
    split
    next stopped => simp [stopped] at done
    next grown above =>
      rw [above] at done
      split
      next after made => exact hasDirectory_of_makeDirectory made
      next refused =>
        simp only [refused] at done
        split
        next stands => exact stands
        next lacking => simp [lacking] at done
  next error other refused =>
    simp only [refused] at done
    split
    next stands => exact stands
    next lacking => simp [lacking] at done

/-- A directory that was made with the directories on the way to it stands. -/
theorem has_of_makeDirectories (visible : path.text ≠ [])
    (done : (old.makeDirectories path).2 = .ok ()) :
    (old.makeDirectories path).1.has path = true := by
  have ancestors_eq : ∃ parents, path.ancestors = path :: parents := by
    rw [Path.ancestors, Path.ancestorsFrom, if_neg (by simpa using visible)]
    split <;> exact ⟨_, rfl⟩
  obtain ⟨parents, ancestors_eq⟩ := ancestors_eq
  rw [makeDirectories, ancestors_eq] at done ⊢
  have stands := hasDirectory_of_makeAll parents done
  exact (has_iff _ path).mpr ⟨.directory, (hasDirectory_iff _ path).mp stands⟩

end Stencil.FileTree

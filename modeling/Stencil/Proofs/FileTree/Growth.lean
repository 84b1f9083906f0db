import Mathlib.Data.List.Basic
import Stencil.FileTree
import Stencil.Proofs.Path.Ancestors

/-!
# How operations change a file tree

Making directories only adds directories, and writing a file changes what stands at one location.
`Grows` says the first and `Stores` the second, of whole sequences of operations.  Both hold across
several operations because a path that leads somewhere still leads there as long as no directory
goes away.
-/

namespace Stencil.FileTree

variable {old middle new : FileTree} {location other : Location} {path : Path}

/-! ## One location -/

theorem lookup_replace (items : List (Location × Item)) (location other : Location)
    (item : Item) :
    (items.map fun (place, was) => if place = location then (place, item) else (place, was)).lookup
        other =
      if other = location then (items.lookup other).map fun _ => item else items.lookup other := by
  induction items with
  | nil => simp
  | cons first rest ih =>
      obtain ⟨place, was⟩ := first
      by_cases here : other = place
      · subst here
        by_cases at_location : other = location <;> simp [at_location]
      · have elsewhere : (other == place) = false := by simpa using here
        by_cases at_location : place = location
        · subst at_location
          simpa [List.lookup_cons, elsewhere] using ih
        · simpa [List.lookup_cons, at_location, elsewhere] using ih

/-- Nothing but the item at the location changes. -/
theorem find?_put (tree : FileTree) (below_root : location ≠ []) (item : Item)
    (other : Location) :
    (tree.put location item).find? other =
      if other = location then some item else tree.find? other := by
  cases other with
  | nil => simp [find?, Ne.symm below_root]
  | cons name names =>
      unfold put
      cases found : tree.items.lookup location with
      | some was =>
          simp only [Option.isSome_some, if_true, find?]
          rw [lookup_replace tree.items location (name :: names) item]
          split
          next here => rw [here, found]; rfl
          next => rfl
      | none =>
          simp only [Option.isSome_none, Bool.false_eq_true, if_false, find?, List.lookup_append]
          by_cases here : name :: names = location
          · simp [here, found]
          · have elsewhere : (name :: names == location) = false := by simpa using here
            simp [here, List.lookup_cons, elsewhere]

@[simp]
theorem workdir_put (tree : FileTree) (location : Location) (item : Item) :
    (tree.put location item).workdir = tree.workdir := by
  unfold put
  split <;> rfl

theorem entry_eq_ok_iff (tree : FileTree) (location : Location) (found : Option Item) :
    tree.entry location = .ok found ↔
      (location.getLastD []).byteSize ≤ nameLimit ∧ tree.find? location = found := by
  unfold entry
  split
  next long => exact iff_of_false (by simp) fun both => absurd both.1 (Nat.not_le.mpr long)
  next short =>
    rw [Except.ok.injEq]
    exact ⟨fun same => ⟨Nat.not_lt.mp short, same⟩, And.right⟩

/-! ## Paths while directories stay -/

/-- No directory goes away. -/
structure KeepsDirectories (old new : FileTree) : Prop where
  workdir : new.workdir = old.workdir
  directory : ∀ location, old.find? location = some .directory →
    new.find? location = some .directory

theorem KeepsDirectories.walk (keeps : KeepsDirectories old new) {start : Location}
    {names : List Text} (done : old.walk start names = .ok location) :
    new.walk start names = .ok location := by
  induction names generalizing start with
  | nil => exact done
  | cons name rest ih =>
      unfold FileTree.walk at done ⊢
      split
      next here =>
        rw [if_pos here] at done
        exact ih done
      next not_here =>
        rw [if_neg not_here] at done
        split
        next up =>
          rw [if_pos up] at done
          exact ih done
        next not_up =>
          rw [if_neg not_up] at done
          split at done
          next => cases done
          next => cases done
          next => cases done
          next entered =>
            obtain ⟨short, stood⟩ := (entry_eq_ok_iff _ _ _).mp entered
            have stays := (entry_eq_ok_iff new _ _).mpr ⟨short, keeps.directory _ stood⟩
            simp only [stays]
            exact ih done

/-- The names of a path. -/
def names (path : Path) : List Text := path.segments.filter (· != [])

/-- Where the walk along a path starts. -/
def start (tree : FileTree) (path : Path) : Location :=
  if path.isAbsolute then [] else tree.workdir

/-- A path that can be looked up and ends in a name. -/
structure EndsInName (path : Path) (last : Text) : Prop where
  no_null : path.text.contains '\x00' = false
  short : path.text.byteSize < pathLimit
  last_eq : (names path).getLast? = some last
  not_dot : last ≠ ['.']
  not_dots : last ≠ ['.', '.']

theorem resolve_eq (tree : FileTree) (path : Path) :
    tree.resolve path =
      if path.text.contains '\x00' then .error .nullInName
      else if pathLimit ≤ path.text.byteSize then .error .nameTooLong
      else if path.text.isEmpty then .error .notFound
      else
        match (names path).getLast? with
        | none => .ok (.directory (tree.start path))
        | some last =>
          if last = ['.'] ∨ last = ['.', '.'] then
            (tree.walk (tree.start path) (names path)).map .directory
          else
            (tree.walk (tree.start path) (names path).dropLast).map fun parent =>
              .entry (parent ++ [last]) := rfl

/-- A path leads to an entry of the directory to which all its names but the last lead. -/
theorem resolve_eq_entry_iff (tree : FileTree) (path : Path) (location : Location) :
    tree.resolve path = .ok (.entry location) ↔
      ∃ last parent, EndsInName path last ∧
        tree.walk (tree.start path) (names path).dropLast = .ok parent ∧
        location = parent ++ [last] := by
  rw [resolve_eq]
  constructor
  · intro leads
    split at leads
    next => cases leads
    next no_null =>
      split at leads
      next => cases leads
      next short =>
        split at leads
        next => cases leads
        next =>
          split at leads
          next => cases leads
          next last last_eq =>
            split at leads
            next =>
              cases walked : tree.walk (tree.start path) (names path) <;>
                simp [walked, Except.map] at leads
            next name =>
              obtain ⟨not_dot, not_dots⟩ := not_or.mp name
              cases walked : tree.walk (tree.start path) (names path).dropLast with
              | error error => simp [walked, Except.map] at leads
              | ok parent =>
                  have location_eq : parent ++ [last] = location := by
                    simpa [walked, Except.map] using leads
                  exact ⟨last, parent, ⟨by simpa using no_null, by omega, last_eq, not_dot,
                    not_dots⟩, rfl, location_eq.symm⟩
  · rintro ⟨last, parent, ends, walked, rfl⟩
    have nonempty : ¬path.text.isEmpty = true := by
      intro empty
      have no_name := ends.last_eq
      rw [names, Path.segments, List.isEmpty_iff.mp empty] at no_name
      cases no_name
    have long : ¬pathLimit ≤ path.text.byteSize := Nat.not_le.mpr ends.short
    have name : ¬(last = ['.'] ∨ last = ['.', '.']) := not_or.mpr ⟨ends.not_dot, ends.not_dots⟩
    rw [ends.no_null, if_neg Bool.false_ne_true, if_neg long, if_neg nonempty, ends.last_eq]
    simp only [if_neg name, walked, Except.map]

theorem KeepsDirectories.map_walk (keeps : KeepsDirectories old new) {start : Location}
    {names : List Text} {step : Location → Target} {target : Target}
    (done : (old.walk start names).map step = .ok target) :
    (new.walk start names).map step = .ok target := by
  cases walked : old.walk start names with
  | error error => simp [walked, Except.map] at done
  | ok location => rwa [keeps.walk walked, ← walked]

theorem KeepsDirectories.resolve (keeps : KeepsDirectories old new) {target : Target}
    (leads : old.resolve path = .ok target) : new.resolve path = .ok target := by
  have start_eq : new.start path = old.start path := by rw [start, start, keeps.workdir]
  rw [resolve_eq] at leads ⊢
  rw [start_eq]
  split
  next null => rwa [if_pos null] at leads
  next no_null =>
    rw [if_neg no_null] at leads
    split
    next long => rwa [if_pos long] at leads
    next short =>
      rw [if_neg short] at leads
      split
      next empty => rwa [if_pos empty] at leads
      next visible =>
        rw [if_neg visible] at leads
        cases last_eq : (names path).getLast? with
        | none => rwa [last_eq] at leads
        | some last =>
            rw [last_eq] at leads
            by_cases dots : last = ['.'] ∨ last = ['.', '.']
            · simp only [if_pos dots] at leads ⊢
              exact keeps.map_walk leads
            · simp only [if_neg dots] at leads ⊢
              exact keeps.map_walk leads

theorem ne_nil_of_resolve (leads : old.resolve path = .ok (.entry location)) : location ≠ [] := by
  obtain ⟨last, parent, _, _, rfl⟩ := (resolve_eq_entry_iff old path location).mp leads
  simp

/-! ## Adding directories -/

/-- A directory stands where nothing stood, and one of the paths leads to it. -/
structure NewDirectory (named : Path → Prop) (old new : FileTree) (location : Location) : Prop where
  absent : old.find? location = none
  made : new.find? location = some .directory
  path : ∃ path, named path ∧ new.resolve path = .ok (.entry location)

/-- The new tree has what the old one has and, beyond that, directories to which the paths lead. -/
structure Grows (named : Path → Prop) (old new : FileTree) : Prop where
  workdir : new.workdir = old.workdir
  item : ∀ location, new.find? location = old.find? location ∨ NewDirectory named old new location

/-- The content of the file at a location. -/
def file? (tree : FileTree) (location : Location) : Option Content :=
  match tree.find? location with
  | some (.file content) => some content
  | _ => none

/-- The trees have the same files with the same contents. -/
def SameFiles (old new : FileTree) : Prop := ∀ location, new.file? location = old.file? location

variable {named wider : Path → Prop}

theorem Grows.refl (named : Path → Prop) (tree : FileTree) : Grows named tree tree :=
  ⟨rfl, fun _ => .inl rfl⟩

theorem Grows.keeps (grows : Grows named old new) : KeepsDirectories old new where
  workdir := grows.workdir
  directory location stood := by
    rcases grows.item location with same | added
    · rw [same, stood]
    · exact added.made

theorem NewDirectory.later (added : NewDirectory named old middle location)
    (keeps : KeepsDirectories middle new) : NewDirectory named old new location where
  absent := added.absent
  made := keeps.directory location added.made
  path := by
    obtain ⟨path, is_named, leads⟩ := added.path
    exact ⟨path, is_named, keeps.resolve leads⟩

theorem Grows.trans (first : Grows named old middle) (second : Grows named middle new) :
    Grows named old new where
  workdir := second.workdir.trans first.workdir
  item location := by
    rcases first.item location with same | added
    · rcases second.item location with same_again | added
      · exact .inl (same_again.trans same)
      · exact .inr { added with absent := same ▸ added.absent }
    · exact .inr (added.later second.keeps)

/-- A path that leads to the root or another directory by its dots makes nothing, so only paths that
lead to an entry have to be named. -/
theorem Grows.mono (grows : Grows named old new)
    (wide : ∀ path location, named path → new.resolve path = .ok (.entry location) → wider path) :
    Grows wider old new where
  workdir := grows.workdir
  item location := by
    rcases grows.item location with same | added
    · exact .inl same
    · obtain ⟨path, is_named, leads⟩ := added.path
      exact .inr ⟨added.absent, added.made, path, wide path location is_named leads, leads⟩

theorem NewDirectory.file?_eq (added : NewDirectory named old new location) :
    new.file? location = old.file? location := by
  simp [file?, added.absent, added.made]

theorem Grows.sameFiles (grows : Grows named old new) : SameFiles old new := by
  intro location
  rcases grows.item location with same | added
  · rw [file?, same]
    rfl
  · exact added.file?_eq

theorem keepsDirectories_put (below_root : location ≠ []) {item : Item}
    (allowed : old.find? location = some .directory → item = .directory) :
    KeepsDirectories old (old.put location item) where
  workdir := workdir_put old location item
  directory other stood := by
    rw [find?_put old below_root]
    split
    next here => rw [allowed (here ▸ stood)]
    next => exact stood

theorem grows_makeDirectory (done : old.makeDirectory path = .ok new) :
    Grows (· = path) old new := by
  unfold makeDirectory at done
  split at done
  next => cases done
  next => cases done
  next location leads =>
    have below_root := ne_nil_of_resolve leads
    split at done
    next => cases done
    next => cases done
    next entered =>
      obtain rfl := Except.ok.inj done
      obtain ⟨_, absent⟩ := (entry_eq_ok_iff _ _ _).mp entered
      have keeps : KeepsDirectories old (old.put location .directory) :=
        keepsDirectories_put below_root fun _ => rfl
      refine ⟨workdir_put _ _ _, fun other => ?_⟩
      by_cases here : other = location
      · subst here
        exact .inr ⟨absent, by rw [find?_put old below_root, if_pos rfl],
          path, rfl, keeps.resolve leads⟩
      · exact .inl (by rw [find?_put old below_root, if_neg here])

/-- Whatever fails on the way, making directories only adds directories. -/
theorem grows_makeAll (tree : FileTree) (paths : List Path) :
    Grows (· ∈ paths) tree (tree.makeAll paths).1 := by
  induction paths with
  | nil => exact .refl _ tree
  | cons path parents ih =>
      have here {before after : FileTree} (made : before.makeDirectory path = .ok after) :
          Grows (· ∈ path :: parents) before after :=
        (grows_makeDirectory made).mono fun _ _ is_path _ => is_path ▸ List.mem_cons_self
      have above : Grows (· ∈ path :: parents) tree (tree.makeAll parents).1 :=
        ih.mono fun _ _ member _ => List.mem_cons_of_mem path member
      unfold makeAll
      split
      next after made => exact here made
      next =>
        split
        next grown error stopped =>
          rw [stopped] at above
          exact above
        next grown done =>
          rw [done] at above
          split
          next after made => exact above.trans (here made)
          next => split <;> exact above
      next => split <;> exact .refl _ tree

/-- What is made on the way to a file stands above it. -/
theorem grows_makeDirectories (tree : FileTree) {output parent : Path}
    (found : output.parent? = some parent) :
    Grows (·.IsAbove output) tree (tree.makeDirectories parent).1 := by
  refine (grows_makeAll tree parent.ancestors).mono fun path location member leads => ?_
  rcases Path.isAbove_of_mem_ancestorsFrom found member with rfl | above
  · cases leads
  · exact above

/-! ## Writing a file -/

/-- A text is stored where a path leads: the path reads as the text, and elsewhere the trees differ
at most by new directories above the path. -/
structure Stores (output : Path) (text : Text) (old new : FileTree) (location : Location) : Prop
    where
  workdir : new.workdir = old.workdir
  target : new.resolve output = .ok (.entry location)
  read : new.read output = .ok text
  written : new.find? location = some (.file (.text text))
  no_directory : old.find? location ≠ some .directory
  others : ∀ other, other ≠ location →
    new.find? other = old.find? other ∨ NewDirectory (·.IsAbove output) old new other

/-- Only the file that is stored changes. -/
theorem Stores.file?_eq {output : Path} {text : Text} (stores : Stores output text old new location)
    (other : Location) :
    new.file? other = if other = location then some (.text text) else old.file? other := by
  by_cases here : other = location
  · subst here
    rw [if_pos rfl, file?, stores.written]
  · rw [if_neg here]
    rcases stores.others other here with same | added
    · rw [file?, same]
      rfl
    · exact added.file?_eq

/-- A file can be written at a path, which leads to the location. -/
structure Writable (tree : FileTree) (path : Path) (location : Location) : Prop where
  leads : tree.resolve path = .ok (.entry location)
  no_slash : path.hasTrailingSlash = false
  short : (location.getLastD []).byteSize ≤ nameLimit
  no_directory : tree.find? location ≠ some .directory

theorem exists_writable_of_write {output : Path} {text : Text}
    (done : old.write output text = .ok new) :
    ∃ location, old.Writable output location ∧ new = old.put location (.file (.text text)) := by
  unfold write writeContent at done
  split at done
  next => cases done
  next => cases done
  next location leads =>
    split at done
    next => cases done
    next no_slash =>
      split at done
      next => cases done
      next => cases done
      next stood not_directory entered =>
        obtain ⟨short, found⟩ := (entry_eq_ok_iff _ _ _).mp entered
        refine ⟨location, ⟨leads, by simpa using no_slash, short, ?_⟩, (Except.ok.inj done).symm⟩
        intro directory
        exact not_directory (found.symm.trans directory)

theorem Writable.write_eq {output : Path} (writable : old.Writable output location)
    (text : Text) : old.write output text = .ok (old.put location (.file (.text text))) := by
  have entered := (entry_eq_ok_iff old location _).mpr ⟨writable.short, rfl⟩
  rw [write, writeContent, writable.leads]
  simp only [writable.no_slash, Bool.false_eq_true, if_false, entered]
  split
  next => contradiction
  next directory => exact absurd (Except.ok.inj directory) writable.no_directory
  next => rfl

theorem Writable.later (writable : old.Writable path location) (keeps : KeepsDirectories old new)
    (no_directory : new.find? location ≠ some .directory) : new.Writable path location where
  leads := keeps.resolve writable.leads
  no_slash := writable.no_slash
  short := writable.short
  no_directory := no_directory

theorem Writable.keeps {output : Path} (writable : old.Writable output location) (text : Text) :
    KeepsDirectories old (old.put location (.file (.text text))) :=
  keepsDirectories_put (ne_nil_of_resolve writable.leads) fun directory =>
    absurd directory writable.no_directory

/-- After directories are made on the way to a file, writing the file stores its text. -/
theorem Writable.stores {output : Path} (grows : Grows (·.IsAbove output) old middle)
    (writable : middle.Writable output location) (text : Text) :
    Stores output text old (middle.put location (.file (.text text))) location := by
  have below_root := ne_nil_of_resolve writable.leads
  have keeps := writable.keeps text
  have written : (middle.put location (.file (.text text))).find? location =
      some (.file (.text text)) := by
    rw [find?_put middle below_root, if_pos rfl]
  have target := keeps.resolve writable.leads
  refine ⟨?_, target, ?_, written, ?_, ?_⟩
  · rw [workdir_put, grows.workdir]
  · have entered := (entry_eq_ok_iff _ _ _).mpr ⟨writable.short, written⟩
    simp [read, lookup, target, entered, writable.no_slash]
  · intro stood
    exact writable.no_directory (grows.keeps.directory location stood)
  · intro other elsewhere
    rw [find?_put middle below_root, if_neg elsewhere]
    rcases grows.item other with same | added
    · exact .inl same
    · exact .inr (added.later keeps)

end Stencil.FileTree

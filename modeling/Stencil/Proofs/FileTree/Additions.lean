import Stencil.Proofs.FileTree.Standing

/-!
# Trees that only gain entries

A tree extends another one if whatever stood in the other still stands as it was.  Making
directories always extends a tree, and writing a text extends it exactly if the path accepts the
text: no file with another text stands where the path leads.  Two files that end in different names
can be written one after the other without disturbing each other.
-/

namespace Stencil

namespace FileTree

variable {old middle new tree : FileTree} {location : Location} {path : Path} {text : Text}

/-- Whatever stood stands as it was: directories stay, and files keep what they hold. -/
structure Extends (old new : FileTree) : Prop where
  workdir : new.workdir = old.workdir
  item : ∀ location item, old.find? location = some item → new.find? location = some item

theorem Extends.trans (first : Extends old middle) (second : Extends middle new) :
    Extends old new where
  workdir := second.workdir.trans first.workdir
  item location item stood := second.item location item (first.item location item stood)

theorem Grows.extends {named : Path → Prop} (grows : Grows named old new) : Extends old new where
  workdir := grows.workdir
  item location item stood := by
    rcases grows.item location with same | added
    · exact same.trans stood
    · cases added.absent.symm.trans stood

/-! ## Texts that a path accepts -/

/-- The text can be written at the path, and a file that stands there has this text already. -/
structure Accepts (tree : FileTree) (path : Path) (text : Text) : Prop where
  written : ∃ after, tree.write path text = .ok after
  unspoilt : ∀ content, tree.lookup path = .ok (.file content) → content = .text text

theorem Writable.unique {other : Location} (writable : tree.Writable path location)
    (again : tree.Writable path other) : location = other := by
  simpa [writable.leads] using again.leads

/-- The file at a path that can be written is what stands where the path leads. -/
theorem Writable.lookup_eq_file_iff (writable : tree.Writable path location) (content : Content) :
    tree.lookup path = .ok (.file content) ↔ tree.find? location = some (.file content) := by
  rw [lookup_eq_ok_iff]
  constructor
  · rintro (⟨_, _, no_directory⟩ | ⟨other, leads, _, stood, _⟩)
    · cases no_directory
    · obtain rfl : location = other := by simpa [writable.leads] using leads
      exact stood
  · intro stood
    refine .inr ⟨location, writable.leads, writable.short, stood, fun slash => ?_⟩
    exact absurd slash (by simp [writable.no_slash])

theorem accepts_iff_exists :
    tree.Accepts path text ↔ ∃ location, tree.Writable path location ∧
      ∀ content, tree.find? location = some (.file content) → content = .text text := by
  constructor
  · rintro ⟨⟨after, done⟩, unspoilt⟩
    obtain ⟨location, writable, _⟩ := exists_writable_of_write done
    exact ⟨location, writable, fun content stood =>
      unspoilt content ((writable.lookup_eq_file_iff content).mpr stood)⟩
  · rintro ⟨location, writable, unspoilt⟩
    exact ⟨⟨_, writable.write_eq text⟩, fun content found =>
      unspoilt content ((writable.lookup_eq_file_iff content).mp found)⟩

theorem Writable.accepts_iff (writable : tree.Writable path location) :
    tree.Accepts path text ↔
      ∀ content, tree.find? location = some (.file content) → content = .text text := by
  rw [accepts_iff_exists]
  constructor
  · rintro ⟨other, again, unspoilt⟩
    rwa [writable.unique again]
  · exact fun unspoilt => ⟨location, writable, unspoilt⟩

theorem Writable.find?_put (writable : tree.Writable path location) (item : Item)
    (other : Location) :
    (tree.put location item).find? other =
      if other = location then some item else tree.find? other :=
  FileTree.find?_put tree (ne_nil_of_resolve writable.leads) item other

/-- Writing a text that the path accepts takes nothing away. -/
theorem Writable.extends_put (writable : tree.Writable path location)
    (accepts : tree.Accepts path text) :
    tree.Extends (tree.put location (.file (.text text))) where
  workdir := workdir_put tree location _
  item other item stood := by
    rw [writable.find?_put]
    split
    next here =>
      subst here
      cases item with
      | directory => exact absurd stood writable.no_directory
      | file content => rw [writable.accepts_iff.mp accepts content stood]
    next => exact stood

/-! ## Two paths that never lead to one place -/

/-- Whatever the tree, the paths do not lead to the same entry. -/
def LeadApart (first second : Path) : Prop :=
  ∀ (tree : FileTree) (location : Location), tree.resolve first = .ok (.entry location) →
    tree.resolve second ≠ .ok (.entry location)

theorem leadApart_of_last {first second : Path}
    (differ : (names first).getLast? ≠ (names second).getLast?) : LeadApart first second := by
  intro tree location first_leads second_leads
  obtain ⟨last, parent, ends, _, rfl⟩ := (resolve_eq_entry_iff tree first location).mp first_leads
  obtain ⟨name, above, ends_again, _, location_eq⟩ :=
    (resolve_eq_entry_iff tree second _).mp second_leads
  have name_eq : last = name := by simpa using congrArg List.getLast? location_eq
  rw [ends.last_eq, ends_again.last_eq, name_eq] at differ
  exact differ rfl

section Apart

variable {second : Path} {other : Location} {later : Text}

theorem LeadApart.ne (apart : LeadApart path second) (writable : tree.Writable path location)
    (leads : tree.resolve second = .ok (.entry other)) : other ≠ location :=
  fun here => apart tree location writable.leads (here ▸ leads)

/-- A file adds no directory, so the same paths lead through the tree with and without it. -/
theorem Writable.writable_put_iff (writable : tree.Writable path location)
    (apart : LeadApart path second) :
    (tree.put location (.file (.text text))).Writable second other ↔
      tree.Writable second other := by
  have find?_eq (place : Location) :
      (tree.put location (.file (.text text))).find? place =
        if place = location then some (.file (.text text)) else tree.find? place :=
    writable.find?_put _ place
  have back : KeepsDirectories (tree.put location (.file (.text text))) tree := by
    refine ⟨(workdir_put tree location _).symm, fun place stood => ?_⟩
    rw [find?_eq] at stood
    split at stood
    next => cases stood
    next => exact stood
  constructor
  · intro above
    have leads := back.resolve above.leads
    refine above.later back ?_
    have same := find?_eq other
    rw [if_neg (apart.ne writable leads)] at same
    exact same ▸ above.no_directory
  · intro below
    refine below.later (writable.keeps text) ?_
    rw [find?_eq, if_neg (apart.ne writable below.leads)]
    exact below.no_directory

/-- What a path accepts does not depend on a file somewhere else. -/
theorem Writable.accepts_put_iff (writable : tree.Writable path location)
    (apart : LeadApart path second) :
    (tree.put location (.file (.text text))).Accepts second later ↔ tree.Accepts second later := by
  rw [accepts_iff_exists, accepts_iff_exists]
  refine exists_congr fun other => ?_
  rw [writable.writable_put_iff apart]
  refine and_congr_right fun below => ?_
  rw [writable.find?_put, if_neg (apart.ne writable below.leads)]

/-- Directories were made, and then two texts were written: this takes nothing away exactly if the
paths accepted the texts once the directories were there. -/
theorem Writable.extends_put_put_iff {named : Path → Prop} (grows : Grows named old tree)
    (apart : LeadApart path second) (writable : tree.Writable path location)
    (again : (tree.put location (.file (.text text))).Writable second other) :
    old.Extends ((tree.put location (.file (.text text))).put other (.file (.text later))) ↔
      tree.Accepts path text ∧ tree.Accepts second later := by
  have below := (writable.writable_put_iff apart).mp again
  have elsewhere : other ≠ location := apart.ne writable below.leads
  constructor
  · intro keeps
    -- Only directories were made before, so the texts are written over files of the old tree.
    have file_kept {place : Location} {content : Content}
        (stood : tree.find? place = some (.file content)) :
        ((tree.put location (.file (.text text))).put other (.file (.text later))).find? place =
          some (.file content) := by
      have same := grows.sameFiles place
      rw [(file?_eq_some_iff tree place content).mpr stood] at same
      exact keeps.item place _ ((file?_eq_some_iff old place content).mp same.symm)
    refine ⟨writable.accepts_iff.mpr fun content stood => ?_,
      below.accepts_iff.mpr fun content stood => ?_⟩
    · have kept := file_kept stood
      rw [again.find?_put, if_neg elsewhere.symm, writable.find?_put, if_pos rfl] at kept
      simpa using kept.symm
    · have kept := file_kept stood
      rw [again.find?_put, if_pos rfl] at kept
      simpa using kept.symm
  · rintro ⟨accepts, accepts_later⟩
    have first := writable.extends_put accepts
    have next := again.extends_put ((writable.accepts_put_iff apart).mpr accepts_later)
    exact grows.extends.trans (first.trans next)

end Apart

/-! ## Files in one directory -/

/-- A path that is one name. -/
structure IsName (file : Path) : Prop where
  visible : file.text ≠ []
  no_slash : '/' ∉ file.text

/-- A path in a directory ends in the name of the file. -/
theorem IsName.getLast?_names_join {file : Path} (name : IsName file) (directory : Path) :
    (names (directory.join file)).getLast? = some file.text := by
  have alone : file.segments = [file.text] := List.splitOn_eq_singleton name.no_slash
  have below (start : Text) :
      (names ⟨start ++ '/' :: file.text⟩).getLast? = some file.text := by
    rw [names, Path.segments, List.splitOn_append_cons_self, List.filter_append]
    change (_ ++ file.segments.filter (· != [])).getLast? = _
    simp [alone, name.visible]
  unfold Path.join
  split
  next => simp [names, alone, name.visible]
  next =>
    split
    next slash =>
      have slash_last : directory.text.getLast? = some '/' := by
        simpa [Path.hasTrailingSlash] using slash
      obtain ⟨start, text_eq⟩ := List.getLast?_eq_some_iff.mp slash_last
      rw [text_eq, List.append_assoc]
      exact below start
    next => exact below directory.text

/-- Files with different names in one directory lead apart. -/
theorem leadApart_join (directory : Path) {first second : Path} (first_name : IsName first)
    (second_name : IsName second) (differ : first ≠ second) :
    LeadApart (directory.join first) (directory.join second) := by
  refine leadApart_of_last ?_
  rw [first_name.getLast?_names_join, second_name.getLast?_names_join]
  intro same
  exact differ (congrArg Path.mk (Option.some.inj same))

end FileTree

end Stencil

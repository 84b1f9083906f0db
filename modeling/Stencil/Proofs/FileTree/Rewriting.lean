import Stencil.Proofs.FileTree.Standing

/-!
# Writing files again

Putting an item at a location forgets what stood there before, and items put at two locations do not
disturb each other.  So a tree that already holds the last of the texts that are written at each
location is the same tree after they are all written again, however often a location is written.
-/

namespace Stencil.FileTree

variable {old new tree : FileTree} {location other : Location} {item : Item} {path : Path}

/-! ## Putting items -/

/-- The tree lists something at the location. -/
def Lists (tree : FileTree) (location : Location) : Prop :=
  (tree.items.lookup location).isSome = true

/-- The entries with another item at a location. -/
def replaceAt (location : Location) (item : Item) (entry : Location × Item) : Location × Item :=
  if entry.1 = location then (entry.1, item) else entry

theorem put_of_lists (lists : tree.Lists location) (item : Item) :
    tree.put location item = { tree with items := tree.items.map (replaceAt location item) } := by
  unfold Lists at lists
  rw [put, if_pos lists]
  rfl

theorem put_of_not_lists (absent : ¬tree.Lists location) (item : Item) :
    tree.put location item = { tree with items := tree.items ++ [(location, item)] } := by
  unfold Lists at absent
  rw [put, if_neg absent]

theorem lists_iff (tree : FileTree) (location : Location) :
    tree.Lists location ↔ ∃ entry ∈ tree.items, entry.1 = location := by
  rw [Lists, List.lookup_isSome_iff]
  refine exists_congr fun entry => and_congr_right fun _ => ?_
  rw [beq_iff_eq]
  exact ⟨Eq.symm, Eq.symm⟩

theorem replaceAt_of_ne {entry : Location × Item} (elsewhere : entry.1 ≠ location) (item : Item) :
    replaceAt location item entry = entry := if_neg elsewhere

@[simp]
theorem fst_replaceAt (location : Location) (item : Item) (entry : Location × Item) :
    (replaceAt location item entry).1 = entry.1 := by
  rw [replaceAt]
  split <;> rfl

theorem lists_put (tree : FileTree) (location other : Location) (item : Item) :
    (tree.put location item).Lists other ↔ other = location ∨ tree.Lists other := by
  by_cases lists : tree.Lists location
  · rw [put_of_lists lists, lists_iff, lists_iff]
    simp only [List.mem_map, exists_exists_and_eq_and, fst_replaceAt]
    refine ⟨.inr, ?_⟩
    rintro (rfl | found)
    · exact (lists_iff tree other).mp lists
    · exact found
  · rw [put_of_not_lists lists, lists_iff, lists_iff]
    simp only [List.mem_append, List.mem_singleton]
    constructor
    · rintro ⟨entry, member | rfl, rfl⟩
      · exact .inr ⟨entry, member, rfl⟩
      · exact .inl rfl
    · rintro (rfl | ⟨entry, member, rfl⟩)
      · exact ⟨(other, item), .inr rfl, rfl⟩
      · exact ⟨entry, .inl member, rfl⟩

theorem map_replaceAt_of_not_lists (absent : ¬tree.Lists location) (item : Item) :
    tree.items.map (replaceAt location item) = tree.items := by
  have elsewhere : ∀ entry ∈ tree.items, replaceAt location item entry = entry :=
    fun entry member => replaceAt_of_ne
      (fun here => absent ((lists_iff tree location).mpr ⟨entry, member, here⟩)) item
  exact (List.map_congr_left elsewhere).trans (List.map_id' _)

/-- What is put at a location replaces what was put there before. -/
theorem put_put (tree : FileTree) (location : Location) (first second : Item) :
    (tree.put location first).put location second = tree.put location second := by
  have listed : (tree.put location first).Lists location :=
    (lists_put tree location location first).mpr (.inl rfl)
  rw [put_of_lists listed]
  by_cases lists : tree.Lists location
  · rw [put_of_lists lists, put_of_lists lists]
    simp only [List.map_map, mk.injEq, true_and]
    refine List.map_congr_left fun entry _ => ?_
    by_cases here : entry.1 = location <;> simp [replaceAt, here]
  · rw [put_of_not_lists lists, put_of_not_lists lists]
    simp [map_replaceAt_of_not_lists lists, replaceAt]

/-- Items at two locations can be put in either order, if one of the locations is listed. -/
theorem put_comm (lists : tree.Lists location) (apart : location ≠ other) (first second : Item) :
    (tree.put other second).put location first = (tree.put location first).put other second := by
  have listed : (tree.put other second).Lists location :=
    (lists_put tree other location second).mpr (.inr lists)
  have other_iff : (tree.put location first).Lists other ↔ tree.Lists other := by
    rw [lists_put]
    exact or_iff_right (Ne.symm apart)
  rw [put_of_lists listed]
  by_cases other_listed : tree.Lists other
  · rw [put_of_lists (other_iff.mpr other_listed), put_of_lists lists, put_of_lists other_listed]
    simp only [List.map_map, mk.injEq, true_and]
    refine List.map_congr_left fun entry _ => ?_
    by_cases here : entry.1 = location
    · simp [replaceAt, here, apart]
    · by_cases there : entry.1 = other <;> simp [replaceAt, here, there, Ne.symm apart]
  · rw [put_of_not_lists (fun found => other_listed (other_iff.mp found)), put_of_lists lists,
      put_of_not_lists other_listed]
    simp [replaceAt, Ne.symm apart]

/-! ## Items that are in place -/

theorem lists_of_put_eq (in_place : tree.put location item = tree) : tree.Lists location := by
  rw [← in_place]
  exact (lists_put tree location location item).mpr (.inl rfl)

theorem put_eq_of_put (in_place : tree.put location item = tree) (apart : location ≠ other)
    (added : Item) : (tree.put other added).put location item = tree.put other added := by
  rw [put_comm (lists_of_put_eq in_place) apart, in_place]

theorem find?_ne_none_of_lists (lists : tree.Lists location) : tree.find? location ≠ none := by
  cases location with
  | nil => simp [find?]
  | cons name names => exact Option.isSome_iff_ne_none.mp lists

theorem lists_of_file {content : Content} (found : tree.find? location = some (.file content)) :
    tree.Lists location := by
  cases location with
  | nil => cases found
  | cons name names => exact Option.isSome_of_eq_some found

theorem put_eq_of_makeDirectory (in_place : tree.put location item = tree)
    (done : tree.makeDirectory path = .ok new) : new.put location item = new := by
  unfold makeDirectory at done
  split at done
  next => cases done
  next => cases done
  next made _ =>
    split at done
    next => cases done
    next => cases done
    next entered =>
      obtain rfl := Except.ok.inj done
      obtain ⟨_, absent⟩ := (entry_eq_ok_iff _ _ _).mp entered
      refine put_eq_of_put in_place ?_ _
      rintro rfl
      exact find?_ne_none_of_lists (lists_of_put_eq in_place) absent

theorem put_eq_of_makeAll (in_place : tree.put location item = tree) (paths : List Path) :
    (tree.makeAll paths).1.put location item = (tree.makeAll paths).1 := by
  induction paths with
  | nil => exact in_place
  | cons path parents ih =>
      rw [makeAll]
      split
      next after made => exact put_eq_of_makeDirectory in_place made
      next =>
        split
        next grown error stopped =>
          rw [stopped] at ih
          exact ih
        next grown done =>
          rw [done] at ih
          split
          next after made => exact put_eq_of_makeDirectory ih made
          next => split <;> exact ih
      next => split <;> exact in_place

/-! ## Writing texts -/

/-- The tree after texts are written at locations, the first one first. -/
def rewrite (tree : FileTree) (writes : List (Location × Text)) : FileTree :=
  writes.foldl (fun tree (location, text) => tree.put location (.file (.text text))) tree

theorem rewrite_cons (tree : FileTree) (location : Location) (text : Text)
    (writes : List (Location × Text)) :
    tree.rewrite ((location, text) :: writes) =
      (tree.put location (.file (.text text))).rewrite writes := rfl

/-- What is put at a location does not matter if the location is written later. -/
theorem rewrite_put {writes : List (Location × Text)} (written : location ∈ writes.map Prod.fst)
    (lists : tree.Lists location) (item : Item) :
    (tree.put location item).rewrite writes = tree.rewrite writes := by
  induction writes generalizing tree with
  | nil => cases written
  | cons first rest ih =>
      obtain ⟨place, text⟩ := first
      rw [rewrite_cons, rewrite_cons]
      by_cases here : location = place
      · subst here
        rw [put_put]
      · have later : location ∈ rest.map Prod.fst :=
          (List.mem_cons.mp written).resolve_left here
        have still_lists : (tree.put place (.file (.text text))).Lists location :=
          (lists_put tree place location _).mpr (.inr lists)
        rw [← put_comm lists here, ih later still_lists]

/-- The trees differ at most by the texts of files at some places. -/
structure Rewritten (places : List Location) (old new : FileTree) : Prop where
  workdir : new.workdir = old.workdir
  other : ∀ location, location ∉ places → new.find? location = old.find? location
  place : ∀ location, location ∈ places → ∃ text, new.find? location = some (.file (.text text))

namespace Rewritten

variable {places : List Location}

theorem put (rewritten : Rewritten places old new) (is_place : location ∈ places) (text : Text) :
    Rewritten places old (new.put location (.file (.text text))) := by
  have below_root : location ≠ [] := by
    rintro rfl
    obtain ⟨_, found⟩ := rewritten.place [] is_place
    cases found
  refine ⟨(workdir_put _ _ _).trans rewritten.workdir, fun other elsewhere => ?_,
    fun other there => ?_⟩
  · have apart : other ≠ location := fun same => elsewhere (same ▸ is_place)
    rw [find?_put new below_root, if_neg apart, rewritten.other other elsewhere]
  · rw [find?_put new below_root]
    split
    next => exact ⟨text, rfl⟩
    next => exact rewritten.place other there

theorem keepsItems (texts : Rewritten places old old) (rewritten : Rewritten places old new) :
    KeepsItems old new where
  workdir := rewritten.workdir
  directory location stood := by
    by_cases is_place : location ∈ places
    · obtain ⟨_, found⟩ := texts.place location is_place
      cases stood.symm.trans found
    · rw [rewritten.other location is_place, stood]
  file location content stood := by
    by_cases is_place : location ∈ places
    · obtain ⟨text, found⟩ := rewritten.place location is_place
      exact ⟨.text text, found⟩
    · exact ⟨content, (rewritten.other location is_place).trans stood⟩

/-- A path that leads to none of the places reads alike. -/
theorem read_eq (texts : Rewritten places old old) (rewritten : Rewritten places old new)
    {text : Text} (read : old.read path = .ok text)
    (apart : ∀ location ∈ places, old.resolve path ≠ .ok (.entry location)) :
    new.read path = .ok text := by
  refine (texts.keepsItems rewritten).read_eq read fun location leads => ?_
  have elsewhere : location ∉ places := fun is_place => apart location is_place leads
  rw [file?, rewritten.other location elsewhere]
  rfl

end Rewritten

end Stencil.FileTree

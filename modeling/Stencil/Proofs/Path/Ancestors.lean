import Mathlib.Data.List.Basic
import Stencil.Path

/-!
# Ancestors of a path

The parent of a path is what stands before one of its slashes, unless it is the root or the empty
path.  So the directories that are made on the way to a file are named by what stands before slashes
of the path of the file.
-/

namespace Stencil.Path

/-- The first path is what stands before a slash of the second. -/
def IsAbove (start path : Path) : Prop := ∃ rest, path.text = start.text ++ '/' :: rest

theorem IsAbove.trans {first second third : Path} (upper : first.IsAbove second)
    (lower : second.IsAbove third) : first.IsAbove third := by
  obtain ⟨upper_rest, upper_eq⟩ := upper
  obtain ⟨lower_rest, lower_eq⟩ := lower
  exact ⟨upper_rest ++ '/' :: lower_rest, by rw [lower_eq, upper_eq]; simp⟩

/-- The root directory. -/
def root : Path := ⟨['/']⟩

theorem parent?_root : root.parent? = none := by decide

/-! ## Parts of a path -/

theorem intercalate_append {left right : List Text} (left_ne : left ≠ []) (right_ne : right ≠ []) :
    List.intercalate ['/'] (left ++ right) =
      List.intercalate ['/'] left ++ '/' :: List.intercalate ['/'] right := by
  induction left with
  | nil => exact absurd rfl left_ne
  | cons first rest ih =>
      cases rest with
      | nil =>
          obtain ⟨next, others, rfl⟩ := List.exists_cons_of_ne_nil right_ne
          simp [List.intercalate_cons_cons]
      | cons next others =>
          have tail := ih (by simp)
          simp only [List.cons_append, List.intercalate_cons_cons] at tail ⊢
          rw [tail]
          simp

theorem upToLast_prefix (segments : List Text) : upToLast segments <+: segments := by
  have suffix := List.dropWhile_suffix (l := segments.zipIdx.reverse)
    fun place : Text × Nat => !isComponent place.1 place.2
  have kept := (List.reverse_prefix.mpr suffix).map Prod.fst
  rw [List.reverse_reverse, List.zipIdx_map_fst] at kept
  simpa [upToLast] using kept

/-- The parent of a path is the empty path, the root, or what stands before a slash. -/
theorem isAbove_of_parent? {path parent : Path} (found : path.parent? = some parent) :
    parent.text = [] ∨ parent = root ∨ parent.IsAbove path := by
  unfold parent? at found
  split at found
  next => cases found
  next whole_ne =>
    split at found
    next =>
      obtain rfl := Option.some.inj found
      split
      next => exact .inr (.inl rfl)
      next => exact .inl rfl
    next kept_ne =>
      obtain rfl := Option.some.inj found
      obtain ⟨behind, split_segments⟩ := upToLast_prefix path.segments
      obtain ⟨between, split_whole⟩ := upToLast_prefix (upToLast path.segments).dropLast
      have last := List.dropLast_append_getLast (l := upToLast path.segments) whole_ne
      have segments_eq : path.segments = upToLast (upToLast path.segments).dropLast ++
          (between ++ [(upToLast path.segments).getLast whole_ne] ++ behind) :=
        calc path.segments
            = upToLast path.segments ++ behind := split_segments.symm
          _ = (upToLast path.segments).dropLast ++
                [(upToLast path.segments).getLast whole_ne] ++ behind := by rw [last]
          _ = upToLast (upToLast path.segments).dropLast ++ between ++
                [(upToLast path.segments).getLast whole_ne] ++ behind := by rw [split_whole]
          _ = _ := by simp only [List.append_assoc]
      have text_eq : path.text = List.intercalate ['/'] path.segments :=
        (List.intercalate_splitOn '/').symm
      have cut : path.text = List.intercalate ['/'] (upToLast (upToLast path.segments).dropLast) ++
          '/' :: List.intercalate ['/']
            (between ++ [(upToLast path.segments).getLast whole_ne] ++ behind) := by
        rw [← intercalate_append kept_ne (by simp), ← segments_eq, text_eq]
      exact .inr (.inr ⟨_, cut⟩)

/-- The directories on the way to a file are the root and those named before slashes of its path. -/
theorem isAbove_of_mem_ancestorsFrom {fuel : Nat} {path parent ancestor : Path}
    (found : path.parent? = some parent) (member : ancestor ∈ ancestorsFrom fuel parent) :
    ancestor = root ∨ ancestor.IsAbove path := by
  induction fuel generalizing path parent with
  | zero => cases member
  | succ fuel ih =>
      unfold ancestorsFrom at member
      split at member
      next => cases member
      next visible =>
        have parent_above : parent = root ∨ parent.IsAbove path := by
          rcases isAbove_of_parent? found with empty | above
          · simp [empty] at visible
          · exact above
        split at member
        next grandparent next_found =>
          rcases List.mem_cons.mp member with rfl | higher
          · exact parent_above
          · rcases parent_above with rfl | above
            · rw [parent?_root] at next_found
              cases next_found
            · rcases ih next_found higher with is_root | above_parent
              · exact .inl is_root
              · exact .inr (above_parent.trans above)
        next =>
          obtain rfl := List.mem_singleton.mp member
          exact parent_above

end Stencil.Path

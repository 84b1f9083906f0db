import Mathlib.Data.Fin.VecNotation
import Mathlib.Data.List.FinRange
import Mathlib.Data.List.Forall2
import Mathlib.Logic.Equiv.Fin.Rotate
import Stencil.Proofs.Directive.Header
import Stencil.Proofs.Loop.Pieces
import Stencil.Proofs.Text.BoundNames

/-!
# The order of loop variables

The variables of a loop are bound by their places in the header, and the values by their places in
the element.  Moving both in the same way leaves each variable with its value, because a header
names no variable twice, so the two loops put the same lines.
-/

namespace Stencil.Loop

/-! ## Lists in another order -/

/-- The second list holds the values of the first one in the order of a permutation of places. -/
def Reordered {α : Type} {n : Nat} (order : Equiv.Perm (Fin n)) (left right : List α) : Prop :=
  ∃ values : Fin n → α, left = List.ofFn values ∧ right = List.ofFn (values ∘ order)

namespace Reordered

variable {α β : Type} {n : Nat} {order : Equiv.Perm (Fin n)} {left right : List α}

theorem length_left (moved : Reordered order left right) : left.length = n := by
  obtain ⟨values, rfl, _⟩ := moved
  simp

theorem length_right (moved : Reordered order left right) : right.length = n := by
  obtain ⟨values, _, rfl⟩ := moved
  simp

theorem perm (moved : Reordered order left right) : left.Perm right := by
  obtain ⟨values, rfl, rfl⟩ := moved
  exact (order.ofFn_comp_perm values).symm

theorem map (f : α → β) (moved : Reordered order left right) :
    Reordered order (left.map f) (right.map f) := by
  obtain ⟨values, rfl, rfl⟩ := moved
  exact ⟨f ∘ values, List.map_ofFn, List.map_ofFn⟩

theorem zip_ofFn (first : Fin n → α) (second : Fin n → β) :
    (List.ofFn first).zip (List.ofFn second) = List.ofFn fun place => (first place, second place) := by
  apply List.ext_getElem
  · simp
  · intro place _ _
    simp

/-- Two lists that are moved alike stay side by side. -/
theorem zip {others others' : List β} (moved : Reordered order left right)
    (others_moved : Reordered order others others') :
    Reordered order (left.zip others) (right.zip others') := by
  obtain ⟨first, rfl, rfl⟩ := moved
  obtain ⟨second, rfl, rfl⟩ := others_moved
  exact ⟨fun place => (first place, second place), zip_ofFn _ _, zip_ofFn _ _⟩

end Reordered

/-! ## Elements and loops in another order -/

/-- The element is a tuple or a list of the given values. -/
def IsSequence (item : Literal) (values : List Literal) : Prop :=
  item = .tuple values ∨ item = .list values

/-- Both elements are sequences, and the second one holds the values of the first one in the order
of a permutation of places. -/
def ReorderedItem {n : Nat} (order : Equiv.Perm (Fin n)) (item other : Literal) : Prop :=
  ∃ values others, IsSequence item values ∧ IsSequence other others ∧ Reordered order values others

theorem IsSequence.bindings_eq {item : Literal} {values : List Literal}
    (sequence : IsSequence item values) : item.bindings = values := by
  rcases sequence with rfl | rfl <;> rfl

variable {n : Nat} {order : Equiv.Perm (Fin n)}

theorem ReorderedItem.bindings {item other : Literal} (moved : ReorderedItem order item other) :
    Reordered order item.bindings other.bindings := by
  obtain ⟨values, others, item_holds, other_holds, reordered⟩ := moved
  rwa [item_holds.bindings_eq, other_holds.bindings_eq]

/-- The variables that a header names are pairwise different. -/
theorem nodup_of_classify {line list : Text} {vars : List Text}
    (header : classify line = .directive (.foreach vars list)) : vars.Nodup :=
  (vars_of_classify header).2.2

/-- A line is filled alike when variables and values are moved alike. -/
theorem fill_reordered {vars others : List Text} {item other : Literal} (distinct : vars.Nodup)
    (vars_moved : Reordered order vars others) (item_moved : ReorderedItem order item other)
    (text : Text) : text.fill (bindings vars item) = text.fill (bindings others other) := by
  have values_moved := item_moved.bindings.map Literal.toText
  have pairs_moved := vars_moved.zip values_moved
  have names_eq : (bindings vars item).names = vars := by
    apply List.map_fst_zip
    rw [vars_moved.length_left, values_moved.length_left]
  apply Text.fill_congr
  intro name
  exact Bindings.value?_perm (names_eq.symm ▸ distinct) pairs_moved.perm name

/-- The copies of the lines of a body for one element. -/
def copiesFor (vars : List Text) (body : List Line) (item : Literal) : List Line :=
  body.map fun line => ⟨line.number, line.text.fill (bindings vars item)⟩

theorem copiesFor_reordered {vars others : List Text} (distinct : vars.Nodup)
    (vars_moved : Reordered order vars others) (body : List Line) {item other : Literal}
    (item_moved : ReorderedItem order item other) :
    copiesFor vars body item = copiesFor others body other := by
  apply List.map_congr_left
  intro line _
  rw [fill_reordered distinct vars_moved item_moved line.text]

theorem flatMap_copiesFor_reordered {vars others : List Text} (distinct : vars.Nodup)
    (vars_moved : Reordered order vars others) (body : List Line) {items otherItems : List Literal}
    (items_moved : List.Forall₂ (ReorderedItem order) items otherItems) :
    items.flatMap (copiesFor vars body) = otherItems.flatMap (copiesFor others body) := by
  induction items_moved with
  | nil => rfl
  | cons item_moved _ ih =>
      rw [List.flatMap_cons, List.flatMap_cons, ih,
        copiesFor_reordered distinct vars_moved body item_moved]

theorem length_bindings_reordered {items others : List Literal}
    (items_moved : List.Forall₂ (ReorderedItem order) items others) :
    (∀ item ∈ items, item.bindings.length = n) ∧ ∀ item ∈ others, item.bindings.length = n := by
  induction items_moved with
  | nil => simp
  | cons item_moved _ ih =>
      constructor
      · exact List.forall_mem_cons.mpr ⟨item_moved.bindings.length_left, ih.1⟩
      · exact List.forall_mem_cons.mpr ⟨item_moved.bindings.length_right, ih.2⟩

theorem expand_closedLoop (loop : ClosedLoop) : expand loop.lines = .ok loop.copies := by
  rw [expand_eq_ok_iff_run]
  exact run_closedLoop loop []

/-- A loop puts the same lines when its variables and the values of each of its elements are moved
to other places in the same way. -/
theorem expand_reordered {n : Nat} (order : Equiv.Perm (Fin n)) (header other closing : Line)
    (body : List Line) (vars otherVars : List Text) (list otherList : Text)
    (items otherItems : List Literal)
    (header_eq : classify header.text = .directive (.foreach vars list))
    (other_eq : classify other.text = .directive (.foreach otherVars otherList))
    (vars_moved : Reordered order vars otherVars)
    (items_eq : Literal.readList list = .ok items)
    (other_items_eq : Literal.readList otherList = .ok otherItems)
    (items_moved : List.Forall₂ (ReorderedItem order) items otherItems)
    (body_free : ∀ line ∈ body, isControl line = false)
    (ends : closing.text.isLine Mark.endForeach = true) :
    expand (header :: body ++ [closing]) = expand (other :: body ++ [closing]) ∧
      ∃ out, expand (header :: body ++ [closing]) = .ok out := by
  obtain ⟨fits, other_fits⟩ := length_bindings_reordered items_moved
  let loop : ClosedLoop := ⟨header, vars, list, items, body, closing, header_eq, items_eq,
    vars_moved.length_left.symm ▸ fits, body_free, ends⟩
  let otherLoop : ClosedLoop := ⟨other, otherVars, otherList, otherItems, body, closing, other_eq,
    other_items_eq, vars_moved.length_right.symm ▸ other_fits, body_free, ends⟩
  have same_copies : loop.copies = otherLoop.copies :=
    flatMap_copiesFor_reordered (nodup_of_classify header_eq) vars_moved body items_moved
  refine ⟨?_, loop.copies, expand_closedLoop loop⟩
  calc expand loop.lines = .ok loop.copies := expand_closedLoop loop
    _ = .ok otherLoop.copies := by rw [same_copies]
    _ = expand otherLoop.lines := (expand_closedLoop otherLoop).symm

/-- Three variables in two orders. -/
def turningLoop (header : String) : List Line :=
  [⟨1, header.toList⟩, ⟨2, Text.placeholder ['c'] ++ Text.placeholder ['a']⟩, ⟨3, Mark.endForeach⟩]

theorem expand_reordered_turningLoop :
    expand (turningLoop "// -- foreach a, b, c in [(1, 'x', []), [2, 'y', 3]] --") =
      expand (turningLoop "// -- foreach b, c, a in [['x', [], 1], ('y', 3, 2)] --") ∧
    ∃ out, expand (turningLoop "// -- foreach a, b, c in [(1, 'x', []), [2, 'y', 3]] --") =
      .ok out := by
  have first : ReorderedItem (finRotate 3) (.tuple [.int 1, .str ['x'], .list []])
      (.list [.str ['x'], .list [], .int 1]) :=
    ⟨_, _, .inl rfl, .inr rfl, ![.int 1, .str ['x'], .list []], rfl, rfl⟩
  have second : ReorderedItem (finRotate 3) (.list [.int 2, .str ['y'], .int 3])
      (.tuple [.str ['y'], .int 3, .int 2]) :=
    ⟨_, _, .inr rfl, .inl rfl, ![.int 2, .str ['y'], .int 3], rfl, rfl⟩
  exact expand_reordered (finRotate 3) ⟨1, _⟩ ⟨1, _⟩ ⟨3, Mark.endForeach⟩ [⟨2, _⟩]
    [['a'], ['b'], ['c']] [['b'], ['c'], ['a']] "(1, 'x', []), [2, 'y', 3]".toList
    "['x', [], 1], ('y', 3, 2)".toList _ _ (by decide +kernel) (by decide +kernel)
    ⟨![['a'], ['b'], ['c']], rfl, rfl⟩ rfl rfl (.cons first (.cons second .nil))
    (by decide +kernel) (by decide +kernel)

end Stencil.Loop

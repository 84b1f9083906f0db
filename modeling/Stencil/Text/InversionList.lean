/-!
# Inversion lists

A set of code points is written as the increasing list of the points where membership changes:
the first bound opens a range, the second ends it before itself, and so on.  Combining two sets
walks along both lists and keeps the points where the combined membership changes.
-/

namespace Stencil

/-- The increasing list of the points where membership in a set of numbers changes. -/
structure InversionList where
  /-- The points where membership changes, starting outside. -/
  bounds : List Nat
  deriving DecidableEq

namespace InversionList

/-- A number lies inside when it has passed an odd number of bounds. -/
def passedOdd : List Nat → Nat → Bool
  | [], _ => false
  | bound :: later, n => bound ≤ n && !passedOdd later n

/-- Membership of a number. -/
def contains (set : InversionList) (n : Nat) : Bool := passedOdd set.bounds n

/-- Membership of a character by its code point. -/
def containsChar (set : InversionList) (c : Char) : Bool := set.contains c.toNat

/-! ## Combining sets -/

/-- The points where the combined membership changes, from places that are inside the two sets or
not. -/
def combineFrom (op : Bool → Bool → Bool) (inA inB : Bool) : List Nat → List Nat → List Nat
  | [], [] => []
  | a :: as, [] =>
    let rest := combineFrom op (!inA) inB as []
    if op inA inB = op (!inA) inB then rest else a :: rest
  | [], b :: bs =>
    let rest := combineFrom op inA (!inB) [] bs
    if op inA inB = op inA (!inB) then rest else b :: rest
  | a :: as, b :: bs =>
    if a < b then
      let rest := combineFrom op (!inA) inB as (b :: bs)
      if op inA inB = op (!inA) inB then rest else a :: rest
    else if b < a then
      let rest := combineFrom op inA (!inB) (a :: as) bs
      if op inA inB = op inA (!inB) then rest else b :: rest
    else
      let rest := combineFrom op (!inA) (!inB) as bs
      if op inA inB = op (!inA) (!inB) then rest else a :: rest
  termination_by as bs => as.length + bs.length

/-- The numbers whose memberships in two sets are in a relation that does not hold outside both. -/
def combine (op : Bool → Bool → Bool) (a b : InversionList) : InversionList :=
  ⟨combineFrom op false false a.bounds b.bounds⟩

/-- The numbers of either set. -/
def union (a b : InversionList) : InversionList := combine (· || ·) a b

/-- The numbers of both sets. -/
def inter (a b : InversionList) : InversionList := combine (· && ·) a b

/-- The numbers of the first set that are not in the second. -/
def diff (a b : InversionList) : InversionList := combine (fun inA inB => inA && !inB) a b

/-- The numbers of exactly one of two sets. -/
def symmDiff (a b : InversionList) : InversionList := combine (· != ·) a b

/-! ## Sets of characters -/

/-- No character. -/
def none : InversionList := ⟨[]⟩

/-- Every character: the code points without the surrogates. -/
def all : InversionList := ⟨[0, 0xD800, 0xE000, 0x110000]⟩

/-- The characters outside a set. -/
def compl (set : InversionList) : InversionList := all.diff set

/-- The characters from one code point to another. -/
def range (first last : Nat) : InversionList := inter ⟨[first, last + 1]⟩ all

/-- One character. -/
def single (c : Char) : InversionList := ⟨[c.toNat, c.toNat + 1]⟩

/-- The characters of several ranges. -/
def ofRanges (ranges : List (Nat × Nat)) : InversionList :=
  ranges.foldl (fun set (first, last) => set.union (range first last)) none

/-- The bounds of an increasing list of points, which may repeat. -/
def boundsOfSorted : List Nat → List Nat
  | [] => []
  | n :: rest =>
    match boundsOfSorted rest with
    | [] => [n, n + 1]
    | bound :: later =>
      if bound = n then bound :: later
      else if bound = n + 1 then n :: later
      else n :: (n + 1) :: bound :: later

/-- The set of some points. -/
def ofPoints (points : List Nat) : InversionList := ⟨boundsOfSorted (points.mergeSort (· ≤ ·))⟩

/-- The ranges of a set by their first and last points. -/
def rangesOf : List Nat → List (Nat × Nat)
  | first :: next :: rest => (first, next - 1) :: rangesOf rest
  | _ => []

/-- The ranges of a set by their first and last points, in order. -/
def ranges (set : InversionList) : List (Nat × Nat) := rangesOf set.bounds

/-- The only member of a set with one member. -/
def onlyMember? (set : InversionList) : Option Nat :=
  match set.bounds with
  | [first, next] => if next = first + 1 then some first else Option.none
  | _ => Option.none

/-- Every member is an ASCII character. -/
def isAscii (set : InversionList) : Bool := set.bounds.all (· ≤ 128)

end InversionList

end Stencil

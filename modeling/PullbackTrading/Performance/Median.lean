/-
**The median, by selection in place.**

`select` brings the element of a given rank to its place without sorting the sample: the part in
which the rank lies is split around a pivot, the middle one of three, until at most two elements are
left. What stands before the place is then not larger, and what stands after it not smaller. For an
even number of elements the second selection goes on with the sample as the first has left it.

Every loop is bounded by the places it has yet to look at, so the functions are total also on
elements that no order relates.
-/

import PullbackTrading.Quantity

namespace PullbackTrading.Sample

variable {α : Type} [Quantity α]

/-- The element at a place. -/
def elementAt (a : Array α) (i : Nat) : α := a.getD i 0.0

/-- Two elements exchanged if the first is larger. -/
def ordered (a : Array α) (i j : Nat) : Array α :=
  if elementAt a j < elementAt a i then a.swapIfInBounds i j else a

/-- The first place from one on whose element is not below the pivot. -/
def notBelow (a : Array α) (pivot : α) (i : Nat) : Nat :=
  if i < a.size then
    if pivot ≤ elementAt a i then i else notBelow a pivot (i + 1)
  else i
termination_by a.size - i

/-- The last place down from one whose element is not above the pivot. -/
def notAbove (a : Array α) (pivot : α) : Nat → Nat
  | 0 => 0
  | i + 1 => if elementAt a (i + 1) ≤ pivot then i + 1 else notAbove a pivot i

theorem le_notBelow (a : Array α) (pivot : α) (i : Nat) : i ≤ notBelow a pivot i := by
  fun_induction notBelow a pivot i with
  | case1 => exact Nat.le_refl _
  | case2 i _ _ ih => exact Nat.le_trans (Nat.le_succ i) ih
  | case3 => exact Nat.le_refl _

theorem notAbove_le (a : Array α) (pivot : α) (i : Nat) : notAbove a pivot i ≤ i := by
  fun_induction notAbove a pivot i with
  | case1 => exact Nat.le_refl _
  | case2 => exact Nat.le_refl _
  | case3 i _ ih => exact Nat.le_trans ih (Nat.le_succ i)

/-- A sample split around a pivot: what is before `left` is not above it, what is after `right` is
not below it. -/
structure Split (α : Type) where
  elements : Array α
  left : Nat
  right : Nat

/-- Exchanges elements on the wrong sides of the pivot, from both ends inwards. -/
def split (pivot : α) (a : Array α) (left right : Nat) : Split α :=
  let left' := notBelow a pivot (left + 1)
  let right' := notAbove a pivot (right - 1)
  if right' < left' then ⟨a, left', right'⟩
  else split pivot (a.swapIfInBounds left' right') left' right'
termination_by right - left
decreasing_by
  have := le_notBelow a pivot (left + 1)
  have := notAbove_le a pivot (right - 1)
  omega

theorem split_bounds (pivot : α) (a : Array α) (left right : Nat) :
    left < (split pivot a left right).left ∧ (split pivot a left right).right ≤ right - 1 := by
  fun_induction split pivot a left right with
  | case1 a left right =>
    exact ⟨le_notBelow a pivot (left + 1), notAbove_le a pivot (right - 1)⟩
  | case2 a left right left' right' _ ih =>
    have l : left + 1 ≤ left' := le_notBelow a pivot (left + 1)
    have r : right' ≤ right - 1 := notAbove_le a pivot (right - 1)
    omega

/-- The part from `low` to `high` split around the middle one of its first, middle and last element,
with the pivot put between the sides. -/
def parted (a : Array α) (low high : Nat) : Split α :=
  let a := a.swapIfInBounds ((low + high) / 2) (low + 1)
  let a := ordered a low high
  let a := ordered a (low + 1) high
  let a := ordered a low (low + 1)
  let pivot := elementAt a (low + 1)
  let s := split pivot a (low + 1) high
  { s with elements := s.elements.swapIfInBounds (low + 1) s.right }

theorem parted_bounds (a : Array α) (low high : Nat) :
    low + 1 < (parted a low high).left ∧ (parted a low high).right ≤ high - 1 :=
  split_bounds ..

/-- The sample with the element of a rank at its place, which lies between `low` and `high`. -/
def selectIn (rank : Nat) (a : Array α) (low high : Nat) : Array α :=
  if high ≤ low + 1 then
    if high = low + 1 then ordered a low high else a
  else
    let s := parted a low high
    selectIn rank s.elements (if s.right ≤ rank then s.left else low)
      (if rank ≤ s.right then s.right - 1 else high)
termination_by high - low
decreasing_by
  have bounds := parted_bounds a low high
  split <;> split <;> omega

/-- The smallest element, from the first on; one that is not a number is taken in any case. -/
def least (a : Array α) : α :=
  a.foldl (fun x y => if y < x ∨ ¬ y ≤ y then y else x) (elementAt a 0)

/-- The element of a rank, counted from zero, and the sample as the selection leaves it. -/
def select (a : Array α) (rank : Nat) : α × Array α :=
  if rank = 0 then (least a, a)
  else
    let a := selectIn rank a 0 (a.size - 1)
    (elementAt a rank, a)

/-- The middle element of a sample, or the mean of the two middle ones. -/
def median (sample : List α) : α :=
  let a := sample.toArray
  let middle := a.size / 2
  if a.size % 2 = 1 then
    (select a middle).1
  else
    let (lower, a) := select a (middle - 1)
    let (upper, _) := select a middle
    (lower + upper) / 2.0

end PullbackTrading.Sample

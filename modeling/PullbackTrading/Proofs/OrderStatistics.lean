/-
**Order statistics: the element of a rank, and the median.**

The element of a rank is the one that stands there once the sample is sorted (`ascending`). Over the
rationals, selection in place finds it without sorting:

* `cut_selectIn`: the part that is looked at lies between two cuts, and holds the rank or else lies
  beside a rank whose element has found its place;
* `getElem?_ascending_of_cuts`: an element between two cuts has as many elements before it as in
  the sorted sample;
* `select_spec`: so what is selected is the element of the rank, also in a sample that an earlier
  selection has left in another order.

`median_eq_middle`: the median is the middle element, or the mean of the two middle ones.
-/

import Mathlib.Data.List.Sort
import PullbackTrading.Proofs.Partition

namespace PullbackTrading.Sample

variable {a : Array ℚ} {rank low high : Nat}

/-! ### Selection in a part -/

/-- Selection exchanges only what lies in the part. -/
theorem selectIn_rearranges (rank : Nat) (within : high < a.size) :
    Rearranges low high a (selectIn rank a low high) := by
  fun_induction selectIn rank a low high with
  | case1 a low => exact ordered_rearranges a (by omega) (by omega)
  | case2 => exact .refl
  | case3 a low high long s ih =>
    have parts : s.Parts a low high := parted_parts within (by omega)
    obtain ⟨moved, _, lower, met, upper⟩ := parts
    have later := ih (by rw [moved.size_eq]; split <;> omega)
    exact moved.trans (later.widen (by split <;> omega) (by split <;> omega))

/-- Two elements between two cuts are told apart once they are in order. -/
theorem cut_ordered (within : low + 1 < a.size) (cutLow : Cut a low) (cutHigh : Cut a (low + 2)) :
    Cut (ordered a low (low + 1)) (low + 1) := by
  have moved : Rearranges low (low + 1) a (ordered a low (low + 1)) :=
    ordered_rearranges a (by omega) (by omega)
  have cutLow' := cutLow.rearranged moved within (.inl le_rfl)
  have cutHigh' := cutHigh.rearranged moved within (.inr (by omega))
  intro i before j after inside
  rcases Nat.lt_or_eq_of_le (Nat.le_of_lt_succ before) with earlier | rfl
  · exact cutLow' i earlier j (by omega) inside
  · rcases Nat.eq_or_lt_of_le after with rfl | later
    · rw [elementAt_ordered_left (by omega) within, elementAt_ordered_right (by omega) within]
      exact min_le_max
    · exact cutHigh' i (by omega) j later inside

/-- **Selection leaves the element of the rank between two cuts.** -/
theorem cut_selectIn (within : high < a.size) (low_le : low ≤ rank) (le_high : rank ≤ high)
    (cutLow : Cut a low) (cutHigh : Cut a (high + 1)) :
    Cut (selectIn rank a low high) rank ∧ Cut (selectIn rank a low high) (rank + 1) := by
  fun_induction selectIn rank a low high with
  | case1 a low =>
    have moved : Rearranges low (low + 1) a (ordered a low (low + 1)) :=
      ordered_rearranges a (by omega) (by omega)
    have cutNext := cut_ordered within cutLow cutHigh
    rcases Nat.eq_or_lt_of_le low_le with rfl | above
    · exact ⟨cutLow.rearranged moved within (.inl le_rfl), cutNext⟩
    · obtain rfl : rank = low + 1 := by omega
      exact ⟨cutNext, cutHigh.rearranged moved within (.inr (by omega))⟩
  | case2 a low high short =>
    obtain rfl : low = rank := by omega
    obtain rfl : high = low := by omega
    exact ⟨cutLow, cutHigh⟩
  | case3 a low high long s ih =>
    have parts : s.Parts a low high := parted_parts within (by omega)
    have cut : ∀ k, s.right ≤ k → k ≤ s.left → Cut s.elements k :=
      fun k => parts.cut within cutLow cutHigh
    obtain ⟨moved, _, lower, met, upper⟩ := parts
    have cutLow' := cutLow.rearranged moved within (.inl le_rfl)
    have cutHigh' := cutHigh.rearranged moved within (.inr (by omega))
    have size := moved.size_eq
    simp only [dite_eq_ite] at ih
    rcases Nat.lt_or_ge rank s.right with left | past
    · -- the rank lies in the lower side
      rw [if_neg (not_le.mpr left), if_pos left.le] at ih ⊢
      refine ih (by omega) low_le (by omega) cutLow' ?_
      rw [Nat.sub_add_cancel (by omega)]
      exact cut _ le_rfl met.le
    · rcases Nat.lt_or_ge rank s.left with between | right
      · -- the element has its place already, and what follows does not reach it
        have later : Rearranges (if s.right ≤ rank then s.left else low)
            (if rank ≤ s.right then s.right - 1 else high) s.elements _ :=
          selectIn_rearranges rank (by split <;> omega)
        rw [if_pos past] at later ⊢
        have reach : (if rank ≤ s.right then s.right - 1 else high) < s.elements.size := by
          split <;> omega
        exact ⟨(cut rank past between.le).rearranged later reach (.inl between.le),
          (cut (rank + 1) (by omega) between).rearranged later reach (.inl between)⟩
      · -- the rank lies in the upper side
        rw [if_pos past, if_neg (show ¬ rank ≤ s.right by omega)] at ih ⊢
        exact ih (by omega) right le_high (cut _ met.le le_rfl) cutHigh'

/-! ### Ranks -/

/-- The sample in increasing order. -/
def ascending (sample : List ℚ) : List ℚ := sample.mergeSort (· ≤ ·)

theorem ascending_perm (sample : List ℚ) : (ascending sample).Perm sample :=
  List.mergeSort_perm _ _

theorem pairwise_ascending (sample : List ℚ) : (ascending sample).Pairwise (· ≤ ·) :=
  List.pairwise_mergeSort' (· ≤ ·) sample

theorem length_ascending (sample : List ℚ) : (ascending sample).length = sample.length :=
  (ascending_perm sample).length_eq

/-- A sorted list is determined by what it holds. -/
theorem ascending_eq_of_perm {sample sorted : List ℚ} (perm : sorted.Perm sample)
    (inOrder : sorted.Pairwise (· ≤ ·)) : ascending sample = sorted :=
  ((ascending_perm sample).trans perm.symm).eq_of_pairwise (fun _ _ _ _ => le_antisymm)
    (pairwise_ascending sample) inOrder

theorem ascending_congr {sample others : List ℚ} (perm : sample.Perm others) :
    ascending sample = ascending others :=
  ascending_eq_of_perm ((ascending_perm others).trans perm.symm) (pairwise_ascending others)

/-- **An element with some not above it and the others not below it has their number as its rank.**
-/
theorem getElem?_ascending {sample before after : List ℚ} {x : ℚ}
    (perm : sample.Perm (before ++ x :: after)) (notAbove : ∀ y ∈ before, y ≤ x)
    (notBelow : ∀ y ∈ after, x ≤ y) : (ascending sample)[before.length]? = some x := by
  have sorted : (ascending before ++ x :: ascending after).Pairwise (· ≤ ·) := by
    refine List.pairwise_append.mpr ⟨pairwise_ascending before, List.pairwise_cons.mpr
      ⟨fun y member => ?_, pairwise_ascending after⟩, fun y member z there => ?_⟩
    · exact notBelow y ((ascending_perm after).subset member)
    · have low := notAbove y ((ascending_perm before).subset member)
      rcases List.mem_cons.mp there with rfl | later
      · exact low
      · exact low.trans (notBelow z ((ascending_perm after).subset later))
  have same : (ascending before ++ x :: ascending after).Perm sample :=
    ((ascending_perm before).append ((ascending_perm after).cons x)).trans perm.symm
  rw [ascending_eq_of_perm same sorted, ← length_ascending before,
    List.getElem?_append_right le_rfl, Nat.sub_self]
  rfl

theorem elementAt_eq {k : Nat} (within : k < a.size) : elementAt a k = a.toList[k] := by
  rw [elementAt, Array.getD_eq_getD_getElem?, Array.getElem?_eq_getElem within]
  rfl

/-- **An element between two cuts has the rank of its place.** -/
theorem getElem?_ascending_of_cuts {k : Nat} (within : k < a.size) (cut : Cut a k)
    (cutNext : Cut a (k + 1)) : (ascending a.toList)[k]? = some (elementAt a k) := by
  have inside : k < a.toList.length := within
  have whole : a.toList = a.toList.take k ++ elementAt a k :: a.toList.drop (k + 1) := by
    rw [elementAt_eq within, List.getElem_cons_drop, List.take_append_drop]
  have front : (a.toList.take k).length = k := List.length_take_of_le inside.le
  have rank := getElem?_ascending (.of_eq whole) (fun y member => ?_) fun y member => ?_
  · rwa [front] at rank
  · obtain ⟨i, before, rfl⟩ := List.getElem_of_mem member
    rw [front] at before
    rw [List.getElem_take, ← elementAt_eq (by omega)]
    exact cut i before k le_rfl within
  · obtain ⟨i, short, rfl⟩ := List.getElem_of_mem member
    rw [List.length_drop] at short
    have upTo : k + 1 + i < a.size := by
      have := a.length_toList
      omega
    rw [List.getElem_drop, ← elementAt_eq upTo]
    exact cutNext k (Nat.lt_succ_self k) (k + 1 + i) (by omega) upTo

/-! ### Selection -/

/-- The least element has rank zero. -/
theorem getElem?_ascending_least (some : 0 < a.size) :
    (ascending a.toList)[0]? = Option.some (least a) := by
  have step : (fun x y : ℚ => if y < x ∨ ¬ y ≤ y then y else x) = min := by
    funext x y
    simp [min_comm x y, min_def_lt]
  have found : (elementAt a 0 :: a.toList).min? = Option.some (least a) := by
    rw [List.min?_cons', least, step, Array.foldl_toList]
  obtain ⟨attained, bounds⟩ := List.min?_eq_some_iff.mp found
  have member : least a ∈ a.toList := by
    rcases List.mem_cons.mp attained with first | later
    · rw [first, elementAt_eq some]
      exact List.getElem_mem _
    · exact later
  have front : a.toList.Perm ([] ++ least a :: a.toList.erase (least a)) :=
    List.perm_cons_erase member
  exact getElem?_ascending front nofun fun y inside =>
    bounds y (List.mem_cons_of_mem _ (List.mem_of_mem_erase inside))

/-- **What is selected is the element of the rank**, and the sample keeps its elements. -/
theorem select_spec (within : rank < a.size) :
    (ascending a.toList)[rank]? = some (select a rank).1 ∧
      (select a rank).2.toList.Perm a.toList := by
  by_cases first : rank = 0
  · subst first
    exact ⟨getElem?_ascending_least within, .refl _⟩
  · have selected : select a rank = (elementAt (selectIn rank a 0 (a.size - 1)) rank,
        selectIn rank a 0 (a.size - 1)) := if_neg first
    have moved : Rearranges 0 (a.size - 1) a (selectIn rank a 0 (a.size - 1)) :=
      selectIn_rearranges rank (by omega)
    have start : Cut a 0 := fun _ no => absurd no (Nat.not_lt_zero _)
    have stop : Cut a (a.size - 1 + 1) := fun _ _ _ _ _ => by omega
    obtain ⟨cut, cutNext⟩ : Cut (selectIn rank a 0 (a.size - 1)) rank ∧
        Cut (selectIn rank a 0 (a.size - 1)) (rank + 1) :=
      cut_selectIn (by omega) (Nat.zero_le _) (by omega) start stop
    rw [selected, ← ascending_congr moved.perm]
    exact ⟨getElem?_ascending_of_cuts (by rwa [moved.size_eq]) cut cutNext, moved.perm⟩

/-! ### The median -/

/-- The middle element of a sorted sample, or the mean of the two middle ones. -/
def middle (sorted : List ℚ) : ℚ :=
  if sorted.length % 2 = 1 then sorted.getD (sorted.length / 2) 0
  else (sorted.getD (sorted.length / 2 - 1) 0 + sorted.getD (sorted.length / 2) 0) / 2

/-- **The median is the middle of the sorted sample.** -/
theorem median_eq_middle {sample : List ℚ} (some : sample ≠ []) :
    median sample = middle (ascending sample) := by
  have size : 0 < sample.length := List.length_pos_iff.mpr some
  have rank : ∀ {a : Array ℚ} {k : Nat}, a.toList.Perm sample → k < sample.length →
      (ascending sample).getD k 0 = (select a k).1 ∧ (select a k).2.toList.Perm sample := by
    intro a k kept within
    have here : k < a.size := by rwa [← Array.length_toList, kept.length_eq]
    obtain ⟨found, kept'⟩ := select_spec here
    rw [ascending_congr kept] at found
    rw [List.getD_eq_getElem?_getD, found]
    exact ⟨rfl, kept'.trans kept⟩
  unfold median middle
  simp only [List.size_toArray, length_ascending]
  split
  · exact (rank (.refl _) (by omega)).1.symm
  · -- the second selection goes on with the sample as the first one has left it
    obtain ⟨lower, kept⟩ := rank (.refl sample) (show sample.length / 2 - 1 < _ by omega)
    obtain ⟨upper, _⟩ := rank kept (show sample.length / 2 < _ by omega)
    rw [lower, upper]
    norm_num

end PullbackTrading.Sample

/-
**Splitting a sample around a pivot.**

Selection in place goes by exchanges, each of them between two places of the part that is split
(`Rearranges`). What it brings about are cuts: places such that no element before is larger than one
from there on (`Cut`). Over the rationals:

* `Cut.rearranged`: a cut that does not run through a part outlasts every exchange inside of it;
* `Scanning.divides_split`: each of the scans from the two ends is stopped by what the other one has
  left behind, and where they have met no element is on the wrong side of the pivot;
* `parted_parts`: so once the pivot stands between the sides, every place between them is a cut
  (`Split.Parts.cut`).
-/

import PullbackTrading.Performance.Median
import PullbackTrading.Proofs.Exact

namespace PullbackTrading.Sample

/-! ### Exchanges -/

section

variable {α : Type} {a b c : Array α} {i j k low high : Nat}

theorem swap_perm (a : Array α) (i j : Nat) : (a.swapIfInBounds i j).toList.Perm a.toList := by
  rw [Array.swapIfInBounds_def]
  split
  · split
    · exact (Array.swap_perm _ _).toList
    · exact .refl _
  · exact .refl _

/-- The second sample is the first one after exchanges between places from `low` to `high`. -/
inductive Rearranges (low high : Nat) (a : Array α) : Array α → Prop
  | refl : Rearranges low high a a
  | swap {b : Array α} {i j : Nat} (before : Rearranges low high a b)
    (left : low ≤ i ∧ i ≤ high) (right : low ≤ j ∧ j ≤ high) :
    Rearranges low high a (b.swapIfInBounds i j)

namespace Rearranges

theorem perm (moved : Rearranges low high a b) : b.toList.Perm a.toList := by
  induction moved with
  | refl => exact .refl _
  | swap _ _ _ ih => exact (swap_perm ..).trans ih

theorem size_eq (moved : Rearranges low high a b) : b.size = a.size := moved.perm.length_eq

theorem trans (first : Rearranges low high a b) (second : Rearranges low high b c) :
    Rearranges low high a c := by
  induction second with
  | refl => exact first
  | swap _ left right ih => exact ih.swap left right

theorem widen {low' high' : Nat} (moved : Rearranges low high a b) (lower : low' ≤ low)
    (higher : high ≤ high') : Rearranges low' high' a b := by
  induction moved with
  | refl => exact .refl
  | swap _ left right ih => exact ih.swap (by omega) (by omega)

end Rearranges

variable [Quantity α]

theorem elementAt_swap_of_ne (other : k ≠ i) (other' : k ≠ j) :
    elementAt (a.swapIfInBounds i j) k = elementAt a k := by
  simp only [elementAt, Array.getD_eq_getD_getElem?]
  grind

theorem elementAt_swap_left (left : i < a.size) (right : j < a.size) :
    elementAt (a.swapIfInBounds i j) i = elementAt a j := by
  simp only [elementAt, Array.getD_eq_getD_getElem?]
  grind

theorem elementAt_swap_right (left : i < a.size) (right : j < a.size) :
    elementAt (a.swapIfInBounds i j) j = elementAt a i := by
  simp only [elementAt, Array.getD_eq_getD_getElem?]
  grind

/-- **What stands outside of the part stays**, and what is inside comes from inside. -/
theorem Rearranges.exists_place (moved : Rearranges low high a b) (k : Nat) :
    ∃ k', elementAt b k = elementAt a k' ∧
      (k' = k ∨ (low ≤ k ∧ k ≤ high) ∧ low ≤ k' ∧ k' ≤ high) := by
  induction moved generalizing k with
  | refl => exact ⟨k, rfl, .inl rfl⟩
  | @swap b i j _ left right ih =>
    have came : ∃ m, elementAt (b.swapIfInBounds i j) k = elementAt b m ∧
        (m = k ∨ (low ≤ k ∧ k ≤ high) ∧ low ≤ m ∧ m ≤ high) := by
      by_cases within : i < b.size ∧ j < b.size
      · by_cases first : k = i
        · subst first
          exact ⟨j, elementAt_swap_left within.1 within.2, .inr ⟨left, right⟩⟩
        · by_cases second : k = j
          · subst second
            exact ⟨i, elementAt_swap_right within.1 within.2, .inr ⟨right, left⟩⟩
          · exact ⟨k, elementAt_swap_of_ne first second, .inl rfl⟩
      · have unmoved : b.swapIfInBounds i j = b := by grind
        exact ⟨k, by rw [unmoved], .inl rfl⟩
    obtain ⟨m, same, inside⟩ := came
    obtain ⟨k', same', inside'⟩ := ih m
    refine ⟨k', same.trans same', ?_⟩
    rcases inside with rfl | inside
    · exact inside'
    · rcases inside' with rfl | inside'
      · exact .inr inside
      · exact .inr ⟨inside.1, inside'.2⟩

theorem elementAt_of_rearranges (moved : Rearranges low high a b) (outside : k < low ∨ high < k) :
    elementAt b k = elementAt a k := by
  obtain ⟨k', same, rfl | inside⟩ := moved.exists_place k
  · exact same
  · omega

theorem ordered_rearranges (a : Array α) (left : low ≤ i ∧ i ≤ high) (right : low ≤ j ∧ j ≤ high) :
    Rearranges low high a (ordered a i j) := by
  unfold ordered
  split
  · exact Rearranges.refl.swap left right
  · exact .refl

/-- The scans exchange only what lies between the two ends. -/
theorem split_rearranges (pivot : α) (a : Array α) (left right : Nat) :
    Rearranges (left + 1) (right - 1) a (split pivot a left right).elements := by
  fun_induction split pivot a left right with
  | case1 => exact .refl
  | case2 a left right left' right' meet ih =>
    have l : left + 1 ≤ left' := le_notBelow a pivot (left + 1)
    have r : right' ≤ right - 1 := notAbove_le a pivot (right - 1)
    have first : Rearranges (left + 1) (right - 1) a (a.swapIfInBounds left' right') :=
      Rearranges.refl.swap (by omega) (by omega)
    exact first.trans (ih.widen (by omega) (by omega))

end

/-! ### Cuts -/

variable {a b : Array ℚ} {pivot : ℚ} {i j k low high left right : Nat}

/-- No element before a place is larger than one from there on. -/
def Cut (a : Array ℚ) (k : Nat) : Prop :=
  ∀ i < k, ∀ j, k ≤ j → j < a.size → elementAt a i ≤ elementAt a j

/-- **A cut that does not run through a part outlasts the exchanges inside of it.** -/
theorem Cut.rearranged (cut : Cut a k) (moved : Rearranges low high a b) (within : high < a.size)
    (beside : k ≤ low ∨ high < k) : Cut b k := by
  intro i before j after inside
  rw [moved.size_eq] at inside
  obtain ⟨i', sameI, placeI⟩ := moved.exists_place i
  obtain ⟨j', sameJ, placeJ⟩ := moved.exists_place j
  rw [sameI, sameJ]
  exact cut i' (by omega) j' (by omega) (by omega)

/-! ### Scans -/

/-- The scan upwards stops at an element that is not below the pivot, and passes only elements
below it. -/
theorem notBelow_stops {stop : Nat} (from_le : i ≤ stop) (within : stop < a.size)
    (stops : pivot ≤ elementAt a stop) :
    notBelow a pivot i ≤ stop ∧ pivot ≤ elementAt a (notBelow a pivot i) ∧
      ∀ k, i ≤ k → k < notBelow a pivot i → elementAt a k < pivot := by
  fun_induction notBelow a pivot i with
  | case1 i _ here => exact ⟨from_le, here, fun k _ _ => by omega⟩
  | case2 i _ below ih =>
    have further : i ≠ stop := fun same => below (same ▸ stops)
    obtain ⟨stopped, reached, passed⟩ := ih (by omega)
    refine ⟨stopped, reached, fun k least most => ?_⟩
    rcases Nat.eq_or_lt_of_le least with rfl | later
    · exact not_le.mp below
    · exact passed k later most
  | case3 => omega

/-- The scan downwards stops at an element that is not above the pivot, and passes only elements
above it. -/
theorem notAbove_stops {stop : Nat} (le_from : stop ≤ i) (stops : elementAt a stop ≤ pivot) :
    stop ≤ notAbove a pivot i ∧ elementAt a (notAbove a pivot i) ≤ pivot ∧
      ∀ k, notAbove a pivot i < k → k ≤ i → pivot < elementAt a k := by
  fun_induction notAbove a pivot i with
  | case1 =>
    rw [Nat.le_zero.mp le_from] at stops
    exact ⟨le_from, stops, fun k _ _ => by omega⟩
  | case2 i here => exact ⟨le_from, here, fun k _ _ => by omega⟩
  | case3 i above ih =>
    have further : stop ≠ i + 1 := fun same => above (same ▸ stops)
    obtain ⟨stopped, reached, passed⟩ := ih (by omega)
    refine ⟨stopped, reached, fun k least most => ?_⟩
    rcases Nat.eq_or_lt_of_le most with rfl | earlier
    · exact not_le.mp above
    · exact passed k least (by omega)

/-! ### Sides -/

/-- Where the scans stand between two exchanges, in a part from `low` to `high`: each of them has
left behind elements on its side of the pivot. -/
structure Scanning (pivot : ℚ) (a : Array ℚ) (low left right high : Nat) : Prop where
  below : ∀ k, low ≤ k → k ≤ left → elementAt a k ≤ pivot
  above : ∀ k, right ≤ k → k ≤ high → pivot ≤ elementAt a k
  left_le_right : left ≤ right
  low_le_left : low ≤ left
  right_le_high : right ≤ high
  low_lt_right : low < right
  left_lt_high : left < high

/-- Where the scans have met: no element of the part is on the wrong side of the pivot. -/
structure Split.Divides (s : Split ℚ) (pivot : ℚ) (low high : Nat) : Prop where
  below : ∀ k, low ≤ k → k < s.left → elementAt s.elements k ≤ pivot
  above : ∀ k, s.right < k → k ≤ high → pivot ≤ elementAt s.elements k
  low_le_right : low ≤ s.right
  right_lt_left : s.right < s.left
  left_le_high : s.left ≤ high

namespace Scanning

/-- The upward scan stops inside of the part, at the latest where the other scan has left an element
behind. -/
theorem upward (scanning : Scanning pivot a low left right high) (within : high < a.size) :
    notBelow a pivot (left + 1) ≤ high ∧ pivot ≤ elementAt a (notBelow a pivot (left + 1)) ∧
      ∀ k, low ≤ k → k < notBelow a pivot (left + 1) → elementAt a k ≤ pivot := by
  obtain ⟨below, above, ordered, _, upper, _, next⟩ := scanning
  have last : pivot ≤ elementAt a (max (left + 1) right) := above _ (by omega) (by omega)
  obtain ⟨stopped, reached, passed⟩ := notBelow_stops (i := left + 1) (by omega) (by omega) last
  refine ⟨by omega, reached, fun k least most => ?_⟩
  rcases Nat.lt_or_ge left k with new | old
  · exact (passed k new most).le
  · exact below k least old

/-- The downward scan stops inside of the part as well. -/
theorem downward (scanning : Scanning pivot a low left right high) :
    low ≤ notAbove a pivot (right - 1) ∧ elementAt a (notAbove a pivot (right - 1)) ≤ pivot ∧
      ∀ k, notAbove a pivot (right - 1) < k → k ≤ high → pivot ≤ elementAt a k := by
  obtain ⟨below, above, ordered, lower, _, next, _⟩ := scanning
  have last : elementAt a (min left (right - 1)) ≤ pivot := below _ (by omega) (by omega)
  obtain ⟨stopped, reached, passed⟩ := notAbove_stops (i := right - 1) (by omega) last
  refine ⟨by omega, reached, fun k least most => ?_⟩
  rcases Nat.lt_or_ge k right with new | old
  · exact (passed k least (by omega)).le
  · exact above k old most

/-- **An exchange puts two elements on their sides of the pivot.** -/
theorem exchange (scanning : Scanning pivot a low left right high) (within : high < a.size)
    (apart : notBelow a pivot (left + 1) ≤ notAbove a pivot (right - 1)) :
    Scanning pivot
      (a.swapIfInBounds (notBelow a pivot (left + 1)) (notAbove a pivot (right - 1)))
      low (notBelow a pivot (left + 1)) (notAbove a pivot (right - 1)) high := by
  obtain ⟨up, reached, passed⟩ := scanning.upward within
  obtain ⟨down, reached', passed'⟩ := scanning.downward
  have further := le_notBelow a pivot (left + 1)
  have further' := notAbove_le a pivot (right - 1)
  obtain ⟨_, _, ordered, lower, upper, low_lt, lt_high⟩ := scanning
  generalize notBelow a pivot (left + 1) = left' at *
  generalize notAbove a pivot (right - 1) = right' at *
  refine ⟨fun k least most => ?_, fun k least most => ?_, apart, by omega, by omega, by omega,
    by omega⟩
  · rcases Nat.lt_or_eq_of_le most with before | rfl
    · rw [elementAt_swap_of_ne (by omega) (by omega)]
      exact passed k least before
    · rwa [elementAt_swap_left (by omega) (by omega)]
  · rcases Nat.lt_or_eq_of_le least with after | rfl
    · rw [elementAt_swap_of_ne (by omega) (by omega)]
      exact passed' k after most
    · rwa [elementAt_swap_right (by omega) (by omega)]

/-- **Once the scans have met, no element is on the wrong side of the pivot.** -/
theorem divides_split (scanning : Scanning pivot a low left right high) (within : high < a.size) :
    (split pivot a left right).Divides pivot low high := by
  fun_induction split pivot a left right with
  | case1 a left right left' right' met =>
    obtain ⟨up, _, passed⟩ := scanning.upward within
    obtain ⟨down, _, passed'⟩ := scanning.downward
    exact ⟨passed, passed', down, met, up⟩
  | case2 a left right left' right' apart ih =>
    exact ih (scanning.exchange within (not_lt.mp apart)) (by rwa [Array.size_swapIfInBounds])

end Scanning

/-! ### Parts -/

/-- The part from `low` to `high` split around an element that has come to stand between the sides.
-/
structure Split.Parts (s : Split ℚ) (a : Array ℚ) (low high : Nat) : Prop where
  rearranges : Rearranges low high a s.elements
  sides : ∃ pivot, (∀ k, low ≤ k → k < s.left → elementAt s.elements k ≤ pivot) ∧
    ∀ k, s.right ≤ k → k ≤ high → pivot ≤ elementAt s.elements k
  low_lt_right : low < s.right
  right_lt_left : s.right < s.left
  left_le_high : s.left ≤ high

/-- **Every place between the sides is a cut**, if the part lies between two cuts. -/
theorem Split.Parts.cut {s : Split ℚ} (parts : s.Parts a low high) (within : high < a.size)
    (cutLow : Cut a low) (cutHigh : Cut a (high + 1)) (right_le : s.right ≤ k)
    (le_left : k ≤ s.left) : Cut s.elements k := by
  obtain ⟨moved, ⟨pivot, below, above⟩, lower, _, upper⟩ := parts
  have cutLow' : Cut s.elements low := cutLow.rearranged moved within (.inl le_rfl)
  have cutHigh' : Cut s.elements (high + 1) :=
    cutHigh.rearranged moved within (.inr (Nat.lt_succ_self high))
  intro i before j after inside
  rcases Nat.lt_or_ge i low with outside | least
  · exact cutLow' i outside j (by omega) inside
  · rcases Nat.lt_or_ge high j with outside | most
    · exact cutHigh' i (by omega) j outside inside
    · exact (below i least (by omega)).trans (above j (by omega) most)

theorem elementAt_ordered_left (left : i < a.size) (right : j < a.size) :
    elementAt (ordered a i j) i = min (elementAt a i) (elementAt a j) := by
  unfold ordered
  split
  · rename_i reversed
    rw [elementAt_swap_left left right, min_eq_right reversed.le]
  · rename_i inOrder
    rw [min_eq_left (not_lt.mp inOrder)]

theorem elementAt_ordered_right (left : i < a.size) (right : j < a.size) :
    elementAt (ordered a i j) j = max (elementAt a i) (elementAt a j) := by
  unfold ordered
  split
  · rename_i reversed
    rw [elementAt_swap_right left right, max_eq_left reversed.le]
  · rename_i inOrder
    rw [max_eq_right (not_lt.mp inOrder)]

theorem elementAt_ordered_of_ne (other : k ≠ i) (other' : k ≠ j) :
    elementAt (ordered a i j) k = elementAt a k := by
  unfold ordered
  split
  · exact elementAt_swap_of_ne other other'
  · rfl

theorem size_ordered (a : Array ℚ) (i j : Nat) : (ordered a i j).size = a.size := by
  unfold ordered
  split
  · exact Array.size_swapIfInBounds
  · rfl

/-- The sample before it is split, with the middle one of three elements as the pivot. -/
def withPivot (a : Array ℚ) (low high : Nat) : Array ℚ :=
  ordered
    (ordered (ordered (a.swapIfInBounds ((low + high) / 2) (low + 1)) low high) (low + 1) high)
    low (low + 1)

theorem withPivot_rearranges (a : Array ℚ) (long : low + 1 < high) :
    Rearranges low high a (withPivot a low high) := by
  have first : Rearranges low high a (a.swapIfInBounds ((low + high) / 2) (low + 1)) :=
    Rearranges.refl.swap (by omega) (by omega)
  exact ((first.trans (ordered_rearranges _ (by omega) (by omega))).trans
    (ordered_rearranges _ (by omega) (by omega))).trans
    (ordered_rearranges _ (by omega) (by omega))

/-- The pivot lies between the first and the last element. -/
theorem pivot_between (within : high < a.size) (long : low + 1 < high) :
    elementAt (withPivot a low high) low ≤ elementAt (withPivot a low high) (low + 1) ∧
      elementAt (withPivot a low high) (low + 1) ≤ elementAt (withPivot a low high) high := by
  have bounds : ∀ i ≤ high, i < (a.swapIfInBounds ((low + high) / 2) (low + 1)).size := by
    intro i upTo
    rw [Array.size_swapIfInBounds]
    omega
  unfold withPivot
  generalize a.swapIfInBounds ((low + high) / 2) (low + 1) = b at bounds ⊢
  have lowIn : low < b.size := bounds low (by omega)
  have nextIn : low + 1 < b.size := bounds (low + 1) (by omega)
  have highIn : high < b.size := bounds high le_rfl
  constructor
  · rw [elementAt_ordered_left, elementAt_ordered_right]
    · exact min_le_max
    all_goals simpa only [size_ordered]
  · rw [elementAt_ordered_right, elementAt_ordered_of_ne (k := high) (by omega) (by omega),
      elementAt_ordered_right, elementAt_ordered_left,
      elementAt_ordered_of_ne (k := low) (by omega) (by omega),
      elementAt_ordered_left, elementAt_ordered_right]
    · exact max_le (min_le_max.trans (le_max_right _ _)) min_le_max
    all_goals simpa only [size_ordered]

/-- Exchanged with the last element of the lower side, the pivot stands between the sides. -/
theorem Split.Divides.swap {elements : Array ℚ}
    (divides : (⟨elements, left, right⟩ : Split ℚ).Divides pivot (low + 1) high)
    (within : high < elements.size) (lowest : elementAt elements low ≤ pivot)
    (front : elementAt elements (low + 1) = pivot) :
    (∀ k, low ≤ k → k < left → elementAt (elements.swapIfInBounds (low + 1) right) k ≤ pivot) ∧
      ∀ k, right ≤ k → k ≤ high →
        pivot ≤ elementAt (elements.swapIfInBounds (low + 1) right) k := by
  obtain ⟨below, above, lower, met, upper⟩ := divides
  dsimp only at below above lower met upper
  have between : elementAt (elements.swapIfInBounds (low + 1) right) right = pivot := by
    rw [elementAt_swap_right (by omega) (by omega), front]
  refine ⟨fun k least most => ?_, fun k least most => ?_⟩
  · by_cases last : k = right
    · rw [last, between]
    · by_cases first : k = low + 1
      · rw [first, elementAt_swap_left (by omega) (by omega)]
        exact below right lower met
      · rw [elementAt_swap_of_ne first last]
        rcases Nat.eq_or_lt_of_le least with rfl | inside
        · exact lowest
        · exact below k inside most
  · rcases Nat.eq_or_lt_of_le least with rfl | inside
    · rw [between]
    · rw [elementAt_swap_of_ne (by omega) (by omega)]
      exact above k inside most

/-- **The sample is split around a pivot.** -/
theorem parted_parts (within : high < a.size) (long : low + 1 < high) :
    (parted a low high).Parts a low high := by
  have moved := withPivot_rearranges a long
  obtain ⟨first, last⟩ := pivot_between within long
  -- both scans begin at an element that is on its side: the pivot itself, and the last one
  have start : Scanning (elementAt (withPivot a low high) (low + 1)) (withPivot a low high)
      (low + 1) (low + 1) high high := by
    refine ⟨fun k least most => ?_, fun k least most => ?_, by omega, by omega, by omega, by omega,
      by omega⟩
    · rw [show k = low + 1 by omega]
    · rwa [show k = high by omega]
  have divides := start.divides_split (by rwa [moved.size_eq])
  have scan := split_rearranges (elementAt (withPivot a low high) (low + 1))
    (withPivot a low high) (low + 1) high
  have parted_eq : parted a low high =
      let s := split (elementAt (withPivot a low high) (low + 1)) (withPivot a low high)
        (low + 1) high
      { s with elements := s.elements.swapIfInBounds (low + 1) s.right } := rfl
  rw [parted_eq]
  generalize split (elementAt (withPivot a low high) (low + 1)) (withPivot a low high)
    (low + 1) high = s at divides scan ⊢
  obtain ⟨elements, left, right⟩ := s
  have lower : low + 1 ≤ right := divides.low_le_right
  have met : right < left := divides.right_lt_left
  have upper : left ≤ high := divides.left_le_high
  have scanned : Rearranges (low + 1 + 1) (high - 1) (withPivot a low high) elements := scan
  have size : elements.size = a.size := scanned.size_eq.trans moved.size_eq
  have lowest : elementAt elements low ≤ elementAt (withPivot a low high) (low + 1) := by
    rw [elementAt_of_rearranges scanned (.inl (by omega))]
    exact first
  have front : elementAt elements (low + 1) = elementAt (withPivot a low high) (low + 1) :=
    elementAt_of_rearranges scanned (.inl (by omega))
  have all : Rearranges low high a (elements.swapIfInBounds (low + 1) right) :=
    (moved.trans (scanned.widen (by omega) (by omega))).swap (by omega) (by omega)
  exact ⟨all, ⟨_, divides.swap (by omega) lowest front⟩, lower, met, upper⟩

end PullbackTrading.Sample

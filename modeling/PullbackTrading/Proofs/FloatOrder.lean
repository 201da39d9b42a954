/-
**The order of floating point numbers.**

A comparison of floating point numbers compares their places in a linear order, and what is not a
number has no place (`compare_eq_places`). Places are ordered first by the kind of a number, from
minus infinity to plus infinity, then by the exponent and then by the mantissa.

So `<` on `Float` is transitive, which is what a chain of comparisons such as "close above fast
above slow" rests on, and numbers stand in one line (`not_lt_iff_of_not_isNaN`), so that a check
which refuses what is too low accepts what is high enough.
-/

import Mathlib.Data.Prod.Lex
import Mathlib.Order.Compare
import PullbackTrading.Quantity

namespace PullbackTrading.FloatOrder

open Float.Model (UnpackedFloat)

/-! ### Places -/

/-- A place: the kind of a number, then what decides between two of a kind. -/
abbrev Place := ℤ ×ₗ ℤ ×ₗ ℤ

/-- The place with three coordinates. -/
def place (kind exponent mantissa : ℤ) : Place := toLex (kind, toLex (exponent, mantissa))

theorem cmp_place (k k' e e' m m' : ℤ) :
    cmp (place k e m) (place k' e' m') = (cmp k k').then ((cmp e e').then (cmp m m')) := by
  rw [cmp_eq_compare, cmp_eq_compare, cmp_eq_compare, cmp_eq_compare]
  rfl

theorem cmp_neg_neg (a b : ℤ) : cmp (-a) (-b) = (cmp a b).swap := by
  have reversed : StrictAnti fun x : ℤ => -x := fun _ _ below => Int.neg_lt_neg below
  rw [cmp_swap]
  exact reversed.cmp_map_eq a b

theorem cmp_natCast (a b : ℕ) : cmp (a : ℤ) b = cmp a b := by
  have increasing : StrictMono fun n : ℕ => (n : ℤ) := fun _ _ below => Int.ofNat_lt.mpr below
  exact increasing.cmp_map_eq a b

/-- Where a floating point number stands; the two zeros stand together. -/
def place? : UnpackedFloat → Option Place
  | .notANumber => none
  | .infinity .negative => some (place (-2) 0 0)
  | .finite .negative m e _ => some (place (-1) (-e) (-m))
  | .zero _ => some (place 0 0 0)
  | .finite .positive m e _ => some (place 1 e m)
  | .infinity .positive => some (place 2 0 0)

/-- **Numbers compare as their places do**, and nothing compares with what is no number. -/
theorem compare_eq_places (x y : UnpackedFloat) :
    x.compare y = (place? x).bind fun p => (place? y).map (cmp p) := by
  rcases x with (_ | _) | _ | _ | ⟨_ | _, m, e, _⟩ <;>
    rcases y with (_ | _) | _ | _ | ⟨_ | _, m', e', _⟩
  case finite.negative.finite.negative =>
    show some _ = some (cmp (place _ _ _) (place _ _ _))
    rw [cmp_place, cmp_neg_neg e, cmp_neg_neg m, cmp_natCast, cmp_eq_compare m, cmp_eq_compare e,
      ← Ordering.swap_then]
    rfl
  case finite.positive.finite.positive =>
    show some _ = some (cmp (place _ _ _) (place _ _ _))
    rw [cmp_place, cmp_natCast, cmp_eq_compare m, cmp_eq_compare e]
    rfl
  all_goals rfl

/-! ### Strictly below -/

/-- One number lies below another exactly if both have places, in this order. -/
theorem lt_iff_places (a b : Float) :
    a < b ↔ ∃ p q, place? a.toModel.unpack = some p ∧ place? b.toModel.unpack = some q ∧ p < q := by
  have unfolded : a < b ↔ a.toModel.unpack.compare b.toModel.unpack = some .lt := by
    show (decide (a.toModel.lt b.toModel = true)) = true ↔ _
    rw [decide_eq_true_eq]
    exact beq_iff_eq
  rw [unfolded, compare_eq_places, Option.bind_eq_some_iff]
  constructor
  · rintro ⟨p, placeA, compared⟩
    obtain ⟨q, placeB, below⟩ := Option.map_eq_some_iff.mp compared
    exact ⟨p, q, placeA, placeB, (cmp_eq_lt_iff p q).mp below⟩
  · rintro ⟨p, q, placeA, placeB, below⟩
    exact ⟨p, placeA, Option.map_eq_some_iff.mpr ⟨q, placeB, (cmp_eq_lt_iff p q).mpr below⟩⟩

/-- A chain of comparisons of floating point numbers closes. -/
instance isTransLt : IsTrans Float (· < ·) where
  trans a b c ab bc := by
    obtain ⟨p, q, placeA, placeB, below⟩ := (lt_iff_places a b).mp ab
    obtain ⟨q', r, placeB', placeC, below'⟩ := (lt_iff_places b c).mp bc
    rw [placeB, Option.some.injEq] at placeB'
    subst placeB'
    exact (lt_iff_places a c).mpr ⟨p, r, placeA, placeC, below.trans below'⟩

/-! ### Below or beside -/

theorem isLE_cmp_iff {p q : Place} : (cmp p q).isLE = true ↔ p ≤ q := by
  rw [← not_lt, ← cmp_eq_gt_iff]
  cases cmp p q <;> decide

/-- One number lies below another or beside it exactly if both have places, in this order. -/
theorem le_iff_places (a b : Float) :
    a ≤ b ↔ ∃ p q, place? a.toModel.unpack = some p ∧ place? b.toModel.unpack = some q ∧ p ≤ q := by
  have unfolded : a ≤ b ↔
      ∃ order, a.toModel.unpack.compare b.toModel.unpack = some order ∧ order.isLE = true := by
    show (decide (a.toModel.le b.toModel = true)) = true ↔ _
    rw [decide_eq_true_eq]
    exact Option.any_eq_true _ _
  rw [unfolded, compare_eq_places]
  constructor
  · rintro ⟨order, compared, below⟩
    obtain ⟨p, placeA, compared⟩ := Option.bind_eq_some_iff.mp compared
    obtain ⟨q, placeB, rfl⟩ := Option.map_eq_some_iff.mp compared
    exact ⟨p, q, placeA, placeB, isLE_cmp_iff.mp below⟩
  · rintro ⟨p, q, placeA, placeB, below⟩
    exact ⟨cmp p q, by rw [placeA, placeB]; rfl, isLE_cmp_iff.mpr below⟩

/-- One number lies beside another exactly if both have the same place. -/
theorem beq_iff_places (a b : Float) :
    (a == b) = true ↔ ∃ p, place? a.toModel.unpack = some p ∧ place? b.toModel.unpack = some p := by
  have unfolded : (a == b) = true ↔ a.toModel.unpack.compare b.toModel.unpack = some .eq := by
    show (a.toModel.unpack.compare b.toModel.unpack == some .eq) = true ↔ _
    exact beq_iff_eq
  rw [unfolded, compare_eq_places, Option.bind_eq_some_iff]
  constructor
  · rintro ⟨p, placeA, compared⟩
    obtain ⟨q, placeB, beside⟩ := Option.map_eq_some_iff.mp compared
    obtain rfl := (cmp_eq_eq_iff p q).mp beside
    exact ⟨p, placeA, placeB⟩
  · rintro ⟨p, placeA, placeB⟩
    exact ⟨p, placeA, Option.map_eq_some_iff.mpr ⟨p, placeB, (cmp_eq_eq_iff p p).mpr rfl⟩⟩

theorem le_iff_lt_or_beq (a b : Float) : a ≤ b ↔ a < b ∨ (a == b) = true := by
  rw [le_iff_places, lt_iff_places, beq_iff_places]
  constructor
  · rintro ⟨p, q, placeA, placeB, below⟩
    rcases below.lt_or_eq with strict | rfl
    · exact .inl ⟨p, q, placeA, placeB, strict⟩
    · exact .inr ⟨p, placeA, placeB⟩
  · rintro (⟨p, q, placeA, placeB, strict⟩ | ⟨p, placeA, placeB⟩)
    · exact ⟨p, q, placeA, placeB, strict.le⟩
    · exact ⟨p, p, placeA, placeB, le_rfl⟩

theorem beq_eq_false_of_lt {a b : Float} (below : a < b) : (a == b) = false := by
  obtain ⟨p, q, placeA, placeB, strict⟩ := (lt_iff_places a b).mp below
  rw [← Bool.not_eq_true, beq_iff_places, placeA, placeB]
  rintro ⟨r, same, same'⟩
  rw [Option.some.inj same, Option.some.inj same'] at strict
  exact lt_irrefl r strict

/-! ### Numbers and finite numbers -/

/-- What is a number has a place. -/
theorem exists_place {x : Float} (number : x.isNaN = false) :
    ∃ p, place? x.toModel.unpack = some p := by
  have unpacked : x.toModel.unpack.isNaN = false := number
  cases shape : x.toModel.unpack with
  | notANumber => rw [shape] at unpacked; cases unpacked
  | infinity sign => cases sign <;> exact ⟨_, rfl⟩
  | zero sign => exact ⟨_, rfl⟩
  | finite sign m e positive => cases sign <;> exact ⟨_, rfl⟩

/-- **Numbers stand in one line**: what is not below is above or beside. -/
theorem not_lt_iff_of_not_isNaN {a b : Float} (number : a.isNaN = false)
    (number' : b.isNaN = false) : ¬ a < b ↔ b ≤ a := by
  obtain ⟨p, placeA⟩ := exists_place number
  obtain ⟨q, placeB⟩ := exists_place number'
  simp [lt_iff_places, le_iff_places, placeA, placeB]

theorem not_isNaN_of_isFinite {x : Float} (finite : x.isFinite = true) : x.isNaN = false := by
  have unpacked : x.toModel.unpack.isFinite = true := finite
  show x.toModel.unpack.isNaN = false
  cases shape : x.toModel.unpack with
  | notANumber => rw [shape] at unpacked; cases unpacked
  | infinity sign => rfl
  | zero sign => rfl
  | finite sign m e positive => rfl

theorem not_lt_iff {a b : Float} (finite : a.isFinite = true) (finite' : b.isFinite = true) :
    ¬ a < b ↔ b ≤ a :=
  not_lt_iff_of_not_isNaN (not_isNaN_of_isFinite finite) (not_isNaN_of_isFinite finite')

theorem not_le_iff {a b : Float} (finite : a.isFinite = true) (finite' : b.isFinite = true) :
    ¬ a ≤ b ↔ b < a := by
  rw [← not_lt_iff finite' finite, not_not]

theorem le_trans {a b c : Float} (below : a ≤ b) (below' : b ≤ c) : a ≤ c := by
  obtain ⟨p, q, placeA, placeB, first⟩ := (le_iff_places a b).mp below
  obtain ⟨q', r, placeB', placeC, second⟩ := (le_iff_places b c).mp below'
  rw [placeB, Option.some.injEq] at placeB'
  subst placeB'
  exact (le_iff_places a c).mpr ⟨p, r, placeA, placeC, first.trans second⟩

theorem lt_of_lt_of_le {a b c : Float} (below : a < b) (below' : b ≤ c) : a < c := by
  rcases (le_iff_lt_or_beq b c).mp below' with strict | beside
  · exact IsTrans.trans a b c below strict
  · obtain ⟨p, q, placeA, placeB, first⟩ := (lt_iff_places a b).mp below
    obtain ⟨r, placeB', placeC⟩ := (beq_iff_places b c).mp beside
    rw [placeB, Option.some.injEq] at placeB'
    subst placeB'
    exact (lt_iff_places a c).mpr ⟨p, q, placeA, placeC, first⟩

end PullbackTrading.FloatOrder

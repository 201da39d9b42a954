/-
**Chronology: the bars of a series follow each other in time.**

A series is checked bar by bar, and each bar only against the one before it. Since instants are
ordered (`Instant.lt_trans`, `Instant.eq_of_not_lt`), this is enough for any two bars:

* `pairwise_of_firstFault`: bars without faults increase in time, and `firstFault_eq_none_iff`: the
  checks ask for no more than this and for bars that are sound by themselves;
* `Series.timestamp_lt`, `Series.timestamp_le`: so the order of bars is that of their indices.
-/

import PullbackTrading.Proofs.Soundness

namespace PullbackTrading

/-! ### Instants -/

namespace Instant

theorem lt_iff {a b : Instant} :
    a < b ↔ a.second < b.second ∨ (a.second = b.second ∧ a.nanosecond < b.nanosecond) :=
  Iff.rfl

theorem lt_irrefl (t : Instant) : ¬ t < t := by
  rw [lt_iff]
  omega

theorem lt_trans {a b c : Instant} (before : a < b) (after : b < c) : a < c := by
  rw [lt_iff] at before after ⊢
  omega

theorem lt_asymm {a b : Instant} (before : a < b) : ¬ b < a :=
  fun after => lt_irrefl a (lt_trans before after)

/-- Two instants of which neither is earlier are the same. -/
theorem eq_of_not_lt {a b : Instant} (left : ¬ a < b) (right : ¬ b < a) : a = b := by
  rw [lt_iff] at left right
  have second : a.second = b.second := by omega
  have nanosecond : a.nanosecond = b.nanosecond := by omega
  cases a
  cases b
  exact (Instant.mk.injEq ..).mpr ⟨second, nanosecond⟩

end Instant

/-! ### Bars -/

theorem Bar.follows_some_iff {α : Type} {b : Bar α} {previous : Instant} :
    b.follows (some previous) = true ↔ previous < b.timestamp :=
  decide_eq_true_iff

variable {α : Type} [Quantity α]

/-- Bars without faults increase in time, from the time that came before on. -/
theorem increasing_of_firstFault (bars : List (Bar α)) :
    ∀ (index : Nat) (previous : Option Instant), firstFault index previous bars = none →
      (previous.toList ++ bars.map Bar.timestamp).Pairwise (· < ·) := by
  induction bars with
  | nil =>
    intro _ previous _
    cases previous <;> simp
  | cons b rest ih =>
    intro index previous sound
    obtain ⟨_, follows, later⟩ := firstFault_cons_eq_none_iff.mp sound
    have increasing : (b.timestamp :: rest.map Bar.timestamp).Pairwise (· < ·) :=
      ih (index + 1) (some b.timestamp) later
    cases previous with
    | none => exact increasing
    | some time =>
      have first : time < b.timestamp := Bar.follows_some_iff.mp follows
      refine List.pairwise_cons.mpr ⟨fun other member => ?_, increasing⟩
      rcases List.mem_cons.mp member with rfl | after
      · exact first
      · exact Instant.lt_trans first (List.rel_of_pairwise_cons increasing after)

/-- **Bars without faults increase in time.** -/
theorem pairwise_of_firstFault {bars : List (Bar α)} (sound : firstFault 0 none bars = none) :
    bars.Pairwise fun a b => a.timestamp < b.timestamp :=
  List.pairwise_map.mp (increasing_of_firstFault bars 0 none sound)

/-- Where a bar stands shows only in its fault. -/
theorem Bar.fault?_eq_none_of_fault? {b : Bar α} {place : Nat} (sound : b.fault? place = none)
    (index : Nat) : b.fault? index = none :=
  (Bar.fault?_eq_none_iff b index).mpr ((Bar.fault?_eq_none_iff b place).mp sound)

theorem firstFault_of_increasing (bars : List (Bar α)) :
    ∀ (index : Nat) (previous : Option Instant),
      (previous.toList ++ bars.map Bar.timestamp).Pairwise (· < ·) →
      (∀ b ∈ bars, ∀ place, b.fault? place = none) → firstFault index previous bars = none := by
  induction bars with
  | nil => exact fun _ _ _ _ => rfl
  | cons b rest ih =>
    intro index previous increasing sound
    have later : firstFault (index + 1) (some b.timestamp) rest = none :=
      ih _ _ (increasing.sublist (List.sublist_append_right previous.toList _))
        fun other member => sound other (List.mem_cons_of_mem _ member)
    have follows : b.follows previous = true := by
      cases previous with
      | none => rfl
      | some time =>
        exact Bar.follows_some_iff.mpr (List.rel_of_pairwise_cons increasing List.mem_cons_self)
    exact firstFault_cons_eq_none_iff.mpr ⟨sound b List.mem_cons_self index, follows, later⟩

/-- **Bars have no fault exactly if none has one by itself and they increase in time.** -/
theorem firstFault_eq_none_iff {bars : List (Bar α)} :
    firstFault 0 none bars = none ↔
      (∀ b ∈ bars, ∀ index, b.fault? index = none) ∧
        bars.Pairwise fun a b => a.timestamp < b.timestamp := by
  constructor
  · intro sound
    refine ⟨fun b member => ?_, pairwise_of_firstFault sound⟩
    obtain ⟨_, here⟩ := fault?_eq_none_of_mem member sound
    exact Bar.fault?_eq_none_of_fault? here
  · rintro ⟨sound, increasing⟩
    exact firstFault_of_increasing bars 0 none (List.pairwise_map.mpr increasing) sound

namespace Series

variable (series : Series α) {i j : Nat} {a b : Bar α}

/-- A bar with a smaller index is earlier. -/
theorem timestamp_lt (first : series.bars[i]? = some a) (second : series.bars[j]? = some b)
    (before : i < j) : a.timestamp < b.timestamp := by
  obtain ⟨within, rfl⟩ := List.getElem?_eq_some_iff.mp first
  obtain ⟨within', rfl⟩ := List.getElem?_eq_some_iff.mp second
  exact List.pairwise_iff_getElem.mp (pairwise_of_firstFault series.sound) i j within within' before

/-- A bar whose index is not larger is not later. -/
theorem timestamp_le (first : series.bars[i]? = some a) (second : series.bars[j]? = some b)
    (before : i ≤ j) : ¬ b.timestamp < a.timestamp := by
  rcases Nat.lt_or_eq_of_le before with earlier | rfl
  · exact Instant.lt_asymm (series.timestamp_lt first second earlier)
  · rw [first, Option.some.injEq] at second
    rw [second]
    exact Instant.lt_irrefl _

end Series

end PullbackTrading

/-
**Rank order: summaries stand in one line, in whatever order they arrive.**

* `orderKey_inj`: numbers stand in one line by their bits, so that no two patterns share a place, be
  they zeros of either sign, infinities or none;
* `transCmp_compareRank`: keys compared one after the other, some of them backwards, are an order
  again;
* `compareRank_eq_iff`: only what agrees in all of them is tied;
* `isRanking_ranked`: so a ranking is sorted, with what never traded at its end, and ties keep their
  order;
* `ranked_eq_of_perm`: names tell summaries apart, so the order in which they arrive has no say.

All of this holds over any numbers told apart by their bits: over `Float`, where what is no number
has one pattern, and over the patterns themselves (`barePatterned`), where it has many.
-/

import Mathlib.Data.List.Nodup
import Mathlib.Order.Lattice
import PullbackTrading.Performance.Ranking

namespace PullbackTrading

/-- Bare patterns. -/
instance barePatterned : Patterned UInt64 := ⟨id⟩

variable {α : Type} [Patterned α]

/-! ### Numbers -/

/-- **Numbers of the same place have the same bits.** -/
theorem orderKey_inj {x y : α} : orderKey x = orderKey y ↔ Patterned.bits x = Patterned.bits y := by
  refine ⟨fun same => ?_, fun same => by rw [orderKey, orderKey, same]⟩
  have word := (Patterned.bits x).toNat_lt
  have word' := (Patterned.bits y).toNat_lt
  rw [← UInt64.toNat_inj]
  simp only [orderKey, Decimal.signBit] at same
  generalize (Patterned.bits x).toNat = m at same word ⊢
  generalize (Patterned.bits y).toNat = n at same word' ⊢
  split_ifs at same <;> omega

theorem compareFloats_eq_iff {x y : α} :
    compareFloats x y = .eq ↔ Patterned.bits x = Patterned.bits y := by
  rw [compareFloats, Std.compare_eq_iff_eq, orderKey_inj]

instance transCmp_compareFloats : Std.TransCmp (compareFloats : α → α → Ordering) :=
  inferInstanceAs (Std.TransCmp (compareOn orderKey))

namespace Summary

/-! ### Summaries -/

/-- One comparison that settles the ties of another. -/
theorem transCmp_then {β : Type} {cmp next : β → β → Ordering} (first : Std.TransCmp cmp)
    (second : Std.TransCmp next) : Std.TransCmp fun a b => (cmp a b).then (next a b) :=
  inferInstanceAs (Std.TransCmp (compareLex cmp next))

/-- A figure compared backwards. -/
theorem transCmp_backwards (figure : Summary α → α) :
    Std.TransCmp fun a b => compareFloats (figure b) (figure a) where
  eq_swap := Std.OrientedCmp.eq_swap
  isLE_trans first second := Std.TransCmp.isLE_trans second first

/-- **Keys compared one after the other are an order again.** -/
instance transCmp_compareRank : Std.TransCmp (compareRank : Summary α → Summary α → Ordering) :=
  have untraded : Std.TransCmp (compareOn fun s : Summary α => s.trades == 0) := inferInstance
  have name : Std.TransCmp (compareOn (Summary.variant : Summary α → String)) := inferInstance
  transCmp_then untraded <|
  transCmp_then (transCmp_backwards Summary.expectancy) <|
  transCmp_then (transCmp_backwards Summary.profitFactor) <|
  transCmp_then (transCmp_backwards Summary.winRate) name

/-- Nothing that a ranking looks at sets two summaries apart. -/
structure Tied (a b : Summary α) : Prop where
  untraded_iff : a.trades = 0 ↔ b.trades = 0
  expectancy : Patterned.bits a.expectancy = Patterned.bits b.expectancy
  profitFactor : Patterned.bits a.profitFactor = Patterned.bits b.profitFactor
  winRate : Patterned.bits a.winRate = Patterned.bits b.winRate
  variant : a.variant = b.variant

theorem compareRank_eq_iff {a b : Summary α} : compareRank a b = .eq ↔ a.Tied b := by
  have untraded : (a.trades == 0) = (b.trades == 0) ↔ (a.trades = 0 ↔ b.trades = 0) := by
    rw [Bool.eq_iff_iff, beq_iff_eq, beq_iff_eq]
  simp only [compareRank, Ordering.then_eq_eq, Std.compare_eq_iff_eq, compareFloats_eq_iff,
    untraded]
  constructor
  · rintro ⟨untraded, expectancy, factor, rate, name⟩
    exact ⟨untraded, expectancy.symm, factor.symm, rate.symm, name⟩
  · rintro ⟨untraded, expectancy, factor, rate, name⟩
    exact ⟨untraded, expectancy.symm, factor.symm, rate.symm, name⟩

theorem isLE_total (a b : Summary α) : (compareRank a b).isLE ∨ (compareRank b a).isLE := by
  have swap : compareRank a b = (compareRank b a).swap := Std.OrientedCmp.eq_swap
  rw [swap]
  cases compareRank b a <;> simp

/-- What never traded is ranked after what did. -/
theorem untraded_of_isLE {a b : Summary α} (first : (compareRank a b).isLE)
    (untraded : a.trades = 0) : b.trades = 0 := by
  by_contra traded
  have last : compareRank a b = .gt := by
    have apart : compare (a.trades == 0) (b.trades == 0) = .gt := by
      rw [untraded, beq_false_of_ne traded]
      rfl
    rw [compareRank, apart]
    rfl
  rw [last] at first
  cases first

/-! ### Rankings -/

/-- What makes a list the ranking of some summaries. -/
structure IsRanking (ranking summaries : List (Summary α)) : Prop where
  perm : ranking.Perm summaries
  sorted : ranking.Pairwise fun a b => (compareRank a b).isLE
  untraded_last : ∃ traded untraded, ranking = traded ++ untraded ∧
    (∀ s ∈ traded, s.trades ≠ 0) ∧ ∀ s ∈ untraded, s.trades = 0
  /-- Those tied with a summary stand in the order they had. -/
  stable : ∀ a, ranking.filter (fun b => compareRank a b == .eq) =
    summaries.filter fun b => compareRank a b == .eq

variable (summaries : List (Summary α))

theorem ranked_perm : (ranked summaries).Perm summaries := List.mergeSort_perm _ _

theorem pairwise_ranked : (ranked summaries).Pairwise fun a b => (compareRank a b).isLE :=
  List.pairwise_mergeSort (fun _ _ _ => Std.TransCmp.isLE_trans)
    (fun a b => Bool.or_eq_true_iff.mpr (isLE_total a b)) summaries

/-- A list in rank order divides where the trading ends. -/
theorem exists_untraded_last {ranking : List (Summary α)}
    (sorted : ranking.Pairwise fun a b => (compareRank a b).isLE) :
    ∃ traded untraded, ranking = traded ++ untraded ∧
      (∀ s ∈ traded, s.trades ≠ 0) ∧ ∀ s ∈ untraded, s.trades = 0 := by
  induction sorted with
  | nil => exact ⟨[], [], rfl, nofun, nofun⟩
  | @cons a rest first _ ih =>
    by_cases here : a.trades = 0
    · refine ⟨[], a :: rest, rfl, nofun, fun s member => ?_⟩
      rcases List.mem_cons.mp member with rfl | later
      · exact here
      · exact untraded_of_isLE (first s later) here
    · obtain ⟨traded, untraded, rfl, did, never⟩ := ih
      exact ⟨a :: traded, untraded, rfl, List.forall_mem_cons.mpr ⟨here, did⟩, never⟩

/-- **Ties keep their order.** -/
theorem filter_ranked (a : Summary α) :
    (ranked summaries).filter (fun b => compareRank a b == .eq) =
      summaries.filter fun b => compareRank a b == .eq := by
  have tied : (summaries.filter fun b => compareRank a b == .eq).Pairwise
      fun b c => (compareRank b c).isLE := by
    refine List.pairwise_of_forall_mem_list fun b here c there => ?_
    have ab := eq_of_beq (List.mem_filter.mp here).2
    have ac := eq_of_beq (List.mem_filter.mp there).2
    rw [Std.TransCmp.eq_trans (Std.OrientedCmp.eq_symm ab) ac]
    rfl
  have kept := List.sublist_mergeSort (fun _ _ _ => Std.TransCmp.isLE_trans)
    (fun a b => Bool.or_eq_true_iff.mpr (isLE_total a b)) tied List.filter_sublist
  have again := kept.filter fun b => compareRank a b == .eq
  simp only [List.filter_filter, Bool.and_self] at again
  exact (again.eq_of_length ((ranked_perm summaries).filter _).length_eq.symm).symm

theorem isRanking_ranked : IsRanking (ranked summaries) summaries where
  perm := ranked_perm summaries
  sorted := pairwise_ranked summaries
  untraded_last := exists_untraded_last (pairwise_ranked summaries)
  stable := filter_ranked summaries

theorem ranked_ranked : ranked (ranked summaries) = ranked summaries :=
  List.mergeSort_of_pairwise (pairwise_ranked summaries)

variable {summaries}

/-- **The order of arrival has no say**, if names tell the summaries apart. -/
theorem ranked_eq_of_perm {others : List (Summary α)} (perm : summaries.Perm others)
    (distinct : (summaries.map Summary.variant).Nodup) : ranked summaries = ranked others := by
  have same : (ranked summaries).Perm (ranked others) :=
    (ranked_perm summaries).trans (perm.trans (ranked_perm others).symm)
  refine same.eq_of_pairwise (fun a b here there before after => ?_) (pairwise_ranked _)
    (pairwise_ranked _)
  have tied := compareRank_eq_iff.mp (Std.OrientedCmp.isLE_antisymm before after)
  exact List.inj_on_of_nodup_map distinct ((ranked_perm _).subset here)
    (perm.symm.subset ((ranked_perm _).subset there)) tied.variant

/-! ### The order -/

/-- The comparison of ranks puts all summaries in one line. -/
structure RanksInLine (α : Type) [Patterned α] : Prop where
  refl : ∀ a : Summary α, compareRank a a = .eq
  total : ∀ a b : Summary α, (compareRank a b).isLE ∨ (compareRank b a).isLE
  trans : ∀ a b c : Summary α, (compareRank a b).isLE → (compareRank b c).isLE →
    (compareRank a c).isLE
  swap : ∀ a b : Summary α, compareRank b a = (compareRank a b).swap
  eq_iff_tied : ∀ a b : Summary α, compareRank a b = .eq ↔ a.Tied b

theorem ranksInLine (α : Type) [Patterned α] : RanksInLine α where
  refl _ := Std.ReflCmp.compare_self
  total := isLE_total
  trans _ _ _ := Std.TransCmp.isLE_trans
  swap _ _ := Std.OrientedCmp.eq_swap
  eq_iff_tied _ _ := compareRank_eq_iff

/-- **Ranking settles an order**: the comparison is an order of all summaries, and a ranking lists
them in it, once and for all, however they arrived. -/
theorem ranking_settles_order (α : Type) [Patterned α] :
    RanksInLine α ∧ ∀ summaries : List (Summary α),
      IsRanking (ranked summaries) summaries ∧ ranked (ranked summaries) = ranked summaries ∧
        ∀ others, summaries.Perm others → (summaries.map Summary.variant).Nodup →
          ranked summaries = ranked others :=
  ⟨ranksInLine α, fun summaries => ⟨isRanking_ranked summaries, ranked_ranked summaries,
    fun _ => ranked_eq_of_perm⟩⟩

/-- A summary of which only the rank matters. -/
def ofRank (variant : String) (trades : Nat) (expectancy profitFactor winRate : α) : Summary α :=
  ⟨variant, trades, 0, 0, 0, winRate, winRate, winRate, expectancy, profitFactor, expectancy,
    expectancy, expectancy, expectancy, expectancy, 0, .needsWork⟩

/-- In rank order: two patterns that are no numbers, with the two zeros between them, and what never
traded. -/
def oddFigures : List (Summary UInt64) :=
  [ofRank "highest" 1 0x7ff8000000000000 0 0, ofRank "zero" 1 0 0 0,
    ofRank "below zero" 1 0x8000000000000000 0 0, ofRank "lowest" 1 0xfff8000000000000 0 0,
    ofRank "idle" 0 0x7ff8000000000000 0 0]

theorem ranked_oddFigures : ranked oddFigures = oddFigures :=
  List.mergeSort_of_pairwise (by decide +kernel)

/-- Even odd figures have their places if they arrive the other way round. -/
theorem oddFigures_ranked : ranked oddFigures.reverse = oddFigures := by
  obtain ⟨_, rankings⟩ := ranking_settles_order UInt64
  obtain ⟨_, _, settled⟩ := rankings oddFigures
  calc ranked oddFigures.reverse = ranked oddFigures :=
        (settled oddFigures.reverse oddFigures.reverse_perm.symm (by decide)).symm
    _ = oddFigures := ranked_oddFigures

end Summary

end PullbackTrading

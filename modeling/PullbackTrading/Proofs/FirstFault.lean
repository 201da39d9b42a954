/-
**The first fault of some bars.**

The checks of a bar ask for what must not be, and with numbers that are not finite nothing compares.
Since finiteness is checked first, what they let through is what should be:

* `Bar.wellFormed_iff`: a bar has no fault exactly if its numbers are finite and its prices lie in
  order above zero;
* `firstFault_cases`: the bars before the one at fault have none, and its own fault is told rather
  than its place in time.

`Series.ofBars_tells_first_fault` puts these together: well-formed bars make a series as they are,
and for others the fault is that of the first bar that breaks a rule.
-/

import Mathlib.Order.Bounds.Basic
import PullbackTrading.Proofs.Chronology
import PullbackTrading.Proofs.EntryRule

namespace PullbackTrading

/-! ### One bar -/

/-- A bar with finite numbers, positive prices between the lowest and the highest, and a volume that
is not negative. -/
structure Bar.WellFormed (b : Bar Float) : Prop where
  finite : ∀ f ∈ b.fields, f.2.isFinite = true
  low_pos : 0.0 < b.low
  low_le_opening : b.low ≤ b.opening
  opening_le_high : b.opening ≤ b.high
  low_le_close : b.low ≤ b.close
  close_le_high : b.close ≤ b.high
  volume_nonneg : 0.0 ≤ b.volume

open FloatOrder (not_lt_iff not_le_iff) in
/-- **A bar has no fault exactly if it is well-formed.** That the highest price is not below the
lowest follows from either of the others. -/
theorem Bar.wellFormed_iff {b : Bar Float} {index : Nat} :
    b.WellFormed ↔ b.fault? index = none := by
  rw [Bar.fault?_eq_none_iff]
  have zero : (0.0 : Float).isFinite = true := by decide +kernel
  have each : (∀ f ∈ b.fields, Quantity.isFinite f.2 = true) → b.opening.isFinite = true ∧
      b.high.isFinite = true ∧ b.low.isFinite = true ∧ b.close.isFinite = true ∧
        b.volume.isFinite = true := by
    simp only [Bar.fields, List.forall_mem_cons]
    exact fun all => ⟨all.1, all.2.1, all.2.2.1, all.2.2.2.1, all.2.2.2.2.1⟩
  constructor
  · rintro ⟨finite, low_pos, low_le_opening, opening_le_high, low_le_close, close_le_high, volume⟩
    obtain ⟨opening, high, low, close, volume'⟩ := each finite
    rw [not_or, not_or]
    refine ⟨finite, ?_, ⟨?_, ?_⟩, ⟨?_, ?_⟩, ?_, ?_⟩
    · exact (not_lt_iff high low).mpr (FloatOrder.le_trans low_le_close close_le_high)
    · exact (not_lt_iff close low).mpr low_le_close
    · exact (not_lt_iff high close).mpr close_le_high
    · exact (not_lt_iff opening low).mpr low_le_opening
    · exact (not_lt_iff high opening).mpr opening_le_high
    · exact (not_le_iff low zero).mpr low_pos
    · exact (not_lt_iff volume' zero).mpr volume
  · rintro ⟨finite, -, close, opening, low, volume⟩
    obtain ⟨opening', high', low', close', volume'⟩ := each finite
    rw [not_or] at close opening
    exact ⟨finite, (not_le_iff low' zero).mp low, (not_lt_iff opening' low').mp opening.1,
      (not_lt_iff high' opening').mp opening.2, (not_lt_iff close' low').mp close.1,
      (not_lt_iff high' close').mp close.2, (not_lt_iff volume' zero).mp volume⟩

section

variable {α : Type} [Quantity α] {b : Bar α} {fault : DataFault α} {index : Nat}

/-- The fault of a bar's numbers names the bar, and says nothing of its place in time. -/
theorem Bar.index_of_fault? (found : b.fault? index = some fault) :
    fault.index = index ∧ ∀ place time, fault ≠ .notLater place time := by
  unfold Bar.fault? at found
  split at found
  · cases found
    exact ⟨rfl, nofun⟩
  · split_ifs at found <;> cases found <;> exact ⟨rfl, nofun⟩

/-! ### All bars -/

/-- The time that a bar has to follow after some others. -/
def lastTime (previous : Option Instant) (before : List (Bar α)) : Option Instant :=
  (before.getLast?.map Bar.timestamp).or previous

/-- **Where the checks stop**: the bars before have no fault, and the bar itself has one or else
does not follow them. -/
theorem firstFault_cases {bars : List (Bar α)} :
    ∀ {index : Nat} {previous : Option Instant}, firstFault index previous bars = some fault →
      ∃ before b after, bars = before ++ b :: after ∧ firstFault index previous before = none ∧
        (b.fault? (index + before.length) = some fault ∨
          b.fault? (index + before.length) = none ∧
            b.follows (lastTime previous before) = false ∧
            fault = .notLater (index + before.length) b.timestamp) := by
  induction bars with
  | nil => exact fun found => nomatch found
  | cons b rest ih =>
    intro index previous found
    rw [firstFault] at found
    cases own : b.fault? index with
    | some fault' =>
      rw [own] at found
      exact ⟨[], b, rest, rfl, rfl, .inl (own.trans found)⟩
    | none =>
      rw [own] at found
      by_cases follows : b.follows previous = true
      · rw [if_pos follows] at found
        obtain ⟨before, c, after, whole, clear, last⟩ := ih found
        refine ⟨b :: before, c, after, by rw [whole, List.cons_append], ?_, ?_⟩
        · exact firstFault_cons_eq_none_iff.mpr ⟨own, follows, clear⟩
        · have place : index + (b :: before).length = index + 1 + before.length := by
            rw [List.length_cons]
            omega
          have time : lastTime previous (b :: before) = lastTime (some b.timestamp) before := by
            rw [lastTime, lastTime, List.getLast?_cons]
            cases before.getLast? <;> rfl
          rw [place, time]
          exact last
      · rw [if_neg follows] at found
        exact ⟨[], b, rest, rfl, rfl,
          .inr ⟨own, Bool.not_eq_true _ ▸ follows, (Option.some.inj found).symm⟩⟩

end

/-- The bar at a place breaks a rule: by itself, or because it is not later than the one before. -/
def BreaksAt (bars : List (Bar Float)) (i : Nat) : Prop :=
  ∃ b, bars[i]? = some b ∧ (¬ b.WellFormed ∨
    ∃ j previous, i = j + 1 ∧ bars[j]? = some previous ∧ ¬ previous.timestamp < b.timestamp)

/-- Bars without a fault break no rule, whatever comes after them. -/
theorem not_breaksAt {before after : List (Bar Float)} (clear : firstFault 0 none before = none)
    {i : Nat} (within : i < before.length) : ¬ BreaksAt (before ++ after) i := by
  obtain ⟨sound, increasing⟩ := firstFault_eq_none_iff.mp clear
  rintro ⟨b, here, broken⟩
  rw [List.getElem?_append_left within, List.getElem?_eq_some_iff] at here
  obtain ⟨_, rfl⟩ := here
  rcases broken with own | ⟨j, previous, rfl, there, notLater⟩
  · exact own (Bar.wellFormed_iff.mpr (sound _ (List.getElem_mem within) 0))
  · have earlier : j < before.length := by omega
    rw [List.getElem?_append_left earlier, List.getElem?_eq_some_iff] at there
    obtain ⟨_, rfl⟩ := there
    exact notLater (List.pairwise_iff_getElem.mp increasing j (j + 1) earlier within (by omega))

/-- A bar that does not follow the bars before it comes after one that is not earlier. -/
theorem exists_previous {b : Bar Float} {before after : List (Bar Float)}
    (back : b.follows (lastTime none before) = false) :
    ∃ j previous, before.length = j + 1 ∧ (before ++ after)[j]? = some previous ∧
      ¬ previous.timestamp < b.timestamp := by
  cases last : before.getLast? with
  | none =>
    rw [lastTime, last] at back
    cases back
  | some previous =>
    rw [lastTime, last] at back
    have notLater : ¬ previous.timestamp < b.timestamp := of_decide_eq_false back
    rw [List.getLast?_eq_getElem?] at last
    have within := (List.getElem?_eq_some_iff.mp last).1
    refine ⟨before.length - 1, previous, by omega, ?_, notLater⟩
    rwa [List.getElem?_append_left within]

namespace Series

theorem ofBars_eq_error_iff {bars : List (Bar Float)} {fault : DataFault Float} :
    ofBars bars = .error fault ↔ firstFault 0 none bars = some fault := by
  unfold ofBars
  split
  · rename_i sound
    exact ⟨nofun, fun found => nomatch sound.symm.trans found⟩
  · rename_i fault' found
    rw [found, Except.error.injEq, Option.some.injEq]

/-- **Bars make a series exactly if all are well-formed and they increase in time; for others the
first fault is told.** The series holds the bars as they are. The fault is that of the first bar
that breaks a rule, and it is the bar's own if there is one. -/
theorem ofBars_tells_first_fault (bars : List (Bar Float)) :
    ((∃ s, ofBars bars = .ok s) ↔
        (∀ b ∈ bars, b.WellFormed) ∧ bars.Pairwise fun a b => a.timestamp < b.timestamp) ∧
      (∀ s, ofBars bars = .ok s → s.bars = bars) ∧
      ∀ fault, ofBars bars = .error fault →
        IsLeast {i | BreaksAt bars i} fault.index ∧
          ∃ b, bars[fault.index]? = some b ∧
            (¬ b.WellFormed → b.fault? fault.index = some fault ∧
              ∀ place time, fault ≠ .notLater place time) ∧
            (b.WellFormed → fault = .notLater fault.index b.timestamp) := by
  refine ⟨?_, fun s => ofBars_eq_ok_iff.mp, fun fault refused => ?_⟩
  · have sound : (∃ s, ofBars bars = .ok s) ↔ firstFault 0 none bars = none := by
      simp only [ofBars_eq_ok_iff]
      exact ⟨fun ⟨s, same⟩ => same ▸ s.sound, fun sound => ⟨⟨bars, sound⟩, rfl⟩⟩
    rw [sound, firstFault_eq_none_iff]
    refine and_congr_left fun _ => forall₂_congr fun b _ => ?_
    exact ⟨fun all => Bar.wellFormed_iff.mpr (all 0), fun well _ => Bar.wellFormed_iff.mp well⟩
  · obtain ⟨before, b, after, rfl, clear, last⟩ :=
      firstFault_cases (ofBars_eq_error_iff.mp refused)
    rw [Nat.zero_add] at last
    have place : fault.index = before.length := by
      rcases last with own | ⟨_, _, rfl⟩
      · exact (Bar.index_of_fault? own).1
      · rfl
    have here : (before ++ b :: after)[before.length]? = some b := by
      rw [List.getElem?_append_right le_rfl, Nat.sub_self]
      rfl
    rw [place]
    refine ⟨⟨⟨b, here, ?_⟩, fun i breaks => ?_⟩, b, here, fun broken => ?_, fun well => ?_⟩
    · rcases last with own | ⟨_, back, _⟩
      · exact .inl fun well => nomatch (Bar.wellFormed_iff.mp well).symm.trans own
      · exact .inr (exists_previous back)
    · by_contra! earlier
      exact not_breaksAt clear earlier breaks
    · rcases last with own | ⟨none, _⟩
      · exact ⟨own, (Bar.index_of_fault? own).2⟩
      · exact absurd (Bar.wellFormed_iff.mpr none) broken
    · rcases last with own | ⟨_, _, notLater⟩
      · rw [Bar.wellFormed_iff.mp well] at own
        cases own
      · exact notLater

end Series

/-- Two bars at one time, of which the second has no close. -/
def cutOff : List (Bar Float) :=
  [sampleBar 0 100.1 100.6 100.05 100.5 99.0,
    { sampleBar 0 100.1 100.6 100.05 100.5 99.0 with close := 0.0 / 0.0 }]

/-- The second bar is refused for its close, though it comes too early as well. -/
theorem cutOff_tells_close : ∃ fault, Series.ofBars cutOff = .error fault ∧ fault.index = 1 ∧
    IsLeast {i | BreaksAt cutOff i} fault.index ∧ ∀ place time, fault ≠ .notLater place time := by
  obtain ⟨fault, found, place⟩ := Option.map_eq_some_iff.mp
    (show (firstFault 0 none cutOff).map DataFault.index = some 1 by decide +kernel)
  have refused := Series.ofBars_eq_error_iff.mpr found
  obtain ⟨_, _, first⟩ := Series.ofBars_tells_first_fault cutOff
  obtain ⟨least, b, here, own, _⟩ := first fault refused
  refine ⟨fault, refused, place, least, (own fun well => ?_).2⟩
  rw [place] at here
  obtain rfl := Option.some.inj here
  have noClose : (Bar.fault? { sampleBar 0 100.1 100.6 100.05 100.5 99.0 with
      close := 0.0 / 0.0 } 1).isNone = false := by
    decide +kernel
  rw [Bar.wellFormed_iff.mp well] at noClose
  cases noClose

end PullbackTrading

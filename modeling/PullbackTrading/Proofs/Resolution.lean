/-
**Resolution: averages are found exactly if the series carries what is required.**

`Variant.averages` looks the averages up bar by bar, `Series.require` checks a list of indicators.
The list that a variant requires need not be in the order in which it looks them up: with a trend
filter over hours and a session that follows quarters of an hour, the hours come first in the one
and last in the other.

* `discard_averages`: looking up is checking, with the required indicators in the order of looking
  up (`Variant.readOrder`);
* `requireFrom_cases`: a check finds nothing, or a fault at the first bar with a gap (`gaps`), and
  which bars have gaps does not depend on the order;
* `Variant.averagesAt_resolved`: what is found is what the bar carries, for the aggregations that a
  rule reads and for no other.

`averages_agree_with_require` puts these together.
-/

import Mathlib.Order.Bounds.Basic
import PullbackTrading.Proofs.EntryRule
import PullbackTrading.Proofs.Lookup

namespace PullbackTrading

variable {α : Type}

/-! ### The order of looking up -/

/-- All indicators, in the order in which they are looked up. -/
def Indicator.all : List Indicator :=
  [.fast, .slow, .fastOver .quarterHour, .slowOver .quarterHour, .fastOver .hour, .slowOver .hour]

/-- What a variant requires, in the order in which it looks it up. -/
def Variant.readOrder (v : Variant α) : List Indicator :=
  Indicator.all.filter fun k => decide (k ∈ v.required)

/-- The two averages over an aggregation, if a variant reads them. -/
def Variant.pairIfRead (v : Variant α) (t : Timeframe) : List Indicator :=
  if v.readsOver t then [.fastOver t, .slowOver t] else []

/-- Which aggregations are read depends on the trend filter and on the session alone. -/
theorem Variant.readOrder_eq (v : Variant α) :
    v.readOrder = [.fast, .slow] ++ v.pairIfRead .quarterHour ++ v.pairIfRead .hour := by
  unfold readOrder required pairIfRead readsOver
  cases v.trend with
  | none => cases v.session <;> rfl
  | higher t => cases t <;> cases v.session <;> rfl

theorem Variant.mem_readOrder_iff {v : Variant α} {k : Indicator} :
    k ∈ v.readOrder ↔ k ∈ v.required := by
  have listed : k ∈ Indicator.all := by
    cases k with
    | fast => decide
    | slow => decide
    | fastOver t => cases t <;> decide
    | slowOver t => cases t <;> decide
  rw [readOrder, List.mem_filter, decide_eq_true_eq]
  exact ⟨And.right, fun required => ⟨listed, required⟩⟩

theorem Variant.readsOver_iff {v : Variant α} {t : Timeframe} :
    v.readsOver t = true ↔
      v.trend = .higher t ∨ (v.session = .quarterHourTrend ∧ t = .quarterHour) := by
  rw [readsOver, Bool.or_eq_true, Bool.and_eq_true, beq_iff_eq, beq_iff_eq, beq_iff_eq]

variable [Quantity α]

open Quantity (isFinite)

/-! ### Checking one bar -/

/-- A bar has a value for an indicator, and it is finite. -/
def Bar.Carries (b : Bar α) (k : Indicator) (x : α) : Prop :=
  b.indicators.find? k.column = some x ∧ isFinite x = true

/-- A bar has no finite value for one of the indicators. -/
def Bar.Lacks (b : Bar α) (ks : List Indicator) : Prop := ∃ k ∈ ks, ∀ x, ¬ b.Carries k x

theorem Bar.require_eq_ok_iff {b : Bar α} {k : Indicator} {index : Nat} {x : α} :
    b.require k index = .ok x ↔ b.Carries k x := by
  unfold Bar.require Bar.Carries
  cases b.indicators.find? k.column with
  | none => simp
  | some value =>
    by_cases finite : isFinite value = true
    · simp only [finite, if_true, Except.ok.injEq, Option.some.injEq]
      exact ⟨fun same => ⟨same, same ▸ finite⟩, And.left⟩
    · simp only [finite, if_false, Option.some.injEq, reduceCtorEq, false_iff]
      rintro ⟨rfl, finite'⟩
      exact finite finite'

theorem Bar.index_of_require {b : Bar α} {k : Indicator} {index : Nat} {fault : DataFault α}
    (found : b.require k index = .error fault) : fault.index = index := by
  unfold Bar.require at found
  split at found
  · cases found
    rfl
  · split at found <;> cases found
    rfl

/-- The check of one bar. -/
def Bar.requireAll (b : Bar α) (ks : List Indicator) (index : Nat) : Except (DataFault α) Unit :=
  ks.forM fun k => discard (b.require k index)

theorem Bar.requireAll_cons (b : Bar α) (k : Indicator) (ks : List Indicator) (index : Nat) :
    b.requireAll (k :: ks) index = (b.require k index).bind fun _ => b.requireAll ks index := by
  show (discard (b.require k index) >>= fun _ => b.requireAll ks index) = _
  cases b.require k index <;> rfl

theorem Bar.requireAll_append (b : Bar α) (ks ks' : List Indicator) (index : Nat) :
    b.requireAll (ks ++ ks') index =
      (b.requireAll ks index).bind fun _ => b.requireAll ks' index := by
  induction ks with
  | nil => rfl
  | cons k ks ih =>
    rw [List.cons_append, requireAll_cons, requireAll_cons, ih]
    cases b.require k index <;> rfl

/-- **A bar carries all the indicators, or it is at fault.** -/
theorem Bar.requireAll_cases (b : Bar α) (ks : List Indicator) (index : Nat) :
    (b.requireAll ks index = .ok () ∧ ¬ b.Lacks ks) ∨
      ∃ fault, b.requireAll ks index = .error fault ∧ fault.index = index ∧ b.Lacks ks := by
  induction ks with
  | nil => exact Or.inl ⟨rfl, fun ⟨_, member, _⟩ => nomatch member⟩
  | cons k ks ih =>
    rw [requireAll_cons]
    cases here : b.require k index with
    | error fault =>
      refine Or.inr ⟨fault, rfl, index_of_require here, k, List.mem_cons_self, fun x carries => ?_⟩
      rw [require_eq_ok_iff.mpr carries] at here
      cases here
    | ok x =>
      rcases ih with ⟨clear, full⟩ | ⟨fault, found, place, k', member, lacks⟩
      · refine Or.inl ⟨clear, ?_⟩
        rintro ⟨k', member, lacks⟩
        rcases List.mem_cons.mp member with rfl | member
        · exact lacks x (require_eq_ok_iff.mp here)
        · exact full ⟨k', member, lacks⟩
      · exact Or.inr ⟨fault, found, place, k', List.mem_cons_of_mem _ member, lacks⟩

/-! ### Checking a series -/

/-- The check of bars from an index on. -/
def requireFrom (ks : List Indicator) (index : Nat) : List (Bar α) → Except (DataFault α) Unit
  | [] => .ok ()
  | b :: rest => (b.requireAll ks index).bind fun _ => requireFrom ks (index + 1) rest

theorem forM_zipIdx_eq_requireFrom (ks : List Indicator) (bars : List (Bar α)) :
    ∀ index, (bars.zipIdx index).forM (fun (b, i) => b.requireAll ks i) =
      requireFrom ks index bars := by
  induction bars with
  | nil => exact fun index => rfl
  | cons b rest ih =>
    intro index
    rw [List.zipIdx_cons, requireFrom, ← ih]
    rfl

theorem Series.require_eq (series : Series α) (ks : List Indicator) :
    series.require ks = requireFrom ks 0 series.bars :=
  forM_zipIdx_eq_requireFrom ks series.bars 0

/-- The places of the bars that lack one of the indicators. -/
def gaps (ks : List Indicator) (bars : List (Bar α)) : Set Nat :=
  {i | ∃ b, bars[i]? = some b ∧ b.Lacks ks}

/-- **A check finds nothing, or a fault at the first bar with a gap.** -/
theorem requireFrom_cases (ks : List Indicator) (bars : List (Bar α)) :
    ∀ index, (requireFrom ks index bars = .ok () ∧ gaps ks bars = ∅) ∨
      ∃ fault place, requireFrom ks index bars = .error fault ∧ fault.index = index + place ∧
        IsLeast (gaps ks bars) place := by
  induction bars with
  | nil => exact fun index => Or.inl ⟨rfl, by ext i; simp [gaps]⟩
  | cons b rest ih =>
    intro index
    rw [requireFrom]
    rcases b.requireAll_cases ks index with ⟨clear, full⟩ | ⟨fault, found, place, lacks⟩
    · -- The first bar has no gap, so the gaps are those of the rest, one place further on.
      have shifted : gaps ks (b :: rest) = Nat.succ '' gaps ks rest := by
        ext i
        cases i with
        | zero => simp [gaps, full]
        | succ i => simp [gaps]
      rw [clear, shifted]
      rcases ih (index + 1) with ⟨clear, none⟩ | ⟨fault, place, found, here, least⟩
      · refine Or.inl ⟨clear, ?_⟩
        rw [none, Set.image_empty]
      · refine Or.inr ⟨fault, place + 1, found, by omega, Set.mem_image_of_mem _ least.1, ?_⟩
        rintro _ ⟨i, gap, rfl⟩
        exact Nat.succ_le_succ (least.2 gap)
    · rw [found]
      exact Or.inr ⟨fault, 0, rfl, place, ⟨b, rfl, lacks⟩, fun i _ => Nat.zero_le i⟩

/-- The check of a series, from its first bar on. -/
theorem Series.require_cases (series : Series α) (ks : List Indicator) :
    (series.require ks = .ok () ∧ gaps ks series.bars = ∅) ∨
      ∃ fault, series.require ks = .error fault ∧ IsLeast (gaps ks series.bars) fault.index := by
  rw [series.require_eq]
  rcases requireFrom_cases ks series.bars 0 with clear | ⟨fault, place, found, here, least⟩
  · exact Or.inl clear
  · rw [Nat.zero_add] at here
    exact Or.inr ⟨fault, found, here ▸ least⟩

theorem Series.require_eq_ok_iff {series : Series α} {ks : List Indicator} :
    series.require ks = .ok () ↔ gaps ks series.bars = ∅ := by
  rcases series.require_cases ks with ⟨clear, full⟩ | ⟨fault, found, least⟩
  · exact ⟨fun _ => full, fun _ => clear⟩
  · constructor
    · intro clear
      rw [found] at clear
      cases clear
    · intro full
      exact absurd (full ▸ least.1) (Set.notMem_empty _)

theorem Series.isLeast_of_require {series : Series α} {ks : List Indicator} {fault : DataFault α}
    (refused : series.require ks = .error fault) : IsLeast (gaps ks series.bars) fault.index := by
  rcases series.require_cases ks with ⟨clear, _⟩ | ⟨fault', found, least⟩
  · rw [refused] at clear
    cases clear
  · rw [refused] at found
    cases found
    exact least

theorem gaps_readOrder (v : Variant α) (bars : List (Bar α)) :
    gaps v.readOrder bars = gaps v.required bars := by
  unfold gaps Bar.Lacks
  simp only [Variant.mem_readOrder_iff]

/-! ### Looking averages up is checking -/

theorem Bar.discard_averagesIfRead (b : Bar α) (v : Variant α) (t : Timeframe) (index : Nat) :
    discard (b.averagesIfRead v t index) = b.requireAll (v.pairIfRead t) index := by
  unfold averagesIfRead Variant.pairIfRead
  by_cases reads : v.readsOver t = true
  · rw [if_pos reads, if_pos reads, requireAll_cons, requireAll_cons]
    unfold averagesOver
    cases b.require (.fastOver t) index with
    | error fault => rfl
    | ok fast => cases b.require (.slowOver t) index <;> rfl
  · rw [if_neg reads, if_neg reads]
    rfl

/-- **Looking up the averages of a bar** checks what is required, one after the other. -/
theorem Bar.discard_averagesAt (b : Bar α) (v : Variant α) (index : Nat) :
    discard (v.averagesAt b index) = b.requireAll v.readOrder index := by
  rw [v.averagesAt_eq, v.readOrder_eq, requireAll_append, requireAll_append,
    ← b.discard_averagesIfRead, ← b.discard_averagesIfRead, requireAll_cons, requireAll_cons]
  cases b.require .fast index with
  | error fault => rfl
  | ok fast =>
    cases b.require .slow index with
    | error fault => rfl
    | ok slow =>
      cases b.averagesIfRead v .quarterHour index with
      | error fault => rfl
      | ok quarterHour => cases b.averagesIfRead v .hour index <;> rfl

theorem discard_averagesFrom (v : Variant α) (bars : List (Bar α)) :
    ∀ index, discard (v.averagesFrom index bars) = requireFrom v.readOrder index bars := by
  induction bars with
  | nil => exact fun index => rfl
  | cons b rest ih =>
    intro index
    rw [requireFrom, ← b.discard_averagesAt, ← ih, Variant.averagesFrom]
    cases v.averagesAt b index with
    | error fault => rfl
    | ok avg => cases v.averagesFrom (index + 1) rest <;> rfl

/-- **Looking up the averages of all bars** is the check in the order of looking up. -/
theorem discard_averages (v : Variant α) (series : Series α) :
    discard (v.averages series.bars) = series.require v.readOrder := by
  rw [Variant.averages, discard_averagesFrom, Series.require_eq]

theorem discard_eq_ok_iff {ε β : Type} {x : Except ε β} : discard x = .ok () ↔ ∃ a, x = .ok a := by
  cases x with
  | error fault => exact ⟨fun no => (nomatch no), fun ⟨_, no⟩ => nomatch no⟩
  | ok a => exact ⟨fun _ => ⟨a, rfl⟩, fun _ => rfl⟩

theorem require_of_averages {v : Variant α} {series : Series α} {fault : DataFault α}
    (found : v.averages series.bars = .error fault) : series.require v.readOrder = .error fault := by
  rw [← discard_averages, found]
  rfl

/-! ### What is found -/

/-- **The averages of a bar for a variant**: finite values that the bar carries, over an aggregation
exactly if the trend filter or the session reads it, so that both of them compare known averages. -/
structure Averages.ResolvedFor (avg : Averages α) (v : Variant α) (b : Bar α) : Prop where
  fast : b.Carries .fast avg.fast
  slow : b.Carries .slow avg.slow
  pair : ∀ {t fast slow}, avg.ofTimeframe t = some (fast, slow) →
    b.Carries (.fastOver t) fast ∧ b.Carries (.slowOver t) slow
  present : ∀ t, (avg.ofTimeframe t).isSome = true ↔
    v.trend = .higher t ∨ (v.session = .quarterHourTrend ∧ t = .quarterHour)
  filter : ∀ t, v.trend = .higher t →
    ∃ fast slow, avg.ofTimeframe t = some (fast, slow) ∧ (v.trend.holds avg = true ↔ slow < fast)
  gate : v.session = .quarterHourTrend →
    ∃ fast slow, avg.quarterHour = some (fast, slow) ∧ (v.session.holds b avg = true ↔ slow < fast)

/-- A look-up that goes on has found something. -/
theorem exists_of_bind_eq_ok {ε β γ : Type} {x : Except ε β} {f : β → Except ε γ} {c : γ}
    (found : x.bind f = .ok c) : ∃ a, x = .ok a ∧ f a = .ok c := by
  cases x with
  | error fault => cases found
  | ok a => exact ⟨a, rfl, found⟩

theorem Bar.averagesIfRead_eq_ok {b : Bar α} {v : Variant α} {t : Timeframe} {index : Nat}
    {pair : Option (α × α)} (found : b.averagesIfRead v t index = .ok pair) :
    (pair.isSome = true ↔ v.readsOver t = true) ∧ ∀ {fast slow}, pair = some (fast, slow) →
      b.Carries (.fastOver t) fast ∧ b.Carries (.slowOver t) slow := by
  unfold averagesIfRead at found
  by_cases reads : v.readsOver t = true
  · rw [if_pos reads] at found
    cases here : b.averagesOver t index with
    | error fault =>
      rw [here] at found
      cases found
    | ok averages =>
      rw [here] at found
      cases found
      obtain ⟨fast, fastHere, rest⟩ := exists_of_bind_eq_ok here
      obtain ⟨slow, slowHere, rest⟩ := exists_of_bind_eq_ok rest
      cases rest
      refine ⟨⟨fun _ => reads, fun _ => rfl⟩, fun same => ?_⟩
      cases same
      exact ⟨require_eq_ok_iff.mp fastHere, require_eq_ok_iff.mp slowHere⟩
  · rw [if_neg reads] at found
    cases found
    exact ⟨⟨fun no => (nomatch no), fun yes => absurd yes reads⟩, fun no => nomatch no⟩

/-- A trend that is known is a comparison. -/
theorem Averages.trendsUp_iff {avg : Averages α} {t : Timeframe}
    (known : (avg.ofTimeframe t).isSome = true) :
    ∃ fast slow, avg.ofTimeframe t = some (fast, slow) ∧ (avg.trendsUp t = true ↔ slow < fast) := by
  obtain ⟨⟨fast, slow⟩, here⟩ := Option.isSome_iff_exists.mp known
  refine ⟨fast, slow, here, ?_⟩
  rw [trendsUp, here]
  exact decide_eq_true_iff

/-- **What is looked up at a bar is what it carries.** -/
theorem Variant.averagesAt_resolved {v : Variant α} {b : Bar α} {index : Nat} {avg : Averages α}
    (found : v.averagesAt b index = .ok avg) : avg.ResolvedFor v b := by
  rw [v.averagesAt_eq] at found
  obtain ⟨fast, fastHere, found⟩ := exists_of_bind_eq_ok found
  obtain ⟨slow, slowHere, found⟩ := exists_of_bind_eq_ok found
  obtain ⟨quarterHour, quarterHere, found⟩ := exists_of_bind_eq_ok found
  obtain ⟨hour, hourHere, found⟩ := exists_of_bind_eq_ok found
  cases found
  obtain ⟨quarterRead, quarterPair⟩ := Bar.averagesIfRead_eq_ok quarterHere
  obtain ⟨hourRead, hourPair⟩ := Bar.averagesIfRead_eq_ok hourHere
  let avg : Averages α := ⟨fast, slow, quarterHour, hour⟩
  have present : ∀ t, (avg.ofTimeframe t).isSome = true ↔ v.readsOver t = true := by
    intro t
    cases t with
    | quarterHour => exact quarterRead
    | hour => exact hourRead
  refine ⟨Bar.require_eq_ok_iff.mp fastHere, Bar.require_eq_ok_iff.mp slowHere, ?_,
    fun t => (present t).trans readsOver_iff, fun t filtered => ?_, fun follows => ?_⟩
  · intro t fast slow same
    cases t with
    | quarterHour => exact quarterPair same
    | hour => exact hourPair same
  · rw [filtered]
    exact Averages.trendsUp_iff ((present t).mpr (readsOver_iff.mpr (Or.inl filtered)))
  · rw [follows]
    exact Averages.trendsUp_iff (t := .quarterHour)
      ((present .quarterHour).mpr (readsOver_iff.mpr (Or.inr ⟨follows, rfl⟩)))

/-- Every bar has the averages that were looked up at it. -/
theorem averagesFrom_resolved {v : Variant α} (bars : List (Bar α)) :
    ∀ {index averages}, v.averagesFrom index bars = .ok averages →
      List.Forall₂ (fun avg b => avg.ResolvedFor v b) averages bars := by
  induction bars with
  | nil =>
    intro index averages found
    cases found
    exact .nil
  | cons b rest ih =>
    intro index averages found
    obtain ⟨avg, here, found⟩ := exists_of_bind_eq_ok found
    obtain ⟨later, there, found⟩ := exists_of_bind_eq_ok found
    cases found
    exact .cons (Variant.averagesAt_resolved here) (ih there)

/-- **Averages are found exactly if the series carries what is required.** If not, looking up and
checking stop at the same bar, the first with a gap, and looking up gives the fault of the check in
its own order. If so, every bar has averages, and they are what it carries. -/
theorem averages_agree_with_require (v : Variant α) (series : Series α) :
    ((∃ averages, v.averages series.bars = .ok averages) ↔ series.require v.required = .ok ()) ∧
      (∀ fault fault', v.averages series.bars = .error fault →
        series.require v.required = .error fault' →
        fault.index = fault'.index ∧ IsLeast (gaps v.required series.bars) fault.index) ∧
      (∀ fault, v.averages series.bars = .error fault →
        series.require v.readOrder = .error fault) ∧
      ∀ averages, v.averages series.bars = .ok averages →
        List.Forall₂ (fun avg b => avg.ResolvedFor v b) averages series.bars := by
  refine ⟨?_, fun fault fault' found refused => ?_, fun fault => require_of_averages,
    fun averages found => averagesFrom_resolved series.bars found⟩
  · rw [← discard_eq_ok_iff, discard_averages, Series.require_eq_ok_iff, gaps_readOrder,
      Series.require_eq_ok_iff]
  · have least := Series.isLeast_of_require (require_of_averages found)
    rw [gaps_readOrder] at least
    exact ⟨least.unique (Series.isLeast_of_require refused), least⟩

/-- A variant that looks up quarters of an hour for its session, and hours for its trend filter. -/
def twoTrends : Variant Float :=
  { Standard.baseline with trend := .higher .hour, session := .quarterHourTrend }

/-- A bar that carries everything, then one without a fast average over hours and with a slow one
over quarters of an hour that is no number. -/
def patchy : Series Float where
  bars := [
    { sampleBar 0 100.1 100.6 100.05 100.5 99.0 with
      indicators := .ofList [("ema_fast", 100.0), ("ema_slow", 99.0), ("ema_fast_15m", 100.0),
        ("ema_slow_15m", 99.0), ("ema_fast_1h", 100.0), ("ema_slow_1h", 99.0)] },
    { sampleBar 1 100.1 100.6 100.05 100.5 99.0 with
      indicators := .ofList [("ema_fast", 100.0), ("ema_slow", 99.0), ("ema_fast_15m", 100.0),
        ("ema_slow_15m", 0.0 / 0.0), ("ema_slow_1h", 99.0)] }]
  sound := by decide +kernel

/-- The indicator that a refusal is about. -/
def refusedFor? {β : Type} : Except (DataFault α) β → Option Indicator
  | .error (.indicatorMissing _ _ k) | .error (.indicatorNotFinite _ _ k _) => some k
  | _ => none

omit [Quantity α] in
theorem exists_fault {β : Type} {x : Except (DataFault α) β} {k : Indicator}
    (refused : refusedFor? x = some k) : ∃ fault, x = .error fault := by
  cases x with
  | error fault => exact ⟨fault, rfl⟩
  | ok a => cases refused

/-- Looking up stops at the quarters of an hour and checking at the hours, both at the second bar. -/
theorem patchy_faults :
    refusedFor? (twoTrends.averages patchy.bars) = some (.slowOver .quarterHour) ∧
      refusedFor? (patchy.require twoTrends.required) = some (.fastOver .hour) ∧
      ∃ fault fault', twoTrends.averages patchy.bars = .error fault ∧
        patchy.require twoTrends.required = .error fault' ∧
        (fault.index = fault'.index ∧
          IsLeast (gaps twoTrends.required patchy.bars) fault.index) ∧
        patchy.require twoTrends.readOrder = .error fault := by
  have looked : refusedFor? (twoTrends.averages patchy.bars) = some (.slowOver .quarterHour) := by
    decide +kernel
  have checked : refusedFor? (patchy.require twoTrends.required) = some (.fastOver .hour) := by
    decide +kernel
  obtain ⟨fault, found⟩ := exists_fault looked
  obtain ⟨fault', refused⟩ := exists_fault checked
  obtain ⟨_, same, own, _⟩ := averages_agree_with_require twoTrends patchy
  exact ⟨looked, checked, fault, fault', found, refused, same fault fault' found refused,
    own fault found⟩

end PullbackTrading

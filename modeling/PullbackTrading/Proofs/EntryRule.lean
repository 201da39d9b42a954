/-
**Entries: the one pass over the bars enters exactly by the rule over windows.**

`Variant.EntersAt` says when a variant enters at a bar in terms of windows only: the last bars up to
it, as many as a rule asks for. The pass of `Variant.signalsWith` looks at no window. It carries run
lengths and the index at which the last long fall was complete.

* `Counts` ties a run length to windows: the run is at least `n` long exactly if the last `n` bars
  all have the property. `Counts.next` is one bar of it.
* `Scan.Knows` is the invariant of the pass. For the guard it keeps the latest complete fall, and
  `BearishGuard.allows_iff` shows that this one index decides about every fall in the window.
* `signalsWith_iff_entersAt` is the whole pass: one signal for each bar, and it is true exactly where
  the variant enters by the rule.
-/

import Mathlib.Data.List.Basic
import PullbackTrading.Proofs.FloatOrder
import PullbackTrading.Strategy.Signals
import PullbackTrading.Strategy.Standard

namespace PullbackTrading

variable {α : Type}

/-! ### Windows and run lengths -/

/-- Among the first `i` bars there are `n` last ones, and all of them have a property. -/
def LastBars (l : List (Bar α × Averages α)) (i n : Nat) (p : Bar α → Averages α → Prop) : Prop :=
  n ≤ i ∧ ∀ j b avg, j < i → i ≤ j + n → l[j]? = some (b, avg) → p b avg

theorem lastBars_zero (l : List (Bar α × Averages α)) (i : Nat) (p : Bar α → Averages α → Prop) :
    LastBars l i 0 p :=
  ⟨Nat.zero_le i, fun j _ _ before within => absurd before (by omega)⟩

/-- The last bars are the latest one and the last bars before it. -/
theorem lastBars_succ {l : List (Bar α × Averages α)} {i n : Nat} {b : Bar α} {avg : Averages α}
    {p : Bar α → Averages α → Prop} (here : l[i]? = some (b, avg)) :
    LastBars l (i + 1) (n + 1) p ↔ p b avg ∧ LastBars l i n p := by
  constructor
  · rintro ⟨enough, all⟩
    refine ⟨all i b avg (Nat.lt_succ_self i) (by omega) here, by omega, ?_⟩
    intro j b' avg' before within there
    exact all j b' avg' (by omega) (by omega) there
  · rintro ⟨latest, enough, all⟩
    refine ⟨by omega, fun j b' avg' before within there => ?_⟩
    rcases Nat.lt_or_ge j i with earlier | same
    · exact all j b' avg' earlier (by omega) there
    · obtain rfl : j = i := by omega
      rw [here, Option.some.injEq, Prod.mk.injEq] at there
      obtain ⟨rfl, rfl⟩ := there
      exact latest

/-- A run length counts the last of the first `i` bars with a property. -/
def Counts (l : List (Bar α × Averages α)) (i : Nat) (p : Bar α → Averages α → Prop)
    (run : Nat) : Prop :=
  ∀ n, n ≤ run ↔ LastBars l i n p

theorem Counts.start (l : List (Bar α × Averages α)) (p : Bar α → Averages α → Prop) :
    Counts l 0 p 0 := by
  intro n
  constructor
  · intro none
    rw [Nat.le_zero.mp none]
    exact lastBars_zero l 0 p
  · exact fun last => last.1

/-- **One more bar** makes the run longer by one, or ends it. -/
theorem Counts.next {l : List (Bar α × Averages α)} {i run : Nat} {p : Bar α → Averages α → Prop}
    (counts : Counts l i p run) {b : Bar α} {avg : Averages α} (here : l[i]? = some (b, avg))
    {holds : Bool} (decides : holds = true ↔ p b avg) :
    Counts l (i + 1) p (runAfter run holds) := by
  intro n
  cases n with
  | zero => exact ⟨fun _ => lastBars_zero l (i + 1) p, fun _ => Nat.zero_le _⟩
  | succ n =>
    rw [lastBars_succ here, ← decides, ← counts n]
    cases holds <;> simp [runAfter]

/-- Latest first, the first members of a list are the last of them and those before it. -/
theorem reverse_take_add_one {β : Type} {l : List β} {i : Nat} {x : β} (here : l[i]? = some x) :
    (l.take (i + 1)).reverse = x :: (l.take i).reverse := by
  rw [List.take_add_one, here, Option.toList_some, List.reverse_append]
  rfl

/-- The averages `slopeLag` bars ago, out of those of the earlier bars. -/
theorem getElem?_earlier {l : List (Bar α × Averages α)} {i : Nat} (inside : i < l.length) :
    ((l.take i).map Prod.snd).reverse[slopeLag - 1]? =
      if slopeLag ≤ i then (l[i - slopeLag]?).map Prod.snd else none := by
  have size : ((l.take i).map Prod.snd).length = i := by
    rw [List.length_map, List.length_take, Nat.min_eq_left (Nat.le_of_lt inside)]
  unfold slopeLag
  split
  · rename_i enough
    rw [List.getElem?_reverse (by omega), size, List.getElem?_map,
      List.getElem?_take_of_lt (by omega), show i - 1 - (3 - 1) = i - 3 by omega]
  · exact List.getElem?_eq_none (by rw [List.length_reverse, size]; omega)

/-! ### The rule over windows -/

variable [Quantity α]

/-- The price rose and closed above the fast average. -/
def RisesAbove (b : Bar α) (avg : Averages α) : Prop := b.opening < b.close ∧ avg.fast < b.close

/-- The price fell and closed below the fast average. -/
def FallsBelow (b : Bar α) (avg : Averages α) : Prop := b.close < b.opening ∧ b.close < avg.fast

/-- The distance of the averages is below a fraction of the close. -/
def CloseTogether (threshold : α) (b : Bar α) (avg : Averages α) : Prop :=
  Quantity.abs (avg.fast - avg.slow) / b.close < threshold

/-- The price stands right for an entry: the last bars closed above their fast averages and the low
came near the fast average, or there was a pullback, whichever the variant asks for. -/
def Variant.SetUpAt (v : Variant α) (l : List (Bar α × Averages α)) (i : Nat) (b : Bar α)
    (avg : Averages α) : Prop :=
  match v.extension with
  | .continuation length pad =>
    LastBars l (i + 1) length (fun b avg => avg.fast < b.close) ∧ b.low ≤ avg.fast * (1.0 + pad)
  | .compression .. | .none => v.pullback.holds b avg = true

/-- The turn is confirmed by the bar, or by as many last bars as the rule asks for. -/
def Confirmation.ConfirmedAt (rule : Confirmation) (l : List (Bar α × Averages α)) (i : Nat)
    (b : Bar α) (avg : Averages α) : Prop :=
  match rule with
  | .bullishClose => RisesAbove b avg
  | .consecutive count => LastBars l (i + 1) count RisesAbove
  | .aboveBoth => avg.fast < b.close ∧ avg.slow < b.close

/-- Nothing has to have risen, or it has since the averages `slopeLag` bars ago. -/
def Slope.RisenAt (rule : Slope) (l : List (Bar α × Averages α)) (i : Nat) (avg : Averages α) :
    Prop :=
  rule = .none ∨
    ∃ b past, slopeLag ≤ i ∧ l[i - slopeLag]? = some (b, past) ∧ rule.holds avg (some past) = true

/-- The averages were close together in as many last bars as the extension asks for. -/
def Extension.TightAt (e : Extension α) (l : List (Bar α × Averages α)) (i : Nat) : Prop :=
  match e with
  | .compression threshold length => LastBars l (i + 1) length (CloseTogether threshold)
  | .continuation .. | .none => True

/-- The window of the guard lies within the bars, and no run of falling bars that is long enough
lies within the window, wherever in it the run ends. -/
def BearishGuard.QuietAt (g : BearishGuard) (l : List (Bar α × Averages α)) (i : Nat) : Prop :=
  g.window ≤ i + 1 ∧
    ∀ m ≤ i + 1, i + 1 + g.runLength ≤ m + g.window → ¬ LastBars l m g.runLength FallsBelow

/-- **A variant enters at a bar**: everything that it asks for, by windows of the last bars. -/
structure Variant.EntersAt (v : Variant α) (l : List (Bar α × Averages α)) (i : Nat) (b : Bar α)
    (avg : Averages α) : Prop where
  order : avg.fast < b.close ∧ avg.slow < avg.fast
  session : v.session.holds b avg = true
  trend : v.trend.holds avg = true
  setUp : v.SetUpAt l i b avg
  confirmed : v.confirmation.ConfirmedAt l i b avg
  risen : v.slope.RisenAt l i avg
  tight : v.extension.TightAt l i
  quiet : v.guard.QuietAt l i

/-! ### What the pass knows -/

/-- What a scan knows of the first `i` bars: its run lengths count, and its last fall is the latest
that was long enough for the guard. -/
structure Scan.Knows (s : Scan α) (v : Variant α) (l : List (Bar α × Averages α)) (i : Nat) :
    Prop where
  bullish : Counts l i RisesAbove s.bullish
  above : Counts l i (fun b avg => avg.fast < b.close) s.above
  compressed : ∀ threshold length, v.extension = .compression threshold length →
    Counts l i (CloseTogether threshold) s.compressed
  bearish : Counts l i FallsBelow s.bearish
  fall : ∀ last, s.lastFall = some last →
    last < i ∧ LastBars l (last + 1) v.guard.runLength FallsBelow
  latest : ∀ m, 0 < m → m ≤ i → LastBars l m v.guard.runLength FallsBelow →
    ∃ last, s.lastFall = some last ∧ m ≤ last + 1

theorem Scan.start_knows (v : Variant α) (l : List (Bar α × Averages α)) :
    (Scan.start : Scan α).Knows v l 0 where
  bullish := Counts.start l _
  above := Counts.start l _
  compressed _ _ _ := Counts.start l _
  bearish := Counts.start l _
  fall _ found := by cases found
  latest m positive within := absurd positive (by omega)

/-- **One bar of the pass** carries over what is known. -/
theorem Scan.Knows.next {s : Scan α} {v : Variant α} {l : List (Bar α × Averages α)} {i : Nat}
    (knows : s.Knows v l i) {b : Bar α} {avg : Averages α} (here : l[i]? = some (b, avg)) :
    (s.next v i b avg).Knows v l (i + 1) := by
  have falling : Counts l (i + 1) FallsBelow (runAfter s.bearish (avg.bearishBelow b)) :=
    knows.bearish.next here (by simp [Averages.bearishBelow, Bar.isBearish, FallsBelow])
  have fallsNow := falling v.guard.runLength
  refine ⟨?_, ?_, ?_, falling, ?_, ?_⟩
  · exact knows.bullish.next here
      (by simp [Averages.bullishAbove, Averages.closesAbove, Bar.isBullish, RisesAbove])
  · exact knows.above.next here (by simp [Averages.closesAbove])
  · intro threshold length asked
    simp only [Scan.next, asked]
    exact (knows.compressed threshold length asked).next here decide_eq_true_iff
  · intro last found
    simp only [Scan.next] at found
    split at found
    · cases found
      exact ⟨Nat.lt_succ_self i, fallsNow.mp ‹_›⟩
    · have older := knows.fall last found
      exact ⟨Nat.lt_succ_of_lt older.1, older.2⟩
  · intro m positive within run
    simp only [Scan.next]
    split
    · exact ⟨i, rfl, within⟩
    · rename_i short
      have before : m ≠ i + 1 := fun same => short (fallsNow.mpr (same ▸ run))
      exact knows.latest m positive (by omega) run

/-- The run lengths and the last fall do not depend on the earlier averages. -/
theorem Scan.Knows.withEarlier {s : Scan α} {v : Variant α} {l : List (Bar α × Averages α)}
    {i : Nat} (knows : s.Knows v l i) (earlier : List (Averages α)) :
    Scan.Knows { s with earlier := earlier } v l i :=
  ⟨knows.bullish, knows.above, knows.compressed, knows.bearish, knows.fall, knows.latest⟩

/-! ### What is asked at one bar -/

/-- **The last long fall decides about every fall**: a window without it holds no other one. -/
theorem BearishGuard.allows_iff {s : Scan α} {v : Variant α} {l : List (Bar α × Averages α)}
    {i : Nat} (knows : s.Knows v l (i + 1)) :
    v.guard.allows s.lastFall i = true ↔ v.guard.QuietAt l i := by
  unfold BearishGuard.allows BearishGuard.QuietAt
  rw [Bool.and_eq_true, decide_eq_true_eq, Bool.not_eq_true']
  refine and_congr_right fun inside => ?_
  constructor
  · intro free m within fits run
    -- An empty run counts as ending at the latest bar, where the scan has seen it.
    obtain ⟨m', positive, within', fits', run'⟩ : ∃ m', 0 < m' ∧ m' ≤ i + 1 ∧
        i + 1 + v.guard.runLength ≤ m' + v.guard.window ∧
          LastBars l m' v.guard.runLength FallsBelow := by
      rcases Nat.eq_zero_or_pos m with rfl | positive
      · have empty : v.guard.runLength = 0 := Nat.le_zero.mp run.1
        refine ⟨i + 1, Nat.succ_pos i, Nat.le_refl _, by omega, ?_⟩
        rw [empty]
        exact lastBars_zero l (i + 1) FallsBelow
      · exact ⟨m, positive, within, fits, run⟩
    obtain ⟨last, found, reached⟩ := knows.latest m' positive within' run'
    rw [found, BearishGuard.blocks, decide_eq_false_iff_not] at free
    omega
  · intro quiet
    cases found : s.lastFall with
    | none => rfl
    | some last =>
      obtain ⟨before, run⟩ := knows.fall last found
      rw [BearishGuard.blocks, decide_eq_false_iff_not]
      intro reached
      exact quiet (last + 1) before (by omega) run

theorem Variant.setUp_iff {v : Variant α} {l : List (Bar α × Averages α)} {i above : Nat}
    (counts : Counts l (i + 1) (fun b avg => avg.fast < b.close) above) (b : Bar α)
    (avg : Averages α) : v.setUp b avg above = true ↔ v.SetUpAt l i b avg := by
  unfold Variant.setUp Variant.SetUpAt
  cases v.extension with
  | none => rfl
  | compression threshold length => rfl
  | continuation length pad =>
    rw [Bool.and_eq_true, decide_eq_true_eq, decide_eq_true_eq, counts length]

theorem Confirmation.holds_iff (rule : Confirmation) {l : List (Bar α × Averages α)}
    {i bullish : Nat} (counts : Counts l (i + 1) RisesAbove bullish) (b : Bar α)
    (avg : Averages α) : rule.holds b avg bullish = true ↔ rule.ConfirmedAt l i b avg := by
  cases rule with
  | bullishClose =>
    simp [Confirmation.holds, Confirmation.ConfirmedAt, Averages.bullishAbove,
      Averages.closesAbove, Bar.isBullish, RisesAbove]
  | consecutive count =>
    rw [Confirmation.holds, decide_eq_true_eq, counts count]
    rfl
  | aboveBoth => exact decide_eq_true_iff

theorem Slope.holds_iff (rule : Slope) {l : List (Bar α × Averages α)} {i : Nat}
    (inside : i < l.length) (avg : Averages α) :
    rule.holds avg ((l.take i).map Prod.snd).reverse[slopeLag - 1]? = true ↔
      rule.RisenAt l i avg := by
  rw [getElem?_earlier inside]
  unfold Slope.RisenAt
  split
  · rename_i enough
    obtain ⟨⟨b, past⟩, there⟩ : ∃ x, l[i - slopeLag]? = some x :=
      ⟨_, List.getElem?_eq_getElem (by omega)⟩
    rw [there, Option.map_some]
    constructor
    · exact fun risen => Or.inr ⟨b, past, enough, rfl, risen⟩
    · rintro (rfl | ⟨b', past', _, same, risen⟩)
      · rfl
      · cases same
        exact risen
  · rename_i short
    constructor
    · intro risen
      cases rule with
      | none => exact Or.inl rfl
      | fast => cases risen
      | fastAndSlow => cases risen
    · rintro (rfl | ⟨_, _, enough, _⟩)
      · rfl
      · exact absurd enough short

theorem Extension.satisfied_iff {e : Extension α} {l : List (Bar α × Averages α)}
    {i compressed : Nat} (counts : ∀ threshold length, e = .compression threshold length →
      Counts l (i + 1) (CloseTogether threshold) compressed) :
    e.satisfied compressed = true ↔ e.TightAt l i := by
  cases e with
  | none => simp [Extension.satisfied, Extension.TightAt]
  | continuation length pad => simp [Extension.satisfied, Extension.TightAt]
  | compression threshold length =>
    rw [Extension.satisfied, decide_eq_true_eq, counts threshold length rfl length]
    rfl

/-! ### The whole pass -/

/-- A scan that knows the bars up to this one enters by the rule. The third comparison that the scan
makes, of the close with the slow average, follows from the other two. -/
theorem Scan.enters_iff [IsTrans α (· < ·)] {s : Scan α} {v : Variant α}
    {l : List (Bar α × Averages α)} {i : Nat} (knows : s.Knows v l (i + 1))
    (earlier : s.earlier = ((l.take i).map Prod.snd).reverse) {b : Bar α} {avg : Averages α}
    (here : l[i]? = some (b, avg)) : s.enters v i b avg = true ↔ v.EntersAt l i b avg := by
  obtain ⟨inside, _⟩ := List.getElem?_eq_some_iff.mp here
  have aligned : avg.aligned b = true ↔ avg.fast < b.close ∧ avg.slow < avg.fast := by
    rw [Averages.aligned, decide_eq_true_eq]
    constructor
    · exact fun ⟨above, spread, _⟩ => ⟨above, spread⟩
    · exact fun ⟨above, spread⟩ => ⟨above, spread, IsTrans.trans _ _ _ spread above⟩
  unfold Scan.enters
  simp only [Bool.and_eq_true]
  rw [aligned, Variant.setUp_iff knows.above, Confirmation.holds_iff _ knows.bullish, earlier,
    Slope.holds_iff _ inside, Extension.satisfied_iff knows.compressed,
    BearishGuard.allows_iff knows]
  constructor
  · rintro ⟨⟨⟨⟨⟨⟨⟨order, session⟩, trend⟩, setUp⟩, confirmed⟩, risen⟩, tight⟩, quiet⟩
    exact ⟨order, session, trend, setUp, confirmed, risen, tight, quiet⟩
  · rintro ⟨order, session, trend, setUp, confirmed, risen, tight, quiet⟩
    exact ⟨⟨⟨⟨⟨⟨⟨order, session⟩, trend⟩, setUp⟩, confirmed⟩, risen⟩, tight⟩, quiet⟩

theorem length_signalsFrom (v : Variant α) (rest : List (Bar α × Averages α)) :
    ∀ (i : Nat) (s : Scan α), (v.signalsFrom i s rest).length = rest.length := by
  induction rest with
  | nil => intro i s; rfl
  | cons x rest ih =>
    intro i s
    obtain ⟨b, avg⟩ := x
    rw [Variant.signalsFrom, List.length_cons, ih, List.length_cons]

theorem length_signalsWith (v : Variant α) {bars : List (Bar α)} {averages : List (Averages α)}
    (same : averages.length = bars.length) :
    (v.signalsWith bars averages).length = bars.length := by
  rw [Variant.signalsWith, length_signalsFrom, List.length_zip, same, Nat.min_self]

/-- A scan that has come to a bar: some bars are ahead, the bars before are known, and their
averages are kept. -/
structure Scan.Reaches (s : Scan α) (v : Variant α) (l : List (Bar α × Averages α)) (i : Nat)
    (rest : List (Bar α × Averages α)) : Prop where
  ahead : l.drop i = rest
  knows : s.Knows v l i
  earlier : s.earlier = ((l.take i).map Prod.snd).reverse

theorem Scan.start_reaches (v : Variant α) (l : List (Bar α × Averages α)) :
    (Scan.start : Scan α).Reaches v l 0 l :=
  ⟨List.drop_zero, Scan.start_knows v l, rfl⟩

section Reaches

variable {s : Scan α} {v : Variant α} {l rest : List (Bar α × Averages α)} {i : Nat} {b : Bar α}
  {avg : Averages α} (reaches : s.Reaches v l i ((b, avg) :: rest))

include reaches

theorem Scan.Reaches.here : l[i]? = some (b, avg) := by
  have first : (l.drop i)[0]? = some (b, avg) := by rw [reaches.ahead]; rfl
  rwa [List.getElem?_drop, Nat.add_zero] at first

/-- **One bar on**, the scan has come to the next bar. -/
theorem Scan.Reaches.next :
    Scan.Reaches { s.next v i b avg with earlier := avg :: (s.next v i b avg).earlier } v l (i + 1)
      rest where
  ahead := by rw [← List.tail_drop, reaches.ahead, List.tail_cons]
  knows := (reaches.knows.next reaches.here).withEarlier _
  earlier := by
    rw [← List.map_reverse, reverse_take_add_one reaches.here, List.map_cons, List.map_reverse,
      ← reaches.earlier]
    rfl

end Reaches

/-- From any bar on, the pass enters by the rule if its scan knows the bars before. -/
theorem signalsFrom_iff [IsTrans α (· < ·)] (v : Variant α) {l : List (Bar α × Averages α)}
    (rest : List (Bar α × Averages α)) :
    ∀ (i : Nat) (s : Scan α), l.drop i = rest → s.Knows v l i →
      s.earlier = ((l.take i).map Prod.snd).reverse →
      ∀ k b avg, l[i + k]? = some (b, avg) →
        ((v.signalsFrom i s rest)[k]? = some true ↔ v.EntersAt l (i + k) b avg) := by
  induction rest with
  | nil =>
    intro i s beyond _ _ k b avg there
    rw [← List.getElem?_drop, beyond] at there
    cases there
  | cons x rest ih =>
    obtain ⟨b₀, avg₀⟩ := x
    intro i s split knows earlier k b avg there
    have reaches : s.Reaches v l i ((b₀, avg₀) :: rest) := ⟨split, knows, earlier⟩
    rw [Variant.signalsFrom]
    cases k with
    | zero =>
      rw [Nat.add_zero] at there ⊢
      rw [reaches.here, Option.some.injEq, Prod.mk.injEq] at there
      obtain ⟨rfl, rfl⟩ := there
      rw [List.getElem?_cons_zero, Option.some.injEq]
      exact Scan.enters_iff (knows.next reaches.here) earlier reaches.here
    | succ k =>
      rw [List.getElem?_cons_succ]
      have place : i + 1 + k = i + (k + 1) := by omega
      rw [← place] at there ⊢
      have after := reaches.next
      exact ih (i + 1) _ after.ahead after.knows after.earlier k b avg there

/-- **The pass is the rule.** It gives one signal for each bar, and the signal of a bar is true
exactly if the variant enters there by the rule over windows. -/
theorem signalsWith_iff_entersAt [IsTrans α (· < ·)] (v : Variant α) {bars : List (Bar α)}
    {averages : List (Averages α)} (same : averages.length = bars.length) :
    (v.signalsWith bars averages).length = bars.length ∧
      ∀ i b avg, bars[i]? = some b → averages[i]? = some avg →
        ((v.signalsWith bars averages)[i]? = some true ↔
          v.EntersAt (bars.zip averages) i b avg) := by
  refine ⟨length_signalsWith v same, ?_⟩
  intro i b avg bar average
  have there : (bars.zip averages)[0 + i]? = some (b, avg) := by
    rw [Nat.zero_add, List.getElem?_zip_eq_some]
    exact ⟨bar, average⟩
  have pass := signalsFrom_iff v (bars.zip averages) 0 Scan.start List.drop_zero
    (Scan.start_knows v _) rfl i b avg there
  rwa [Nat.zero_add] at pass

/-! ### A fall and what follows -/

/-- A bar five minutes after the one before it, with a fast average of 100. -/
def sampleBar (k : Int) (opening high low close slow : Float) : Bar Float :=
  ⟨⟨300 * k, 0⟩, opening, high, low, close, 100.0,
    .ofList [("ema_fast", 100.0), ("ema_slow", slow)]⟩

/-- A high bar, three falling ones, a high one and then four pullbacks. -/
def fallThenPullbacks : List (Bar Float) :=
  [sampleBar 0 101.0 101.6 100.9 101.5 99.0] ++
    [1, 2, 3].map (fun k => sampleBar k 99.9 100.0 99.2 99.4 99.0) ++
    [sampleBar 4 101.0 101.6 100.9 101.5 99.0] ++
    [5, 6, 7, 8].map fun k => sampleBar k 100.1 100.6 100.05 100.5 99.0

/-- A variant whose guard looks for three falling bars in the last six. -/
def guarded : Variant Float := { Standard.baseline with guard := ⟨6, 3⟩ }

/-- The fall blocks entries as long as all of it lies in the window, and no longer. -/
theorem guarded_enters_after_fall :
    let averages := List.replicate 9 (⟨100.0, 99.0, none, none⟩ : Averages Float)
    let l := fallThenPullbacks.zip averages
    (guarded.signalsWith fallThenPullbacks averages).length = fallThenPullbacks.length ∧
      (∃ b avg, l[6]? = some (b, avg) ∧ ¬ guarded.EntersAt l 6 b avg) ∧
      ∃ b avg, l[7]? = some (b, avg) ∧ guarded.EntersAt l 7 b avg := by
  intro averages l
  have pass := signalsWith_iff_entersAt guarded
    (show averages.length = fallThenPullbacks.length from rfl)
  refine ⟨pass.1, ⟨_, _, rfl, fun enters => ?_⟩, ⟨_, _, rfl, ?_⟩⟩
  · exact absurd ((pass.2 6 _ _ rfl rfl).mpr enters) (by decide +kernel)
  · exact (pass.2 7 _ _ rfl rfl).mp (by decide +kernel)

end PullbackTrading

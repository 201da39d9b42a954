/-
**Tightening: a variant that asks for more enters less often.**

`Variant.TightensTo` compares two variants rule by rule. Their scans cannot be compared state by
state: only one of them may count close averages, and guards for falls of other lengths remember
other bars. The rule over windows has no such state, so it is compared instead.

* `LastBars.shorter`, `LastBars.imp`: a window without its earliest bars, a weaker property;
* `BearishGuard.TightensTo.quietAt`: a long fall in a narrow window holds a short fall in a wide one;
* `entersAt_of_tightensTo`: where the tighter variant enters by the rule, so does the looser one.

`signal_of_tightensTo` says the same of the signals.
-/

import PullbackTrading.Proofs.EntryRule

namespace PullbackTrading

variable {α : Type}

/-! ### Tighter rules -/

/-- A trend must point up that did not have to. -/
inductive TrendFilter.TightensTo : TrendFilter → TrendFilter → Prop
  | same (rule : TrendFilter) : TightensTo rule rule
  | higher (t : Timeframe) : TightensTo .none (.higher t)

/-- More averages must have risen. -/
inductive Slope.TightensTo : Slope → Slope → Prop
  | same (rule : Slope) : TightensTo rule rule
  | asked (rule : Slope) : TightensTo .none rule
  | slow : TightensTo .fast .fastAndSlow

/-- There is a session now, or its window lies in the window before. A window that ends before it
begins holds no time, so it lies in every other one. -/
inductive Session.TightensTo : Session → Session → Prop
  | same (rule : Session) : TightensTo rule rule
  | gate (rule : Session) : TightensTo .always rule
  | within {first last first' last' : TimeOfDay} : first ≤ first' → last' ≤ last →
    TightensTo (.window first last) (.window first' last')
  | shut {first last first' last' : TimeOfDay} : ¬ first' ≤ last' →
    TightensTo (.window first last) (.window first' last')

/-- More bars must have risen. -/
inductive Confirmation.TightensTo : Confirmation → Confirmation → Prop
  | same (rule : Confirmation) : TightensTo rule rule
  | more {count count' : Nat} : count ≤ count' →
    TightensTo (.consecutive count) (.consecutive count')

/-- The averages must be closer together, or for longer; or the price above its average for longer.
-/
inductive Extension.TightensTo [LT α] : Extension α → Extension α → Prop
  | same (e : Extension α) : TightensTo e e
  | compression (threshold : α) (length : Nat) : TightensTo .none (.compression threshold length)
  | closer {threshold threshold' : α} {length length' : Nat} :
    threshold' = threshold ∨ threshold' < threshold → length ≤ length' →
    TightensTo (.compression threshold length) (.compression threshold' length')
  | longer {length length' : Nat} (pad : α) : length ≤ length' →
    TightensTo (.continuation length pad) (.continuation length' pad)

/-- A shorter fall counts, and for longer. -/
structure BearishGuard.TightensTo (g g' : BearishGuard) : Prop where
  window : g.window ≤ g'.window
  runLength : g'.runLength ≤ g.runLength

/-- **A variant that asks for more**: each rule is the same or tighter. What a variant does after an
entry plays no part. -/
structure Variant.TightensTo [LT α] (v v' : Variant α) : Prop where
  pullback : v'.pullback = v.pullback
  confirmation : v.confirmation.TightensTo v'.confirmation
  trend : v.trend.TightensTo v'.trend
  slope : v.slope.TightensTo v'.slope
  session : v.session.TightensTo v'.session
  extension : v.extension.TightensTo v'.extension
  guard : v.guard.TightensTo v'.guard

/-! ### Windows -/

section Windows

variable {l : List (Bar α × Averages α)} {i m n : Nat} {p q : Bar α → Averages α → Prop}

theorem LastBars.shorter (last : LastBars l i n p) (fewer : m ≤ n) : LastBars l i m p := by
  obtain ⟨enough, all⟩ := last
  exact ⟨by omega, fun j b avg before within => all j b avg before (by omega)⟩

theorem LastBars.imp (last : LastBars l i n p) (weaker : ∀ b avg, p b avg → q b avg) :
    LastBars l i n q :=
  ⟨last.1, fun j b avg before within there => weaker b avg (last.2 j b avg before within there)⟩

end Windows

theorem TimeOfDay.le_iff {a b : TimeOfDay} :
    a ≤ b ↔ a.second < b.second ∨ (a.second = b.second ∧ a.nanosecond ≤ b.nanosecond) :=
  Iff.rfl

theorem TimeOfDay.le_trans {a b c : TimeOfDay} (before : a ≤ b) (after : b ≤ c) : a ≤ c := by
  rw [le_iff] at before after ⊢
  omega

/-! ### What tighter rules still ask for -/

variable [Quantity α] {l : List (Bar α × Averages α)} {i : Nat} {b : Bar α} {avg : Averages α}

theorem TrendFilter.TightensTo.holds {rule rule' : TrendFilter} (tightens : rule.TightensTo rule')
    (holds : rule'.holds avg = true) : rule.holds avg = true := by
  cases tightens with
  | same => exact holds
  | higher t => rfl

theorem Session.TightensTo.holds {rule rule' : Session} (tightens : rule.TightensTo rule')
    (holds : rule'.holds b avg = true) : rule.holds b avg = true := by
  cases tightens with
  | same => exact holds
  | gate => rfl
  | within later earlier =>
    simp only [Session.holds, decide_eq_true_eq] at holds ⊢
    exact ⟨TimeOfDay.le_trans later holds.1, TimeOfDay.le_trans holds.2 earlier⟩
  | shut reversed =>
    simp only [Session.holds, decide_eq_true_eq] at holds
    exact absurd (TimeOfDay.le_trans holds.1 holds.2) reversed

theorem Slope.TightensTo.risenAt {rule rule' : Slope} (tightens : rule.TightensTo rule')
    (risen : rule'.RisenAt l i avg) : rule.RisenAt l i avg := by
  cases tightens with
  | same => exact risen
  | asked => exact Or.inl rfl
  | slow =>
    rcases risen with no | ⟨b, past, enough, there, both⟩
    · cases no
    · simp only [Slope.holds, decide_eq_true_eq] at both
      refine Or.inr ⟨b, past, enough, there, ?_⟩
      simp only [Slope.holds, decide_eq_true_eq]
      exact both.1

theorem Confirmation.TightensTo.confirmedAt {rule rule' : Confirmation}
    (tightens : rule.TightensTo rule') (confirmed : rule'.ConfirmedAt l i b avg) :
    rule.ConfirmedAt l i b avg := by
  cases tightens with
  | same => exact confirmed
  | more fewer => exact LastBars.shorter confirmed fewer

theorem CloseTogether.trans [IsTrans α (· < ·)] {threshold threshold' : α}
    (closer : threshold' = threshold ∨ threshold' < threshold)
    (near : CloseTogether threshold' b avg) : CloseTogether threshold b avg := by
  rcases closer with rfl | below
  · exact near
  · exact IsTrans.trans _ _ _ near below

theorem Extension.TightensTo.tightAt [IsTrans α (· < ·)] {e e' : Extension α}
    (tightens : e.TightensTo e') (tight : e'.TightAt l i) : e.TightAt l i := by
  cases tightens with
  | same => exact tight
  | compression => trivial
  | closer nearer fewer =>
    exact (LastBars.shorter tight fewer).imp fun b avg => CloseTogether.trans nearer
  | longer => trivial

/-- The price stands right for an entry by the pullback, which is the same, or by bars above the
fast average, of which fewer are asked for. -/
theorem Variant.TightensTo.setUpAt {v v' : Variant α} (tightens : v.TightensTo v')
    (setUp : v'.SetUpAt l i b avg) : v.SetUpAt l i b avg := by
  have extension := tightens.extension
  unfold Variant.SetUpAt at setUp ⊢
  rw [tightens.pullback] at setUp
  generalize v.extension = e at extension ⊢
  generalize v'.extension = e' at extension setUp
  cases extension with
  | same => exact setUp
  | compression => exact setUp
  | closer => exact setUp
  | longer pad fewer => exact ⟨setUp.1.shorter fewer, setUp.2⟩

/-- **A long fall in a narrow window holds a short fall in a wide one**: its last bars. -/
theorem BearishGuard.TightensTo.quietAt {g g' : BearishGuard} (tightens : g.TightensTo g')
    (quiet : g'.QuietAt l i) : g.QuietAt l i := by
  obtain ⟨wider, shorter⟩ := tightens
  obtain ⟨inside, free⟩ := quiet
  refine ⟨Nat.le_trans wider inside, fun m within fits fall => ?_⟩
  have fits' : i + 1 + g'.runLength ≤ m + g'.window :=
    calc i + 1 + g'.runLength ≤ i + 1 + g.runLength := Nat.add_le_add_left shorter _
      _ ≤ m + g.window := fits
      _ ≤ m + g'.window := Nat.add_le_add_left wider _
  exact free m within fits' (fall.shorter shorter)

/-! ### Entries -/

/-- **Where the tighter variant enters by the rule, so does the looser one.** -/
theorem entersAt_of_tightensTo [IsTrans α (· < ·)] {v v' : Variant α} (tightens : v.TightensTo v')
    (enters : v'.EntersAt l i b avg) : v.EntersAt l i b avg where
  order := enters.order
  session := tightens.session.holds enters.session
  trend := tightens.trend.holds enters.trend
  setUp := tightens.setUpAt enters.setUp
  confirmed := tightens.confirmation.confirmedAt enters.confirmed
  risen := tightens.slope.risenAt enters.risen
  tight := tightens.extension.tightAt enters.tight
  quiet := tightens.guard.quietAt enters.quiet

/-- A signal is an entry by the rule at a bar whose averages are known. -/
theorem signal_iff_entersAt [IsTrans α (· < ·)] (v : Variant α) (bars : List (Bar α))
    (averages : List (Averages α)) :
    (v.signalsWith bars averages)[i]? = some true ↔
      ∃ b avg, (bars.zip averages)[i]? = some (b, avg) ∧
        v.EntersAt (bars.zip averages) i b avg := by
  have pass : ∀ b avg, (bars.zip averages)[i]? = some (b, avg) →
      ((v.signalsWith bars averages)[i]? = some true ↔
        v.EntersAt (bars.zip averages) i b avg) := by
    intro b avg there
    have fromStart := signalsFrom_iff v (bars.zip averages) 0 Scan.start List.drop_zero
      (Scan.start_knows v _) rfl i b avg
    rw [Nat.zero_add] at fromStart
    exact fromStart there
  constructor
  · intro signal
    have inside : i < (bars.zip averages).length := by
      rw [← length_signalsFrom v (bars.zip averages) 0 Scan.start]
      exact (List.getElem?_eq_some_iff.mp signal).1
    have there := List.getElem?_eq_getElem inside
    exact ⟨_, _, there, (pass _ _ there).mp signal⟩
  · rintro ⟨b, avg, there, enters⟩
    exact (pass b avg there).mpr enters

/-- **Tightening only removes signals.** Wherever a variant that asks for more gives a signal, the
variant that it was tightened from gives one, over the same bars and averages. -/
theorem signal_of_tightensTo [IsTrans α (· < ·)] {v v' : Variant α} (tightens : v.TightensTo v')
    {bars : List (Bar α)} {averages : List (Averages α)}
    (signal : (v'.signalsWith bars averages)[i]? = some true) :
    (v.signalsWith bars averages)[i]? = some true := by
  obtain ⟨b, avg, there, enters⟩ := (signal_iff_entersAt v' bars averages).mp signal
  exact (signal_iff_entersAt v bars averages).mpr
    ⟨b, avg, there, entersAt_of_tightensTo tightens enters⟩

/-- A variant that asks for one rising bar, and whose guard looks for four falling ones in the last
five. -/
def lenient : Variant Float :=
  { Standard.baseline with confirmation := .consecutive 1, guard := ⟨5, 4⟩ }

/-- A variant with the guard of `guarded` that enters in the first hour of a day, after two rising
bars and three with close averages. -/
def strict : Variant Float :=
  { guarded with
    confirmation := .consecutive 2
    session := .window (.ofHour 0) (.ofHour 1)
    extension := .compression 0.02 3 }

/-- After the fall the lenient variant enters at two bars, of which the strict one leaves out the
first. -/
theorem strict_enters_less :
    let averages := List.replicate 9 (⟨100.0, 99.0, none, none⟩ : Averages Float)
    lenient.TightensTo strict ∧
      (strict.signalsWith fallThenPullbacks averages)[6]? = some false ∧
      (lenient.signalsWith fallThenPullbacks averages)[6]? = some true ∧
      (strict.signalsWith fallThenPullbacks averages)[7]? = some true ∧
      (lenient.signalsWith fallThenPullbacks averages)[7]? = some true := by
  intro averages
  have tightens : lenient.TightensTo strict :=
    ⟨rfl, .more (by decide), .same _, .same _, .gate _, .compression _ _, ⟨by decide, by decide⟩⟩
  have signal : (strict.signalsWith fallThenPullbacks averages)[7]? = some true := by
    decide +kernel
  exact ⟨tightens, by decide +kernel, by decide +kernel, signal,
    signal_of_tightensTo tightens signal⟩

end PullbackTrading

/-
**Required indicators: a run reads nothing else.**

A variant lists the indicators that it requires. Bars that agree in their times and prices and in
what is stored under the required columns (`Bar.Agrees`) are read alike, in an unchanged unit. So
`run_eq_of_agrees`: the two runs are equal, be it in their fault or in their outcome. Volumes, other
columns and the order of the columns have no say.
-/

import PullbackTrading.Proofs.Reading

namespace PullbackTrading

variable {α : Type}

/-- Two bars agree in their times and prices, and each of some indicators is stored in both with
one value or in neither. -/
structure Bar.Agrees (indicators : List Indicator) (b b' : Bar α) : Prop where
  timestamp : b'.timestamp = b.timestamp
  opening : b'.opening = b.opening
  high : b'.high = b.high
  low : b'.low = b.low
  close : b'.close = b.close
  stored : ∀ k ∈ indicators, b'.indicators.find? k.column = b.indicators.find? k.column

/-- A run in an unchanged unit is the run itself. -/
theorem Run.rescaled_id (r : Run α) : r.rescaled id = r := by
  have trades : r.trades.map (Trade.rescaled id) = r.trades := List.map_id r.trades
  rw [Run.rescaled, trades]

variable [Quantity α]

/-- Bars that agree in what a variant requires are read alike. -/
theorem Bar.Agrees.readsAs {v : Variant α} {b b' : Bar α} (agrees : b.Agrees v.required b') :
    b.ReadsAs id v b' where
  timestamp := agrees.timestamp
  opening := agrees.opening
  high := agrees.high
  low := agrees.low
  close := agrees.close
  require k required index := by
    unfold Bar.require
    rw [agrees.stored k required, agrees.timestamp]
    cases b.indicators.find? k.column with
    | none => rfl
    | some value =>
      dsimp only
      split <;> rfl

/-- **A run reads nothing but what the variant requires.** -/
theorem run_eq_of_agrees {series series' : Series α} {v : Variant α}
    (agree : List.Forall₂ (Bar.Agrees v.required) series.bars series'.bars)
    (s : Simulation α) : s.run series' v = s.run series v := by
  have reads : List.Forall₂ (Bar.ReadsAs id v) series.bars series'.bars :=
    agree.imp fun _ _ => Bar.Agrees.readsAs
  rw [run_reads Rescaling.id reads s]
  cases s.run series v with
  | error fault => rfl
  | ok r => exact congrArg Except.ok r.rescaled_id

/-! ### A crowded sheet -/

/-- A variant that asks for the trend over hours. -/
def hourly : Variant Float := { eager with trend := .higher .hour }

/-- The zigzag with averages over hours. -/
def hourlyZigzag : Series Float where
  bars := zigzag.bars.map fun b =>
    { b with
      indicators := (b.indicators.insert "ema_fast_1h" 101.0).insert "ema_slow_1h" 100.0 }
  sound := by decide +kernel

/-- The same with other volumes, further columns, and all columns the other way round. -/
def crowdedZigzag : Series Float where
  bars := hourlyZigzag.bars.map fun b =>
    { b with
      volume := 7.0
      indicators := .ofList ([("rsi", 55.0), ("ema_fast_15m", 3.0)] ++ b.indicators.entries.reverse) }
  sound := by decide +kernel

/-- What crowds the sheet changes nothing. -/
theorem crowdedZigzag_run_eq :
    List.Forall₂ (Bar.Agrees hourly.required) hourlyZigzag.bars crowdedZigzag.bars ∧
      Simulation.run ⟨2, .usual⟩ crowdedZigzag hourly =
        Simulation.run ⟨2, .usual⟩ hourlyZigzag hourly ∧
      (Simulation.run ⟨2, .usual⟩ hourlyZigzag hourly).toOption.map Run.outlines =
        some [(1, 2, .stopHit), (0, 3, .targetHit), (3, 4, .endOfData)] := by
  have agree : List.Forall₂ (Bar.Agrees hourly.required) hourlyZigzag.bars crowdedZigzag.bars := by
    have stored : ∀ k ∈ hourly.required, ∀ b ∈ hourlyZigzag.bars,
        (OrderedMap.ofList ([("rsi", 55.0), ("ema_fast_15m", 3.0)] ++
          b.indicators.entries.reverse)).find? k.column = b.indicators.find? k.column := by
      decide +kernel
    rw [crowdedZigzag, List.forall₂_map_right_iff, List.forall₂_same]
    exact fun b member => ⟨rfl, rfl, rfl, rfl, rfl, fun k required => stored k required b member⟩
  exact ⟨agree, run_eq_of_agrees agree ⟨2, .usual⟩, by decide +kernel⟩

end PullbackTrading

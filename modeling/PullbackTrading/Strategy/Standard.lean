/-
**Standard variants: ten that are always there.**

They differ in what they ask for before an entry and in how they get out: from a loose baseline to
entries that are confirmed by two aggregations.
-/

import PullbackTrading.Strategy.Registry

namespace PullbackTrading.Standard

/-- From eight in the morning to four in the afternoon. -/
def daySession : Session := .window (.ofHour 8) (.ofHour 16)

/-- The loose baseline, from which the others depart. -/
def baseline : Variant Float where
  name := "v1"
  description := "baseline loose scalper"
  pullback := .shallow
  confirmation := .bullishClose
  trend := .none
  slope := .none
  session := .always
  stop := .belowSlow
  exit := .targetOrStop
  targetMultiple := 2.0
  extension := .none
  guard := .usual

/-- What most variants have in common: by day, with the trend of a quarter of an hour and a rising
fast average, and out on a close below the slow average. -/
def trending : Variant Float :=
  { baseline with
    trend := .higher .quarterHour
    slope := .fast
    session := daySession
    exit := .closeBelowSlow }

/-- The ten variants. -/
def variants : List (Variant Float) := [
  baseline,
  { trending with
    name := "v2"
    description := "momentum guard"
    confirmation := .consecutive 2 },
  { trending with
    name := "v3"
    description := "macro-aligned sniper"
    pullback := .moderate
    confirmation := .consecutive 2
    trend := .higher .hour
    slope := .fastAndSlow
    stop := .swingLow 3 },
  { trending with
    name := "v4"
    description := "reversion bounce farm"
    pullback := .touchSlow
    session := .always
    stop := .swingLow 3
    exit := .targetOrStop },
  { trending with
    name := "v5"
    description := "panic eject"
    exit := .fastBelowSlow },
  { trending with
    name := "v6"
    description := "compression breakout"
    extension := .compression 0.002 3 },
  { baseline with
    name := "v7"
    description := "scalp factory stress test" },
  { trending with
    name := "v8"
    description := "tight stop, 3R target"
    pullback := .moderate
    confirmation := .consecutive 2
    stop := .swingLow 3
    targetMultiple := 3.0 },
  { trending with
    name := "v9"
    description := "capital efficiency"
    confirmation := .consecutive 2 },
  { trending with
    name := "v10"
    description := "late entry continuation"
    extension := .continuation 5 0.0015 }]

/-- The ten variants under their names, the baseline by default. -/
def catalog : Catalog := Catalog.ofVariants "v1" variants

/-- The catalog is sound, as evaluating its checks shows. -/
theorem catalog_sound : catalog.fault? = none := by
  decide +kernel

/-- The registry of the ten variants. -/
def registry : Registry := ⟨catalog, catalog_sound⟩

end PullbackTrading.Standard

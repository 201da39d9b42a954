/-
**Variants: named choices of rules.**

A variant picks one rule of every family, a target, perhaps an extension, and a guard against
entries after a fall. `Variant.required` lists the indicators that such a choice reads;
`Variant.fault?` finds the first of its numbers that makes no sense.
-/

import PullbackTrading.Strategy.Rule
import PullbackTrading.Text.Blank

namespace PullbackTrading

/-- What a variant asks for beyond its rules. -/
inductive Extension (α : Type) where
  | none
  /-- The averages were close together in the last bars: their distance was below a fraction of the
  close in each of them. -/
  | compression (threshold : α) (length : Nat)
  /-- A late entry in place of a pullback: the last bars closed above the fast average, and the low
  came near it. -/
  | continuation (length : Nat) (pad : α)

/-- No entry while the last bars hold a run of falling closes below the fast average. -/
structure BearishGuard where
  /-- How many bars are looked at. -/
  window : Nat
  /-- How long a run must be to count. -/
  runLength : Nat
  deriving Repr, DecidableEq

/-- Three in ten. -/
def BearishGuard.usual : BearishGuard := ⟨10, 3⟩

/-- A way of trading. -/
structure Variant (α : Type) where
  name : String
  description : String
  pullback : Pullback
  confirmation : Confirmation
  trend : TrendFilter
  slope : Slope
  session : Session
  stop : StopRule
  exit : ExitRule
  /-- The distance of the target from the entry in units of the distance of the stop. -/
  targetMultiple : α
  extension : Extension α
  guard : BearishGuard

namespace Variant

variable {α : Type}

/-- Whether the rules of a variant read the averages over a timeframe. -/
def readsOver (v : Variant α) (t : Timeframe) : Bool :=
  v.trend == .higher t || (v.session == .quarterHourTrend && t == .quarterHour)

/-- The indicators that a variant reads: its own averages, then those of the trend filter, then
those of the session. -/
def required (v : Variant α) : List Indicator :=
  let filtered := match v.trend with
    | .higher t => [t]
    | .none => []
  let session := if v.session = .quarterHourTrend then [Timeframe.quarterHour] else []
  let timeframes := (filtered ++ session).eraseDups
  [.fast, .slow] ++ timeframes.flatMap fun t => [.fastOver t, .slowOver t]

end Variant

/-! ### Faults -/

/-- What can be wrong with a variant. -/
inductive VariantFault (α : Type) where
  | nameEmpty
  | multipleTooSmall (value : α)
  | countZero
  | lookbackZero
  | sessionReversed (first last : TimeOfDay)
  | compressionEmpty (length : Nat) (threshold : α)
  | continuationEmpty (length : Nat) (pad : α)
  | guardOutside (runLength window : Nat)

/-- What is said about a fault. -/
def VariantFault.reason (fault : VariantFault Float) : String :=
  let number := Decimal.text Decimal.plain
  match fault with
  | .nameEmpty => "name must not be empty"
  | .multipleTooSmall value => s!"tp_multiple must be a finite number >= 1, got {number value}"
  | .countZero => "confirmation count must be at least 1"
  | .lookbackZero => "swing-low lookback must be at least 1"
  | .sessionReversed first last => s!"session window {first.text} > {last.text}"
  | .compressionEmpty length threshold =>
    s!"compression needs length >= 1 and threshold > 0, got {length} / {number threshold}"
  | .continuationEmpty length pad =>
    s!"continuation needs length >= 1 and pad >= 0, got {length} / {number pad}"
  | .guardOutside runLength window =>
    s!"bearish guard run length {runLength} must be within 1..={window}"

variable {α : Type} [Quantity α]

open Quantity (isFinite)

/-- What is wrong with the numbers of an extension. -/
def Extension.fault? : Extension α → Option (VariantFault α)
  | .none => .none
  | .compression threshold length =>
    if length = 0 ∨ isFinite threshold = false ∨ threshold ≤ 0.0 then
      some (.compressionEmpty length threshold)
    else .none
  | .continuation length pad =>
    if length = 0 ∨ isFinite pad = false ∨ pad < 0.0 then some (.continuationEmpty length pad)
    else .none

/-- A guard makes sense if its run fits into its window. -/
def BearishGuard.fault? (g : BearishGuard) : Option (VariantFault α) :=
  if g.runLength = 0 ∨ g.window < g.runLength then some (.guardOutside g.runLength g.window)
  else none

/-- A session that is a window must not end before it begins. -/
def Session.fault? : Session → Option (VariantFault α)
  | .window first last => if first ≤ last then none else some (.sessionReversed first last)
  | _ => none

/-- The first thing that is wrong with a variant. -/
def Variant.fault? (v : Variant α) : Option (VariantFault α) :=
  if (Text.trim v.name).isEmpty then some .nameEmpty
  else if isFinite v.targetMultiple = false ∨ v.targetMultiple < 1.0 then
    some (.multipleTooSmall v.targetMultiple)
  else if v.confirmation = .consecutive 0 then some .countZero
  else if v.stop = .swingLow 0 then some .lookbackZero
  else v.session.fault? <|> v.extension.fault? <|> v.guard.fault?

end PullbackTrading

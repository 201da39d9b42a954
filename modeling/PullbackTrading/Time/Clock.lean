/-
**Times of day and instants.**

Both count whole seconds and nanoseconds beyond them. In a leap second the nanoseconds go on past
one thousand million, so the order by seconds and then nanoseconds puts it after the rest of its
minute.
-/

import PullbackTrading.Time.Calendar

namespace PullbackTrading

/-- A time of day. -/
structure TimeOfDay where
  /-- Seconds since midnight. -/
  second : Nat
  /-- Nanoseconds since that second; from 10 ^ 9 on, it is a leap second. -/
  nanosecond : Nat
  deriving Repr, DecidableEq, Inhabited

namespace TimeOfDay

/-- Not later: earlier in seconds, or in the same second and not later within it. -/
instance : LE TimeOfDay :=
  ⟨fun a b => a.second < b.second ∨ (a.second = b.second ∧ a.nanosecond ≤ b.nanosecond)⟩

instance : DecidableLE TimeOfDay := fun a b =>
  inferInstanceAs (Decidable
    (a.second < b.second ∨ (a.second = b.second ∧ a.nanosecond ≤ b.nanosecond)))

/-- A time on the full hour. -/
def ofHour (hour : Nat) : TimeOfDay := ⟨hour * 3600, 0⟩

/-- The fraction of a second, in the fewest groups of three digits that are exact. -/
def fractionText (nanosecond : Nat) : String :=
  if nanosecond = 0 then ""
  else if nanosecond % 1000000 = 0 then "." ++ padded 3 (nanosecond / 1000000)
  else if nanosecond % 1000 = 0 then "." ++ padded 6 (nanosecond / 1000)
  else "." ++ padded 9 nanosecond

/-- Hours, minutes, seconds and a fraction; a leap second is counted as one more second. -/
def text (t : TimeOfDay) : String :=
  let leap := 1000000000 ≤ t.nanosecond
  let second := t.second % 60 + (if leap then 1 else 0)
  let nanosecond := if leap then t.nanosecond - 1000000000 else t.nanosecond
  padded 2 (t.second / 3600) ++ ":" ++ padded 2 (t.second / 60 % 60) ++ ":" ++ padded 2 second
    ++ fractionText nanosecond

end TimeOfDay

/-- A point in time. -/
structure Instant where
  /-- Seconds since the beginning of 1970 in UTC, leap seconds not counted. -/
  second : Int
  /-- Nanoseconds since that second; from 10 ^ 9 on, it is a leap second. -/
  nanosecond : Nat
  deriving Repr, DecidableEq, Inhabited

namespace Instant

/-- Strictly earlier. -/
instance : LT Instant :=
  ⟨fun a b => a.second < b.second ∨ (a.second = b.second ∧ a.nanosecond < b.nanosecond)⟩

instance : DecidableLT Instant := fun a b =>
  inferInstanceAs (Decidable
    (a.second < b.second ∨ (a.second = b.second ∧ a.nanosecond < b.nanosecond)))

/-- The UTC date of an instant. -/
def date (t : Instant) : Date := Date.ofDayNumber (t.second / 86400)

/-- The UTC time of day of an instant. -/
def timeOfDay (t : Instant) : TimeOfDay := ⟨(t.second % 86400).toNat, t.nanosecond⟩

/-- The form in documents: date and time around a `T`, then a `Z`. -/
def documentText (t : Instant) : String := t.date.text ++ "T" ++ t.timeOfDay.text ++ "Z"

/-- The form in messages: date, time and zone with blanks between them. -/
def text (t : Instant) : String := t.date.text ++ " " ++ t.timeOfDay.text ++ " UTC"

end Instant

end PullbackTrading

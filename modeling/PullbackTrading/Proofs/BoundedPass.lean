/-
**Bounded pass: a variant is evaluated within the bounds of machine words.**

Counts and indices are natural numbers here, and subtraction stops at zero. A machine counts in
words of 64 bits. In `Bounded` the pass over the bars is written so that it gives nothing as soon as
a sum is no word, a difference is negative, or an index is not in its list; the parameters of the
variant may be of any size.

* `Counts.run_le`: a run is no longer than the bars gone through;
* `Scan.Knows.fall_le`: a fall that was long enough for the guard lies within the bars gone through,
  so its length is bounded though the guard's own numbers are not;
* `exists_scan`: the scan that the pass carries to a bar has all this, and decides its signal;
* `Bounded.signalsWith_eq`: with fewer than 2 ^ 63 bars the bounded pass gives the signals of the
  unbounded one.
-/

import Mathlib.Algebra.Group.Nat.Defs
import PullbackTrading.Proofs.Book

namespace PullbackTrading

variable {α : Type} [Quantity α]

/-! ### What bounds the numbers of a scan -/

omit [Quantity α] in
theorem Counts.run_le {l : List (Bar α × Averages α)} {i run : Nat}
    {p : Bar α → Averages α → Prop} (counts : Counts l i p run) : run ≤ i :=
  ((counts run).mp le_rfl).1

namespace Scan.Knows

variable {s : Scan α} {v : Variant α} {l : List (Bar α × Averages α)} {i : Nat}

/-- **A long fall lies within the bars gone through**, and so does the window in front of it. -/
theorem fall_le (knows : s.Knows v l (i + 1)) {last : Nat} (found : s.lastFall = some last) :
    last ≤ i ∧ v.guard.runLength ≤ last + 1 ∧
      i + 1 - v.guard.window + v.guard.runLength ≤ 2 * (i + 1) := by
  obtain ⟨before, within, _⟩ := knows.fall last found
  omega

end Scan.Knows

/-! ### The scans of a pass -/

/-- What is known at each of some bars, from an index on. -/
def Variant.scansFrom (v : Variant α) (index : Nat) (s : Scan α) :
    List (Bar α × Averages α) → List (Scan α)
  | [] => []
  | (b, avg) :: rest =>
    let s := s.next v index b avg
    s :: v.scansFrom (index + 1) { s with earlier := avg :: s.earlier } rest

/-- What is known at each bar. -/
def Variant.scans (v : Variant α) (bars : List (Bar α)) (averages : List (Averages α)) :
    List (Scan α) :=
  v.scansFrom 0 Scan.start (bars.zip averages)

/-- **The signal of a bar** is decided by the scan at this bar, which knows the bars up to it. -/
theorem exists_scan (v : Variant α) {l : List (Bar α × Averages α)}
    (rest : List (Bar α × Averages α)) :
    ∀ {i : Nat} {s : Scan α}, s.Reaches v l i rest → ∀ {k : Nat} {b : Bar α} {avg : Averages α},
      rest[k]? = some (b, avg) → ∃ scan, (v.scansFrom i s rest)[k]? = some scan ∧
        (v.signalsFrom i s rest)[k]? = some (scan.enters v (i + k) b avg) ∧
        scan.Knows v l (i + k + 1) := by
  induction rest with
  | nil => exact fun _ _ _ _ there => nomatch there
  | cons x rest ih =>
    intro i s reaches k b avg there
    obtain ⟨b₀, avg₀⟩ := x
    cases k with
    | zero =>
      cases there
      exact ⟨_, rfl, rfl, reaches.knows.next reaches.here⟩
    | succ k =>
      obtain ⟨scan, found, signal, knows⟩ := ih reaches.next there
      have place : i + 1 + k = i + (k + 1) := by omega
      rw [place] at signal knows
      exact ⟨scan, found, signal, knows⟩

namespace Bounded

/-! ### Words -/

/-- A sum, if it is a word. -/
def plus (a b : Nat) : Option Nat := if a + b < 2 ^ 64 then some (a + b) else none

/-- A difference, if it is not negative. -/
def minus (a b : Nat) : Option Nat := if b ≤ a then some (a - b) else none

theorem plus_eq {a b : Nat} (word : a + b < 2 ^ 64) : plus a b = some (a + b) := if_pos word

theorem minus_eq {a b : Nat} (le : b ≤ a) : minus a b = some (a - b) := if_pos le

/-! ### Averages -/

/-- The averages of bars from an index on. -/
def averagesFrom (v : Variant α) (index : Nat) :
    List (Bar α) → Option (Except (DataFault α) (List (Averages α)))
  | [] => some (.ok [])
  | b :: rest =>
    match v.averagesAt b index with
    | .error fault => some (.error fault)
    | .ok avg => do
      let later ← averagesFrom v (← plus index 1) rest
      return later.map (avg :: ·)

theorem averagesFrom_eq (v : Variant α) (bars : List (Bar α)) :
    ∀ index, index + bars.length < 2 ^ 64 →
      averagesFrom v index bars = some (v.averagesFrom index bars) := by
  induction bars with
  | nil => exact fun index _ => rfl
  | cons b rest ih =>
    intro index word
    rw [List.length_cons] at word
    rw [averagesFrom, Variant.averagesFrom]
    cases v.averagesAt b index with
    | error fault => rfl
    | ok avg =>
      dsimp only
      rw [plus_eq (by omega), Option.bind_eq_bind, Option.bind_some, ih (index + 1) (by omega)]
      cases v.averagesFrom (index + 1) rest <;> rfl

/-! ### One bar of the pass -/

/-- The length of a run of bars with a property, one bar later. -/
def runAfter (run : Nat) (holds : Bool) : Option Nat := if holds then plus run 1 else some 0

/-- What is known after the bar at an index. -/
def next (s : Scan α) (v : Variant α) (index : Nat) (b : Bar α) (avg : Averages α) :
    Option (Scan α) := do
  let bullish ← runAfter s.bullish (avg.bullishAbove b)
  let above ← runAfter s.above (avg.closesAbove b)
  let bearish ← runAfter s.bearish (avg.bearishBelow b)
  let compressed ← match v.extension with
    | .compression threshold _ => runAfter s.compressed (decide (avg.spread b < threshold))
    | _ => some s.compressed
  return {
    bullish := bullish
    above := above
    compressed := compressed
    bearish := bearish
    lastFall := if v.guard.runLength ≤ bearish then some index else s.lastFall
    earlier := s.earlier }

/-- Whether the window of a guard that ends at an index holds all of the last long fall. A window
may be longer than the bars so far, and then it begins at the first. -/
def blocks (g : BearishGuard) (lastFall : Option Nat) (index : Nat) : Option Bool := do
  let start := (← plus index 1) - g.window
  match lastFall with
  | some last => return decide ((← plus start g.runLength) ≤ (← plus last 1))
  | none => return false

/-- Whether the window of a guard lies within the bars and holds no long fall. -/
def allows (g : BearishGuard) (lastFall : Option Nat) (index : Nat) : Option Bool := do
  if (← plus index 1) < g.window then return false
  else return !(← blocks g lastFall index)

/-- The averages some bars ago, if there were so many bars. That there were not is no failure, but
an index beyond the averages is. -/
def lagged (averages : List (Averages α)) (index : Nat) : Option (Option (Averages α)) :=
  match minus index slopeLag with
  | none => some none
  | some past => (averages[past]?).map some

/-- Whether a variant enters at the bar at an index, given what is known up to it. The guard is only
asked if all else holds. -/
def enters (s : Scan α) (v : Variant α) (averages : List (Averages α)) (index : Nat) (b : Bar α)
    (avg : Averages α) : Option Bool := do
  let past ← lagged averages index
  if avg.aligned b && v.session.holds b avg && v.trend.holds avg && v.setUp b avg s.above
      && v.confirmation.holds b avg s.bullish && v.slope.holds avg past
      && v.extension.satisfied s.compressed then
    allows v.guard s.lastFall index
  else return false

/-- The signals of bars from an index on. -/
def signalsFrom (v : Variant α) (averages : List (Averages α)) (index : Nat) (s : Scan α) :
    List (Bar α × Averages α) → Option (List Bool)
  | [] => some []
  | (b, avg) :: rest => do
    let s ← next s v index b avg
    let signal ← enters s v averages index b avg
    let later ← signalsFrom v averages (← plus index 1) { s with earlier := avg :: s.earlier } rest
    return signal :: later

/-- The signals of bars whose averages are known. -/
def signalsWith (v : Variant α) (bars : List (Bar α)) (averages : List (Averages α)) :
    Option (List Bool) :=
  signalsFrom v averages 0 Scan.start (bars.zip averages)

theorem runAfter_eq {run : Nat} (word : run + 1 < 2 ^ 64) (holds : Bool) :
    runAfter run holds = some (PullbackTrading.runAfter run holds) := by
  unfold runAfter PullbackTrading.runAfter
  cases holds
  · rfl
  · exact plus_eq word

section Pass

variable {s : Scan α} {v : Variant α} {l : List (Bar α × Averages α)} {i : Nat} {b : Bar α}
  {avg : Averages α}

/-- **Counting** stays within words while the bars gone through do. -/
theorem next_eq (knows : s.Knows v l i) (word : i + 1 < 2 ^ 64) :
    next s v i b avg = some (s.next v i b avg) := by
  have counted : ∀ {run : Nat}, run ≤ i → ∀ holds,
      runAfter run holds = some (PullbackTrading.runAfter run holds) :=
    fun le => runAfter_eq (by omega)
  simp only [next, counted knows.bullish.run_le, counted knows.above.run_le,
    counted knows.bearish.run_le, Option.bind_eq_bind, Option.bind_some]
  unfold Scan.next
  cases asked : v.extension with
  | none => rfl
  | continuation length pad => rfl
  | compression threshold length =>
    simp only [counted (knows.compressed threshold length asked).run_le, Option.bind_some]
    rfl

/-- **The guard** counts in words, however large its window and its run length are. -/
theorem blocks_eq (knows : s.Knows v l (i + 1)) (few : i + 1 < 2 ^ 63) :
    blocks v.guard s.lastFall i = some (v.guard.blocks s.lastFall i) := by
  simp only [blocks, plus_eq (show i + 1 < 2 ^ 64 by omega), Option.bind_eq_bind, Option.bind_some]
  cases found : s.lastFall with
  | none => rfl
  | some last =>
    -- only here does the run length get into a sum, and here it is that of a fall
    obtain ⟨before, _, total⟩ := knows.fall_le found
    simp only [plus_eq (show i + 1 - v.guard.window + v.guard.runLength < 2 ^ 64 by omega),
      plus_eq (show last + 1 < 2 ^ 64 by omega), Option.bind_some]
    rfl

theorem allows_eq (knows : s.Knows v l (i + 1)) (few : i + 1 < 2 ^ 63) :
    allows v.guard s.lastFall i = some (v.guard.allows s.lastFall i) := by
  simp only [allows, plus_eq (show i + 1 < 2 ^ 64 by omega), blocks_eq knows few,
    Option.bind_eq_bind, Option.bind_some, BearishGuard.allows]
  by_cases short : i + 1 < v.guard.window
  · rw [if_pos short, decide_eq_false (Nat.not_le_of_lt short)]
    rfl
  · rw [if_neg short, decide_eq_true (Nat.le_of_not_lt short)]
    rfl

omit [Quantity α] in
/-- **The averages some bars ago** are looked up where there are some. -/
theorem lagged_eq (inside : i < l.length) :
    lagged (l.map Prod.snd) i = some ((l.take i).map Prod.snd).reverse[slopeLag - 1]? := by
  rw [getElem?_earlier inside, lagged]
  by_cases enough : slopeLag ≤ i
  · have before : i - slopeLag < l.length := by omega
    simp only [minus_eq enough, if_pos enough, List.getElem?_map, List.getElem?_eq_getElem before,
      Option.map_some]
  · rw [minus, if_neg enough, if_neg enough]

theorem enters_eq (knows : s.Knows v l (i + 1))
    (earlier : s.earlier = ((l.take i).map Prod.snd).reverse) (inside : i < l.length)
    (few : i + 1 < 2 ^ 63) :
    enters s v (l.map Prod.snd) i b avg = some (s.enters v i b avg) := by
  rw [enters, lagged_eq inside, Option.bind_eq_bind, Option.bind_some, allows_eq knows few,
    Scan.enters, ← earlier]
  split
  · rename_i others
    rw [others, Bool.true_and]
  · rename_i others
    rw [Bool.eq_false_of_not_eq_true others, Bool.false_and]
    rfl

end Pass

/-- **The pass** stays within words from any bar on. -/
theorem signalsFrom_eq (v : Variant α) {l : List (Bar α × Averages α)} (few : l.length < 2 ^ 63)
    (rest : List (Bar α × Averages α)) :
    ∀ {i : Nat} {s : Scan α}, s.Reaches v l i rest →
      signalsFrom v (l.map Prod.snd) i s rest = some (v.signalsFrom i s rest) := by
  induction rest with
  | nil => exact fun _ => rfl
  | cons x rest ih =>
    intro i s reaches
    obtain ⟨b, avg⟩ := x
    have inside : i < l.length := (List.getElem?_eq_some_iff.mp reaches.here).1
    have knows := reaches.knows.next reaches.here
    simp only [signalsFrom, next_eq reaches.knows (show i + 1 < 2 ^ 64 by omega),
      enters_eq knows reaches.earlier inside (by omega), plus_eq (show i + 1 < 2 ^ 64 by omega),
      ih reaches.next, Option.bind_eq_bind, Option.bind_some]
    rfl

theorem signalsWith_eq (v : Variant α) {bars : List (Bar α)} {averages : List (Averages α)}
    (same : averages.length = bars.length) (few : bars.length < 2 ^ 63) :
    signalsWith v bars averages = some (v.signalsWith bars averages) := by
  have size : (bars.zip averages).length < 2 ^ 63 := by
    rwa [List.length_zip, same, Nat.min_self]
  have pass := signalsFrom_eq v size _ (Scan.start_reaches v (bars.zip averages))
  rwa [List.map_snd_zip same.le] at pass

end Bounded

end PullbackTrading

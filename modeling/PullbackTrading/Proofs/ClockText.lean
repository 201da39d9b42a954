/-
**A time of day reads back from its text.**

* `Spells`: digits in a fixed width that spell out a number, as `padded` writes them;
* `whole_looseTime`: each part of the text is read up to the mark that ends it, and the fraction,
  cut to groups of three digits, is still exact;
* `Gives`: what holds of every value that a reader gives; of a time of day, that it is `Proper`.

So the times that read back are the proper ones, and no text names any other.
-/

import Mathlib.Algebra.Group.Nat.Defs
import Mathlib.Data.List.TakeWhile
import PullbackTrading.Proofs.Lettercase
import PullbackTrading.Time.Reader

namespace PullbackTrading

/-- A time within the day; only the last second of a minute goes on as a leap second. -/
structure TimeOfDay.Proper (t : TimeOfDay) : Prop where
  second : t.second < 86400
  nanosecond : t.nanosecond < 1000000000 ∨ t.second % 60 = 59 ∧ t.nanosecond < 2000000000

instance TimeOfDay.decidableProper (t : TimeOfDay) : Decidable t.Proper :=
  decidable_of_iff
    (t.second < 86400 ∧
      (t.nanosecond < 1000000000 ∨ t.second % 60 = 59 ∧ t.nanosecond < 2000000000))
    ⟨fun both => ⟨both.1, both.2⟩, fun proper => ⟨proper.second, proper.nanosecond⟩⟩

/-! ### Digits -/

/-- Digits in a fixed width that spell out a number. -/
structure Spells (s : List Char) (width n : Nat) : Prop where
  digits : ∀ c ∈ s, c.isDigit = true
  length : s.length = width
  value : Nat.ofDigitChars 10 s 0 = n

theorem spells_padded {width n : Nat} (wide : 0 < width) (small : n < 10 ^ width) :
    Spells (padded width n).toList width n := by
  have form : (padded width n).toList =
      List.replicate (width - (Nat.toDigits 10 n).length) '0' ++ Nat.toDigits 10 n := by
    rw [padded, String.toList_append, String.toList_ofList, Nat.toString_eq_repr, Nat.toList_repr,
      ← String.length_toList, Nat.toList_repr]
  have fits : (Nat.toDigits 10 n).length ≤ width :=
    (Nat.length_toDigits_le_iff (by decide) wide).mpr small
  rw [form]
  refine ⟨fun c member => ?_, ?_, ?_⟩
  · rcases List.mem_append.mp member with zero | digit
    · rw [List.eq_of_mem_replicate zero]
      rfl
    · exact Nat.isDigit_of_mem_toDigits (by decide) (by decide) digit
  · rw [List.length_append, List.length_replicate]
    omega
  · rw [Nat.ofDigitChars_append, Nat.ofDigitChars_replicate_zero, Nat.mul_zero,
      Nat.ofDigitChars_toDigits (by decide) (by decide)]

theorem ofDigitChars_lt {s : List Char} (digits : ∀ c ∈ s, c.isDigit = true) :
    ∀ front : Nat, Nat.ofDigitChars 10 s front < (front + 1) * 10 ^ s.length := by
  induction s with
  | nil =>
    intro front
    show front < (front + 1) * 1
    omega
  | cons c rest ih =>
    intro front
    obtain ⟨_, atMost⟩ := Char.isDigit_iff_toNat.mp (digits c List.mem_cons_self)
    have more : 10 * front + (c.toNat - '0'.toNat) + 1 ≤ (front + 1) * 10 := by
      have zero : '0'.toNat = 48 := rfl
      have nine : '9'.toNat = 57 := rfl
      omega
    calc Nat.ofDigitChars 10 (c :: rest) front
        = Nat.ofDigitChars 10 rest (10 * front + (c.toNat - '0'.toNat)) := rfl
      _ < (10 * front + (c.toNat - '0'.toNat) + 1) * 10 ^ rest.length :=
          ih (fun d member => digits d (List.mem_cons_of_mem _ member)) _
      _ ≤ (front + 1) * 10 * 10 ^ rest.length := Nat.mul_le_mul_right _ more
      _ = (front + 1) * 10 ^ (c :: rest).length := by
          rw [List.length_cons, Nat.pow_succ', Nat.mul_assoc]

/-! ### What is read of a text -/

namespace TimeReader

variable {s rest : List Char} {width n : Nat}

theorem number_run {least : Nat} (spells : Spells s width n) (enough : least ≤ width) :
    (number least width).run (s ++ rest) = some (n, rest) := by
  have digits : ((s ++ rest).take width).takeWhile Char.isDigit = s := by
    rw [List.take_left' spells.length, List.takeWhile_eq_self_iff]
    exact spells.digits
  have value : s.foldl (fun n c => 10 * n + (c.toNat - '0'.toNat)) 0 = n := spells.value
  have long : ¬ s.length < least := by
    rw [spells.length]
    omega
  simp only [number, StateT.run_bind, StateT.run_get, pure_bind, digits, if_neg long,
    StateT.run_set, List.drop_left, value, StateT.run_pure]
  rfl

theorem looseNumber_run {low high : Nat} (spells : Spells s 2 n) (inside : low ≤ n ∧ n ≤ high) :
    (looseNumber low high).run (s ++ rest) = some (n, rest) := by
  have bare : Text.trimStart (s ++ rest) = s ++ rest := by
    rw [Text.trimStart_eq_self_iff]
    intro c first
    cases s with
    | nil => cases spells.length
    | cons d more =>
      cases first
      exact (Text.settled_of_isDigit (spells.digits c List.mem_cons_self)).2
  simp only [looseNumber, blanks, numberIn, StateT.run_bind, StateT.run_modify, pure_bind, bare,
    number_run spells (show 1 ≤ 2 by decide), Option.bind_eq_bind, Option.bind_some,
    if_neg (show ¬ (n < low ∨ high < n) by omega), StateT.run_pure]
  rfl

theorem orElse_run {α : Type} (reader other : Reader α) :
    (reader <|> other).run s = (reader.run s <|> other.run s) := rfl

theorem colon_run : (looseMark ':').run (':' :: rest) = some ((), rest) := rfl

/-- Digits after the point count as nanoseconds, as if zeros came after them. -/
theorem fraction_run {unit : Nat} (spells : Spells s width n) (wide : 0 < width)
    (fits : width ≤ 9) (scale : 10 ^ (9 - width) = unit) :
    fraction.run ('.' :: s) = some (n * unit, []) := by
  have all : s.take 9 = s := List.take_of_length_le (by rw [spells.length]; exact fits)
  have digits : s.takeWhile Char.isDigit = s := List.takeWhile_eq_self_iff.mpr spells.digits
  have value : s.foldl (fun n c => 10 * n + (c.toNat - '0'.toNat)) 0 = n := spells.value
  have nonempty : ¬ s.isEmpty = true := by
    intro empty
    rw [List.isEmpty_iff.mp empty] at spells
    exact absurd spells.length (by rw [List.length_nil]; omega)
  simp only [fraction, StateT.run_bind, StateT.run_get, pure_bind, all, digits, if_neg nonempty,
    StateT.run_set, StateT.run_pure, value, List.drop_length, List.dropWhile_nil]
  rw [spells.length, ← scale]
  rfl

/-- **The fewest groups of three digits are exact.** -/
theorem fraction_fractionText (small : n < 1000000000) :
    fraction.run (TimeOfDay.fractionText n).toList = some (n, []) := by
  have point : ∀ digits : String, ("." ++ digits).toList = '.' :: digits.toList := fun _ => by
    rw [String.toList_append]
    rfl
  unfold TimeOfDay.fractionText
  split
  · rename_i none
    rw [none]
    rfl
  · split
    · rename_i whole
      rw [point, fraction_run (spells_padded (by decide) (by omega)) (by decide) (by decide)
        (show 10 ^ (9 - 3) = 1000000 by decide), Nat.div_mul_cancel (Nat.dvd_of_mod_eq_zero whole)]
    · split
      · rename_i whole
        rw [point, fraction_run (spells_padded (by decide) (by omega)) (by decide) (by decide)
          (show 10 ^ (9 - 6) = 1000 by decide), Nat.div_mul_cancel (Nat.dvd_of_mod_eq_zero whole)]
      · rw [point, fraction_run (spells_padded (by decide) (by omega)) (by decide) (by decide)
          (show 10 ^ (9 - 9) = 1 by decide), Nat.mul_one]

/-- **Each part of a time is read up to the mark that ends it.** -/
theorem whole_looseTime {hour minute second nanosecond : Nat} (hours : hour ≤ 23)
    (minutes : minute ≤ 59) (seconds : second ≤ 60) (small : nanosecond < 1000000000) :
    whole looseTime (padded 2 hour ++ ":" ++ padded 2 minute ++ ":" ++ padded 2 second
        ++ TimeOfDay.fractionText nanosecond) =
      some (timeOfDay hour minute second nanosecond) := by
  have spelled : ∀ {n : Nat}, n ≤ 60 → Spells (padded 2 n).toList 2 n :=
    fun small => spells_padded (by decide) (by omega)
  have own : looseSeconds.run (':' :: ((padded 2 second).toList ++
      (TimeOfDay.fractionText nanosecond).toList)) = some ((second, nanosecond), []) := by
    simp only [looseSeconds, StateT.run_bind, colon_run, Option.bind_eq_bind, Option.bind_some,
      looseNumber_run (spelled seconds) ⟨Nat.zero_le _, seconds⟩, fraction_fractionText small]
    rfl
  have ending : (looseSeconds <|> pure (0, 0)).run (':' :: ((padded 2 second).toList ++
      (TimeOfDay.fractionText nanosecond).toList)) = some ((second, nanosecond), []) := by
    -- the seconds are there, so the reader does not go on without them
    rw [orElse_run, own]
    rfl
  have run : looseTime.run ((padded 2 hour).toList ++ ':' :: ((padded 2 minute).toList ++ ':' ::
      ((padded 2 second).toList ++ (TimeOfDay.fractionText nanosecond).toList))) =
        some (timeOfDay hour minute second nanosecond, []) := by
    simp only [looseTime, StateT.run_bind, Option.bind_eq_bind, Option.bind_some, colon_run,
      looseNumber_run (spelled (show hour ≤ 60 by omega)) ⟨Nat.zero_le _, hours⟩,
      looseNumber_run (spelled (show minute ≤ 60 by omega)) ⟨Nat.zero_le _, minutes⟩, ending]
    rfl
  simp only [whole, String.toList_append, show ":".toList = [':'] from rfl, List.append_assoc,
    List.cons_append, List.nil_append, run]

/-! ### What a reader gives -/

/-- Every value that a reader gives has a property. -/
def Gives {α : Type} (reader : Reader α) (property : α → Prop) : Prop :=
  ∀ ⦃s value rest⦄, reader.run s = some (value, rest) → property value

variable {α β : Type}

theorem gives_any (reader : Reader α) : Gives reader fun _ => True := fun _ _ _ _ => trivial

theorem gives_pure {value : α} {property : α → Prop} (holds : property value) :
    Gives (pure value) property := by
  intro s result rest run
  cases run
  exact holds

theorem Gives.bind {reader : Reader α} {next : α → Reader β} {first : α → Prop}
    {second : β → Prop} (given : Gives reader first)
    (onwards : ∀ value, first value → Gives (next value) second) :
    Gives (reader >>= next) second := by
  intro s result rest run
  rw [StateT.run_bind, Option.bind_eq_bind, Option.bind_eq_some_iff] at run
  obtain ⟨⟨value, tail⟩, before, after⟩ := run
  exact onwards value (given before) after

theorem Gives.ite {reader other : Reader α} {property : α → Prop} {c : Prop} [Decidable c]
    (given : Gives reader property) (otherwise : Gives other property) :
    Gives (if c then reader else other) property := by
  split
  · exact given
  · exact otherwise

theorem Gives.orElse {reader other : Reader α} {property : α → Prop}
    (given : Gives reader property) (otherwise : Gives other property) :
    Gives (reader <|> other) property := by
  intro s result rest run
  rw [orElse_run, Option.orElse_eq_orElse, Option.orElse_eq_or, Option.or_eq_some_iff] at run
  rcases run with own | ⟨-, own⟩
  · exact given own
  · exact otherwise own

theorem gives_looseNumber (low high : Nat) :
    Gives (looseNumber low high) fun n => low ≤ n ∧ n ≤ high := by
  refine (gives_any blanks).bind fun _ _ => (gives_any (number 1 2)).bind fun n _ => ?_
  intro s value rest run
  split at run
  · cases run
  · cases run
    omega

/-- Up to nine digits count less than a whole second. -/
theorem gives_fraction : Gives fraction fun n => n < 1000000000 := by
  refine (gives_any get).bind fun s _ => ?_
  split
  · rename_i more
    let digits := (more.take 9).takeWhile Char.isDigit
    have few : digits.length ≤ 9 :=
      ((List.takeWhile_prefix _).length_le).trans (List.length_take_le 9 more)
    have small : Nat.ofDigitChars 10 digits 0 * 10 ^ (9 - digits.length) < 1000000000 :=
      calc Nat.ofDigitChars 10 digits 0 * 10 ^ (9 - digits.length)
          < 1 * 10 ^ digits.length * 10 ^ (9 - digits.length) :=
            Nat.mul_lt_mul_of_pos_right
              (ofDigitChars_lt (fun c member => List.mem_takeWhile_imp member) 0)
              (Nat.pow_pos (by decide))
        _ = 10 ^ 9 := by rw [Nat.one_mul, ← Nat.pow_add, Nat.add_sub_cancel' few]
    have given : Gives (do
        set ((more.drop digits.length).dropWhile Char.isDigit)
        return Nat.ofDigitChars 10 digits 0 * 10 ^ (9 - digits.length) : Reader Nat)
        fun n => n < 1000000000 :=
      (gives_any _).bind fun _ _ => gives_pure small
    exact Gives.ite ((gives_any _).bind fun _ _ => given) given
  · exact gives_pure (by decide)

theorem proper_timeOfDay {hour minute second nanosecond : Nat} (hours : hour ≤ 23)
    (minutes : minute ≤ 59) (seconds : second ≤ 60) (small : nanosecond < 1000000000) :
    (timeOfDay hour minute second nanosecond).Proper := by
  unfold timeOfDay
  split
  · exact ⟨by dsimp only; omega, Or.inr ⟨by dsimp only; omega, by dsimp only; omega⟩⟩
  · exact ⟨by dsimp only; omega, Or.inl small⟩

/-- **Every time of day that is read is proper.** -/
theorem gives_looseTime : Gives looseTime TimeOfDay.Proper := by
  have seconds : Gives (looseSeconds <|> pure (0, 0))
      fun parts => parts.1 ≤ 60 ∧ parts.2 < 1000000000 := by
    refine Gives.orElse ?_ (gives_pure ⟨by decide, by decide⟩)
    exact (gives_any _).bind fun _ _ => (gives_looseNumber 0 60).bind fun second inside =>
      gives_fraction.bind fun nanosecond small => gives_pure ⟨inside.2, small⟩
  refine (gives_looseNumber 0 23).bind fun hour hours => (gives_any _).bind fun _ _ =>
    (gives_looseNumber 0 59).bind fun minute minutes => seconds.bind fun parts small => ?_
  exact (gives_any _).bind fun _ _ =>
    gives_pure (proper_timeOfDay hours.2 minutes.2 small.1 small.2)

end TimeReader

/-! ### Times of day -/

namespace TimeOfDay

theorem proper_of_ofText? {s : String} {t : TimeOfDay} (read : ofText? s = some t) : t.Proper := by
  unfold ofText? TimeReader.whole at read
  split at read
  · rename_i value run
    cases read
    exact TimeReader.gives_looseTime run
  · cases read

/-- A proper time is put together from the parts that are written. -/
theorem ofText?_text {t : TimeOfDay} (proper : t.Proper) : ofText? t.text = some t := by
  obtain ⟨second, nanosecond⟩ := t
  obtain ⟨day, within⟩ := proper
  dsimp only at day within
  have hours : second / 3600 ≤ 23 := by omega
  have minutes : second / 60 % 60 ≤ 59 := by omega
  have seconds : second % 60 + (if 1000000000 ≤ nanosecond then 1 else 0) ≤ 60 := by
    split <;> omega
  have small : (if 1000000000 ≤ nanosecond then nanosecond - 1000000000 else nanosecond) <
      1000000000 := by
    split <;> omega
  have parts : TimeReader.timeOfDay (second / 3600) (second / 60 % 60)
      (second % 60 + (if 1000000000 ≤ nanosecond then 1 else 0))
      (if 1000000000 ≤ nanosecond then nanosecond - 1000000000 else nanosecond) =
        ⟨second, nanosecond⟩ := by
    unfold TimeReader.timeOfDay
    by_cases leap : 1000000000 ≤ nanosecond
    · rw [if_pos leap, if_pos leap, if_pos (by omega), TimeOfDay.mk.injEq]
      omega
    · rw [if_neg leap, if_neg leap, if_neg (by omega), TimeOfDay.mk.injEq]
      omega
  have read := TimeReader.whole_looseTime hours minutes seconds small
  rw [parts] at read
  exact read

/-- **The times of day that read back from their text are the proper ones.** -/
theorem ofText?_text_iff (t : TimeOfDay) : ofText? t.text = some t ↔ t.Proper :=
  ⟨proper_of_ofText?, ofText?_text⟩

/-- A leap second is written as a sixtieth second. -/
example : text ⟨86399, 1500000000⟩ = "23:59:60.500" := by decide +kernel

end TimeOfDay

end PullbackTrading

/-
**Trimming and lower case settle a text.**

* `trimChars_trimChars`: what has been trimmed has no blanks at its ends (`BareEnds`), and nothing
  is left to trim;
* `lowercase_lowercase`: every lower-case form stands for itself (`Settled`), so a text in lower
  case stays as it is;
* `BareEnds.lowerAfter`: lower case makes no blanks, so a trimmed text stays trimmed.

What is said of letters rests on the table of cases: the lower-case forms of a run of letters lie at
equal steps too, and `forms_spared` compares them with all that they must not meet, run by run.
-/

import Mathlib.Data.List.DropRight
import Mathlib.Data.List.TakeWhile
import PullbackTrading.Text.Blank
import PullbackTrading.Text.Lowercase

namespace PullbackTrading.Text

/-! ### Trimming -/

/-- No blank at either end. -/
def BareEnds (l : List Char) : Prop :=
  (∀ c ∈ l.head?, isBlank c = false) ∧ ∀ c ∈ l.getLast?, isBlank c = false

/-- There is nothing to drop exactly if there is no blank in front. -/
theorem trimStart_eq_self_iff {l : List Char} :
    trimStart l = l ↔ ∀ c ∈ l.head?, isBlank c = false := by
  unfold trimStart
  rw [List.dropWhile_eq_self_iff]
  cases l <;> simp

theorem trimChars_eq_self_iff {l : List Char} : trimChars l = l ↔ BareEnds l := by
  constructor
  · intro same
    have back : trimStart (trimStart l).reverse = l.reverse := by
      rw [← congrArg List.reverse same, trimChars, List.reverse_reverse]
    have front : trimStart l = l := by
      have short := List.dropWhile_suffix isBlank (l := (trimStart l).reverse)
      have shorter := List.dropWhile_suffix isBlank (l := l)
      refine shorter.eq_of_length_le ?_
      have length := short.length_le
      rwa [show (trimStart l).reverse.dropWhile isBlank = l.reverse from back, List.length_reverse,
        List.length_reverse] at length
    rw [front] at back
    refine ⟨trimStart_eq_self_iff.mp front, ?_⟩
    rw [← List.head?_reverse]
    exact trimStart_eq_self_iff.mp back
  · rintro ⟨front, back⟩
    rw [← List.head?_reverse] at back
    rw [trimChars, trimStart_eq_self_iff.mpr front, trimStart_eq_self_iff.mpr back,
      List.reverse_reverse]

/-- **What has been trimmed is trimmed.** -/
theorem trimChars_trimChars (l : List Char) : trimChars (trimChars l) = trimChars l := by
  have back : trimStart (trimChars l).reverse = (trimChars l).reverse := by
    rw [trimChars, List.reverse_reverse]
    exact List.dropWhile_idempotent _ _
  have front : trimStart (trimChars l) = trimChars l := by
    refine trimStart_eq_self_iff.mpr fun c first => ?_
    obtain ⟨dropped, whole⟩ := List.dropWhile_suffix isBlank (l := (trimStart l).reverse)
    have start : trimChars l ++ dropped.reverse = trimStart l := by
      rw [trimChars, ← List.reverse_append]
      exact (congrArg List.reverse whole).trans (List.reverse_reverse _)
    refine trimStart_eq_self_iff.mp (List.dropWhile_idempotent isBlank l) c ?_
    show c ∈ (trimStart l).head?
    rw [← start, List.head?_append, Option.mem_def.mp first]
    rfl
  rw [trimChars, front, back, List.reverse_reverse]

/-- A text without any blank has none at its ends. -/
theorem bareEnds_of_forall {l : List Char} (bare : ∀ c ∈ l, isBlank c = false) : BareEnds l :=
  ⟨fun c first => bare c (List.mem_of_head? first),
    fun c last => bare c (List.mem_of_getLast? last)⟩

/-! ### The forms of a run -/

namespace CaseRun

/-- The lower-case form of the first letter. -/
def lowerFirst (r : CaseRun) : Nat := ((r.first : Int) + r.offset).toNat

/-- Whether the lower-case forms of a run keep clear of the codes at equal steps between two ends:
they lie on one side of them, or fall between them because both go in steps of two. -/
def avoids (r : CaseRun) (first last step : Nat) : Bool :=
  Nat.blt (r.lowerFirst + (r.last - r.first)) first || Nat.blt last r.lowerFirst ||
    ((Nat.beq r.step 2 || Nat.beq r.first r.last) && Nat.beq step 2 &&
      Nat.beq ((r.lowerFirst + first) % 2) 1)

/-- Whether the way to the lower-case forms does not lead out of the codes. -/
def reaches (r : CaseRun) : Bool :=
  Nat.ble (-r.offset).toNat r.first && Nat.blt (r.lowerFirst + (r.last - r.first)) 0x110000

theorem lower?_eq_some {r : CaseRun} (reaches : r.reaches = true) {code lower : Nat}
    (found : r.lower? code = some lower) :
    r.first ≤ code ∧ code ≤ r.last ∧ (code - r.first) % r.step = 0 ∧
      lower = r.lowerFirst + (code - r.first) ∧ lower < 0x110000 := by
  rw [CaseRun.reaches, Bool.and_eq_true, Nat.ble_eq, Nat.blt_eq, lowerFirst] at reaches
  unfold lower? at found
  split at found
  · rename_i inside
    refine ⟨inside.1, inside.2.1, inside.2.2, ?_⟩
    rw [← Option.some.inj found, lowerFirst]
    omega
  · cases found

/-- A lower-case form is none of the codes that its run keeps clear of. -/
theorem not_of_avoids {r : CaseRun} (reaches : r.reaches = true) {first last step : Nat}
    (clear : r.avoids first last step = true) {code lower : Nat}
    (found : r.lower? code = some lower) :
    ¬ (first ≤ lower ∧ lower ≤ last ∧ (lower - first) % step = 0) := by
  obtain ⟨least, most, steps, rfl, _⟩ := lower?_eq_some reaches found
  simp only [avoids, Bool.or_eq_true, Bool.and_eq_true, Nat.blt_eq, Nat.beq_eq] at clear
  rintro ⟨above, below, steps'⟩
  obtain (left | right) | ⟨⟨two | single, two'⟩, odd⟩ := clear
  · omega
  · omega
  · rw [two] at steps
    rw [two'] at steps'
    omega
  · rw [two'] at steps'
    omega

end CaseRun

/-- What no lower-case form is: a letter with another lower-case form, a code without a character, a
blank. -/
def spared : List (Nat × Nat × Nat) :=
  caseRuns.map (fun r => (r.first, r.last, r.step)) ++
    [(0x130, 0x130, 1), (0xD800, 0xDFFF, 1)] ++ blankRanges.map fun r => (r.1, r.2, 1)

/-- No run meets what is spared, as comparing it with each of them shows. -/
theorem forms_spared : (caseRuns.all fun r =>
    r.reaches && spared.all fun s => r.avoids s.1 s.2.1 s.2.2) = true := by
  decide +kernel

/-- A lower-case form from the table is a character, is not among what is spared. -/
theorem spared_of_lower {code lower : Nat}
    (found : caseRuns.findSome? (fun r => r.lower? code) = some lower) :
    lower < 0x110000 ∧ ∀ s ∈ spared, ¬ (s.1 ≤ lower ∧ lower ≤ s.2.1 ∧ (lower - s.1) % s.2.2 = 0) := by
  obtain ⟨r, member, here⟩ := List.exists_of_findSome?_eq_some found
  have checked := List.all_eq_true.mp forms_spared r member
  rw [Bool.and_eq_true, List.all_eq_true] at checked
  obtain ⟨_, _, _, _, within⟩ := CaseRun.lower?_eq_some checked.1 here
  exact ⟨within, fun s listed => CaseRun.not_of_avoids checked.1 (checked.2 s listed) here⟩

/-! ### Lower-case forms -/

/-- A character that is its own lower-case form. -/
def Settled (c : Char) : Prop := lowerChar c = [c]

instance (c : Char) : Decidable (Settled c) := inferInstanceAs (Decidable (_ = _))

/-- What the lower-case forms of a character are like: each is its own, and none is a blank unless
the character is one. -/
def FormsOf (c : Char) (forms : List Char) : Prop :=
  forms ≠ [] ∧ ∀ d ∈ forms, Settled d ∧ (isBlank c = false → isBlank d = false)

/-- Only the capitals of ASCII have another lower-case form in ASCII. -/
theorem toLower_eq_self {c : Char} (small : ¬ (0x41 ≤ c.toNat ∧ c.toNat ≤ 0x5A)) : c.toLower = c :=
  dif_neg small

theorem settled_of_ascii {c : Char} (ascii : c.toNat < 0x80)
    (small : ¬ (0x41 ≤ c.toNat ∧ c.toNat ≤ 0x5A)) : Settled c := by
  rw [Settled, lowerChar, if_pos ascii, toLower_eq_self small]

/-- In ASCII, lower case is settled and makes no blanks, as going through the letters shows. -/
theorem ascii_toLower : ∀ n < 0x80, (Char.ofNat n).toLower.toNat < 0x80 ∧
    (Char.ofNat n).toLower.toLower = (Char.ofNat n).toLower ∧
    (isBlank (Char.ofNat n) = false → isBlank (Char.ofNat n).toLower = false) := by
  decide +kernel

theorem formsOf_toLower {c : Char} (ascii : c.toNat < 0x80) : FormsOf c [c.toLower] := by
  obtain ⟨small, same, bare⟩ := ascii_toLower c.toNat ascii
  rw [Char.ofNat_toNat] at small same bare
  refine ⟨List.cons_ne_nil _ _, fun d member => ?_⟩
  rw [List.mem_singleton.mp member]
  refine ⟨?_, bare⟩
  rw [Settled, lowerChar, if_pos small, same]

/-- A lower-case form from the table is its own and no blank. -/
theorem formsOf_lower {c : Char} {lower : Nat}
    (found : caseRuns.findSome? (fun r => r.lower? c.toNat) = some lower) :
    FormsOf c [Char.ofNat lower] := by
  obtain ⟨within, clear⟩ := spared_of_lower found
  have runs : ∀ r ∈ caseRuns, r.lower? lower = none := by
    intro r member
    refine if_neg (clear (r.first, r.last, r.step) ?_)
    exact List.mem_append_left _ (List.mem_append_left _ (List.mem_map_of_mem member))
  have special : ∀ s ∈ [(0x130, 0x130, 1), (0xD800, 0xDFFF, 1)],
      ¬ (s.1 ≤ lower ∧ lower ≤ s.2.1 ∧ (lower - s.1) % s.2.2 = 0) := fun s member =>
    clear s (List.mem_append_left _ (List.mem_append_right _ member))
  simp only [List.forall_mem_cons, Nat.mod_one, and_true] at special
  have code : (Char.ofNat lower).toNat = lower := by
    rw [Char.ofNat, dif_pos (show Nat.isValidChar lower by unfold Nat.isValidChar; omega)]
    rfl
  have blank : isBlank (Char.ofNat lower) = false := by
    refine List.any_eq_false.mpr fun r member inside => ?_
    rw [code, Bool.and_eq_true, decide_eq_true_eq, decide_eq_true_eq] at inside
    exact clear (r.1, r.2, 1) (List.mem_append_right _ (List.mem_map_of_mem member))
      ⟨inside.1, inside.2, Nat.mod_one _⟩
  have capital : ¬ (0x41 ≤ lower ∧ lower ≤ 0x5A) := by
    have first := runs ⟨0x41, 0x5A, 1, 32⟩ List.mem_cons_self
    intro inside
    rw [CaseRun.lower?, if_pos ⟨inside.1, inside.2, Nat.mod_one _⟩] at first
    cases first
  have settled : Settled (Char.ofNat lower) := by
    by_cases ascii : (Char.ofNat lower).toNat < 0x80
    · exact settled_of_ascii ascii (by rwa [code])
    · rw [Settled, lowerChar, if_neg ascii, code, if_neg (by omega),
        List.findSome?_eq_none_iff.mpr runs]
  refine ⟨List.cons_ne_nil _ _, fun d member => ?_⟩
  rw [List.mem_singleton.mp member]
  exact ⟨settled, fun _ => blank⟩

/-- The lower-case forms of a character by itself. -/
theorem formsOf_lowerChar (c : Char) : FormsOf c (lowerChar c) := by
  unfold lowerChar
  split
  · rename_i ascii
    exact formsOf_toLower ascii
  · split
    · refine ⟨List.cons_ne_nil _ _, fun d member => ?_⟩
      have form : Settled d ∧ isBlank d = false := by
        rcases List.mem_pair.mp member with rfl | rfl <;> decide +kernel
      exact form.imp_right fun bare _ => bare
    · cases found : caseRuns.findSome? fun r => r.lower? c.toNat with
      | some lower => exact formsOf_lower found
      | none =>
        refine ⟨List.cons_ne_nil _ _, fun d member => ?_⟩
        rw [List.mem_singleton.mp member]
        refine ⟨?_, id⟩
        rename_i ascii dotted
        rw [Settled, lowerChar, if_neg ascii, if_neg dotted, found]

/-! ### Texts in lower case -/

/-- A text in lower case begins with the forms of its first character. -/
theorem lowerAfter_cons (before : List Char) (c : Char) (rest : List Char) :
    ∃ forms, FormsOf c forms ∧
      lowerAfter before (c :: rest) = forms ++ lowerAfter (c :: before) rest := by
  have sigma : ∀ d ∈ ['ς', 'σ'], FormsOf c [d] := by
    intro d member
    have form : Settled d ∧ isBlank d = false := by
      rcases List.mem_pair.mp member with rfl | rfl <;> decide +kernel
    refine ⟨List.cons_ne_nil _ _, fun e same => ?_⟩
    rw [List.mem_singleton.mp same]
    exact form.imp_right fun bare _ => bare
  refine ⟨_, ?_, rfl⟩
  split
  · split
    · exact sigma 'ς' List.mem_cons_self
    · exact sigma 'σ' (List.mem_cons_of_mem _ List.mem_cons_self)
  · exact formsOf_lowerChar c

/-- Every character of a text in lower case is its own lower-case form. -/
theorem settled_of_mem_lowerAfter {l : List Char} :
    ∀ {before : List Char}, ∀ d ∈ lowerAfter before l, Settled d := by
  induction l with
  | nil => exact fun d member => nomatch member
  | cons c rest ih =>
    intro before d member
    obtain ⟨forms, ⟨_, each⟩, same⟩ := lowerAfter_cons before c rest
    rw [same] at member
    rcases List.mem_append.mp member with here | later
    · exact (each d here).1
    · exact ih d later

/-- A text of characters that are their own lower-case forms is in lower case. The capital sigma is
none of them. -/
theorem lowerAfter_of_settled {l : List Char} :
    ∀ {before : List Char}, (∀ c ∈ l, Settled c) → lowerAfter before l = l := by
  induction l with
  | nil => exact fun _ => rfl
  | cons c rest ih =>
    intro before settled
    have own : lowerChar c = [c] := settled c List.mem_cons_self
    have small : c ≠ 'Σ' := by
      rintro rfl
      exact absurd own (by decide +kernel)
    rw [lowerAfter, if_neg small, own, ih fun d member => settled d (List.mem_cons_of_mem _ member)]
    rfl

/-- **Lower case is settled.** -/
theorem lowercase_lowercase (s : String) : lowercase (lowercase s) = lowercase s := by
  unfold lowercase
  rw [String.toList_ofList, lowerAfter_of_settled settled_of_mem_lowerAfter]

theorem lowerAfter_ne_nil {l : List Char} (some : l ≠ []) (before : List Char) :
    lowerAfter before l ≠ [] := by
  cases l with
  | nil => exact absurd rfl some
  | cons c rest =>
    obtain ⟨forms, ⟨nonempty, _⟩, same⟩ := lowerAfter_cons before c rest
    rw [same]
    exact List.append_ne_nil_of_left_ne_nil nonempty _

theorem bare_getLast?_lowerAfter {l : List Char} :
    ∀ {before : List Char}, (∀ c ∈ l.getLast?, isBlank c = false) →
      ∀ d ∈ (lowerAfter before l).getLast?, isBlank d = false := by
  induction l with
  | nil => exact fun _ d last => nomatch last
  | cons c rest ih =>
    intro before bare d last
    obtain ⟨forms, ⟨_, each⟩, same⟩ := lowerAfter_cons before c rest
    rw [same] at last
    cases rest with
    | nil =>
      rw [lowerAfter, List.append_nil] at last
      exact (each d (List.mem_of_getLast? last)).2 (bare c rfl)
    | cons c' rest =>
      rw [List.getLast?_append_of_ne_nil _ (lowerAfter_ne_nil (List.cons_ne_nil _ _) _)] at last
      refine ih (fun c last => bare c ?_) d last
      rwa [List.getLast?_cons_cons]

/-- **Lower case makes no blanks at the ends.** -/
theorem BareEnds.lowerAfter {l : List Char} (bare : BareEnds l) (before : List Char) :
    BareEnds (lowerAfter before l) := by
  refine ⟨fun d first => ?_, bare_getLast?_lowerAfter bare.2⟩
  cases l with
  | nil => cases first
  | cons c rest =>
    obtain ⟨forms, ⟨nonempty, each⟩, same⟩ := lowerAfter_cons before c rest
    rw [same, List.head?_append_of_ne_nil _ nonempty] at first
    exact (each d (List.mem_of_head? first)).2 (bare.1 c rfl)

/-! ### Digits -/

/-- A digit is its own lower-case form and no blank. -/
theorem settled_of_isDigit {c : Char} (digit : c.isDigit = true) :
    Settled c ∧ isBlank c = false := by
  have code : 48 ≤ c.toNat ∧ c.toNat ≤ 57 := Char.isDigit_iff_toNat.mp digit
  refine ⟨settled_of_ascii (by omega) (by omega), List.any_eq_false.mpr fun r member inside => ?_⟩
  have apart : ∀ r ∈ blankRanges, r.2 < 48 ∨ 57 < r.1 := by decide
  have away := apart r member
  rw [Bool.and_eq_true, decide_eq_true_eq, decide_eq_true_eq] at inside
  omega

/-! ### Plain texts -/

/-- A text that trimming and lower case leave as it is. -/
structure Plain (s : String) : Prop where
  trimmed : trim s = s
  lower : lowercase s = s

/-- **A text that has been trimmed and put in lower case is plain.** -/
theorem plain_lowercase_trim (s : String) : Plain (lowercase (trim s)) where
  trimmed := by
    have bare : BareEnds (trimChars s.toList) := trimChars_eq_self_iff.mp (trimChars_trimChars _)
    rw [trim, trim, lowercase, String.toList_ofList, String.toList_ofList,
      trimChars_eq_self_iff.mpr (bare.lowerAfter [])]
  lower := lowercase_lowercase _

/-- A text is plain if each of its characters is its own lower-case form and no blank. -/
theorem plain_of_forall {s : String} (each : ∀ c ∈ s.toList, Settled c ∧ isBlank c = false) :
    Plain s where
  trimmed := by
    rw [trim, trimChars_eq_self_iff.mpr (bareEnds_of_forall fun c member => (each c member).2),
      String.ofList_toList]
  lower := by
    rw [lowercase, lowerAfter_of_settled fun c member => (each c member).1, String.ofList_toList]

end PullbackTrading.Text

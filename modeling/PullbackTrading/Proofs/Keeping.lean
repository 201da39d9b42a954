/-
**What a document keeps of a value.**

A number that is not finite has no form in a document, and an unreadable value has none either: both
are written as `null`. So what is read again is the value as it is `kept`.

* `pretty_kept`: a value is written like what is kept of it;
* `ReadsBack`: what is kept of a written value is read as the same value;
* `fields?_kept` and `tagged?_kept`: records keep each field, and tagged values their kind;
* `readsBack_oneOf`, `readsBack_ofOption` and `OrderedMap.readsBack`: names, what may be absent, and
  values under keys.
-/

import PullbackTrading.Document.Market
import PullbackTrading.Document.Rule
import PullbackTrading.Json.Printer

namespace PullbackTrading

namespace Json

mutual

/-- What a document keeps of a value. -/
def kept : Json → Json
  | .real x => if x.isFinite then .real x else .null
  | .unreadable => .null
  | .array items => .array (keptItems items)
  | .object members => .object (keptMembers members)
  | value => value

/-- What a document keeps of items. -/
def keptItems : List Json → List Json
  | [] => []
  | item :: rest => kept item :: keptItems rest

/-- What a document keeps of members. -/
def keptMembers : List (String × Json) → List (String × Json)
  | [] => []
  | (key, value) :: rest => (key, kept value) :: keptMembers rest

end

theorem keptItems_eq_map (items : List Json) : keptItems items = items.map kept := by
  induction items with
  | nil => rfl
  | cons item rest ih => rw [keptItems, ih, List.map_cons]

theorem keptMembers_eq_map (members : List (String × Json)) :
    keptMembers members = members.map fun m => (m.1, m.2.kept) := by
  induction members with
  | nil => rfl
  | cons member rest ih => rw [keptMembers, ih, List.map_cons]

theorem kept_real {x : Float} (finite : x.isFinite = true) : kept (.real x) = .real x := by
  rw [kept, if_pos finite]

/-! ### What is kept is all that is written -/

mutual

theorem readable_kept : ∀ value : Json, value.kept.readable = true
  | .null | .bool _ | .natural _ | .string _ | .unreadable => rfl
  | .real x => by
    rw [kept]
    split <;> rfl
  | .array items => readableItems_kept items
  | .object members => readableMembers_kept members

theorem readableItems_kept : ∀ items : List Json, readableItems (keptItems items) = true
  | [] => rfl
  | item :: rest => by
    rw [keptItems, readableItems, readable_kept item, readableItems_kept rest]
    rfl

theorem readableMembers_kept : ∀ members : List (String × Json),
    readableMembers (keptMembers members) = true
  | [] => rfl
  | (_, value) :: rest => by
    rw [keptMembers, readableMembers, readable_kept value, readableMembers_kept rest]
    rfl

end

/-- A number that is not finite is written as `null`. -/
theorem realText_eq_null {x : Float} (infinite : ¬ x.isFinite = true) : realText x = "null" :=
  if_neg infinite

mutual

theorem prettyAt_kept (depth : Nat) : ∀ value : Json,
    prettyAt depth value.kept = prettyAt depth value
  | .null | .bool _ | .natural _ | .string _ | .unreadable => rfl
  | .real x => by
    rw [kept]
    split
    · rfl
    · rename_i infinite
      exact (realText_eq_null infinite).symm
  | .array [] | .object [] => rfl
  | .array (item :: rest) => by
    show "[" ++ prettyItems (depth + 1) (keptItems (item :: rest)) ++ lineStart depth ++ "]" =
      "[" ++ prettyItems (depth + 1) (item :: rest) ++ lineStart depth ++ "]"
    rw [prettyItems_kept (depth + 1) (item :: rest)]
  | .object (member :: rest) => by
    show "\x7b" ++ prettyMembers (depth + 1) (keptMembers (member :: rest)) ++ lineStart depth
        ++ "\x7d" =
      "\x7b" ++ prettyMembers (depth + 1) (member :: rest) ++ lineStart depth ++ "\x7d"
    rw [prettyMembers_kept (depth + 1) (member :: rest)]

theorem prettyItems_kept (depth : Nat) : ∀ items : List Json,
    prettyItems depth (keptItems items) = prettyItems depth items
  | [] => rfl
  | [item] => by
    show lineStart depth ++ prettyAt depth item.kept = lineStart depth ++ prettyAt depth item
    rw [prettyAt_kept depth item]
  | item :: next :: rest => by
    show lineStart depth ++ prettyAt depth item.kept ++ ","
        ++ prettyItems depth (keptItems (next :: rest)) =
      lineStart depth ++ prettyAt depth item ++ "," ++ prettyItems depth (next :: rest)
    rw [prettyAt_kept depth item, prettyItems_kept depth (next :: rest)]

theorem prettyMembers_kept (depth : Nat) : ∀ members : List (String × Json),
    prettyMembers depth (keptMembers members) = prettyMembers depth members
  | [] => rfl
  | [(key, value)] => by
    show lineStart depth ++ quote key ++ ": " ++ prettyAt depth value.kept =
      lineStart depth ++ quote key ++ ": " ++ prettyAt depth value
    rw [prettyAt_kept depth value]
  | (key, value) :: next :: rest => by
    show lineStart depth ++ quote key ++ ": " ++ prettyAt depth value.kept ++ ","
        ++ prettyMembers depth (keptMembers (next :: rest)) =
      lineStart depth ++ quote key ++ ": " ++ prettyAt depth value ++ ","
        ++ prettyMembers depth (next :: rest)
    rw [prettyAt_kept depth value, prettyMembers_kept depth (next :: rest)]

end

/-- **A value is written like what is kept of it.** -/
theorem pretty_kept (value : Json) : pretty value.kept = pretty value := prettyAt_kept 0 value

/-! ### What is read of what is kept -/

/-- What a document keeps of a written value is read as the same value. -/
def ReadsBack {α : Type} (write : α → Json) (read : Json → Option α) (a : α) : Prop :=
  read (write a).kept = some a

section

variable {α : Type} {write : α → Json} {read : Json → Option α}

theorem ReadsBack.need {a : α} (back : ReadsBack write read a) :
    need read (some (write a).kept) = some a := back

theorem ReadsBack.orElse {a other : α} (back : ReadsBack write read a) :
    orElse other read (some (write a).kept) = some a := back

theorem readsBack_string (s : String) : ReadsBack .string string? s := rfl

theorem readsBack_natural (n : Nat) : ReadsBack .natural count? n := rfl

theorem readsBack_real {x : Float} (finite : x.isFinite = true) : ReadsBack .real number? x := by
  rw [ReadsBack, kept_real finite]
  rfl

/-- One of a few values is found by its name, if no earlier one has it. -/
theorem readsBack_oneOf {all : List α} {name : α → String} {a : α}
    (found : all.find? (fun b => name b == name a) = some a) :
    ReadsBack (fun a => .string (name a)) (oneOf? all name) a := found

/-- `null` stands for none, so a value must not be written as `null`. -/
theorem readsBack_ofOption {o : Option α} (each : ∀ a ∈ o, ReadsBack write read a)
    (visible : ∀ a ∈ o, (write a).kept ≠ .null) :
    ReadsBack (ofOption write) (optional? read) o := by
  cases o with
  | none => rfl
  | some a =>
    have own : read (write a).kept = some a := each a rfl
    show optional? read (write a).kept = some (some a)
    unfold optional?
    split
    · rename_i absent
      exact absurd absent (visible a rfl)
    · rw [own]
      rfl

end

/-- What is written item by item is read item by item. -/
theorem mapM_map_eq_some {α β : Type} {write : α → β} {read : β → Option α} {l : List α}
    (each : ∀ a ∈ l, read (write a) = some a) : (l.map write).mapM read = some l := by
  induction l with
  | nil => rfl
  | cons a rest ih =>
    rw [List.map_cons, List.mapM_cons, each a List.mem_cons_self,
      ih fun b member => each b (List.mem_cons_of_mem _ member)]
    rfl

/-- The names of members and their values stand side by side. -/
theorem map_lookup_zip {α : Type} {names : List String} (distinct : names.Nodup) :
    ∀ {values : List α}, values.length = names.length →
      names.map (fun name => (names.zip values).lookup name) = values.map some := by
  induction names with
  | nil =>
    intro values length
    rw [List.length_eq_zero_iff.mp length]
    rfl
  | cons name rest ih =>
    intro values length
    cases values with
    | nil => cases length
    | cons value more =>
      obtain ⟨fresh, distinct⟩ := List.nodup_cons.mp distinct
      have later : rest.map (fun key => ((name :: rest).zip (value :: more)).lookup key) =
          rest.map fun key => (rest.zip more).lookup key := by
        refine List.map_congr_left fun key member => ?_
        have other : (key == name) = false :=
          beq_eq_false_iff_ne.mpr fun same => fresh (same ▸ member)
        rw [List.zip_cons_cons, List.lookup_cons, other]
      rw [List.map_cons, later, ih distinct (Nat.succ.inj length), List.zip_cons_cons,
        List.lookup_cons, beq_self_eq_true]
      rfl

/-- **A record keeps each of its fields.** -/
theorem fields?_kept (names : List String) (values : List Json) (distinct : names.Nodup)
    (length : values.length = names.length) :
    (kept (.object (names.zip values))).fields? names = some (values.map fun v => some v.kept) := by
  have members : keptMembers (names.zip values) = names.zip (values.map kept) := by
    rw [keptMembers_eq_map, List.zip_map_right]
    rfl
  have known : (names.zip (values.map kept)).filter (fun m => names.contains m.1) =
      names.zip (values.map kept) := by
    refine List.filter_eq_self.mpr fun m member => ?_
    rw [List.contains_iff_mem]
    exact (List.of_mem_zip member).1
  have own : (names.zip (values.map kept)).map Prod.fst = names :=
    List.map_fst_zip (Nat.le_of_eq (by rw [List.length_map, length]))
  rw [kept, members, fields?]
  simp only [known, own, if_pos distinct]
  rw [map_lookup_zip distinct (by rw [List.length_map, length]), List.map_map]
  rfl

/-- **A tagged value keeps its kind and its other members.** -/
theorem tagged?_kept {kind : String} {members : List (String × Json)}
    (other : ∀ m ∈ members, (m.1 == "kind") = false) :
    (ofKind kind members).kept.tagged? = some (kind, kept (.object members)) := by
  have remain : ∀ m ∈ keptMembers members, (m.1 == "kind") = false := by
    rw [keptMembers_eq_map]
    intro m member
    obtain ⟨written, inside, rfl⟩ := List.mem_map.mp member
    exact other written inside
  -- the kind is the only member with that name, and it stands in front
  have split : (("kind", .string kind) :: keptMembers members).partition (fun m => m.1 == "kind") =
      ([("kind", .string kind)], keptMembers members) := by
    rw [List.partition_eq_filter_filter, List.filter_cons_of_pos (by rfl),
      List.filter_cons_of_neg Bool.false_ne_true, Prod.mk.injEq, List.filter_eq_self]
    refine ⟨?_, fun m member => ?_⟩
    · rw [List.filter_eq_nil_iff.mpr fun m member => Bool.eq_false_iff.mp (remain m member)]
    · rw [Function.comp_apply, remain m member]
      rfl
  show tagged? (.object (("kind", .string kind) :: keptMembers members)) = _
  simp only [tagged?, split, readableMembers_kept, if_true, kept]

end Json

/-- **Values under keys keep their order.** -/
theorem OrderedMap.readsBack {β : Type} {write : β → Json} {read : Json → Option β}
    {m : OrderedMap β} (each : ∀ e ∈ m.entries, Json.ReadsBack write read e.2) :
    Json.ReadsBack (OrderedMap.toJson write) (OrderedMap.ofJson? read) m := by
  have entries : (m.entries.map fun e => (e.1, (write e.2).kept)).mapM
      (fun e => (read e.2).map fun v => (e.1, v)) = some m.entries := by
    refine Json.mapM_map_eq_some fun e member => ?_
    have own : read (write e.2).kept = some e.2 := each e member
    rw [own, Option.map_some]
  simp only [Json.ReadsBack, toJson, Json.kept, Json.keptMembers_eq_map, List.map_map,
    Function.comp_def, ofJson?, Json.members?, entries, Option.bind_eq_bind, Option.bind_some,
    ofList_entries]
  rfl

end PullbackTrading

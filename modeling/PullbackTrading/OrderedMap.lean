/-
**Maps that remember the order in which their keys first came.**

An `OrderedMap` holds each key once. Inserting under a key that is already there replaces the value
and leaves the key where it stands; a new key goes to the end (`keys_insert`).
-/

namespace PullbackTrading

/-- Values under distinct text keys, in the order of each key's first insertion. -/
structure OrderedMap (β : Type) where
  /-- The keys with their values, first inserted first. -/
  entries : List (String × β)
  /-- No key is held twice. -/
  distinct : (entries.map Prod.fst).Nodup

namespace OrderedMap

variable {β γ : Type}

/-- The map without entries. -/
def empty : OrderedMap β := ⟨[], by simp⟩

instance : Inhabited (OrderedMap β) := ⟨empty⟩

instance [BEq β] : BEq (OrderedMap β) := ⟨fun a b => a.entries == b.entries⟩

/-- The keys, first inserted first. -/
def keys (m : OrderedMap β) : List String := m.entries.map Prod.fst

/-- The values, in the order of their keys. -/
def values (m : OrderedMap β) : List β := m.entries.map Prod.snd

/-- How many keys there are. -/
def size (m : OrderedMap β) : Nat := m.entries.length

/-- The value under a key. -/
def find? (m : OrderedMap β) (key : String) : Option β := m.entries.lookup key

/-- An entry list with one more value: in place if the key is there, else at the end. -/
def put (key : String) (value : β) : List (String × β) → List (String × β)
  | [] => [(key, value)]
  | (k, v) :: rest => if k = key then (k, value) :: rest else (k, v) :: put key value rest

theorem keys_put (key : String) (value : β) (l : List (String × β)) :
    (put key value l).map Prod.fst =
      if key ∈ l.map Prod.fst then l.map Prod.fst else l.map Prod.fst ++ [key] := by
  induction l with
  | nil => simp [put]
  | cons entry rest ih =>
    obtain ⟨k, v⟩ := entry
    by_cases same : k = key
    · simp [put, same]
    · have other : ¬ key = k := fun e => same e.symm
      simp only [put, same, if_false, List.map_cons, ih, List.mem_cons, other, false_or]
      split <;> rfl

theorem nodup_keys_put {key : String} {value : β} {l : List (String × β)}
    (h : (l.map Prod.fst).Nodup) : ((put key value l).map Prod.fst).Nodup := by
  rw [keys_put]
  split
  · exact h
  · rename_i fresh
    refine List.nodup_append.2 ⟨h, by simp, ?_⟩
    intro a inside b last
    rw [List.mem_singleton.1 last]
    exact fun e => fresh (e ▸ inside)

/-- The map with a value put under a key. -/
def insert (m : OrderedMap β) (key : String) (value : β) : OrderedMap β :=
  ⟨put key value m.entries, nodup_keys_put m.distinct⟩

theorem keys_insert (m : OrderedMap β) (key : String) (value : β) :
    (m.insert key value).keys = if key ∈ m.keys then m.keys else m.keys ++ [key] :=
  keys_put key value m.entries

/-- The map that results from inserting entries one after the other. -/
def ofList (l : List (String × β)) : OrderedMap β :=
  l.foldl (fun m e => m.insert e.1 e.2) empty

/-! ### Looking up -/

/-- What is found under a key is what stands there. -/
theorem find?_eq_some_iff {m : OrderedMap β} {key : String} {value : β} :
    m.find? key = some value ↔ (key, value) ∈ m.entries := by
  rw [find?, List.lookup_eq_some_iff]
  constructor
  · rintro ⟨before, after, whole, _⟩
    rw [whole]
    exact List.mem_append_right _ List.mem_cons_self
  · intro member
    obtain ⟨before, after, whole⟩ := List.append_of_mem member
    refine ⟨before, after, whole, fun entry inside => ?_⟩
    have distinct := m.distinct
    rw [whole, List.map_append, List.map_cons, List.nodup_append] at distinct
    rw [bne_iff_ne]
    exact fun same => distinct.2.2 entry.1 (List.mem_map_of_mem inside) key List.mem_cons_self
      same.symm

theorem isSome_find?_iff {m : OrderedMap β} {key : String} :
    (m.find? key).isSome = true ↔ key ∈ m.keys := by
  rw [Option.isSome_iff_exists]
  simp only [find?_eq_some_iff, keys, List.mem_map, Prod.exists, exists_and_right, exists_eq_right]

/-! ### Maps from lists -/

theorem eq_of_entries_eq {m n : OrderedMap β} (same : m.entries = n.entries) : m = n := by
  obtain ⟨entries, _⟩ := m
  obtain ⟨_, _⟩ := n
  cases same
  rfl

theorem put_of_fresh {key : String} {value : β} {l : List (String × β)}
    (fresh : key ∉ l.map Prod.fst) : put key value l = l ++ [(key, value)] := by
  induction l with
  | nil => rfl
  | cons entry rest ih =>
    rw [List.map_cons, List.mem_cons, not_or] at fresh
    rw [put, if_neg fun same => fresh.1 same.symm, ih fresh.2]
    rfl

/-- Entries with new and distinct keys go to the end as they are. -/
theorem entries_foldl_insert (l : List (String × β)) :
    ∀ m : OrderedMap β, ((m.entries ++ l).map Prod.fst).Nodup →
      (l.foldl (fun m e => m.insert e.1 e.2) m).entries = m.entries ++ l := by
  induction l with
  | nil => exact fun m _ => (List.append_nil _).symm
  | cons entry rest ih =>
    intro m distinct
    have fresh : entry.1 ∉ m.entries.map Prod.fst := by
      rw [List.map_append, List.nodup_append] at distinct
      exact fun inside => distinct.2.2 _ inside _ List.mem_cons_self rfl
    have placed : (m.insert entry.1 entry.2).entries = m.entries ++ [entry] := put_of_fresh fresh
    rw [List.foldl_cons, ih, placed, List.append_assoc, List.singleton_append]
    rwa [placed, List.append_assoc, List.singleton_append]

/-- Entries with distinct keys make up a map as they are. -/
theorem entries_ofList {l : List (String × β)} (distinct : (l.map Prod.fst).Nodup) :
    (ofList l).entries = l :=
  entries_foldl_insert l empty distinct

/-- A map is made up of its entries. -/
theorem ofList_entries (m : OrderedMap β) : ofList m.entries = m :=
  eq_of_entries_eq (entries_ofList m.distinct)

end OrderedMap

end PullbackTrading

/-
**Documents: JSON values.**

A `Json` value keeps what a document shows and a reader of settings needs: members in their order
and with their repetitions, and whether a number is a count or has a fractional form. A value that
is well formed but cannot be taken up (half of a surrogate pair in a text, a number beyond the
range, nesting that is too deep) is `unreadable`: it may be passed over, and nothing can be read
from it.
-/

namespace PullbackTrading

/-- A JSON value. -/
inductive Json where
  | null
  | bool (value : Bool)
  /-- A whole number that is not negative, written without fraction and exponent. -/
  | natural (value : Nat)
  /-- Any other number. -/
  | real (value : Float)
  | string (value : String)
  | array (items : List Json)
  | object (members : List (String × Json))
  /-- Well formed, but of no value. -/
  | unreadable
  deriving Inhabited

namespace Json

mutual

/-- Whether nothing inside the value is unreadable. -/
def readable : Json → Bool
  | .unreadable => false
  | .array items => readableItems items
  | .object members => readableMembers members
  | _ => true

/-- Whether nothing inside the items is unreadable. -/
def readableItems : List Json → Bool
  | [] => true
  | item :: rest => readable item && readableItems rest

/-- Whether nothing inside the members is unreadable. -/
def readableMembers : List (String × Json) → Bool
  | [] => true
  | (_, value) :: rest => readable value && readableMembers rest

end

/-- The text of a string value. -/
def string? : Json → Option String
  | .string s => some s
  | _ => none

/-- A number of things: whole, not negative, and written so. -/
def count? : Json → Option Nat
  | .natural n => some n
  | _ => none

/-- A number in any form. -/
def number? : Json → Option Float
  | .natural n => some (Float.ofNat n)
  | .real x => some x
  | _ => none

/-- The items of an array. -/
def items? : Json → Option (List Json)
  | .array items => some items
  | _ => none

/-- The members of an object. -/
def members? : Json → Option (List (String × Json))
  | .object members => some members
  | _ => none

/-- A value or `null` for none. -/
def optional? {α : Type} (read : Json → Option α) : Json → Option (Option α)
  | .null => some none
  | value => (read value).map some

/-- A value for what may be absent. -/
def ofOption {α : Type} (write : α → Json) : Option α → Json
  | none => .null
  | some value => write value

/-- The declared fields of a record, each if present. A record is written as an object, where other
members are passed over and no declared one may be repeated, or as an array of the fields in order,
which may end early. -/
def fields? (names : List String) : Json → Option (List (Option Json))
  | .object members =>
    let known := members.filter fun m => names.contains m.1
    if (known.map Prod.fst).Nodup then some (names.map fun name => known.lookup name) else none
  | .array items =>
    if items.length ≤ names.length then
      some (items.map some ++ List.replicate (names.length - items.length) none)
    else
      none
  | _ => none

/-- One of a few names, written as a text or as the only key of an object with the value `null`. -/
def name? : Json → Option String
  | .string s => some s
  | .object [(s, .null)] => some s
  | _ => none

/-- One of some values by its name. -/
def oneOf? {α : Type} (all : List α) (name : α → String) (value : Json) : Option α := do
  let chosen ← value.name?
  all.find? fun a => name a == chosen

/-- The value of a field that has to be there. -/
def need {α : Type} (read : Json → Option α) (field : Option Json) : Option α := field.bind read

/-- The value of a field, or another one if the field is absent. -/
def orElse {α : Type} (other : α) (read : Json → Option α) : Option Json → Option α
  | none => some other
  | some value => read value

/-- The kind of a value with its other fields. The kind is the member `kind` of an object or the
first item of an array; all the rest must be readable. -/
def tagged? : Json → Option (String × Json)
  | .object members => do
    let (kinds, rest) := members.partition fun m => m.1 == "kind"
    match kinds with
    | [(_, .string kind)] =>
      if readableMembers rest then some (kind, .object rest) else none
    | _ => none
  | .array (.string kind :: rest) =>
    if readableItems rest then some (kind, .array rest) else none
  | _ => none

/-- Whether the rest of a tagged value fits a kind without fields. -/
def noFields : Json → Bool
  | .object _ => true
  | .array items => items.isEmpty
  | _ => false

end Json

end PullbackTrading

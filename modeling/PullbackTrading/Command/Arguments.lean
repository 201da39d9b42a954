/-
**Arguments: what the command line asks for.**

There are three commands, each with options of its own. An option with a value has it in the next
argument or after an equals sign; the next argument must not look like an option. Options may come
in any order, but only the one for keys may be repeated.
-/

import PullbackTrading.Command.Plan

namespace PullbackTrading

/-- What the options of a run say; what they leave open comes from the plan. -/
structure RunOptions where
  /-- The file with the plan. -/
  plan : Option String
  data : Option String
  /-- The keys in the order in which they were given. -/
  keys : List String
  /-- Whether all variants are asked for. -/
  all : Bool
  registry : Option String
  maxOpen : Option Nat
  table : Option String
  document : Option String
  trades : Option String

/-- What is to be done. -/
inductive Command where
  | run (options : RunOptions)
  /-- List the variants of a registry. -/
  | list (registry : Option String)
  /-- Write the usual plan to a file, and perhaps the standard registry to another. -/
  | start (plan : String) (registry : Option String)

namespace Arguments

/-- The options of a command. -/
structure Options where
  /-- The options that take a value. -/
  valued : List String
  /-- The options that take none. -/
  flags : List String

/-- An option that was given, with its value if it takes one. -/
structure Given where
  name : String
  value : Option String
  deriving DecidableEq

/-- The name of an option and the value after an equals sign, if the argument is an option. -/
def parts? (argument : String) : Option (String × Option String) :=
  match argument.toList with
  | '-' :: '-' :: rest =>
    let name := String.ofList (rest.takeWhile (· ≠ '='))
    match rest.dropWhile (· ≠ '=') with
    | [] => some (name, none)
    | _ :: value => some (name, some (String.ofList value))
  | _ => none

/-- Whether an argument cannot be the value of an option before it. -/
def looksLikeOption (argument : String) : Bool :=
  match argument.toList with
  | '-' :: _ :: _ => true
  | _ => false

/-- The options that are given by arguments. -/
def given? (options : Options) : List String → Option (List Given)
  | [] => some []
  | ["--"] => some []
  | argument :: rest =>
    match parts? argument with
    | none => none
    | some (name, value) =>
      if options.flags.contains name then
        if value.isNone then (given? options rest).map (⟨name, none⟩ :: ·) else none
      else if options.valued.contains name then
        match value, rest with
        | some _, rest => (given? options rest).map (⟨name, value⟩ :: ·)
        | none, next :: rest =>
          if looksLikeOption next then none
          else (given? options rest).map (⟨name, some next⟩ :: ·)
        | none, [] => none
      else none

/-- Whether an option was given. -/
def has (given : List Given) (name : String) : Bool := given.any fun g => g.name == name

/-- All values of an option. -/
def values (given : List Given) (name : String) : List String :=
  given.filterMap fun g => if g.name = name then g.value else none

/-- The path that an option gives, which must not be empty; none if the option is not there. -/
def path? (given : List Given) (name : String) : Option (Option String) :=
  match values given name with
  | [] => some none
  | [path] => if path.isEmpty then none else some (some path)
  | _ => none

/-- A number below 2 ^ 64: digits, perhaps with a plus sign. -/
def size? (text : String) : Option Nat :=
  let digits := match text.toList with
    | '+' :: rest => rest
    | s => s
  if digits.isEmpty || !digits.all Char.isDigit then none
  else
    let n := Decimal.digitsValue digits
    if n < UInt64.size then some n else none

/-- The number that an option gives; none if the option is not there. -/
def number? (given : List Given) (name : String) : Option (Option Nat) :=
  match values given name with
  | [] => some none
  | [text] => (size? text).map some
  | _ => none

/-- The parts of a text between commas. -/
def splitAtCommas (text : String) : List String := text.splitOn ","

/-- Whether an option that takes no value is there; not if it is repeated. -/
def flag? (given : List Given) (name : String) : Option Bool :=
  match (given.filter fun g => g.name == name).length with
  | 0 => some false
  | 1 => some true
  | _ => none

/-- The options of a run. -/
def run? (arguments : List String) : Option RunOptions := do
  let given ← given?
    ⟨["config", "data", "variants", "variants-file", "max-open-trades", "output-csv",
      "output-json", "trades-dir"], ["all"]⟩ arguments
  let all ← flag? given "all"
  guard ¬(all && has given "variants")
  return {
    plan := ← path? given "config"
    data := ← path? given "data"
    keys := (values given "variants").flatMap splitAtCommas
    all := all
    registry := ← path? given "variants-file"
    maxOpen := ← number? given "max-open-trades"
    table := ← path? given "output-csv"
    document := ← path? given "output-json"
    trades := ← path? given "trades-dir" }

end Arguments

/-- The command that arguments ask for, if they ask for one. -/
def Command.ofArguments? : List String → Option Command
  | "run" :: rest => (Arguments.run? rest).map .run
  | "variants" :: rest => do
    let given ← Arguments.given? ⟨["variants-file"], []⟩ rest
    return .list (← Arguments.path? given "variants-file")
  | "init-config" :: rest => do
    let given ← Arguments.given? ⟨["output", "registry-output"], []⟩ rest
    let plan ← Arguments.path? given "output"
    return .start (plan.getD "playbook.json") (← Arguments.path? given "registry-output")
  | _ => none

/-- The plan with what the options of a run say. -/
def RunOptions.apply (o : RunOptions) (p : Plan) : Plan where
  dataPath := o.data.getD p.dataPath
  keys := if o.all then [] else if o.keys.isEmpty then p.keys else o.keys
  registryPath := o.registry <|> p.registryPath
  simulation := ⟨o.maxOpen.getD p.simulation.maxOpen, p.simulation.risk⟩
  tablePath := o.table <|> p.tablePath
  documentPath := o.document <|> p.documentPath
  tradesDirectory := o.trades <|> p.tradesDirectory

end PullbackTrading

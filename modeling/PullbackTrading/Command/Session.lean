/-
**Sessions: commands at work.**

What a command needs of its surroundings is a `Host`: reading and writing files, making directories,
and saying something. Sessions are written for any host, so they can be run on a disk in memory as
well as on a real one. A session stops at its first failure; what has been said and written by then
stays.
-/

import PullbackTrading.Command.Arguments
import PullbackTrading.Document.Registry
import PullbackTrading.Json.Reader
import PullbackTrading.Market.Sheet
import PullbackTrading.Performance.Ranking
import PullbackTrading.Report.Files
import PullbackTrading.Report.Listing
import PullbackTrading.Report.Overview
import PullbackTrading.Strategy.Standard

namespace PullbackTrading

/-! ### Hosts -/

/-- What comes of reading a file. -/
inductive Contents where
  /-- The file cannot be opened. -/
  | absent
  /-- It can be opened but not read, as with a directory. -/
  | unreadable
  | bytes (contents : List UInt8)

/-- What a session needs of its surroundings. -/
class Host (m : Type → Type) where
  readFile : String → m Contents
  /-- Writes a text to a file and tells whether it could. -/
  writeFile : String → String → m Bool
  /-- Makes a directory with those around it and tells whether it is there. -/
  makeDirectory : String → m Bool
  say : String → m Unit

/-- A computation that may fail has the surroundings that it had without. -/
instance {ε : Type} {m : Type → Type} [Monad m] [Host m] : Host (ExceptT ε m) where
  readFile path := ExceptT.lift (Host.readFile path)
  writeFile path text := ExceptT.lift (Host.writeFile path text)
  makeDirectory path := ExceptT.lift (Host.makeDirectory path)
  say text := ExceptT.lift (Host.say text)

/-! ### Failures -/

/-- The documents that a session reads. -/
inductive DocumentKind where
  | configuration
  | registry
  deriving Repr, DecidableEq

/-- What a kind of document is called. -/
def DocumentKind.text : DocumentKind → String
  | .configuration => "configuration"
  | .registry => "variant registry"

/-- Why a session stops. -/
inductive Failure where
  /-- A document cannot be read as a text. -/
  | unreadable (kind : DocumentKind) (path : String)
  /-- A text is no document of its kind. -/
  | malformed (kind : DocumentKind) (path : String)
  | registry (fault : RegistryFault)
  | sheet (path : String) (fault : SheetFault)
  | simulation (fault : DataFault Float)
  /-- A table or directory cannot be made. -/
  | notCreated (path : String)
  /-- A document of results cannot be written. -/
  | notWritten (path : String)
  /-- A file cannot be written, and nothing more is said about it. -/
  | disk

/-- What is said first about a failure. -/
def Failure.message? : Failure → Option String
  | .unreadable kind path => some s!"Failed to read {kind.text} {Text.quotedPath path}"
  | .malformed kind path => some s!"Failed to parse {kind.text} {Text.quotedPath path}"
  | .registry fault => some fault.message
  | .sheet path _ => some s!"Failed to load data from {Text.quotedPath path}"
  | .simulation _ => some "Variant evaluation failed"
  | .notCreated path => some s!"Failed to create {path}"
  | .notWritten path => some s!"Failed to write {path}"
  | .disk => none

namespace Session

variable {m : Type → Type} [Monad m] [Host m]

/-- A line on the screen. -/
def sayLine (line : String) : ExceptT Failure m Unit := Host.say (line ++ "\n")

/-- What must succeed for the session to go on. -/
def ensure (done : m Bool) (failure : Failure) : ExceptT Failure m Unit := do
  unless ← done do throw failure

/-! ### Reading -/

/-- The document in a file. -/
def readDocument (kind : DocumentKind) (path : String) : ExceptT Failure m Json := do
  match ← Host.readFile path with
  | .bytes contents =>
    match String.fromUTF8? (ByteArray.mk contents.toArray) with
    | some text =>
      match Json.read? text with
      | some value => return value
      | none => throw (.malformed kind path)
    | none => throw (.unreadable kind path)
  | _ => throw (.unreadable kind path)

/-- The plan in a file. -/
def readPlan (path : String) : ExceptT Failure m Plan := do
  match Plan.ofJson? (← readDocument .configuration path) with
  | some p => return p
  | none => throw (.malformed .configuration path)

/-- The registry in a file. -/
def readRegistry (path : String) : ExceptT Failure m Registry := do
  match Catalog.ofJson? (← readDocument .registry path) with
  | some c =>
    match Registry.ofDocument c with
    | .ok r => return r
    | .error fault => throw (.registry fault)
  | none => throw (.malformed .registry path)

/-- The registry in a file, or the standard one. -/
def registryFrom (path : Option String) : ExceptT Failure m Registry :=
  match path with
  | some path => readRegistry path
  | none => return Standard.registry

/-- The bars in a file. -/
def readSheet (path : String) : ExceptT SheetFault m (Series Float) := do
  match ← Host.readFile path with
  | .absent => throw .noFile
  | .unreadable => throw .header
  | .bytes contents =>
    match Sheet.read contents with
    | .ok series => return series
    | .error fault => throw fault

/-! ### Writing -/

/-- Writes a plan to a file. -/
def writePlan (path : String) (p : Plan) : ExceptT Failure m Unit :=
  ensure (Host.writeFile path (Json.pretty p.toJson)) .disk

/-- Writes a registry to a file. -/
def writeRegistry (path : String) (r : Registry) : ExceptT Failure m Unit :=
  ensure (Host.writeFile path (Json.pretty r.toJson)) .disk

/-- Writes the table of summaries. -/
def writeSummaryTable (path : String) (summaries : List (Summary Float)) :
    ExceptT Failure m Unit :=
  ensure (Host.writeFile path (Report.summaryTable summaries)) (.notCreated path)

/-- Writes the document of summaries. -/
def writeSummaryDocument (path : String) (summaries : List (Summary Float)) :
    ExceptT Failure m Unit :=
  ensure (Host.writeFile path (Report.summaryDocument summaries)) (.notWritten path)

/-- Writes a table of trades. -/
def writeTradeTable (path : String) (trades : List (Trade Float)) : ExceptT Failure m Unit :=
  ensure (Host.writeFile path (Report.tradeTable trades)) (.notCreated path)

/-- The path of a file in a directory; a name that begins at the root stands by itself. -/
def pathIn (directory name : String) : String :=
  if name.startsWith "/" || directory.isEmpty then name
  else if directory.endsWith "/" then directory ++ name
  else directory ++ "/" ++ name

/-- Writes the trades of variants, each to a table in a directory, and gives the paths. -/
def writeTradeTables (directory : String) (runs : List (String × List (Trade Float))) :
    ExceptT Failure m (List String) := do
  ensure (Host.makeDirectory directory) (.notCreated directory)
  runs.mapM fun (variant, trades) => do
    let path := pathIn directory (Report.tradeFileName variant)
    writeTradeTable path trades
    return path

/-! ### Commands -/

/-- Shows the results of a run: one summary as a card, several as a table, and the best ones in
words. -/
def showResults (ranked : List (Summary Float)) : ExceptT Failure m Unit := do
  match ranked with
  | [only] =>
    sayLine "Variant Results"
    sayLine "===============\n"
    Host.say (Report.card only)
  | _ =>
    sayLine "Ranked Results"
    sayLine "==============\n"
    Host.say (Report.rankedTable ranked)
  let lines := Report.recap ranked 3
  unless lines.isEmpty do
    sayLine "\nTop variants:"
    lines.forM fun line => sayLine ("  " ++ line)

/-- Writes the results of a run to the files that a plan names. -/
def keepResults (p : Plan) (ranked : List (Summary Float)) (runs : List (Run Float)) :
    ExceptT Failure m Unit := do
  if let some path := p.tablePath then
    writeSummaryTable path ranked
    sayLine s!"\nSummary saved to {Text.quotedPath path}"
  if let some path := p.documentPath then
    writeSummaryDocument path ranked
    sayLine s!"Summary saved to {Text.quotedPath path}"
  if let some directory := p.tradesDirectory then
    let written ← writeTradeTables directory (runs.map fun r => (r.variant, r.trades))
    sayLine s!"Trades saved to {written.length} file(s) in {Text.quotedPath directory}"

/-- The bars that a plan names. -/
def loadData (p : Plan) : ExceptT Failure m (Series Float) := do
  sayLine s!"Loading data from {Text.quotedPath p.dataPath}..."
  match ← (readSheet p.dataPath).run with
  | .error fault => throw (.sheet p.dataPath fault)
  | .ok series =>
    if let (some first, some last) := (series.bars.head?, series.bars.getLast?) then
      sayLine s!"Loaded {series.size} intervals"
      sayLine s!"Date range: {first.timestamp.text} to {last.timestamp.text}\n"
    return series

/-- Carries out a plan. -/
def carryOut (p : Plan) : ExceptT Failure m Unit := do
  sayLine "Playbook Variant Evaluation"
  sayLine "===========================\n"
  let series ← loadData p
  let registry ← registryFrom p.registryPath
  let selections := p.select registry
  selections.forM fun s => do
    if s.resolution.fellBack then
      let requested := Text.quoted (s.requested.getD "")
      sayLine s!"Unknown variant {requested}, using {s.resolution.variant.name}"
  let variants := selections.map fun s => s.resolution.variant
  sayLine s!"Running {variants.length} variant(s), max open trades {p.simulation.maxOpen}...\n"
  match p.simulation.runAll series variants with
  | .error fault => throw (.simulation fault)
  | .ok runs =>
    let ranked := Summary.ranked (runs.map Run.summary)
    showResults ranked
    keepResults p ranked runs

/-- Carries out a command. -/
def perform : Command → ExceptT Failure m Unit
  | .run options => do
    let p ← match options.plan with
      | some path => readPlan path
      | none => pure Plan.usual
    carryOut (options.apply p)
  | .list path => do
    Host.say (Report.listing (← registryFrom path))
  | .start path registryPath => do
    writePlan path Plan.usual
    sayLine s!"Configuration written to {Text.quotedPath path}"
    if let some path := registryPath then
      writeRegistry path Standard.registry
      sayLine s!"Variant registry written to {Text.quotedPath path}"

end Session

end PullbackTrading

/-
**A host in memory.**

Files and directories are kept by where they lie, and what is said is kept as one text. So a whole
session is a function from what was there before to what is there afterwards. A path is walked name
by name from the working directory or, if it begins with a slash, from the root; every name but the
last must lead to a directory. The directories around the working directory are there, with nothing
else in them.
-/

import PullbackTrading.Command.Session

namespace PullbackTrading

/-- Where something lies: the names on the way to it, the last one first. The working directory has
none of them, and the root is called by a slash. -/
abbrev Location := List String

/-- What there is. -/
structure Memory where
  directories : List Location
  files : List (Location × List UInt8)
  /-- What has been said. -/
  screen : String

namespace Memory

/-- Nothing but the working directory and the root. -/
def empty : Memory := ⟨[[], ["/"]], [], ""⟩

/-- The longest name that a file may have, in bytes. -/
def longestName : Nat := 255

/-- The longest path, in bytes. -/
def longestPath : Nat := 4095

/-- The names of a path, if it can be one. -/
def names? (path : String) : Option (List String) :=
  let names := path.splitOn "/"
  if path.isEmpty || path.toList.contains '\x00' || decide (longestPath < path.utf8ByteSize)
      || names.any fun n => decide (longestName < n.utf8ByteSize) then
    none
  else
    some names

/-- Where a path begins. -/
def origin (path : String) : Location := if path.startsWith "/" then ["/"] else []

/-- The directory around another one. What lies around the working directory is called by two dots,
and nothing lies around the root. -/
def parent : Location → Location
  | [] => [".."]
  | ["/"] => ["/"]
  | name :: around => if name = ".." then ".." :: name :: around else around

/-- Whether a name stays in the directory. -/
def stays (name : String) : Bool := name.isEmpty || name == "."

/-- The directory that names lead to from another one. -/
def walk? (m : Memory) (from' : Location) : List String → Option Location
  | [] => some from'
  | name :: rest =>
    if stays name then m.walk? from' rest
    else if name = ".." then m.walk? (parent from') rest
    else if m.directories.contains (name :: from') then m.walk? (name :: from') rest
    else none

/-- Where a file with a path lies, if the directories around it are there. -/
def fileLocation? (m : Memory) (path : String) : Option Location := do
  let names ← names? path
  let name ← names.getLast?
  if stays name || name == ".." then none
  else
    let around ← m.walk? (origin path) names.dropLast
    return name :: around

/-- Whether a path leads to a directory. -/
def isDirectory (m : Memory) (path : String) : Bool :=
  match names? path with
  | some names => (m.walk? (origin path) names).isSome
  | none => false

/-- What comes of reading a file. -/
def read (m : Memory) (path : String) : Contents :=
  if m.isDirectory path then .unreadable
  else
    match m.fileLocation? path >>= fun l => m.files.lookup l with
    | some contents => .bytes contents
    | none => .absent

/-- What is there after writing a file; none if it cannot be written. -/
def write? (m : Memory) (path : String) (contents : List UInt8) : Option Memory :=
  if m.isDirectory path then none
  else do
    let location ← m.fileLocation? path
    let others := m.files.filter fun f => f.1 != location
    return { m with files := (location, contents) :: others }

/-- Makes the directories that names lead to from another one, as far as it can be done. -/
def make (m : Memory) (from' : Location) : List String → Bool × Memory
  | [] => (true, m)
  | name :: rest =>
    if stays name then m.make from' rest
    else if name = ".." then m.make (parent from') rest
    else
      let location := name :: from'
      if m.directories.contains location then m.make location rest
      else if (m.files.lookup location).isSome then (false, m)
      else { m with directories := location :: m.directories }.make location rest

/-- Makes a directory with those around it. The empty path is the working directory. -/
def makeDirectory (m : Memory) (path : String) : Bool × Memory :=
  if path.isEmpty then (true, m)
  else
    match names? path with
    | some names => m.make (origin path) names
    | none => (false, m)

end Memory

/-- Computations on a host in memory. -/
abbrev InMemory := StateM Memory

instance : Host InMemory where
  readFile path := do return (← get).read path
  writeFile path text := do
    match (← get).write? path text.toUTF8.toList with
    | some m => set m; return true
    | none => return false
  makeDirectory path := do
    let (done, m) := (← get).makeDirectory path
    set m
    return done
  say text := modify fun m => { m with screen := m.screen ++ text }

end PullbackTrading

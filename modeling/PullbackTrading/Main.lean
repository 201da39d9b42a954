/-
**The command line.**
-/

import PullbackTrading.Command.Session

namespace PullbackTrading

/-- The host that the program runs on. -/
instance : Host IO where
  readFile path := do
    match ← (IO.FS.Handle.mk path .read).toBaseIO with
    | .error _ => return .absent
    | .ok handle =>
      match ← handle.readBinToEnd.toBaseIO with
      | .error _ => return .unreadable
      | .ok contents => return .bytes contents.toList
  writeFile path text := do
    match ← (IO.FS.writeFile path text).toBaseIO with
    | .error _ => return false
    | .ok _ => return true
  makeDirectory path := do
    if path.isEmpty then return true
    match ← (IO.FS.createDirAll path).toBaseIO with
    | .error _ => return false
    | .ok _ => return true
  say text := do
    let out ← IO.getStdout
    out.putStr text
    out.flush

/-- Carries out what arguments ask for, and gives the exit code. -/
def runProgram (arguments : List String) : IO UInt32 := do
  match Command.ofArguments? arguments with
  | none =>
    IO.eprintln "usage: (run | variants | init-config) [options]"
    return 2
  | some command =>
    match ← (Session.perform command : ExceptT Failure IO Unit).run with
    | .ok () => return 0
    | .error failure =>
      IO.eprintln ("Error: " ++ failure.message?.getD "the file system refused")
      return 1

end PullbackTrading

/-- The program. -/
def main (arguments : List String) : IO UInt32 := PullbackTrading.runProgram arguments

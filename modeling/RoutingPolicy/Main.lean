import RoutingPolicy.CommandLine.Run
import RoutingPolicy.CommandLine.Usage

/-!
# The program

The program reads its arguments, the environment and the files that the command names, lets the
command run on them, and prints what it has written. It has no connection to servers.
-/

set_option autoImplicit false

namespace RoutingPolicy.Main

/-- Why a file could not be read. A path that leads through a file cannot be opened, and the error
names it; a directory can be opened, but not read. -/
def fileErrorOf (e : IO.Error) : FileError :=
  match e with
  | .noFileOrDirectory .. => .notFound
  | .inappropriateType (some _) .. => .notADirectory
  | .inappropriateType none .. => .isADirectory
  | e => .other (toString e)

def readText (path : String) : IO (Except FileError String) := do
  match ← (IO.FS.readFile path).toBaseIO with
  | .ok text => return .ok text
  | .error e => return .error (fileErrorOf e)

def readEnvironment : IO (List (String × String)) :=
  Setting.inEnvironment.filterMapM fun (_, key) => do
    return (← IO.getEnv key).map (key, ·)

def unconnected : Servers := fun _ _ => .error ["no connection"]

def patternFault (_ : String) : String := "regex parse error"

end RoutingPolicy.Main

open RoutingPolicy RoutingPolicy.Main in
def main (arguments : List String) : IO UInt32 := do
  let environment ← readEnvironment
  match Invocation.read? (environment.lookup ·) arguments with
  | .error e =>
    if e.isRequest then
      IO.print e.report
      return 0
    else
      IO.eprint e.report
      return 2
  | .ok invocation =>
    let contents ← invocation.paths.mapM fun path => return (path, ← readText path)
    let files := fun path => (contents.lookup path).getD (.error .notFound)
    let (result, written) := (invocation.run ⟨files, unconnected, patternFault⟩).collect
    IO.print written
    match result with
    | .ok () => return 0
    | .error failure =>
      IO.eprint failure.report
      return 1

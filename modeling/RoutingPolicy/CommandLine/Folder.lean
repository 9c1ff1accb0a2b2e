/-!
# Files

What a command reads are texts of files. A folder holds files whose texts are at hand; a path is
followed in it name by name, as a system follows it on a disk.
-/

set_option autoImplicit false

namespace RoutingPolicy

inductive FileError where
  | notFound
  | notADirectory
  | isADirectory
  | other (reason : String)
  deriving DecidableEq

def FileError.message : FileError → String
  | notFound => "No such file or directory (os error 2)"
  | notADirectory => "Not a directory (os error 20)"
  | isADirectory => "Is a directory (os error 21)"
  | other reason => reason

structure Folder where
  /-- The names on the way to each file, and its text. -/
  files : List (List String × String)

namespace Folder

def names (path : String) : List String := (path.toList.splitOnP (· == '/')).map String.ofList

def staysHere (name : String) : Bool := name == "" || name == "."

def ofFiles (files : List (String × String)) : Folder :=
  ⟨files.map fun (path, text) => ((names path).filter (!staysHere ·), text)⟩

def hasBelow (folder : Folder) (directory : List String) : Bool :=
  folder.files.any fun file => directory.isPrefixOf file.1

/-- What is read outside the folder: no file is known there, only the directories around it. -/
def readOutside (rest : List String) : Except FileError String :=
  .error (if rest.all fun name => staysHere name || name == ".." then .isADirectory else .notFound)

/-- Follows the rest of a path from a directory of the folder. -/
def readFrom (folder : Folder) (directory : List String) : List String → Except FileError String
  | [] => .error .isADirectory
  | name :: rest =>
    if staysHere name then readFrom folder directory rest
    else if name == ".." then
      if directory.isEmpty then readOutside rest else readFrom folder directory.dropLast rest
    else
      let place := directory ++ [name]
      match folder.files.lookup place with
      | some text => if rest.isEmpty then .ok text else .error .notADirectory
      | none => if folder.hasBelow place then readFrom folder place rest else .error .notFound

def read (folder : Folder) (path : String) : Except FileError String :=
  if path = "" then .error .notFound
  else match names path with
    | "" :: rest => readOutside rest
    | steps => folder.readFrom [] steps

end Folder

end RoutingPolicy

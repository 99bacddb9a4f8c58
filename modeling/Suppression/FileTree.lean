import Suppression.Entries
import Suppression.FileTree.Error

/-!
A file system as a value: files, directories and symbolic links under a root, and a working
directory against which relative paths are looked up. A place is the row of names that leads to it
from the root; the root itself is always a directory. A name and a path have a greatest length each,
in bytes.
-/

namespace Suppression

inductive Node where
  | file (content : List UInt8)
  | link (target : String)
  | directory

/-- The names that lead to a place from the root. -/
abbrev Place := List String

structure FileTree where
  nodes : List (Place × Node)
  working : Place

/-- What a look-up does with the last name of a path. -/
inductive LastName where
  | follow
  /-- A link is what is looked for, unless a slash comes after its name. -/
  | keep
  /-- A file is to be written: a link is followed, and a slash after the name asks for a directory
  where none can be written. -/
  | write
  deriving DecidableEq

namespace FileTree

def empty (working : Place := ["workspace"]) : FileTree :=
  { nodes := (List.range working.length).map fun n => (working.take (n + 1), .directory), working }

def node? (tree : FileTree) (place : Place) : Option Node :=
  match place with
  | [] => some .directory
  | _ => tree.nodes.lookup place

def putNode (tree : FileTree) (place : Place) (node : Node) : FileTree :=
  { tree with nodes := tree.nodes.filter (fun entry => entry.1 != place) ++ [(place, node)] }

/-- The names in a path; two slashes together, or one at an end, hold an empty name. -/
def names (path : String) : List String :=
  path.splitOn "/"

/-- The directory from which a path is looked up. -/
def origin (path : String) (current : Place) : Place :=
  if path.startsWith "/" then [] else current

def linkLimit : Nat := 40

def nameLimit : Nat := 255

def pathLimit : Nat := 4095

/--
Goes along names from a directory: to the place they lead to and what stands there, which may be
nothing if only the last name is missing.
-/
def walk (tree : FileTree) (last : LastName) (links : Nat) (current : Place) :
    List String → Except SystemErrorCode (Place × Option Node)
  | [] => .ok (current, some .directory)
  | name :: rest =>
      if name = "" ∨ name = "." then walk tree last links current rest
      else if name = ".." then walk tree last links current.dropLast rest
      else if last = .write ∧ rest ≠ [] ∧ rest.all (· == "") then .error .isDirectory
      else if nameLimit < name.utf8ByteSize then .error .nameTooLong
      else
        let place := current ++ [name]
        match tree.node? place with
        | none => if rest.isEmpty then .ok (place, none) else .error .noEntry
        | some .directory => walk tree last links place rest
        | some (.file content) =>
            if rest.isEmpty then .ok (place, some (.file content)) else .error .notDirectory
        | some (.link target) =>
            if rest.isEmpty && last = .keep then .ok (place, some (.link target))
            else match links with
              | 0 => .error .tooManyLinks
              | fewer + 1 => walk tree last fewer (origin target current) (names target ++ rest)
termination_by names => (links, names.length)

/-- A path that names something: it is not empty, and not too long. -/
def checkLength (path : String) : Except SystemErrorCode Unit :=
  if path = "" then .error .noEntry
  else if pathLimit < path.utf8ByteSize then .error .nameTooLong
  else .ok ()

def find (tree : FileTree) (path : String) (last : LastName := .follow) :
    Except SystemErrorCode (Place × Option Node) := do
  checkLength path
  tree.walk last linkLimit (origin path tree.working) (names path)

def read (tree : FileTree) (path : String) : Except FileError (List UInt8) := do
  FileError.checkPath path
  match tree.find path with
  | .error code => .error (.system code (.openFile path))
  | .ok (_, none) => .error (.system .noEntry (.openFile path))
  | .ok (_, some (.file content)) => .ok content
  | .ok (_, some _) => .error (.system .isDirectory .read)

end FileTree

end Suppression

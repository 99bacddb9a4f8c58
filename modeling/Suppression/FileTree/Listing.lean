import Suppression.FileTree
import Suppression.FileUrl

namespace Suppression

inductive ListingError where
  | url (error : FileUrlError)
  | file (error : FileError)

namespace FileTree

/-- The names of a path without empty ones, without `.`, and with `..` taken back where it can be.
-/
def simplify (absolute : Bool) (names : List String) : List String :=
  names.foldl (fun kept name =>
    if name = "" ∨ name = "." then kept
    else if name = ".." then
      if kept.isEmpty ∨ kept.getLast? = some ".." then (if absolute then kept else kept ++ [name])
      else kept.dropLast
    else kept ++ [name]) []

def joinPath (directory name : String) : String :=
  let absolute := directory.startsWith "/"
  let path := "/".intercalate (simplify absolute (names directory ++ names name))
  if absolute then "/" ++ path else path

def isSkipped (name : String) : Bool :=
  name.startsWith "." || name == "node_modules"

/-- The path of the directory that a scan is given, as a path or as a URL. -/
def listedPath (directory : String) : Except FileUrlError String :=
  if directory.startsWith FileUrl.scheme then FileUrl.path directory else .ok directory

/-- The names that lead to a directory from the root, in their simplest form. -/
def absoluteNames (tree : FileTree) (path : String) : List String :=
  simplify true ((if path.startsWith "/" then [] else tree.working) ++ names path)

/-- The files below a directory, as paths from it, and the links, whether or not they lead to
directories. A directory that is not there holds none, and so does a link to one. -/
def filesBelow (tree : FileTree) (directory : String) : Except ListingError (List String) := do
  let path ← (listedPath directory).mapError .url
  let parts := tree.absoluteNames path
  (FileError.checkPath ("/" ++ "/".intercalate parts)).mapError .file
  match tree.walk .keep linkLimit [] parts with
  | .ok (top, some .directory) =>
      return tree.nodes.filterMap fun (place, node) =>
        let below := place.drop top.length
        let isListed := match node with
          | .directory => false
          | _ => true
        if isListed && top.isPrefixOf place && !below.isEmpty && !below.any isSkipped
        then some ("/".intercalate below)
        else none
  | _ => return []

end FileTree

end Suppression

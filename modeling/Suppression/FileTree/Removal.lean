import Suppression.FileTree.Change

namespace Suppression.FileTree

def removeNode (tree : FileTree) (place : Place) : FileTree :=
  { tree with nodes := tree.nodes.filter fun entry => entry.1 != place }

def namesIn (tree : FileTree) (directory : Place) : List String :=
  let found := tree.nodes.filterMap fun (place, _) =>
    if place.dropLast = directory then place.getLast? else none
  found.mergeSort fun a b => decide (a ≤ b)

def removeFile (tree : FileTree) (path : String) : Except SystemErrorCode FileTree := do
  let last ← tree.findEnd path
  if !last.isProper then throw .isDirectory
  match ← tree.nodeAt last with
  | none => throw .noEntry
  | some .directory => throw .isDirectory
  | some _ => if last.slashed then throw .notDirectory else return tree.removeNode last.place

def removeDirectory (tree : FileTree) (path : String) : Except SystemErrorCode FileTree := do
  let last ← tree.findEnd path
  if last.name = "" then throw .busy
  if last.name = "." then throw .invalidArgument
  if last.name = ".." then throw .notEmpty
  match ← tree.nodeAt last with
  | none => throw .noEntry
  | some .directory =>
      if (tree.namesIn last.place).isEmpty then return tree.removeNode last.place
      else throw .notEmpty
  | some _ => throw .notDirectory

/-- What a failed removal comes to: a missing file counts as removed. -/
def settleRemoval (tree : FileTree) (call : SystemCall) :
    Except SystemErrorCode FileTree → Except FileError Unit × FileTree
  | .ok tree => (.ok (), tree)
  | .error code => (if code = .noEntry then .ok () else .error (.system code call), tree)

/-- Does something for each of some names, up to the first failure. -/
def forEachName (tree : FileTree) (act : FileTree → String → Except FileError Unit × FileTree) :
    List String → Except FileError Unit × FileTree
  | [] => (.ok (), tree)
  | name :: rest =>
      match act tree name with
      | (.error e, tree) => (.error e, tree)
      | (.ok (), tree) => forEachName tree act rest

/-- Removes what a path leads to, without following a last link, to a depth below it. The entries of
a directory are removed under its path, so that none is found any more once the path goes through
one that has been removed. -/
def removeWithin (depth : Nat) (tree : FileTree) (path : String) :
    Except FileError Unit × FileTree :=
  match depth with
  | 0 => (.ok (), tree)
  | depth + 1 =>
      match tree.find path .keep with
      | .error .noEntry | .ok (_, none) => (.ok (), tree)
      | .ok (place, some .directory) =>
          match tree.removeDirectory path with
          | .error .notEmpty =>
              let removeOne (tree : FileTree) (name : String) : Except FileError Unit × FileTree :=
                removeWithin depth tree (path ++ "/" ++ name)
              match tree.forEachName removeOne (tree.namesIn place) with
              | (.error e, tree) => (.error e, tree)
              | (.ok (), tree) =>
                  tree.settleRemoval (.removeDirectory path) (tree.removeDirectory path)
          | answer => tree.settleRemoval (.removeDirectory path) answer
      | _ => tree.settleRemoval (.removeFile path) (tree.removeFile path)

def remove (tree : FileTree) (path : String) : Except FileError Unit × FileTree :=
  match FileError.checkPath path with
  | .error e => (.error e, tree)
  | .ok () => tree.removeWithin (tree.nodes.length + 1) path

end Suppression.FileTree

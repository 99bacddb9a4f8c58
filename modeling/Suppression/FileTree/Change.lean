import Suppression.FileTree

namespace Suppression

/-- The last name of a path: the directory in which it is looked up, the name, and whether a slash
comes after it. -/
structure PathEnd where
  directory : Place
  name : String
  slashed : Bool

namespace PathEnd

def place (last : PathEnd) : Place :=
  last.directory ++ [last.name]

/-- The name is one that can be given to something, and not one that leads somewhere else. -/
def isProper (last : PathEnd) : Bool :=
  last.name != "" && last.name != "." && last.name != ".."

end PathEnd

/-- A directory that could not be made: its path, why that is so, and whether it is needed for
another one while something else stands in its place. -/
structure DirectoryError where
  path : String
  code : SystemErrorCode
  inTheWay : Bool

def DirectoryError.toFileError (e : DirectoryError) : FileError :=
  .system (if e.inTheWay then .notDirectory else e.code) (.makeDirectory e.path)

namespace FileTree

/-- The last name of a path. A path of slashes only has none. -/
def findEnd (tree : FileTree) (path : String) : Except SystemErrorCode PathEnd := do
  checkLength path
  let (last, before) := match (names path).reverse.dropWhile (· == "") with
    | [] => ("", [])
    | last :: before => (last, before.reverse)
  let (directory, _) ←
    tree.walk .follow linkLimit (origin path tree.working) (before ++ [""])
  return { directory, name := last, slashed := path.endsWith "/" }

/-- What stands in a directory under the last name of a path. -/
def nodeAt (tree : FileTree) (last : PathEnd) : Except SystemErrorCode (Option Node) :=
  if nameLimit < last.name.utf8ByteSize then .error .nameTooLong
  else .ok (tree.node? last.place)

def write (tree : FileTree) (path : String) (content : List UInt8) : Except FileError FileTree := do
  FileError.checkPath path
  match tree.find path .write with
  | .error code => .error (.system code (.openFile path))
  | .ok (_, some .directory) => .error (.system .isDirectory (.openFile path))
  | .ok (place, _) => .ok (tree.putNode place (.file content))

/-- Makes a symbolic link where nothing stands, unless the system refuses. -/
def addLink? (tree : FileTree) (path target : String) : Except SystemErrorCode FileTree := do
  checkLength target
  let last ← tree.findEnd path
  if !last.isProper then throw .exists
  match ← tree.nodeAt last with
  | some _ => throw .exists
  | none => if last.slashed then throw .noEntry else return tree.putNode last.place (.link target)

def addLink (tree : FileTree) (path target : String) : Except FileError FileTree := do
  FileError.checkPath target "target"
  FileError.checkPath path
  (tree.addLink? path target).mapError fun code => .system code (.makeLink target path)

def parentPath (path : String) : String :=
  let isSlash (c : Char) : Bool := c == '/'
  let trimmed := path.toList.reverse.dropWhile isSlash
  let parent := ((trimmed.dropWhile fun c => !isSlash c).drop 1).reverse
  if parent.isEmpty then (if path.startsWith "/" then "/" else ".") else String.ofList parent

def makeDirectory (tree : FileTree) (path : String) : Except SystemErrorCode FileTree := do
  let last ← tree.findEnd path
  if !last.isProper then throw .exists
  match ← tree.nodeAt last with
  | some _ => throw .exists
  | none => return tree.putNode last.place .directory

/-- A path and the paths of the directories on the way to it, the longest one first. -/
def pathsUpTo (path : String) : List String :=
  let parts := names path
  let shorter := (List.range (parts.length - 1)).map fun n => "/".intercalate (parts.take (n + 1))
  path :: shorter.reverse

/-- What becomes of a directory that cannot be made: that is no matter if there is one already. -/
def settleDirectory (tree : FileTree) (path : String) (onTheWay : Bool) (code : SystemErrorCode) :
    Except DirectoryError Unit :=
  let failure (found : SystemErrorCode) : Except DirectoryError Unit :=
    .error { path, code := found, inTheWay := onTheWay && code = .exists }
  match tree.find path with
  | .ok (_, some .directory) => .ok ()
  | .ok (_, some _) => failure (if onTheWay then .notDirectory else .exists)
  | .ok (_, none) => failure .noEntry
  | .error found => failure found

/-- Makes the first one of some directories, of which each lies in the next one, and as many of the
others as it needs. -/
def makeFirst (tree : FileTree) (onTheWay : Bool) :
    List String → Except DirectoryError Unit × FileTree
  | [] => (.ok (), tree)
  | path :: others =>
      match tree.makeDirectory path with
      | .ok tree => (.ok (), tree)
      | .error code =>
          if code = .noEntry ∧ others ≠ [] then
            match makeFirst tree true others with
            | (.error e, tree) => (.error e, tree)
            | (.ok (), tree) =>
                match tree.makeDirectory path with
                | .ok tree => (.ok (), tree)
                | .error code => (tree.settleDirectory path onTheWay code, tree)
          else (tree.settleDirectory path onTheWay code, tree)

/-- Makes a directory and those on the way to it, as far as they are not there. -/
def makeDirectories (tree : FileTree) (path : String) : Except DirectoryError Unit × FileTree :=
  makeFirst tree false (pathsUpTo path)

/-- Gives a file its content and makes the directories on the way to it, which stay even if the file
cannot be written. -/
def writeWithParents (tree : FileTree) (path : String) (content : List UInt8) :
    Except FileError Unit × FileTree :=
  let directory := parentPath path
  match FileError.checkPath directory with
  | .error e => (.error e, tree)
  | .ok () =>
      match tree.makeDirectories directory with
      | (.error e, tree) => (.error e.toFileError, tree)
      | (.ok (), tree) =>
          match tree.write path content with
          | .error e => (.error e, tree)
          | .ok tree => (.ok (), tree)

end FileTree

end Suppression

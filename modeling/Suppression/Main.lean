import Suppression.Run.Program

/-!
The command line. The files that a run may look at are copied from the disk before it, and what it
prints and keeps is written after it; all that is decided in between is `Run.program`.
-/

namespace Suppression.Disk

/-- What stands at a path, with the files on the way to it if it cannot be reached. -/
partial def copy (tree : FileTree) (path : String) : IO FileTree := do
  let here ← IO.currentDir
  match ← (IO.FS.readBinFile path).toBaseIO with
  | .ok bytes => return (tree.writeWithParents path bytes.toList).2
  | .error _ =>
      if ← (here / path).isDir then return (tree.makeDirectories path).2
      let parent := FileTree.parentPath path
      if parent = "." ∨ parent = "/" ∨ parent.length ≥ path.length then return tree
      copy tree parent

def copyAll (tree : FileTree) (paths : List String) : IO FileTree :=
  paths.foldlM copy tree

/-- All that lies below a directory and that a scan may look at. A link to a directory is copied as
one to the directory in which it stands, and a file that cannot be read as one that leads nowhere.
-/
partial def copyBelow (tree : FileTree) (directory : String) : IO FileTree := do
  let here ← IO.currentDir
  let entries ← (here / directory).readDir
  let tree := (tree.makeDirectories directory).2
  entries.toList.foldlM (fun tree entry => do
    let path := FileTree.joinPath directory entry.fileName
    let found ← entry.path.symlinkMetadata
    if FileTree.isSkipped entry.fileName then return tree
    else if found.type == .dir then copyBelow tree path
    else if ← entry.path.isDir then return (tree.addLink path ".").toOption.getD tree
    else
      let copied ← copy tree path
      if (copied.read path).toOption.isSome then return copied
      return (tree.addLink path ".missing").toOption.getD tree) tree

/-- The rest of a stream. -/
partial def readAll (stream : IO.FS.Stream) (before : ByteArray) : IO ByteArray := do
  let bytes ← stream.read 65536
  if bytes.isEmpty then return before
  readAll stream (before ++ bytes)

/-- What a scan of a directory may look at. -/
def copyListed (tree : FileTree) (directory : String) : IO FileTree := do
  match FileTree.listedPath directory with
  | .error _ => return tree
  | .ok path =>
      let here ← IO.currentDir
      let top := "/" ++ "/".intercalate (tree.absoluteNames path)
      match ← ((here / top).symlinkMetadata).toBaseIO with
      | .ok found => if found.type == .dir then copyBelow tree top else return tree
      | .error _ => return tree

/-- The files and the standard input that a choice may look at. -/
def prepare (choice : Choice) : IO (FileTree × String) := do
  let here ← IO.currentDir
  let working := (FileTree.names here.toString).filter (· != "")
  let tree := FileTree.empty working
  match choice.scan.filter (· != "") with
  | some directory => return (← copyListed tree directory, "")
  | none =>
      let tree ← copyAll tree (choice.diagnostics.toList ++ choice.cache.toList)
      let input : FilterInput := { path := choice.diagnostics }
      let stdin ← match input.read tree with
        | .error (.noInput _) => do
            let bytes ← readAll (← IO.getStdin) .empty
            pure (Text.decodeUtf8 bytes.toList)
        | _ => pure ""
      match { input with stdin := some stdin : FilterInput }.read tree with
      | .ok text => return (← copyAll tree ((Run.filesIn text).map Wide.shown), stdin)
      | .error _ => return (tree, stdin)

/-- Writes a file that a run has changed. -/
def update (before after : FileTree) (path : String) : IO Unit := do
  match after.read path with
  | .error _ => return ()
  | .ok content =>
      if (before.read path).toOption = some content then return ()
      if let some parent := ((← IO.currentDir) / path).parent then IO.FS.createDirAll parent
      IO.FS.writeBinFile path ⟨content.toArray⟩

def run (arguments : List String) : IO UInt32 := do
  let choice := (CommandLine.parse arguments).toOption.getD { help := true }
  let (tree, stdin) ← if choice.help then pure (FileTree.empty, "") else prepare choice
  let (code, course) := Run.program tree arguments stdin
  (course.reports.map Wide.shown).forM IO.eprintln
  (course.results.map Wide.shown).forM IO.println
  (choice.cache.toList.filter (· != "")).forM (update tree course.tree)
  return UInt32.ofNat code

end Suppression.Disk

def main (arguments : List String) : IO UInt32 :=
  Suppression.Disk.run arguments

import Suppression.FileTree
import Suppression.Number.Shortest
import Suppression.Text.Digest
import Suppression.Text.Lines

namespace Suppression

inductive AccessCause where
  | file (error : FileError)
  | lineOutside (line : Number) (count : Nat)
  | other (text : Wide)
  deriving DecidableEq

structure AccessError where
  file : Wide
  cause : AccessCause
  deriving DecidableEq

def AccessCause.message : AccessCause → Wide
  | file error => .text error.message
  | lineOutside line count => .text ("line " ++ line.text ++ " is outside 1.." ++ toString count)
  | other text => text

def AccessError.message (e : AccessError) : Wide :=
  "Cannot read " ++ e.file ++ ": " ++ e.cause.message

/-- The lines of a file and the fingerprint of its content. -/
structure Source where
  lines : Array String
  fingerprint : String

namespace Source

def ofText (text : String) : Source :=
  { lines := ((Text.fileLines text.toList).map String.ofList).toArray
    fingerprint := Text.fingerprint text }

def line? (source : Source) (number : Number) : Option String :=
  if number.isInteger = false ∨ number < 1 then none
  else source.lines[number.toNat - 1]?

end Source

/-- The text of a file. Half of a pair in the path is looked for as the character that stands for
none. -/
def FileTree.readText (tree : FileTree) (path : Wide) : Except FileError String :=
  (tree.read path.shown).map Text.decodeUtf8

/-- The sources that are held. -/
structure Reader where
  held : Entries Source := []

namespace Reader

def source (reader : Reader) (tree : FileTree) (file : Wide) :
    Except AccessError Source × Reader :=
  match reader.held.get? file with
  | some source => (.ok source, reader)
  | none =>
      match tree.readText file with
      | .error e => (.error ⟨file, .file e⟩, reader)
      | .ok text =>
          let source := Source.ofText text
          (.ok source, { held := reader.held.put file source })

def fingerprint (reader : Reader) (tree : FileTree) (file : Wide) :
    Except AccessError String × Reader :=
  let (source, reader) := reader.source tree file
  (source.map Source.fingerprint, reader)

def lineCount (reader : Reader) (tree : FileTree) (file : Wide) :
    Except AccessError Nat × Reader :=
  let (source, reader) := reader.source tree file
  (source.map fun source => source.lines.size, reader)

def readLine (reader : Reader) (tree : FileTree) (file : Wide) (line : Number) :
    Except AccessError String × Reader :=
  let (source, reader) := reader.source tree file
  let answer := source.bind fun source =>
    match source.line? line with
    | some text => .ok text
    | none => .error ⟨file, .lineOutside line source.lines.size⟩
  (answer, reader)

def release (reader : Reader) (file : Wide) : Reader :=
  { held := reader.held.remove file }

end Reader

end Suppression

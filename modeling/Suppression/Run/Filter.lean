import Suppression.Diagnostic.Partition
import Suppression.Run

namespace Suppression

/-- Where diagnostics come from: a named file, a text, or else the standard input. -/
structure FilterInput where
  path : Option String := none
  text : Option String := none
  stdin : Option String := none

namespace FilterInput

/-- The text of the diagnostics. A hyphen, or an empty name, names no file. -/
def read (input : FilterInput) (tree : FileTree) : Except RunError String :=
  match input.path.filter fun path => path != "" && path != "-" with
  | some path => (tree.readText path).mapError .file
  | none =>
      match input.text.or input.stdin with
      | some text => .ok text
      | none => .error (.noInput input.path)

def diagnostics (input : FilterInput) (tree : FileTree) : Except RunError (List Diagnostic) := do
  (Diagnostic.ofText (← input.read tree)).mapError .input

end FilterInput

namespace Run

/-- The tracker of a run; an empty name of a cache is none. -/
def tracker (verbose : Bool) (cache : Option String) : Tracker :=
  { settings := { verbose }
    store := (cache.filter fun path => path != "").map fun path => { path, verbose } }

/-- Prints the findings that are kept and reports the files that could not be read. -/
def reportPartition (course : Course) (verbose : Bool) (parted : Partition) : Course :=
  let unreadable (file : Wide) : Wide :=
    file ++ " -> unreadable; its diagnostics are reported unfiltered"
  let count := parted.ignored.length + parted.kept.length
  let summary : Wide := "Ignored " ++ toString parted.ignored.length ++ " of " ++ toString count ++
    " diagnostic(s)"
  let course := course.printAll (parted.kept.filterMap Diagnostic.format?)
  let course := course.noteAll (parted.failedFiles.map unreadable)
  if verbose then course.noteAll [summary] else course

/-- Filters diagnostics: the exit code is one if any of them is left. -/
def filter (tree : FileTree) (input : FilterInput) (verbose : Bool) (cache : Option String) : Run :=
  match input.diagnostics tree with
  | .error e => { exit := .error e, course := { tree } }
  | .ok diagnostics =>
      let (parted, tracker) := Diagnostic.partition diagnostics (tracker verbose cache) tree verbose
      let course := Course.noteAll { tree } tracker.notes
      match parted with
      | .error .noText => { exit := .error .noText, course }
      | .error (.query e) => { exit := .error (.query e), course }
      | .ok parted =>
          let course := reportPartition course verbose parted
          let (saved, tree, tracker) := { tracker with log := #[] }.persist tree
          let course := { course with tree }.noteAll tracker.notes
          match saved with
          | .error e => { exit := .error (.file e), course }
          | .ok () => { exit := .ok (if parted.kept.isEmpty then 0 else 1), course }

end Run

end Suppression

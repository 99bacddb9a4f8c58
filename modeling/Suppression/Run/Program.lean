import Suppression.CommandLine
import Suppression.Run.Filter
import Suppression.Run.Scan

namespace Suppression.Run

def ofChoice (tree : FileTree) (stdin : String) (choice : Choice) : Run :=
  match choice.scan.filter fun directory => directory != "" with
  | some directory => scan tree directory choice.verbose
  | none =>
      let input : FilterInput := { path := choice.diagnostics, stdin := some stdin }
      filter tree input choice.verbose choice.cache

/-- The files that the diagnostics of a text are about. -/
def filesIn (text : String) : List Wide :=
  match Diagnostic.ofText text with
  | .ok diagnostics => (diagnostics.map Diagnostic.file).eraseDups
  | .error _ => []

/-- The exit code of the program: findings do not count if the user only wants to be warned, and a
run that breaks off is reported and gives two. -/
def settle (warn : Bool) (run : Run) : Nat × Course :=
  match run.exit with
  | .ok code => (if warn && code == 1 then 0 else code, run.course)
  | .error e => (2, run.course.reportAll [e.headline])

/-- Runs the program: the exit code, and the course of the run. -/
def program (tree : FileTree) (arguments : List String) (stdin : String) : Nat × Course :=
  match CommandLine.parse arguments with
  | .error e =>
      (2, (Course.reportAll { tree } [e.message]).printAll [CommandLine.usage])
  | .ok choice =>
      if choice.help then (0, Course.printAll { tree } [CommandLine.usage])
      else settle choice.warn (ofChoice tree stdin choice)

end Suppression.Run

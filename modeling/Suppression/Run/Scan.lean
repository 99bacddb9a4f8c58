import Suppression.FileTree.Listing
import Suppression.Run
import Suppression.Source
import Suppression.Text.Units

namespace Suppression

namespace FileTree

def directives (tree : FileTree) (matcher : Matcher) (path : String) :
    Except RunError (List LineDirective) :=
  match tree.readText path with
  | .ok text => (matcher.inText text).mapError fun message => .query (.grammar message)
  | .error e => if e.code? = some .isDirectory then .ok [] else .error (.file e)

end FileTree

namespace Run

structure FileReport where
  problems : List Wide
  notes : List Wide := []

def scanFile (tree : FileTree) (verbose : Bool) (file : String) : FileReport :=
  match tree.directives .standard file with
  | .error e => { problems := [reportLabel ++ " " ++ file ++ " -> " ++ e.message] }
  | .ok directives =>
      let count := toString directives.length
      { problems := (Pairing.problems directives).map fun problem => problem.message file
        notes :=
          if verbose && !directives.isEmpty then
            ["Validating " ++ count ++ " directive(s) in " ++ file]
          else [] }

/-- Looks at all files below a directory, in the order of their names. The exit code is one if there
is any problem. -/
def scan (tree : FileTree) (directory : String) (verbose : Bool) : Run :=
  match (tree.filesBelow directory).map Text.sort with
  | .error (.file e) => { exit := .error (.file e), course := { tree } }
  | .error (.url e) => { exit := .error (.url e), course := { tree } }
  | .ok [] =>
      let notes : List Wide := if verbose then ["No files found in " ++ directory] else []
      { exit := .ok 0, course := Course.noteAll { tree } notes }
  | .ok names =>
      let reports := names.map fun name => scanFile tree verbose (FileTree.joinPath directory name)
      let course := reports.foldl (fun course report =>
        (course.noteAll report.notes).reportAll report.problems) { tree }
      { exit := .ok (if reports.all fun report => report.problems.isEmpty then 0 else 1), course }

end Run

end Suppression

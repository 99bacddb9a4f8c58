import Suppression.Diagnostic.Input
import Suppression.FileUrl
import Suppression.Tracker

/-!
What a run of the program comes to: the lines that it prints, the files that it leaves, and its exit
code, or why it broke off. A run that breaks off keeps what it has printed and done before.
-/

namespace Suppression

inductive RunError where
  | file (error : FileError)
  | url (error : FileUrlError)
  | noInput (path : Option String)
  | input (error : InputError)
  | query (error : QueryError)
  | noText

def RunError.message : RunError → Wide
  | file error => error.message
  | url error => error.message
  | noInput path =>
      "No diagnostics input provided (filePath=" ++ path.getD "undefined" ++
        ", textProvided=false, stdinProvided=false)"
  | input error => error.message
  | query error => error.message
  | noText => PlaceError.noText.message

/-- The line by which a broken run is reported: the kind of the error and its text. -/
def RunError.headline : RunError → Wide
  | input .malformed => "SyntaxError"
  | query (.access error) => "FileAccessError: " ++ error.message
  | query (.range error) => "RangeError: " ++ error.message
  | file error => error.kind ++ ": " ++ error.message
  | url error => error.kind ++ ": " ++ error.message
  | noText => "TypeError: " ++ PlaceError.noText.message
  | error => "Error: " ++ error.message

/-- The course of a run so far: the files, and the lines printed as results and as reports. -/
structure Course where
  tree : FileTree
  results : List Wide := []
  reports : List Wide := []

namespace Course

def printAll (course : Course) (lines : List Wide) : Course :=
  { course with results := course.results ++ lines }

def reportAll (course : Course) (lines : List Wide) : Course :=
  { course with reports := course.reports ++ lines }

/-- The course after some more notes, which are reports with a label. -/
def noteAll (course : Course) (notes : List Wide) : Course :=
  course.reportAll (notes.map fun note => reportLabel ++ " " ++ note)

end Course

structure Run where
  exit : Except RunError Nat
  course : Course

end Suppression

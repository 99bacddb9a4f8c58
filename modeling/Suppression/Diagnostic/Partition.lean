import Suppression.Diagnostic
import Suppression.Tracker

namespace Suppression

/-- Findings to report, findings to leave out, each in their order, and the files that could not be
read. -/
structure Partition where
  kept : List Diagnostic
  ignored : List Diagnostic
  failedFiles : List Wide

/-- Why there is no telling whether a finding is ignored. -/
inductive DecisionError where
  /-- Its place is nothing that an error could name. -/
  | noText
  | query (error : QueryError)
  deriving DecidableEq

def DecisionError.message : DecisionError → Wide
  | noText => PlaceError.noText.message
  | query error => error.message

/-- What has been noticed while findings are decided. -/
structure Sorting where
  tracker : Tracker
  verbose : Bool
  failedFiles : List Wide := []

namespace Sorting

def note (sorting : Sorting) (text : Wide) : Sorting :=
  if sorting.verbose then { sorting with tracker := sorting.tracker.saw (.noted text) } else sorting

/-- The sorting after a file could not be read; that is reported once for each file. -/
def fail (sorting : Sorting) (e : AccessError) : Sorting :=
  if sorting.failedFiles.contains e.file then sorting
  else
    { sorting.note ("Reporting diagnostics in " ++ e.file ++ " unfiltered: " ++ e.message) with
      failedFiles := sorting.failedFiles ++ [e.file] }

def decide (sorting : Sorting) (tree : FileTree) (d : Diagnostic) :
    Except DecisionError Bool × Sorting :=
  match d.range with
  | .error .noText => (.error .noText, sorting)
  | .error (.range e) =>
      let text := "Reporting diagnostic in " ++ d.file ++ " unfiltered: " ++ e.message
      (.ok false, sorting.note text)
  | .ok range =>
      let (answer, tracker) := sorting.tracker.isIgnored tree range d.origin
      let sorting := { sorting with tracker }
      match answer with
      | .error (.access e) => (.ok false, sorting.fail e)
      | answer => (answer.mapError .query, sorting)

def decideAll (sorting : Sorting) (tree : FileTree) :
    List Diagnostic → List (Except DecisionError Bool) × Sorting
  | [] => ([], sorting)
  | first :: rest =>
      let (answer, sorting) := sorting.decide tree first
      let (answers, sorting) := sorting.decideAll tree rest
      (answer :: answers, sorting)

end Sorting

namespace Diagnostic

/-- The findings with a decision, each beside its own. -/
def withDecision (ignored : Bool) (diagnostics : List Diagnostic) (decisions : List Bool) :
    List Diagnostic :=
  ((diagnostics.zip decisions).filter fun entry => entry.2 == ignored).map Prod.fst

def isUnplaced : Except DecisionError Bool → Bool
  | .error .noText => true
  | _ => false

/-- The decisions, if all findings have one. One that cannot be placed is noticed before any file is
read, and otherwise the first one without a decision counts. -/
def decisions (answers : List (Except DecisionError Bool)) : Except DecisionError (List Bool) :=
  if answers.any isUnplaced then .error .noText else answers.mapM id

/-- Parts findings. Every finding is decided, and one for which there is no answer, though its file
could be read, leaves all without one. -/
def partition (diagnostics : List Diagnostic) (tracker : Tracker) (tree : FileTree)
    (verbose : Bool) : Except DecisionError Partition × Tracker :=
  let (answers, sorting) := Sorting.decideAll { tracker, verbose } tree diagnostics
  let parted := (decisions answers).map fun decisions => {
    kept := withDecision false diagnostics decisions
    ignored := withDecision true diagnostics decisions
    failedFiles := sorting.failedFiles }
  (parted, sorting.tracker)

end Diagnostic

end Suppression

import Suppression.Json
import Suppression.Pairing
import Suppression.Range.Written

namespace Suppression

/-- A finding of an analyzer. -/
structure Diagnostic where
  file : Wide
  analyzer : Wide
  rule : Option Wide := none
  message : Wide
  line : Option Json := none
  column : Option Json := none
  endLine : Option Json := none
  endColumn : Option Json := none
  document : Json := .null

namespace Diagnostic

def origin (d : Diagnostic) : Origin :=
  { analyzer := d.analyzer, rule := d.rule }

/-- The column that a finding begins at, which is zero if none is given. -/
def startColumn (d : Diagnostic) : Json :=
  Json.valueOr d.column (.num 0)

/-- The range that a finding is about. The end is the start as far as it is not given. -/
def range (d : Diagnostic) : Except PlaceError Range :=
  match d.line with
  | none => .ok (.wholeFile d.file)
  | some line =>
      Range.ofWritten d.file ⟨line, d.startColumn⟩
        ⟨Json.valueOr d.endLine line, Json.valueOr d.endColumn d.startColumn⟩

/-- Where a finding is, as reports show it. A finding with a range always is somewhere. -/
def location? (d : Diagnostic) : Option Wide :=
  match d.line with
  | none => some d.file
  | some line => do return d.file ++ ":" ++ (← line.text?) ++ ":" ++ (← d.startColumn.text?)

def format? (d : Diagnostic) : Option Wide :=
  d.location?.map fun location =>
    reportLabel ++ " " ++ location ++ " -> " ++ Target.withRule d.analyzer d.rule ++ ": " ++
      d.message

/-- The diagnostic that a record describes, if its texts are texts. -/
def ofJson? (json : Json) : Option Diagnostic := do
  let fields ← json.fields?
  let text? (name : Wide) : Option (Option Wide) :=
    match fields.get? name with
    | none => some none
    | some value => value.str?.map some
  return {
    file := ← ← text? "file"
    analyzer := ← ← text? "analyzer"
    rule := ← text? "rule"
    message := ← ← text? "message"
    line := fields.get? "line"
    column := fields.get? "column"
    endLine := fields.get? "endLine"
    endColumn := fields.get? "endColumn"
    document := json }

end Diagnostic

end Suppression

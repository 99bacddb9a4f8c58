import Suppression.Diagnostic.Schema
import Suppression.Json.Reader
import Suppression.Text.Blank
import Suppression.Text.Lines

namespace Suppression

inductive InputError where
  | malformed
  | notJson (record : Nat)
  | faulty (record : Nat) (faults : List Fault)
  | badRange (record : Nat) (error : PlaceError)
  deriving DecidableEq

/-- The text of the error; a malformed array has none of its own. -/
def InputError.message : InputError → Wide
  | malformed => ""
  | notJson record => "Invalid diagnostics input: record " ++ toString record ++ " is not JSON"
  | faulty record faults =>
      "Invalid diagnostics input: record " ++ toString record ++ ": " ++
        ", ".intercalate (faults.map Fault.message)
  | badRange record error =>
      "Invalid diagnostics input: record " ++ toString record ++ ": " ++ error.message

namespace Diagnostic

def ofRecord (number : Nat) (record : Json) : Except InputError Diagnostic :=
  match Fault.ofRecord record with
  | [] =>
      match ofJson? record with
      | none => .error (.faulty number [])
      | some diagnostic =>
          match diagnostic.range with
          | .error e => .error (.badRange number e)
          | .ok _ => .ok diagnostic
  | faults => .error (.faulty number faults)

def ofRecordsFrom (number : Nat) : List Json → Except InputError (List Diagnostic)
  | [] => .ok []
  | record :: rest => do
      let first ← ofRecord number record
      let others ← ofRecordsFrom (number + 1) rest
      return first :: others

def recordsOfLinesFrom (number : Nat) : List (List Char) → Except InputError (List Json)
  | [] => .ok []
  | line :: rest => do
      let first ← match Json.ofChars? line with
        | none => .error (.notJson number)
        | some json => .ok json
      let others ← recordsOfLinesFrom (number + 1) rest
      return first :: others

def recordsOf (text : List Char) : Except InputError (List Json) :=
  if text.head? = some '[' then
    match Json.ofChars? text with
    | some (.arr records) => .ok records
    | _ => .error .malformed
  else
    recordsOfLinesFrom 0 <| (Text.splitLines text).filter fun line => !(Text.trimChars line).isEmpty

def ofText (text : String) : Except InputError (List Diagnostic) := do
  let records ← recordsOf (Text.trimChars text.toList)
  ofRecordsFrom 0 records

end Diagnostic

end Suppression

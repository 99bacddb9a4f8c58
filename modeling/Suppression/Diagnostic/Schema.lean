import Suppression.Diagnostic

namespace Suppression

inductive Fault where
  | notObject
  | missing (field : String)
  | needsLine (field : String)
  | notText (field : String)
  | emptyText (field : String)
  | notInteger (field : String)
  | below (field : String) (least : Number)
  deriving DecidableEq

def Fault.message : Fault → String
  | notObject => "data must be object"
  | missing field => "data must have required property '" ++ field ++ "'"
  | needsLine field => "data must have property line when property " ++ field ++ " is present"
  | notText field => "data/" ++ field ++ " must be string"
  | emptyText field => "data/" ++ field ++ " must NOT have fewer than 1 characters"
  | notInteger field => "data/" ++ field ++ " must be integer"
  | below field least => "data/" ++ field ++ " must be >= " ++ least.text

namespace Fault

def required : List String := ["file", "analyzer", "message"]

/-- The fields that say nothing without a line. -/
def lineBound : List String := ["column", "endLine", "endColumn"]

def ofText (field : String) (mayBeEmpty : Bool) : Json → List Fault
  | .str text => if text == "" && !mayBeEmpty then [emptyText field] else []
  | _ => [notText field]

def ofNumber (field : String) (least : Number) : Json → List Fault
  | .num number =>
      (if number.hasNoFraction then [] else [notInteger field]) ++
        (if number < least then [below field least] else [])
  | _ => [notInteger field]

/-- The check of each field that is known, in the order in which their faults are reported. -/
def checks : List (String × (String → Json → List Fault)) := [
  ("file", fun field => ofText field false),
  ("analyzer", fun field => ofText field false),
  ("rule", fun field => ofText field false),
  ("message", fun field => ofText field true),
  ("line", fun field => ofNumber field 1),
  ("column", fun field => ofNumber field 0),
  ("endLine", fun field => ofNumber field 1),
  ("endColumn", fun field => ofNumber field 0)]

def ofFields (fields : Entries Json) : List Fault :=
  let absent (field : String) : Bool := (fields.get? field).isNone
  (required.filter absent).map missing ++
    (if absent "line" then (lineBound.filter fun field => !absent field).map needsLine else []) ++
    checks.flatMap fun (field, check) =>
      match fields.get? field with
      | none => []
      | some value => check field value

def ofRecord (record : Json) : List Fault :=
  match record.fields? with
  | none => [notObject]
  | some fields => ofFields fields

end Fault

end Suppression

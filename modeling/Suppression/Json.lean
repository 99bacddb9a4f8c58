import Suppression.Entries
import Suppression.Number.Shortest

namespace Suppression

inductive Json where
  | null
  | bool (value : Bool)
  | num (value : Number)
  | str (value : Wide)
  | arr (items : List Json)
  | obj (fields : List (Wide × Json))

namespace Json

instance : Inhabited Json := ⟨null⟩

def fields? : Json → Option (Entries Json)
  | obj fields => some fields
  | _ => none

def field? (json : Json) (key : Wide) : Option Json :=
  json.fields?.bind fun fields => fields.get? key

def str? : Json → Option Wide
  | str value => some value
  | _ => none

def num? : Json → Option Number
  | num value => some value
  | _ => none

def arr? : Json → Option (List Json)
  | arr items => some items
  | _ => none

def bool? : Json → Option Bool
  | bool value => some value
  | _ => none

/-- A value, or another one where it is missing; `null` counts as missing. -/
def valueOr (value : Option Json) (other : Json) : Json :=
  match value with
  | none | some null => other
  | some value => value

mutual

/-- The text by which a value is named where a message is expected: arrays are their items with
commas between them, and an object is only called one. An object that has a field in place of its
own way to be written cannot be written at all, and neither can an array that holds one. -/
def text? : Json → Option Wide
  | null => some "null"
  | bool value => some (.text (if value then "true" else "false"))
  | num value => some (.text value.text)
  | str value => some value
  | arr items => itemsText? items
  | obj fields =>
      if fields.any fun field => field.1 == "toString" then none else some "[object Object]"

def itemsText? : List Json → Option Wide
  | [] => some ""
  | [item] => itemText? item
  | item :: rest => do return (← itemText? item) ++ "," ++ (← itemsText? rest)

def itemText? : Json → Option Wide
  | null => some ""
  | bool value => some (.text (if value then "true" else "false"))
  | num value => some (.text value.text)
  | str value => some value
  | arr items => itemsText? items
  | obj fields =>
      if fields.any fun field => field.1 == "toString" then none else some "[object Object]"

end

end Json

end Suppression

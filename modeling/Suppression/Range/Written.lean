import Suppression.Json
import Suppression.Range

namespace Suppression

structure WrittenPosition where
  line : Json
  column : Json

/-- Why written positions make no range. -/
inductive PlaceError where
  | range (error : RangeError)
  /-- The value that is no line or no column has no text to name it by. -/
  | noText
  deriving DecidableEq

namespace PlaceError

def message : PlaceError → Wide
  | range error => error.message
  | noText => "Cannot convert object to primitive value"

/-- The error that names a value, if it has a text. -/
def naming (value : Json) (error : Wide → RangeError) : PlaceError :=
  match value.text? with
  | some text => range (error text)
  | none => noText

end PlaceError

def WrittenPosition.position (written : WrittenPosition) (role : RangeEnd) :
    Except PlaceError Position :=
  match written.line.num?.filter Position.isLine,
    written.column.num?.filter Position.isColumn with
  | none, _ => .error (.naming written.line (.line role))
  | some _, none => .error (.naming written.column (.column role))
  | some line, some column => .ok { line, column }

/-- The range between two written positions. -/
def Range.ofWritten (file : Wide) (start stop : WrittenPosition) : Except PlaceError Range := do
  let start ← start.position .start
  let stop ← stop.position .stop
  (Range.between file start stop).mapError .range

end Suppression

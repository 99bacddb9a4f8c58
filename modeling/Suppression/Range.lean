import Suppression.Number.Shortest
import Suppression.Text.Wide

namespace Suppression

/-- A place in a file: a line, counted from one, and a column, counted from zero. -/
structure Position where
  line : Number
  column : Number
  deriving DecidableEq

namespace Position

def compare (a b : Position) : Ordering :=
  if !a.line.same b.line then (if a.line < b.line then .lt else .gt)
  else if !a.column.same b.column then (if a.column < b.column then .lt else .gt)
  else .eq

def format (position : Position) : String :=
  position.line.text ++ ":" ++ position.column.text

end Position

structure Span where
  start : Position
  stop : Position
  deriving DecidableEq

structure Range where
  file : Wide
  span : Option Span
  deriving DecidableEq

inductive RangeEnd where
  | start
  | stop
  deriving DecidableEq

def RangeEnd.name : RangeEnd → String
  | start => "start"
  | stop => "stop"

/-- Why positions make no range. A line or a column that is none is kept as it is written. -/
inductive RangeError where
  | line (role : RangeEnd) (written : Wide)
  | column (role : RangeEnd) (written : Wide)
  | reversed (file : Wide) (span : Span)
  deriving DecidableEq

def RangeError.message : RangeError → Wide
  | line role written =>
      "Invalid " ++ role.name ++ " line " ++ written ++ ": expected an integer >= 1"
  | column role written =>
      "Invalid " ++ role.name ++ " column " ++ written ++ ": expected an integer >= 0"
  | reversed file span =>
      "Invalid range in " ++ file ++ ": start " ++ span.start.format ++ " is after stop " ++
        span.stop.format

/-- Ranges of two files, which have no order. -/
structure FileMismatch where
  left : Wide
  right : Wide
  deriving DecidableEq

def FileMismatch.message (mismatch : FileMismatch) : Wide :=
  "Cannot order ranges from different files: '" ++ mismatch.left ++ "' and '" ++
    mismatch.right ++ "'"

namespace Position

def isLine (number : Number) : Bool :=
  number.isInteger && !decide (number < 1)

def isColumn (number : Number) : Bool :=
  number.isInteger && !decide (number < 0)

def check (role : RangeEnd) (position : Position) : Except RangeError Unit :=
  if !isLine position.line then .error (.line role position.line.text)
  else if !isColumn position.column then .error (.column role position.column.text)
  else .ok ()

end Position

namespace Range

def wholeFile (file : Wide) : Range :=
  { file, span := none }

/-- The range from one position to another, or to the same one if no other is given. -/
def between (file : Wide) (start : Position) (stop : Position := start) :
    Except RangeError Range := do
  start.check .start
  stop.check .stop
  if start.compare stop = .gt then throw (.reversed file ⟨start, stop⟩)
  return { file, span := some ⟨start, stop⟩ }

def isWholeFile (range : Range) : Bool :=
  range.span.isNone

/-- The order of the ranges of one file, by start and then by stop; the whole file comes first. -/
def compare (a b : Range) : Except FileMismatch Ordering :=
  if a.file ≠ b.file then .error ⟨a.file, b.file⟩
  else match a.span, b.span with
    | some s, some t => .ok ((s.start.compare t.start).then (s.stop.compare t.stop))
    | some _, none => .ok .gt
    | none, some _ => .ok .lt
    | none, none => .ok .eq

/-- The range lies within another one. The whole of a file lies only within itself. -/
def contains (outer inner : Range) : Bool :=
  outer.file == inner.file &&
    match outer.span, inner.span with
    | none, _ => true
    | some _, none => false
    | some s, some t => t.start.compare s.start != .lt && t.stop.compare s.stop != .gt

/-- The range as `file`, `file:line:column` or `file:line:column-line:column`. -/
def format (range : Range) : Wide :=
  match range.span with
  | none => range.file
  | some ⟨start, stop⟩ =>
      let head := range.file ++ ":" ++ start.format
      if start.compare stop = .eq then head else head ++ "-" ++ stop.format

end Range

end Suppression

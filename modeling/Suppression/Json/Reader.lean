import Suppression.Json

/-!
Reading JSON, strictly: one left fold over the characters with a stack of the arrays and objects
that are still open. No fuel is needed, however deep a document is nested, and reading `s ++ t` is
reading `t` from the state in which `s` ends (`run_append`).
-/

namespace Suppression.Json

/-- An array or object that is still open. -/
inductive Frame where
  | array (items : List Json)
  | object (fields : Entries Json)
  | field (fields : Entries Json) (key : Wide)

/-- Where in a string's escapes a reader stands. -/
inductive Escape where
  | plain
  | escaped
  | hex (digits : Nat) (value : Nat)

structure OpenString where
  read : List Letter := []
  escape : Escape := .plain

/-- What a reader expects or is in the middle of. -/
inductive Mode where
  | value
  | itemOrClose
  | key
  | keyOrClose
  | colon (key : Wide)
  | text (isKey : Bool) (content : OpenString)
  | number (read : List Char)
  | word (rest : List Char) (meaning : Json)
  | after
  | done (result : Json)

/-- A reader between two characters. -/
structure Reader where
  stack : List Frame := []
  mode : Mode := .value

namespace OpenString

def push (s : OpenString) (letter : Letter) : OpenString :=
  { read := letter :: s.read }

def finish (s : OpenString) : Wide :=
  .ofLetters s.read.reverse

end OpenString

def hexDigit? (c : Char) : Option Nat :=
  if '0' ≤ c ∧ c ≤ '9' then some (c.toNat - '0'.toNat)
  else if 'a' ≤ c ∧ c ≤ 'f' then some (c.toNat - 'a'.toNat + 10)
  else if 'A' ≤ c ∧ c ≤ 'F' then some (c.toNat - 'A'.toNat + 10)
  else none

/-- The character that a single letter after a backslash stands for. -/
def unescape? : Char → Option Char
  | '"' => some '"'
  | '\\' => some '\\'
  | '/' => some '/'
  | 'b' => some '\x08'
  | 'f' => some '\x0c'
  | 'n' => some '\n'
  | 'r' => some '\r'
  | 't' => some '\t'
  | _ => none

def isSpace (c : Char) : Bool :=
  c == ' ' || c == '\t' || c == '\n' || c == '\r'

def isNumberChar (c : Char) : Bool :=
  c.isDigit || c == '-' || c == '+' || c == '.' || c == 'e' || c == 'E'

namespace Reader

def complete (stack : List Frame) (value : Json) : Reader :=
  match stack with
  | .array items :: rest => { stack := .array (value :: items) :: rest, mode := .after }
  | .field fields key :: rest =>
      { stack := .object (Entries.put fields key value) :: rest, mode := .after }
  | _ => { stack, mode := .done value }

def begin? (stack : List Frame) (c : Char) : Option Reader :=
  match c with
  | '\x7b' => some { stack := .object [] :: stack, mode := .keyOrClose }
  | '[' => some { stack := .array [] :: stack, mode := .itemOrClose }
  | '"' => some { stack, mode := .text false {} }
  | 't' => some { stack, mode := .word ['r', 'u', 'e'] (.bool true) }
  | 'f' => some { stack, mode := .word ['a', 'l', 's', 'e'] (.bool false) }
  | 'n' => some { stack, mode := .word ['u', 'l', 'l'] .null }
  | _ => if c.isDigit || c == '-' then some { stack, mode := .number [c] } else none

def continue? (stack : List Frame) (c : Char) : Option Reader :=
  match c, stack with
  | ',', .array _ :: _ => some { stack, mode := .value }
  | ',', .object _ :: _ => some { stack, mode := .key }
  | ']', .array items :: rest => some (complete rest (.arr items.reverse))
  | '\x7d', .object fields :: rest => some (complete rest (.obj fields))
  | _, _ => none

def closeText (stack : List Frame) (isKey : Bool) (text : Wide) : Reader :=
  if isKey then { stack, mode := .colon text } else complete stack (.str text)

def inText? (stack : List Frame) (isKey : Bool) (s : OpenString) (c : Char) : Option Reader :=
  let stay (s : OpenString) : Option Reader := some { stack, mode := .text isKey s }
  match s.escape with
  | .plain =>
      if c = '"' then some (closeText stack isKey s.finish)
      else if c = '\\' then stay { s with escape := .escaped }
      else if c.toNat < 0x20 then none
      else stay (s.push (.char c))
  | .escaped =>
      if c = 'u' then stay { s with escape := .hex 0 0 }
      else (unescape? c).bind fun meaning => stay (s.push (.char meaning))
  | .hex digits value =>
      (hexDigit? c).bind fun digit =>
        let value := value * 16 + digit
        if digits = 3 then stay (s.push (.ofUnit value))
        else stay { s with escape := .hex (digits + 1) value }

def closeNumber? (stack : List Frame) (read : List Char) : Option Reader :=
  (Decimal.ofJson? read.reverse).map fun decimal => complete stack (.num decimal.toNumber)

/-- One character where no string, number or word is in progress. -/
def between? (r : Reader) (c : Char) : Option Reader :=
  if isSpace c then some r
  else match r.mode with
    | .value => begin? r.stack c
    | .itemOrClose => if c = ']' then continue? r.stack c else begin? r.stack c
    | .key => if c = '"' then some { r with mode := .text true {} } else none
    | .keyOrClose =>
        if c = '"' then some { r with mode := .text true {} }
        else if c = '\x7d' then continue? r.stack c
        else none
    | .colon key =>
        match c, r.stack with
        | ':', .object fields :: rest => some { stack := .field fields key :: rest, mode := .value }
        | _, _ => none
    | .after => continue? r.stack c
    | _ => none

def step? (r : Reader) (c : Char) : Option Reader :=
  match r.mode with
  | .text isKey s => inText? r.stack isKey s c
  | .number read =>
      if isNumberChar c then some { r with mode := .number (c :: read) }
      else (closeNumber? r.stack read).bind fun closed => between? closed c
  | .word [] _ => none
  | .word [last] meaning => if c = last then some (complete r.stack meaning) else none
  | .word (next :: rest) meaning =>
      if c = next then some { r with mode := .word rest meaning } else none
  | _ => between? r c

def run? (r : Reader) (text : List Char) : Option Reader :=
  text.foldlM step? r

def result? (r : Reader) : Option Json :=
  match r.mode, r.stack with
  | .done value, [] => some value
  | .number read, [] =>
      (Decimal.ofJson? read.reverse).map fun decimal => .num decimal.toNumber
  | _, _ => none

theorem run_append (r : Reader) (s t : List Char) :
    r.run? (s ++ t) = (r.run? s).bind fun r' => r'.run? t := by
  simp only [run?, List.foldlM_append]
  rfl

end Reader

def ofChars? (text : List Char) : Option Json :=
  (Reader.run? {} text).bind Reader.result?

def read? (text : String) : Option Json :=
  ofChars? text.toList

end Suppression.Json

import Suppression.Json

namespace Suppression.Json

/-- The escape of a 16-bit unit by its number. -/
def escapeUnit (n : Nat) : List Char :=
  ['\\', 'u', Nat.digitChar (n / 4096), Nat.digitChar (n / 256 % 16), Nat.digitChar (n / 16 % 16),
    Nat.digitChar (n % 16)]

/-- The escape of one character inside a string, or the character itself. -/
def escapeChar (c : Char) : List Char :=
  match c with
  | '"' => ['\\', '"']
  | '\\' => ['\\', '\\']
  | '\x08' => ['\\', 'b']
  | '\x0c' => ['\\', 'f']
  | '\n' => ['\\', 'n']
  | '\r' => ['\\', 'r']
  | '\t' => ['\\', 't']
  | _ =>
      if c.toNat < 0x20 then escapeUnit c.toNat else [c]

def escapeLetter : Letter → List Char
  | .char c => escapeChar c
  | .half half => escapeUnit half.unit

def quote (text : Wide) : String :=
  String.ofList ('"' :: text.letters.flatMap escapeLetter ++ ['"'])

def writeNumber (value : Number) : String :=
  match value with
  | .finite _ => value.text
  | _ => "null"

/-- How the parts of a document are set apart: not at all, or on lines indented by a number of
spaces for each level. -/
structure Spacing where
  indent : Option Nat := none

namespace Spacing

def oneLine : Spacing := {}

def twoSpaces : Spacing := { indent := some 2 }

/-- What stands before a part at a level of nesting. -/
def lineStart (spacing : Spacing) (level : Nat) : String :=
  match spacing.indent with
  | none => ""
  | some width => String.ofList ('\n' :: List.replicate (width * level) ' ')

def colon (spacing : Spacing) : String :=
  match spacing.indent with
  | none => ":"
  | some _ => ": "

end Spacing

mutual

def write (spacing : Spacing) (level : Nat) : Json → String
  | null => "null"
  | bool value => if value then "true" else "false"
  | num value => writeNumber value
  | str value => quote value
  | arr [] => "[]"
  | arr (item :: rest) =>
      "[" ++ spacing.lineStart (level + 1) ++ write spacing (level + 1) item ++
        writeItems spacing (level + 1) rest ++ spacing.lineStart level ++ "]"
  | obj [] => "\x7b\x7d"
  | obj ((key, value) :: rest) =>
      "\x7b" ++ spacing.lineStart (level + 1) ++ quote key ++ spacing.colon ++
        write spacing (level + 1) value ++ writeFields spacing (level + 1) rest ++
        spacing.lineStart level ++ "\x7d"

def writeItems (spacing : Spacing) (level : Nat) : List Json → String
  | [] => ""
  | item :: rest =>
      "," ++ spacing.lineStart level ++ write spacing level item ++ writeItems spacing level rest

def writeFields (spacing : Spacing) (level : Nat) : List (Wide × Json) → String
  | [] => ""
  | (key, value) :: rest =>
      "," ++ spacing.lineStart level ++ quote key ++ spacing.colon ++ write spacing level value ++
        writeFields spacing level rest

end

def compact (json : Json) : String :=
  json.write .oneLine 0

def pretty (json : Json) : String :=
  json.write .twoSpaces 0

end Suppression.Json

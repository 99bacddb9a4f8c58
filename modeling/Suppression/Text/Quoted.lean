import Suppression.Text.Units

namespace Suppression.Text

def width (chars : List Char) : Nat :=
  (chars.flatMap charUnits).length

/-- The longest start of a text that has at most the given width. -/
def takeWidth : Nat → List Char → List Char
  | _, [] => []
  | room, c :: rest =>
      let needed := width [c]
      if needed ≤ room then c :: takeWidth (room - needed) rest else []

/-- The text has an opening brace after a dollar sign somewhere. -/
def hasTemplate : List Char → Bool
  | '$' :: '\x7b' :: _ => true
  | _ :: rest => hasTemplate rest
  | [] => false

/-- The quotation mark for a text: the first one of three that does not stand in it. -/
def quotationMark (chars : List Char) : Char :=
  if !chars.contains '\'' then '\''
  else if !chars.contains '"' then '"'
  else if !chars.contains '\x60' && !hasTemplate chars then '\x60'
  else '\''

def upperHexDigit (n : Nat) : Char :=
  if n < 10 then Char.ofNat (48 + n) else Char.ofNat (55 + n)

def quotedChar (mark c : Char) : List Char :=
  match c with
  | '\x08' => ['\\', 'b']
  | '\t' => ['\\', 't']
  | '\n' => ['\\', 'n']
  | '\x0c' => ['\\', 'f']
  | '\r' => ['\\', 'r']
  | '\\' => ['\\', '\\']
  | '\'' => if mark = '\'' then ['\\', '\''] else ['\'']
  | _ =>
      if c.toNat < 0x20 ∨ (0x7f ≤ c.toNat ∧ c.toNat ≤ 0x9f) then
        ['\\', 'x', upperHexDigit (c.toNat / 16), upperHexDigit (c.toNat % 16)]
      else [c]

def quotedLine (chars : List Char) : List Char :=
  let mark := quotationMark chars
  mark :: chars.flatMap (quotedChar mark) ++ [mark]

/-- The lines of a text, each with the line feed that ends it. -/
def linesWithEnds : List Char → List (List Char)
  | [] => []
  | '\n' :: rest => ['\n'] :: linesWithEnds rest
  | c :: rest =>
      match linesWithEnds rest with
      | [] => [[c]]
      | line :: others => (c :: line) :: others

def oneLineWidth : Nat := 76

def quotedWidth : Nat := 10000

def shownWidth : Nat := 128

def quoted (chars : List Char) : List Char :=
  if width chars ≤ oneLineWidth then quotedLine chars
  else " +\n  ".toList.intercalate ((linesWithEnds chars).map quotedLine)

/-- A text in quotes, as far as a message shows it. -/
def shown (text : String) : String :=
  let chars := quoted (takeWidth quotedWidth text.toList)
  if width chars ≤ shownWidth then String.ofList chars
  else String.ofList (takeWidth shownWidth chars) ++ "..."

end Suppression.Text

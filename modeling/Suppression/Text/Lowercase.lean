import Suppression.Text.CaseTable

namespace Suppression.Text

def inRanges (ranges : List (Nat × Nat)) (n : Nat) : Bool :=
  ranges.any fun range => range.1 ≤ n && n ≤ range.2

/-- A character that does not interrupt a word. -/
def isPassedOver (c : Char) : Bool :=
  inRanges passedOverRanges c.toNat

/-- A letter with case, or a capital or small letter of a script that has both. -/
def isCased (c : Char) : Bool :=
  inRanges casedRanges c.toNat

def lowerChar (c : Char) : Char :=
  if c.toNat < 0x80 then c.toLower
  else
    match caseRuns.find? fun run =>
        run.first ≤ c.toNat && c.toNat ≤ run.last && (c.toNat - run.first) % run.step == 0 with
    | some run => Char.ofNat (c.toNat + run.shift).toNat
    | none => c

/-- The first character of a row that is not passed over has case. -/
def meetsCased (row : List Char) : Bool :=
  match row.dropWhile isPassedOver with
  | [] => false
  | c :: _ => isCased c

/-- The small form of a character between what precedes it, read backwards, and what follows. -/
def lowerBetween (before : List Char) (c : Char) (after : List Char) : List Char :=
  if c = '\u0130' then ['i', '\u0307']
  else if c = '\u03a3' ∧ meetsCased before = true ∧ meetsCased after = false then ['\u03c2']
  else [lowerChar c]

/-- The small form of a text that stands after the given characters, the last of which comes
first. -/
def lowerAfter (before : List Char) : List Char → List Char
  | [] => []
  | c :: after => lowerBetween before c after ++ lowerAfter (c :: before) after

def lower (text : String) : String :=
  String.ofList (lowerAfter [] text.toList)

end Suppression.Text

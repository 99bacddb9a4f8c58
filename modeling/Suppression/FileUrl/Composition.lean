import Suppression.FileUrl.CompositionTable

namespace Suppression.FileUrl

def weight (c : Char) : Nat :=
  (weightRuns.findSome? fun run =>
    if run.first ≤ c.toNat ∧ c.toNat < run.first + run.count then some run.weight else none).getD 0

def pair? (c : Char) : Option (Char × Char) :=
  joinings.findSome? fun joining =>
    (joining.firsts.find? fun entry => entry.2 = c.toNat).map fun entry =>
      (Char.ofNat entry.1, Char.ofNat joining.second)

/-- The syllable that a consonant and a vowel make, or a syllable and the consonant that ends it. -/
def syllable? (first second : Char) : Option Char :=
  let a := first.toNat
  let b := second.toNat
  if 0x1100 ≤ a ∧ a ≤ 0x1112 ∧ 0x1161 ≤ b ∧ b ≤ 0x1175 then
    some (Char.ofNat (0xac00 + ((a - 0x1100) * 21 + (b - 0x1161)) * 28))
  else if 0xac00 ≤ a ∧ a ≤ 0xd788 ∧ (a - 0xac00) % 28 = 0 ∧ 0x11a8 ≤ b ∧ b ≤ 0x11c2 then
    some (Char.ofNat (a + (b - 0x11a7)))
  else none

def joined? (first second : Char) : Option Char := do
  if let some syllable := syllable? first second then return syllable
  let joining ← joinings.find? fun joining => joining.second = second.toNat
  let entry ← joining.firsts.find? fun entry => entry.1 = first.toNat
  return Char.ofNat entry.2

/-- The characters that a character is made of, which is taken apart so many times. -/
def parts : Nat → Char → List Char
  | 0, c => [c]
  | depth + 1, c =>
      match pair? c with
      | some (first, second) => parts depth first ++ [second]
      | none => [c]

/-- How often a character can be taken apart. -/
def partsDepth : Nat := 3

/-- Puts a character at the end of a reversed row, but before the marks there that are heavier. -/
def insertMark (c : Char) : List Char → List Char
  | [] => [c]
  | last :: before =>
      if 0 < weight c ∧ weight c < weight last then last :: insertMark c before
      else c :: last :: before

/-- The row in which the marks on each character are put in the order of their weights. -/
def inOrder (chars : List Char) : List Char :=
  (chars.foldl (fun reversed c => insertMark c reversed) []).reverse

/-- A row that is being composed: what is finished, the last character that marks can join, and the
marks that have not joined it, all in reverse. -/
structure Composition where
  finished : List Char := []
  base : Option Char := none
  marks : List Char := []

namespace Composition

def reversed (row : Composition) : List Char :=
  row.marks ++ row.base.toList ++ row.finished

def isOpenTo (row : Composition) (c : Char) : Bool :=
  match row.marks with
  | [] => true
  | last :: _ => decide (weight last < weight c)

def add (row : Composition) (c : Char) : Composition :=
  match (row.base.filter fun _ => row.isOpenTo c).bind fun base => joined? base c with
  | some both => { row with base := some both }
  | none =>
      if weight c = 0 then { finished := row.reversed, base := some c }
      else { row with marks := c :: row.marks }

end Composition

def compose (chars : List Char) : List Char :=
  ((inOrder (chars.flatMap (parts partsDepth))).foldl Composition.add {}).reversed.reverse

end Suppression.FileUrl

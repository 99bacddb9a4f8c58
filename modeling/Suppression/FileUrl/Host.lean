import Suppression.FileUrl.Address
import Suppression.FileUrl.Character
import Suppression.FileUrl.Composition
import Suppression.FileUrl.Punycode

namespace Suppression.FileUrl

def isForbidden (c : Char) : Bool :=
  c.toNat ≤ 0x20 || c == '\x7f' || "#/:<>?@[\\]^|%".toList.contains c

/-- What stands in a label about the first character in it that makes others join or not join. -/
inductive Joiner where
  | joining (before : List Char)
  | nonJoining (before after : List Char)

/-- The first such character of a label, with what stands before it, the nearest character first.
-/
def joiner? (before : List Char) : List Char → Option Joiner
  | [] => none
  | c :: rest =>
      if c.toNat = 0x200c then some (.nonJoining before rest)
      else if c.toNat = 0x200d then some (.joining before)
      else joiner? (c :: before) rest

/-- Such a character is at its place: after a sign that takes away a vowel, or, if it keeps others
apart, between characters that would join. -/
def Joiner.isPlaced : Joiner → Bool
  | joining before => (before.head?.map isVirama).getD false
  | nonJoining before after =>
      (before.head?.map isVirama).getD false || (before.any joinsNext && after.any joinsPrevious)

def turns (c : Char) : Bool :=
  isLeftward c || isLeftwardDigit c

/-- The characters of a label can be written one after the other. If one of them is written to the
left, a label that begins with a letter written to the right has it at its end. Any other label has
no character that is written to the right, ends in a letter or a digit, and has digits of one kind.
-/
def hasOneDirection (label : List Char) : Bool :=
  let reversed := label.reverse.dropWhile isNonspacing
  if !label.any turns then true
  else if (label.head?.map isRightward).getD false then
    (reversed.drop 1).all fun c => !turns c && !isUndirected c
  else
    !label.any (fun c => isRightward c || isUndirected c) &&
      (reversed.head?.map fun c => turns c || isDigit c).getD false &&
      !(label.any isDigit && label.any isLeftwardDigit)

def isLabel (label : List Char) : Bool :=
  !(label.head?.map isCombining).getD true &&
    match joiner? [] label with
    | some joiner => joiner.isPlaced
    | none => hasOneDirection label

def isAscii (c : Char) : Bool :=
  decide (c.toNat < 0x80)

def charsOf? (numbers : List Nat) : Option (List Char) :=
  numbers.mapM fun n => if n.isValidChar then some (Char.ofNat n) else none

/-- What comes after the sign of a label that is spelled with letters and digits only. -/
def spelledLabel? : List Char → Option (List Char)
  | 'x' :: 'n' :: '-' :: '-' :: text => some text
  | _ => none

/-- A label may stand in a name. What one that is spelled stands for has to be in order, and
composed, as it is. -/
def isAllowed (label : List Char) : Bool :=
  match spelledLabel? label with
  | some text =>
      text.all isAscii && !"xn--".toList.isPrefixOf text &&
        match (Punycode.decode? text).bind charsOf? with
        | some chars => chars.all standsForItself && compose chars == chars && isLabel chars
        | none => false
  | none => label.all isAscii || isLabel label

/-- The name that a written one stands for. -/
def hostName? (written : List Char) : Option (List Char) := do
  let name := compose (← written.mapM meaning?).flatten
  let isFit := (splitAt '.' name).all fun label => label.isEmpty || isAllowed label
  if name.isEmpty || !isFit || name.any isForbidden then none
  else if endsInNumber name && !isPointAddress name then none
  else some name

def ownName : List Char := "localhost".toList

end Suppression.FileUrl

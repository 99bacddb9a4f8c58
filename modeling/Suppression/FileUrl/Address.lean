namespace Suppression.FileUrl

def hexValue? (c : Char) : Option Nat :=
  if c.isDigit then some (c.toNat - 48)
  else if 'a' ≤ c ∧ c ≤ 'f' then some (c.toNat - 87)
  else if 'A' ≤ c ∧ c ≤ 'F' then some (c.toNat - 55)
  else none

def splitAt (separator : Char) : List Char → List (List Char)
  | [] => [[]]
  | c :: rest =>
      if c = separator then [] :: splitAt separator rest
      else match splitAt separator rest with
        | [] => [[c]]
        | part :: parts => (c :: part) :: parts

def numberOf? (base : Nat) (digits : List Char) : Option Nat :=
  digits.foldlM (fun sum c => do
    let digit ← hexValue? c
    if digit < base then some (sum * base + digit) else none) 0

/-- The value of a part of an address with points: to the base ten, eight or sixteen. -/
def numericPart? : List Char → Option Nat
  | [] => none
  | '0' :: 'x' :: digits => numberOf? 16 digits
  | '0' :: d :: digits => numberOf? 8 (d :: digits)
  | digits => numberOf? 10 digits

/-- The parts of a name; a point at its end is none of them. -/
def nameParts (name : List Char) : List (List Char) :=
  let parts := splitAt '.' name
  if parts.length > 1 && parts.getLast? = some [] then parts.dropLast else parts

/-- The name ends in a number, so that it has to be an address. -/
def endsInNumber (name : List Char) : Bool :=
  let last := (nameParts name).getLastD []
  (!last.isEmpty && last.all Char.isDigit) || (numericPart? last).isSome

/-- The name is an address with points: up to four numbers, of which the last one fills all places
that the others leave. -/
def isPointAddress (name : List Char) : Bool :=
  match (nameParts name).mapM numericPart? with
  | none => false
  | some values =>
      values.length ≤ 4 && values.dropLast.all (· < 256) &&
        values.getLastD 0 < Nat.pow 256 (5 - values.length)

def isPlainPointAddress (name : List Char) : Bool :=
  let parts := splitAt '.' name
  parts.length = 4 && parts.all fun part =>
    !part.isEmpty && part.all Char.isDigit && (part.length = 1 || part.head? != some '0') &&
      ((numberOf? 10 part).getD 256) < 256

def isGroup (group : List Char) : Bool :=
  !group.isEmpty && group.length ≤ 4 && group.all fun c => (hexValue? c).isSome

/-- The number of groups in a text; an address with points may stand for the last two. -/
def groups? (mayEndInPoints : Bool) : List (List Char) → Option Nat
  | [] => some 0
  | [group] =>
      if isGroup group then some 1
      else if mayEndInPoints && isPlainPointAddress group then some 2
      else none
  | group :: rest => if isGroup group then (groups? mayEndInPoints rest).map (· + 1) else none

/-- The groups between colons; nothing at all has none. -/
def colonParts (text : List Char) : List (List Char) :=
  if text.isEmpty then [] else splitAt ':' text

/-- What stands before and after the first two colons together. -/
def splitAtGap : List Char → Option (List Char × List Char)
  | ':' :: ':' :: rest => some ([], rest)
  | c :: rest => (splitAtGap rest).map fun (before, after) => (c :: before, after)
  | [] => none

def isColonAddress (text : List Char) : Bool :=
  match splitAtGap text with
  | none => groups? true (colonParts text) == some 8
  | some (before, after) =>
      match groups? false (colonParts before), groups? true (colonParts after) with
      | some m, some n => decide (m + n ≤ 7)
      | _, _ => false

end Suppression.FileUrl

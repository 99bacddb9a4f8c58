import Suppression.Number.Rounding

namespace Suppression

/-- A decimal fraction `± coefficient * 10 ^ exponent`, exactly as it is spelled. -/
structure Decimal where
  negative : Bool := false
  coefficient : Nat
  exponent : Int := 0
  deriving DecidableEq

namespace Decimal

def toRat (d : Decimal) : Rat :=
  let numerator := d.coefficient * Nat.pow 10 d.exponent.toNat
  let magnitude : Rat := mkRat numerator (Nat.pow 10 (-d.exponent).toNat)
  if d.negative then -magnitude else magnitude

/-- A number of decimal places that the coefficient does not exceed. -/
def widthBound (d : Decimal) : Nat :=
  d.coefficient.log2 / 3 + 1

/--
The held number nearest to the value. An exponent far outside the range of the held numbers decides
the answer by itself, so that no power of such an exponent is computed.
-/
def toNumber (d : Decimal) : Number :=
  if d.coefficient = 0 then 0
  else if 400 < d.exponent then .infinite d.negative
  else if d.exponent + d.widthBound < -400 then 0
  else .nearest d.toRat

/-- The number that a row of digits spells, after the digits already read into `value`. -/
def readDigits (value : Nat) (digits : List Char) : Nat :=
  digits.foldl (fun n c => 10 * n + (c.toNat - '0'.toNat)) value

def spanDigits (text : List Char) : List Char × List Char :=
  text.span Char.isDigit

/-- The exponent part, if the text starts with one, and the text after it. -/
def readExponent? : List Char → Option (Int × List Char)
  | [] => some (0, [])
  | c :: rest =>
      if c = 'e' ∨ c = 'E' then
        let (sign, rest) : Int × List Char := match rest with
          | '+' :: tail => (1, tail)
          | '-' :: tail => (-1, tail)
          | _ => (1, rest)
        match spanDigits rest with
        | ([], _) => none
        | (digits, tail) => some (sign * readDigits 0 digits, tail)
      else some (0, c :: rest)

def assemble? (negative : Bool) (whole fraction exponentText : List Char) : Option Decimal :=
  match readExponent? exponentText with
  | some (exponent, []) =>
      some {
        negative
        coefficient := readDigits (readDigits 0 whole) fraction
        exponent := exponent - fraction.length }
  | _ => none

/-- The fraction digits after a point, if there is a point, and the text after them. -/
def spanFraction : List Char → Bool × List Char × List Char
  | '.' :: rest =>
      let (digits, tail) := spanDigits rest
      (true, digits, tail)
  | text => (false, [], text)

/-- Reads the number grammar of JSON: no leading zero, no sign but `-`, digits around the point. -/
def ofJson? (text : List Char) : Option Decimal :=
  let (negative, text) : Bool × List Char := match text with
    | '-' :: rest => (true, rest)
    | _ => (false, text)
  let (whole, rest) := spanDigits text
  let (point, fraction, rest) := spanFraction rest
  let leadingZero := whole.head? == some '0' && 1 < whole.length
  if whole.isEmpty || leadingZero || (point && fraction.isEmpty) then none
  else assemble? negative whole fraction rest

/-- Reads a signed decimal in which the digits on one side of the point may be missing. -/
def ofSigned? (text : List Char) : Option Decimal :=
  let (negative, text) : Bool × List Char := match text with
    | '-' :: rest => (true, rest)
    | '+' :: rest => (false, rest)
    | _ => (false, text)
  let (whole, rest) := spanDigits text
  let (_, fraction, rest) := spanFraction rest
  if whole.isEmpty && fraction.isEmpty then none
  else assemble? negative whole fraction rest

end Decimal

end Suppression

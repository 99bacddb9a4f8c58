import Suppression.Number.Decimal

namespace Suppression

namespace Decimal

/-- Digits, most significant first, of which the last is not zero. -/
def dropTrailingZeros (coefficient : Nat) (exponent : Int) (negative : Bool) : Decimal :=
  let zeros := (Nat.toDigits 10 coefficient).reverse.takeWhile (· == '0')
  { negative
    coefficient := coefficient / Nat.pow 10 zeros.length
    exponent := exponent + zeros.length }

/-- The exponent `k` with `10 ^ (k - 1) ≤ num / den < 10 ^ k`. -/
def magnitude (num den : Nat) : Int :=
  if den ≤ num then (Nat.toDigits 10 (num / den)).length
  else 1 - ((Nat.toDigits 10 ((den + num - 1) / num - 1)).length : Int)

/-- The two neighbours of `num / den` among the multiples of `10 ^ exponent`, the nearer one first.
-/
def neighbours (num den : Nat) (exponent : Int) : Nat × Nat :=
  let units := num * Nat.pow 10 (-exponent).toNat
  let one := den * Nat.pow 10 exponent.toNat
  let below := units / one
  if Number.roundDiv units one = below then (below, below + 1) else (below + 1, below)

/-- The value of `num / den` spelled with `width` digits, if that spelling reads back as it. -/
def ofWidth? (num den width : Nat) : Option Decimal :=
  let exponent := magnitude num den - width
  let (nearer, other) := neighbours num den exponent
  let value := Number.finite (mkRat num den)
  let readsBack (coefficient : Nat) :=
    decide ((Decimal.mk false coefficient exponent).toNumber = value)
  if readsBack nearer then some (dropTrailingZeros nearer exponent false)
  else if readsBack other then some (dropTrailingZeros other exponent false)
  else none

def exactly (num den : Nat) : Decimal :=
  dropTrailingZeros (num * Nat.pow 5 den.log2) (-(den.log2 : Int)) false

/-- The shortest spelling of a positive value; seventeen digits are enough for every held number. -/
def shortest (num den : Nat) : Decimal :=
  ((List.range' 1 17).findSome? (ofWidth? num den)).getD (exactly num den)

end Decimal

/-- Where positional notation ends, as powers of ten of the leading digit. -/
structure Layout where
  leastPositional : Int
  mostPositional : Int

namespace Layout

/-- Positional from a millionth up to twenty-one digits, and an exponent with its sign beyond. -/
def standard : Layout :=
  { leastPositional := -6, mostPositional := 20 }

def write (layout : Layout) (d : Decimal) : String :=
  let digits := Nat.toDigits 10 d.coefficient
  let leading := d.exponent + digits.length - 1
  if leading < layout.leastPositional ∨ layout.mostPositional < leading then
    let fraction := if 1 < digits.length then '.' :: digits.drop 1 else []
    let sign := if leading < 0 then "e-" else "e+"
    String.ofList (digits.take 1 ++ fraction) ++ sign ++ toString leading.natAbs
  else if 0 ≤ d.exponent then
    String.ofList (digits ++ List.replicate d.exponent.toNat '0')
  else if 0 ≤ leading then
    let whole := leading.toNat + 1
    String.ofList (digits.take whole ++ '.' :: digits.drop whole)
  else
    String.ofList ('0' :: '.' :: List.replicate (-leading - 1).toNat '0' ++ digits)

end Layout

namespace Number

def text : Number → String
  | nan => "NaN"
  | infinite negative => if negative then "-Infinity" else "Infinity"
  | finite value =>
      if value.num = 0 then "0"
      else
        let digits := Layout.standard.write (.shortest value.num.natAbs value.den)
        if value.num < 0 then "-" ++ digits else digits

end Number

end Suppression

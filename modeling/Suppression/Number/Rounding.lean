import Suppression.Number

/-!
Rounding to the numbers that can be held: 53 significant bits, no spacing finer than 2^-1074, and
nothing finite from 2^1024 on. A value half way between two neighbours goes to the one whose
significand is even.
-/

namespace Suppression.Number

/-- `num / den` to the nearest whole number; a half goes to the even neighbour. -/
def roundDiv (num den : Nat) : Nat :=
  let floor := num / den
  let twice := 2 * (num % den)
  if twice < den then floor
  else if den < twice then floor + 1
  else floor + floor % 2

/-- `num / den` in units of `2 ^ exponent`, again as a numerator and a denominator. -/
def inUnits (num den : Nat) (exponent : Int) : Nat × Nat :=
  (num * Nat.pow 2 (-exponent).toNat, den * Nat.pow 2 exponent.toNat)

/--
The exponent of the spacing between the held numbers around `num / den`. The bit lengths of the two
place the quotient within a factor of four, and one comparison settles which half it is in.
-/
def spacing (num den : Nat) : Int :=
  let guess : Int := Max.max ((num.log2 : Int) - den.log2 - 53) (-1074)
  let (units, one) := inUnits num den guess
  if Nat.pow 2 53 * one ≤ units then guess + 1 else guess

def nearest (value : Rat) : Number :=
  let magnitude := value.num.natAbs
  let exponent := spacing magnitude value.den
  let (units, one) := inUnits magnitude value.den exponent
  let significand := roundDiv units one * Nat.pow 2 exponent.toNat
  let scale := Nat.pow 2 (-exponent).toNat
  if Nat.pow 2 1024 * scale ≤ significand then
    infinite (decide (value.num < 0))
  else if value.num < 0 then
    finite (mkRat (-significand) scale)
  else
    finite (mkRat significand scale)

/-- The line that follows, as far as it can be told from its neighbours. -/
def succ : Number → Number
  | finite value => nearest (value + 1)
  | other => other

end Suppression.Number

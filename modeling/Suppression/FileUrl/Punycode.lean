namespace Suppression.FileUrl.Punycode

/-- The value of a digit: the letters come first. -/
def digitValue? (c : Char) : Option Nat :=
  if 'a' ≤ c ∧ c ≤ 'z' then some (c.toNat - 97)
  else if c.isDigit then some (c.toNat - 22)
  else none

def limit : Nat := 0x7fffffff

/-- The least digit that does not end a number, at a position in it. -/
def threshold (position bias : Nat) : Nat :=
  if position ≤ bias then 1 else if bias + 26 ≤ position then 26 else position - bias

/-- How often a number is divided by 35 until it is at most 455, times 36, and what is left of it.
-/
def scale (number steps : Nat) : Nat × Nat :=
  if 455 < number then scale (number / 35) (steps + 36) else (number, steps)
termination_by number
decreasing_by exact Nat.div_lt_self (by omega) (by omega)

/-- The bias after a number, by which the thresholds of the next one are set. -/
def adapt (number points : Nat) (first : Bool) : Nat :=
  let damped := if first then number / 700 else number / 2
  let (rest, steps) := scale (damped + damped / points) 0
  steps + 36 * rest / (rest + 38)

/-- The state between two digits: the characters so far, the value of the last one, where it stands,
and the number that is being read, if it is not finished. -/
structure State where
  found : List Nat
  value : Nat := 0x80
  place : Nat := 0
  bias : Nat := 72
  number : Nat := 0
  weight : Nat := 1
  position : Nat := 36

namespace State

def isUnfinished (state : State) : Bool :=
  state.position != 36

def insert (state : State) : Option State :=
  let points := state.found.length + 1
  let reached := state.place + state.number
  let value := state.value + reached / points
  let place := reached % points
  if limit < value then none
  else some {
    found := state.found.take place ++ value :: state.found.drop place
    value
    place := place + 1
    bias := adapt state.number points (state.place == 0) }

def step (state : State) (c : Char) : Option State := do
  let digit ← digitValue? c
  let number := state.number + digit * state.weight
  let least := threshold state.position state.bias
  let weight := state.weight * (36 - least)
  if limit < state.place + number then none
  else if digit < least then insert { state with number := number }
  else if limit < weight then none
  else some { state with
    number := number
    weight := weight
    position := state.position + 36 }

end State

def decode? (text : List Char) : Option (List Nat) := do
  let reversed := text.reverse
  let digits := (reversed.takeWhile (· != '-')).reverse
  let plain := (reversed.drop (digits.length + 1)).reverse
  let state ← digits.foldlM State.step { found := plain.map Char.toNat }
  if state.isUnfinished then none else some state.found

end Suppression.FileUrl.Punycode

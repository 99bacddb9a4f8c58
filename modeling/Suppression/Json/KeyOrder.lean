import Suppression.Json

/-!
The order in which a keyed collection is listed and written: keys that are whole numbers, written
without leading zeros and below 2^32 - 1, come first and ascend; the others follow in the order in
which they were first used.
-/

namespace Suppression.Json

/-- The whole number that a key spells, if it is one that is listed by its size. -/
def index? : Wide → Option Nat
  | .torn _ _ => none
  | .text key =>
      let digits := key.toList
      let leadingZero := digits.head? == some '0' && 1 < digits.length
      if digits.isEmpty || leadingZero || !digits.all Char.isDigit then none
      else
        let n := Decimal.readDigits 0 digits
        if n < 4294967295 then some n else none

/-- Entries in the order in which their collection is listed. -/
def inKeyOrder {α : Type} (entries : Entries α) : Entries α :=
  let numbered := entries.filterMap fun entry => (index? entry.1).map fun n => (n, entry)
  let others := entries.filter fun entry => (index? entry.1).isNone
  (numbered.mergeSort fun a b => a.1 ≤ b.1).map Prod.snd ++ others

end Suppression.Json

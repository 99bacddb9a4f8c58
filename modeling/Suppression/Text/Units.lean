namespace Suppression.Text

/-- The 16-bit units of one character. -/
def charUnits (c : Char) : List Nat :=
  if c.toNat < 0x10000 then [c.toNat]
  else [0xd800 + (c.toNat - 0x10000) / 0x400, 0xdc00 + (c.toNat - 0x10000) % 0x400]

def units (text : String) : List Nat :=
  text.toList.flatMap charUnits

/-- The lexicographic order of two rows of units. -/
def unitsLe : List Nat → List Nat → Bool
  | [], _ => true
  | _ :: _, [] => false
  | a :: as, b :: bs => if a = b then unitsLe as bs else a < b

/-- The text stands before the other one, or is the same. -/
def le (a b : String) : Bool :=
  unitsLe (units a) (units b)

def sort (texts : List String) : List String :=
  texts.mergeSort le

end Suppression.Text

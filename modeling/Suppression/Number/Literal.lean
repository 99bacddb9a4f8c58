import Suppression.Number.Decimal
import Suppression.Text.Blank

namespace Suppression.Number

def digitValue (c : Char) : Nat :=
  if '0' ≤ c ∧ c ≤ '9' then c.toNat - '0'.toNat
  else if 'a' ≤ c ∧ c ≤ 'f' then c.toNat - 'a'.toNat + 10
  else if 'A' ≤ c ∧ c ≤ 'F' then c.toNat - 'A'.toNat + 10
  else 16

def ofDigits (base : Nat) (digits : List Char) : Number :=
  if digits.isEmpty || digits.any fun c => base ≤ digitValue c then nan
  else nearest ((digits.foldl (fun n c => base * n + digitValue c) 0 : Nat) : Rat)

def ofTyped (text : List Char) : Number :=
  match text with
  | [] => 0
  | '0' :: 'x' :: digits | '0' :: 'X' :: digits => ofDigits 16 digits
  | '0' :: 'o' :: digits | '0' :: 'O' :: digits => ofDigits 8 digits
  | '0' :: 'b' :: digits | '0' :: 'B' :: digits => ofDigits 2 digits
  | _ =>
      if text = "Infinity".toList ∨ text = "+Infinity".toList then infinite false
      else if text = "-Infinity".toList then infinite true
      else match Decimal.ofSigned? text with
        | some decimal => decimal.toNumber
        | none => nan

def ofText (text : String) : Number :=
  ofTyped (Text.trimChars text.toList)

end Suppression.Number

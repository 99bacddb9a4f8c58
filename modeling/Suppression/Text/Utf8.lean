/-!
Reading bytes as UTF-8. Bytes that are no part of a character are replaced: each longest start of a
character that is broken off, and each byte that cannot start one, becomes one U+FFFD. A byte order
mark is kept as the character that it is.
-/

namespace Suppression.Text

/-- What has been read of a character: its value so far and how many bytes are missing, of which the
next has to lie in the given bounds. -/
structure Partial where
  value : Nat
  missing : Nat
  low : Nat := 0x80
  high : Nat := 0xbf

/-- The state between two bytes: the characters read, the last one first, and an unfinished one. -/
structure Utf8State where
  read : List Char := []
  unfinished : Option Partial := none

namespace Utf8State

def replacement : Char := '\ufffd'

def lead (read : List Char) (byte : Nat) : Utf8State :=
  if byte < 0x80 then { read := Char.ofNat byte :: read }
  else if 0xc2 ≤ byte ∧ byte ≤ 0xdf then
    { read, unfinished := some ⟨byte - 0xc0, 1, 0x80, 0xbf⟩ }
  else if 0xe0 ≤ byte ∧ byte ≤ 0xef then
    let low := if byte = 0xe0 then 0xa0 else 0x80
    let high := if byte = 0xed then 0x9f else 0xbf
    { read, unfinished := some ⟨byte - 0xe0, 2, low, high⟩ }
  else if 0xf0 ≤ byte ∧ byte ≤ 0xf4 then
    let low := if byte = 0xf0 then 0x90 else 0x80
    let high := if byte = 0xf4 then 0x8f else 0xbf
    { read, unfinished := some ⟨byte - 0xf0, 3, low, high⟩ }
  else { read := replacement :: read }

def step (state : Utf8State) (byte : Nat) : Utf8State :=
  match state.unfinished with
  | none => lead state.read byte
  | some part =>
      if part.low ≤ byte ∧ byte ≤ part.high then
        let value := part.value * 64 + (byte - 0x80)
        if part.missing = 1 then { read := Char.ofNat value :: state.read }
        else { state with unfinished := some ⟨value, part.missing - 1, 0x80, 0xbf⟩ }
      else lead (replacement :: state.read) byte

/-- The characters read; a character that the end breaks off is replaced too. -/
def finish (state : Utf8State) : List Char :=
  match state.unfinished with
  | none => state.read.reverse
  | some _ => (replacement :: state.read).reverse

end Utf8State

def decodeUtf8 (bytes : List UInt8) : String :=
  String.ofList (bytes.foldl (fun state byte => state.step byte.toNat) ({} : Utf8State)).finish

def encodeUtf8 (text : String) : List UInt8 :=
  text.toUTF8.toList

end Suppression.Text

import Suppression.Text.Utf8

namespace Suppression.Text.Digest

/-- The first thirty-two fractional bits of the cube roots of the first sixty-four primes. -/
def roundConstants : List UInt32 := [
  0x428a2f98, 0x71374491, 0xb5c0fbcf, 0xe9b5dba5, 0x3956c25b, 0x59f111f1, 0x923f82a4, 0xab1c5ed5,
  0xd807aa98, 0x12835b01, 0x243185be, 0x550c7dc3, 0x72be5d74, 0x80deb1fe, 0x9bdc06a7, 0xc19bf174,
  0xe49b69c1, 0xefbe4786, 0x0fc19dc6, 0x240ca1cc, 0x2de92c6f, 0x4a7484aa, 0x5cb0a9dc, 0x76f988da,
  0x983e5152, 0xa831c66d, 0xb00327c8, 0xbf597fc7, 0xc6e00bf3, 0xd5a79147, 0x06ca6351, 0x14292967,
  0x27b70a85, 0x2e1b2138, 0x4d2c6dfc, 0x53380d13, 0x650a7354, 0x766a0abb, 0x81c2c92e, 0x92722c85,
  0xa2bfe8a1, 0xa81a664b, 0xc24b8b70, 0xc76c51a3, 0xd192e819, 0xd6990624, 0xf40e3585, 0x106aa070,
  0x19a4c116, 0x1e376c08, 0x2748774c, 0x34b0bcb5, 0x391c0cb3, 0x4ed8aa4a, 0x5b9cca4f, 0x682e6ff3,
  0x748f82ee, 0x78a5636f, 0x84c87814, 0x8cc70208, 0x90befffa, 0xa4506ceb, 0xbef9a3f7, 0xc67178f2]

structure State where
  a : UInt32 := 0x6a09e667
  b : UInt32 := 0xbb67ae85
  c : UInt32 := 0x3c6ef372
  d : UInt32 := 0xa54ff53a
  e : UInt32 := 0x510e527f
  f : UInt32 := 0x9b05688c
  g : UInt32 := 0x1f83d9ab
  h : UInt32 := 0x5be0cd19

def rotate (word : UInt32) (places : UInt32) : UInt32 :=
  (word >>> places) ||| (word <<< (32 - places))

/-- One round, with a constant and a word of the schedule already added up. -/
def State.round (s : State) (input : UInt32) : State :=
  let high := rotate s.e 6 ^^^ rotate s.e 11 ^^^ rotate s.e 25
  let choice := (s.e &&& s.f) ^^^ (~~~ s.e &&& s.g)
  let first := s.h + high + choice + input
  let low := rotate s.a 2 ^^^ rotate s.a 13 ^^^ rotate s.a 22
  let majority := (s.a &&& s.b) ^^^ (s.a &&& s.c) ^^^ (s.b &&& s.c)
  { a := first + low + majority, b := s.a, c := s.b, d := s.c,
    e := s.d + first, f := s.e, g := s.f, h := s.g }

def State.add (s t : State) : State :=
  { a := s.a + t.a, b := s.b + t.b, c := s.c + t.c, d := s.d + t.d,
    e := s.e + t.e, f := s.f + t.f, g := s.g + t.g, h := s.h + t.h }

def nextWord (latest : List UInt32) : UInt32 :=
  let far := latest.getD 14 0
  let near := latest.getD 1 0
  let low := rotate far 7 ^^^ rotate far 18 ^^^ (far >>> 3)
  let high := rotate near 17 ^^^ rotate near 19 ^^^ (near >>> 10)
  latest.getD 15 0 + low + latest.getD 6 0 + high

/-- The sixty-four words made from the sixteen of a block. -/
def schedule (block : List UInt32) : List UInt32 :=
  (Nat.repeat (fun latest => nextWord latest :: latest) 48 block.reverse).reverse

def State.absorb (s : State) (block : List UInt32) : State :=
  s.add <| (roundConstants.zip (schedule block)).foldl (fun t p => t.round (p.1 + p.2)) s

def bigEndian (width n : Nat) : List UInt8 :=
  (List.range width).map fun i => UInt8.ofNat (n / Nat.pow 256 (width - 1 - i))

/-- The bytes, a set bit, zeros up to eight bytes before a block's end, and the length in bits. -/
def pad (bytes : List UInt8) : List UInt8 :=
  let zeros := (119 - bytes.length % 64) % 64
  bytes ++ 0x80 :: List.replicate zeros 0 ++ bigEndian 8 (8 * bytes.length)

def words : List UInt8 → List UInt32
  | a :: b :: c :: d :: rest =>
      (a.toUInt32 <<< 24 ||| b.toUInt32 <<< 16 ||| c.toUInt32 <<< 8 ||| d.toUInt32) :: words rest
  | _ => []

def absorbAll (s : State) (input : List UInt32) : State :=
  match _h : input.drop 15 with
  | [] => s
  | _ :: rest => absorbAll (s.absorb (input.take 16)) rest
termination_by input.length
decreasing_by
  have length := congrArg List.length _h
  simp only [List.length_drop, List.length_cons] at length
  omega

def State.words (s : State) : List UInt32 :=
  [s.a, s.b, s.c, s.d, s.e, s.f, s.g, s.h]

def hexWord (word : UInt32) : List Char :=
  let digits := Nat.toDigits 16 word.toNat
  List.replicate (8 - digits.length) '0' ++ digits

def ofBytes (bytes : List UInt8) : String :=
  String.ofList <| (absorbAll {} (words (pad bytes))).words.flatMap hexWord

end Suppression.Text.Digest

namespace Suppression.Text

def fingerprint (text : String) : String :=
  Digest.ofBytes (encodeUtf8 text)

end Suppression.Text

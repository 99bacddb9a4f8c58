import Suppression.FileUrl.Host

namespace Suppression

inductive FileUrlError where
  | invalid
  | foreignHost
  | encodedSlash
  | malformed
  deriving DecidableEq

namespace FileUrlError

def message : FileUrlError → String
  | invalid => "Invalid URL"
  | foreignHost => "File URL host must be \"localhost\" or empty on linux"
  | encodedSlash => "File URL path must not include encoded / characters"
  | malformed => "URI malformed"

def name : FileUrlError → String
  | malformed => "URIError"
  | _ => "TypeError"

def kind : FileUrlError → String
  | foreignHost => "TypeError [ERR_INVALID_FILE_URL_HOST]"
  | encodedSlash => "TypeError [ERR_INVALID_FILE_URL_PATH]"
  | e => e.name

end FileUrlError

namespace FileUrl

def scheme : String := "file://"

/-- The byte that a percent sign and two digits stand for at the start of a text, and what comes
after them. -/
def escapedByte? : List Char → Option (UInt8 × List Char)
  | '%' :: high :: low :: rest => do
      return (UInt8.ofNat ((← hexValue? high) * 16 + (← hexValue? low)), rest)
  | _ => none

def charBytes (c : Char) : List UInt8 :=
  (String.singleton c).toUTF8.toList

/-- The bytes of a text in which percent signs are resolved. A percent sign without two digits after
it stands for itself, unless it is refused. -/
def resolve (strict : Bool) (fuel : Nat) (chars : List Char) : Option (List UInt8) :=
  match fuel, chars with
  | fuel + 1, c :: rest =>
      match escapedByte? (c :: rest) with
      | some (byte, rest) => (byte :: ·) <$> resolve strict fuel rest
      | none => if c = '%' ∧ strict then none else (charBytes c ++ ·) <$> resolve strict fuel rest
  | _, _ => some []

def decode? (chars : List Char) : Option String := do
  String.fromUTF8? ⟨(← resolve true chars.length chars).toArray⟩

def endsHost (c : Char) : Bool :=
  c == '/' || c == '\\' || c == '?' || c == '#'

/-- A letter and a colon or a bar: no host, but the name of a drive. -/
def isDrive : List Char → Bool
  | [letter, mark] => letter.isAlpha && (mark == ':' || mark == '|')
  | _ => false

def hostText? (written : List Char) : Option String := do
  String.fromUTF8? ⟨(← resolve false written.length written).toArray⟩

def checkHost (written : List Char) : Except FileUrlError Unit :=
  match written with
  | [] => .ok ()
  | '[' :: inner =>
      if inner.getLast? = some ']' ∧ isColonAddress inner.dropLast then .error .foreignHost
      else .error .invalid
  | _ =>
      match (hostText? written).bind fun host => hostName? host.toList with
      | none => .error .invalid
      | some name => if name = ownName then .ok () else .error .foreignHost

def isDots (count : Nat) (part : String) : Bool :=
  (part.toLower.splitOn "%2e" |> ".".intercalate) == "".pushn '.' count

/-- The only part of a path begins like the name of a drive, which is never taken back. -/
def isDriveOnly : List String → Bool
  | [part] =>
      match part.toList with
      | letter :: ':' :: _ => letter.isAlpha
      | _ => false
  | _ => false

/-- The parts of a path after one more of them, which may be the last one. -/
def addPart (parts : List String) (part : String) (isLast : Bool) : List String :=
  let ending := if isLast then [""] else []
  if isDots 2 part then (if isDriveOnly parts then parts else parts.dropLast) ++ ending
  else if isDots 1 part then parts ++ ending
  else if parts.isEmpty && isDrive part.toList then [String.ofList (part.toList.take 1 ++ [':'])]
  else parts ++ [part]

def simplifyParts (parts : List String) : List String → List String
  | [] => parts
  | [part] => addPart parts part true
  | part :: rest => simplifyParts (addPart parts part false) rest

def pathAfterHost (after : List Char) : List Char :=
  let written := after.takeWhile fun c => !(c == '?' || c == '#')
  let slashed := written.map fun c => if c == '\\' then '/' else c
  let relative := if slashed.head? = some '/' then slashed.drop 1 else slashed
  '/' :: ("/".intercalate (simplifyParts [] ((String.ofList relative).splitOn "/"))).toList

def hasEncodedSlash : List Char → Bool
  | '%' :: '2' :: c :: rest => c == 'f' || c == 'F' || hasEncodedSlash ('2' :: c :: rest)
  | _ :: rest => hasEncodedSlash rest
  | [] => false

def path (url : String) : Except FileUrlError String := do
  let isBlank (c : Char) : Bool := c.toNat ≤ 0x20
  let trimmed := (url.toList.reverse.dropWhile isBlank).reverse
  let written := (trimmed.filter fun c => !(c == '\t' || c == '\n' || c == '\r')).drop scheme.length
  let host := written.takeWhile fun c => !endsHost c
  let after := written.drop host.length
  let path ←
    if isDrive host then pure (pathAfterHost written)
    else do
      checkHost host
      pure (pathAfterHost after)
  if hasEncodedSlash path then throw .encodedSlash
  match decode? path with
  | some path => return path
  | none => throw .malformed

end FileUrl

end Suppression

import Suppression.FileUrl.CharacterTable
import Suppression.Text.Lowercase

namespace Suppression.FileUrl

def kinds : List (Char × Nat) :=
  let read := kindRuns.toList.foldl (fun (read : List (Char × Option Nat)) c =>
    match read with
    | (kind, count) :: before =>
        if c.isDigit then (kind, some (count.getD 0 * 10 + (c.toNat - 48))) :: before
        else (c, none) :: read
    | [] => [(c, none)]) []
  read.reverse.map fun (kind, count) => (kind, count.getD 1)

/-- The kind at a distance from the start of some runs; beyond them nothing may stand. -/
def kindAt (distance : Nat) : List (Char × Nat) → Char
  | [] => 'x'
  | (kind, count) :: rest => if distance < count then kind else kindAt (distance - count) rest

/--
The kind of a character. Small letters are kinds of characters that stand for themselves, and their
capitals are those of characters that stand for others of the same kind. Of the kinds that have no
capital, `x` is a character that may not stand in a name, `i` one that is passed over, `a` one that
stands for characters of ASCII, and `y` one that stands for several of different kinds or for marks.
-/
def kind (c : Char) : Char :=
  if c.isAlpha then 'l'
  else if c.isDigit then 'e'
  else if c.toNat < 0x80 then 'o'
  else kindAt (c.toNat - 0x80) kinds

/-- A kind is among some, for characters that stand for themselves or for others. -/
def isAmong (kind : Char) (among : String) : Bool :=
  among.toList.contains kind.toLower

def standsForItself (c : Char) : Bool :=
  !isAmong (kind c) "xiay" && !(kind c).isUpper

/-- The characters that a character of ASCII is put for. -/
def spelling? (c : Char) : Option (List Char) :=
  spelledRuns.findSome? fun run =>
    if run.first ≤ c.toNat ∧ c.toNat < run.first + run.count then
      match run.text.toList with
      | [first] => some [Char.ofNat (first.toNat + (c.toNat - run.first))]
      | text => some text
    else none

/-- The characters of different kinds, or the marks, that a character is put for. -/
def expansion? (c : Char) : Option (List Char) :=
  (expansions.find? fun entry => entry.char = c.toNat).map fun entry =>
    entry.meaning.map Char.ofNat

/-- What a character stands for in a name, if it may stand there. Capitals stand for small letters.
All others that stand for characters of their own kind beyond ASCII are kept, since they are worth
the same; those of the kind `B`, which are several letters in one, are worth two of them. -/
def meaning? (c : Char) : Option (List Char) :=
  if c.toNat < 0x80 then some [c.toLower]
  else
    match kind c with
    | 'x' => none
    | 'i' => some []
    | 'a' => spelling? c
    | 'y' => expansion? c
    | 'B' => some [c, c]
    | kind => some [if kind.isUpper then Text.lowerChar c else c]

def isCombining (c : Char) : Bool :=
  isAmong (kind c) "nwcv"

def isVirama (c : Char) : Bool :=
  isAmong (kind c) "wv"

def joinsNext (c : Char) : Bool :=
  isAmong (kind c) "tbmpg"

def joinsPrevious (c : Char) : Bool :=
  isAmong (kind c) "tbsmg"

def isLeftward (c : Char) : Bool :=
  isAmong (kind c) "rstb"

def isLeftwardDigit (c : Char) : Bool :=
  isAmong (kind c) "d"

def isDigit (c : Char) : Bool :=
  isAmong (kind c) "e"

def isRightward (c : Char) : Bool :=
  isAmong (kind c) "lcvmp"

def isUndirected (c : Char) : Bool :=
  isAmong (kind c) "u"

def isNonspacing (c : Char) : Bool :=
  isAmong (kind c) "nw"

end Suppression.FileUrl

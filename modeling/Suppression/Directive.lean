import Suppression.Number.Rounding
import Suppression.Target.Grammar
import Suppression.Text.Lines

namespace Suppression

/-- A directive opens a region, closes one, or speaks for its own line. -/
inductive DirectiveKind where
  | start
  | stop
  | inline
  deriving DecidableEq

structure Directive where
  kind : DirectiveKind
  targets : Targets
  deriving DecidableEq

/-- A directive with the line that holds it; lines are counted from one. -/
structure LineDirective extends Directive where
  line : Number
  deriving DecidableEq

namespace DirectiveKind

def name : DirectiveKind → String
  | start => "Start"
  | stop => "Stop"
  | inline => "Inline"

end DirectiveKind

namespace Directive

/-- The text after a word, if the text starts with the word in any letter case. -/
def afterWord? : List Char → List Char → Option (List Char)
  | [], text => some text
  | _ :: _, [] => none
  | w :: word, c :: text => if c.toLower = w then afterWord? word text else none

/-- No letter, digit or underscore comes next. -/
def atWordEnd : List Char → Bool
  | [] => true
  | c :: _ => !Text.isWord c

/-- The text after `ignore` or `ignoring`, if one of them stands at the start of the text as a whole
word and no line break comes after it. -/
def afterKeyword? (text : List Char) : Option (List Char) :=
  let whole (after : List Char) : Bool := atWordEnd after && !after.any Text.isLineBreak
  ((afterWord? "ignore".toList text).filter whole).or
    ((afterWord? "ignoring".toList text).filter whole)

/-- The kind that the text before the keyword, read backwards, gives it: there may be another
keyword as a whole word, with white space in between. -/
def kindAfter (before : List Char) : DirectiveKind :=
  let word := before.dropWhile Text.isBlank
  let ends (keyword : String) : Bool :=
    match afterWord? keyword.toList.reverse word with
    | some earlier => atWordEnd earlier
    | none => false
  if word.length = before.length then .inline
  else if ends "start" then .start
  else if ends "stop" then .stop
  else .inline

/-- The first keyword in a text that stands after the given characters, the last of which comes
first: its kind, and the text after it. -/
def findAfter? (before : List Char) : List Char → Option (DirectiveKind × List Char)
  | [] => none
  | c :: rest =>
      match if atWordEnd before then afterKeyword? (c :: rest) else none with
      | some after => some (kindAfter before, after)
      | none => findAfter? (c :: before) rest

/-- The keyword of a line: its kind, and the text after it. -/
def find? (line : String) : Option (DirectiveKind × String) :=
  (findAfter? [] line.toList).map fun (kind, after) => (kind, String.ofList after)

end Directive

/-- Tells which directive, if any, a line holds. It breaks off where its grammar does. -/
abbrev Matcher := String → Except String (Option Directive)

namespace Matcher

/-- The matcher of a grammar: a line is a directive if it has a keyword and the grammar accepts what
follows it. -/
def ofGrammar (grammar : Grammar) : Matcher := fun line =>
  match Directive.find? line with
  | none => .ok none
  | some (kind, text) =>
      (grammar text).map fun targets? => targets?.map fun targets => { kind, targets }

def standard : Matcher := ofGrammar .flat

def inLinesFrom (matcher : Matcher) (number : Nat) :
    List (List Char) → Except String (List LineDirective)
  | [] => .ok []
  | line :: rest => do
      let directive? ← matcher (String.ofList line)
      let others ← inLinesFrom matcher (number + 1) rest
      match directive? with
      | none => return others
      | some directive => return { directive with line := .ofNat number } :: others

def inText (matcher : Matcher) (text : String) : Except String (List LineDirective) :=
  inLinesFrom matcher 1 (Text.splitLines text.toList)

end Matcher

end Suppression

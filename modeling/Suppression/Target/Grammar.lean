import Suppression.Target
import Suppression.Text.Blank

namespace Suppression

/-- A grammar reads the text after a directive's keyword. It may refuse the text, and it may break
off with a message. -/
abbrev Grammar := String → Except String (Option Targets)

namespace Grammar

def isNameStart (c : Char) : Bool :=
  c.isAlpha || c == '_'

def isNameChar (c : Char) : Bool :=
  Text.isWord c || c == '.' || c == '-'

/-- The text inside a bracket that has just been opened, and the text after it. -/
def group? : List Char → Option (List Char × List Char)
  | [] => none
  | c :: rest =>
      if c = ')' then some ([], rest)
      else if c = '(' then none
      else (group? rest).map fun (inside, after) => (c :: inside, after)

def splitAt (separator : Char) : List Char → List (List Char)
  | [] => [[]]
  | c :: rest =>
      if c = separator then [] :: splitAt separator rest
      else match splitAt separator rest with
        | [] => [[c]]
        | piece :: pieces => (c :: piece) :: pieces

/-- The rules in a bracket: what stands between the commas, trimmed, as far as anything does. -/
def rules (inside : List Char) : List Wide :=
  ((splitAt ',' inside).map Text.trimChars).filterMap fun rule =>
    if rule.isEmpty then none else some (.text (String.ofList rule))

/-- One target for each rule of a bracket; for an empty bracket, one for the analyzer. -/
def targetsOf (analyzer : Wide) (inside : List Char) : Targets :=
  match rules inside with
  | [] => [{ analyzer }]
  | rules => rules.map fun rule => { analyzer, rule := some rule }

theorem length_of_group? {text inside after : List Char} (h : group? text = some (inside, after)) :
    after.length < text.length := by
  induction text generalizing inside with
  | nil => simp [group?] at h
  | cons c rest ih =>
      simp only [group?] at h
      split at h
      · simp_all
      · split at h
        · simp at h
        · obtain ⟨found, hgroup, heq⟩ := Option.map_eq_some_iff.mp h
          have hafter : found.2 = after := congrArg Prod.snd heq
          have hrest : group? rest = some (found.1, after) := by rw [hgroup, ← hafter]
          have hlt := ih hrest
          simp only [List.length_cons]
          omega

theorem length_dropWhile_le (p : Char → Bool) (text : List Char) :
    (text.dropWhile p).length ≤ text.length :=
  (List.dropWhile_suffix p).length_le

/-- The targets that a text lists in the flat grammar. -/
def flat? (text : List Char) : Option Targets :=
  match text with
  | [] => some []
  | c :: rest =>
      if isNameStart c then
        let analyzer : Wide := .text (String.ofList (c :: rest.takeWhile isNameChar))
        match _h : rest.dropWhile isNameChar with
        | '(' :: opened =>
            match _g : group? opened with
            | none => none
            | some (inside, after) =>
                (flat? after).map fun targets => targetsOf analyzer inside ++ targets
        | other => (flat? other).map fun targets => { analyzer } :: targets
      else if c = '(' then
        match _g : group? rest with
        | none => none
        | some (_, after) => flat? after
      else if isNameChar c then flat? (rest.dropWhile isNameChar)
      else flat? rest
termination_by text.length
decreasing_by
  · have := length_dropWhile_le isNameChar rest
    have := length_of_group? _g
    simp only [_h, List.length_cons] at *
    omega
  · have := length_dropWhile_le isNameChar rest
    simp only [_h, List.length_cons] at *
    omega
  · have := length_of_group? _g
    simp only [List.length_cons]
    omega
  · have := length_dropWhile_le isNameChar rest
    simp only [List.length_cons]
    omega
  · simp

def flat : Grammar := fun text => .ok (flat? text.toList)

end Grammar

end Suppression

import Suppression.Text.Lowercase
import Suppression.Text.Units

/-!
Texts of 16-bit units, as other programs hand them over. Two units can be the halves of a pair,
which stands for one character, but nothing keeps a half from standing without the other. A row of
units in which one does is no text of characters; it is kept as it is, and no two rows become the
same.
-/

namespace Suppression

/-- Half of a pair of 16-bit units, by its number among the halves of its kind. -/
inductive Half where
  | high (offset : Fin 1024)
  | low (offset : Fin 1024)
  deriving DecidableEq

def Half.unit : Half → Nat
  | high offset => 0xd800 + offset
  | low offset => 0xdc00 + offset

theorem Half.unit_lt (half : Half) : half.unit < 0x10000 := by
  cases half with
  | high offset => exact Nat.lt_of_lt_of_le (Nat.add_lt_add_left offset.isLt _) (by decide)
  | low offset => exact Nat.lt_of_lt_of_le (Nat.add_lt_add_left offset.isLt _) (by decide)

/-- A character, or half of a pair without the other half. -/
inductive Letter where
  | char (c : Char)
  | half (half : Half)
  deriving DecidableEq

namespace Letter

/-- What a single unit stands for, as long as it is not beside its other half. -/
def ofUnit (n : Nat) : Letter :=
  if h : 0xd800 ≤ n ∧ n < 0xdc00 then half (.high ⟨n - 0xd800, by omega⟩)
  else if h : 0xdc00 ≤ n ∧ n < 0xe000 then half (.low ⟨n - 0xdc00, by omega⟩)
  else char (Char.ofNat n)

def units : Letter → List Nat
  | char c => Text.charUnits c
  | half h => [h.unit]

def isHalf : Letter → Bool
  | char _ => false
  | half _ => true

/-- The letter as one character; for a half there is a character that stands for none. -/
def shown : Letter → Char
  | char c => c
  | half _ => '\ufffd'

/-- A letter put before others. A first half before a second half becomes the character of the
pair. -/
def cons : Letter → List Letter → List Letter
  | half (.high a), half (.low b) :: rest => char (Char.ofNat (0x10000 + a * 0x400 + b)) :: rest
  | letter, rest => letter :: rest

/-- The letters with a character for every pair of halves. -/
def joined (letters : List Letter) : List Letter :=
  letters.foldr cons []

/-- The small form of letters that stand after the given characters, the last of which comes first.
A half has no small form and no case. -/
def lowerAfter (before : List Char) : List Letter → List Letter
  | [] => []
  | half h :: after => half h :: lowerAfter ('\ufffd' :: before) after
  | char c :: after =>
      (Text.lowerBetween before c (after.map shown)).map char ++ lowerAfter (c :: before) after

theorem ofUnit_of_lt {n : Nat} (h : n < 0xd800) : ofUnit n = char (Char.ofNat n) := by
  rw [ofUnit, dif_neg (by omega), dif_neg (by omega)]

theorem ofUnit_unit (h : Half) : ofUnit h.unit = half h := by
  cases h with
  | high offset =>
      have hlt := offset.isLt
      rw [ofUnit, Half.unit, dif_pos (by omega)]
      simp
  | low offset =>
      have hlt := offset.isLt
      rw [ofUnit, Half.unit, dif_neg (by omega), dif_pos (by omega)]
      simp

theorem joined_cons (letter : Letter) (letters : List Letter) :
    joined (letter :: letters) = cons letter (joined letters) :=
  rfl

theorem joined_map_char (chars : List Char) : joined (chars.map char) = chars.map char := by
  induction chars with
  | nil => rfl
  | cons c rest ih =>
      rw [List.map_cons, joined_cons, ih]
      rfl

theorem joined_joined (letters : List Letter) : joined (joined letters) = joined letters := by
  induction letters with
  | nil => rfl
  | cons letter rest ih =>
      rw [joined_cons]
      generalize joined rest = letters at ih ⊢
      fun_cases cons letter letters with
      | case1 a b later =>
          have hlater : joined later = later := List.tail_eq_of_cons_eq ih
          rw [joined_cons, hlater]
          rfl
      | case2 =>
          rw [joined_cons, ih, cons]
          assumption

theorem joined_append (first second : List Letter) :
    joined (joined first ++ second) = joined (first ++ second) := by
  induction first with
  | nil => rfl
  | cons letter rest ih =>
      rw [joined_cons, List.cons_append, joined_cons, ← ih]
      generalize joined rest = letters
      fun_cases cons letter letters with
      | case1 => rfl
      | case2 => rfl

theorem append_joined (first second : List Letter) :
    joined (first ++ joined second) = joined (first ++ second) := by
  induction first with
  | nil => exact joined_joined second
  | cons letter rest ih => rw [List.cons_append, joined_cons, ih, List.cons_append, joined_cons]

end Letter

/-- Letters that are no text: some are halves, and no two halves make a pair. -/
structure IsTorn (letters : List Letter) : Prop where
  joined : Letter.joined letters = letters
  half : letters.any Letter.isHalf = true

/-- A text, or a row of 16-bit units that is none. -/
inductive Wide where
  | text (content : String)
  | torn (letters : List Letter) (h : IsTorn letters)
  deriving DecidableEq

namespace Wide

instance : Coe String Wide := ⟨text⟩

instance : Inhabited Wide := ⟨text ""⟩

def letters : Wide → List Letter
  | text content => content.toList.map .char
  | torn letters _ => letters

def ofLetters (letters : List Letter) : Wide :=
  let joined := Letter.joined letters
  if h : joined.any Letter.isHalf then torn joined ⟨Letter.joined_joined letters, h⟩
  else text (String.ofList (joined.map Letter.shown))

/-- The text with a character that stands for none in the place of each half. -/
def shown : Wide → String
  | text content => content
  | torn letters _ => String.ofList (letters.map Letter.shown)

def append : Wide → Wide → Wide
  | text a, text b => text (a ++ b)
  | a, b => ofLetters (a.letters ++ b.letters)

instance : Append Wide := ⟨append⟩

/-- Texts put together, with another one between any two. -/
def join (separator : Wide) : List Wide → Wide
  | [] => text ""
  | [last] => last
  | first :: rest => first ++ separator ++ join separator rest

def lower : Wide → Wide
  | text content => text (Text.lower content)
  | torn letters _ => ofLetters (Letter.lowerAfter [] letters)

def units : Wide → List Nat
  | text content => Text.units content
  | torn letters _ => letters.flatMap Letter.units

def le (a b : Wide) : Bool :=
  Text.unitsLe a.units b.units

def sort (texts : List Wide) : List Wide :=
  texts.mergeSort le

theorem ofLetters_map_char (chars : List Char) :
    ofLetters (chars.map .char) = text (String.ofList chars) := by
  have hshown : chars.map (Letter.shown ∘ Letter.char) = chars := List.map_id chars
  simp [ofLetters, Letter.joined_map_char, Letter.isHalf, hshown]

theorem ofLetters_letters (wide : Wide) : ofLetters wide.letters = wide := by
  cases wide with
  | text content => rw [letters, ofLetters_map_char, String.ofList_toList]
  | torn letters h => simp [ofLetters, Wide.letters, h.joined, h.half]

theorem joined_letters (wide : Wide) : Letter.joined wide.letters = wide.letters := by
  cases wide with
  | text content => exact Letter.joined_map_char content.toList
  | torn letters h => exact h.joined

theorem ofLetters_congr {letters others : List Letter}
    (h : Letter.joined letters = Letter.joined others) : ofLetters letters = ofLetters others := by
  simp only [ofLetters, h]

theorem letters_ofLetters (letters : List Letter) :
    (ofLetters letters).letters = Letter.joined letters := by
  simp only [ofLetters]
  split
  · rfl
  · next h =>
      have hchar : ∀ letter ∈ Letter.joined letters, Letter.char letter.shown = letter := by
        intro letter hmem
        cases letter with
        | char c => rfl
        | half half => exact absurd (List.any_eq_true.mpr ⟨_, hmem, rfl⟩) h
      rw [Wide.letters, String.toList_ofList, List.map_map]
      exact (List.map_congr_left hchar).trans (List.map_id _)

theorem append_eq (a b : Wide) : a ++ b = ofLetters (a.letters ++ b.letters) := by
  cases a with
  | torn => rfl
  | text a =>
      cases b with
      | torn => rfl
      | text b =>
          rw [letters, letters, ← List.map_append, ofLetters_map_char, String.ofList_append,
            String.ofList_toList, String.ofList_toList]
          rfl

theorem append_assoc (a b c : Wide) : a ++ b ++ c = a ++ (b ++ c) := by
  rw [append_eq (a ++ b), append_eq a b, append_eq a (b ++ c), append_eq b c, letters_ofLetters,
    letters_ofLetters]
  apply ofLetters_congr
  rw [Letter.joined_append, Letter.append_joined, List.append_assoc]

@[simp]
theorem shown_text (content : String) : shown (text content) = content :=
  rfl

@[simp]
theorem text_append (a b : String) : text a ++ text b = text (a ++ b) :=
  rfl

@[simp]
theorem text_append_append (a b : String) (c : Wide) :
    text a ++ (text b ++ c) = text (a ++ b) ++ c := by
  rw [← append_assoc, text_append]

theorem join_map_text (separator : String) (texts : List String) :
    join separator (texts.map text) = text (separator.intercalate texts) := by
  induction texts with
  | nil => rfl
  | cons first rest ih =>
      cases rest with
      | nil => simp [join]
      | cons second others =>
          rw [List.map_cons, List.map_cons, join, ← List.map_cons, ih, text_append, text_append,
            String.intercalate_cons_cons]
          exact List.cons_ne_nil _ _

end Wide

end Suppression

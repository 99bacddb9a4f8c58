import Mathlib.Data.List.Basic
import Suppression.Directive

namespace Suppression

namespace Text

theorem length_filePieces_le (pieces : List Piece) :
    (pieces.filter fun piece => !(piece.line.isEmpty && piece.ending = .none)).length ≤
      (join pieces).length := by
  induction pieces with
  | nil => simp [join]
  | cons piece rest ih =>
      simp only [join, List.flatMap_cons, List.length_append] at ih ⊢
      rw [List.filter_cons]
      split
      · next hkept =>
          have hchars : 0 < piece.chars.length := by
            obtain ⟨line, ending⟩ := piece
            cases line <;> cases ending <;> simp_all [Piece.chars, Ending.chars]
          rw [List.length_cons]
          omega
      · omega

theorem length_fileLines_le (text : List Char) : (fileLines text).length ≤ text.length := by
  have h := length_filePieces_le (pieces text)
  rw [join_pieces] at h
  rwa [fileLines, List.length_map]

end Text

def Directive.onLine (directive : Directive) (number : Nat) : LineDirective :=
  { directive with line := .ofNat number }

namespace Matcher

variable {matcher : Matcher}

/-- A directive stands on a line, counted from one. -/
def Finds (matcher : Matcher) (lines : List (List Char)) (number : Nat)
    (directive : Directive) : Prop :=
  ∃ line, lines[number - 1]? = some line ∧ matcher (String.ofList line) = .ok (some directive)

theorem Finds.le_length {lines : List (List Char)} {number : Nat} {directive : Directive}
    (h : matcher.Finds lines number directive) : number ≤ lines.length := by
  obtain ⟨line, hline, -⟩ := h
  obtain ⟨hlt, -⟩ := List.getElem?_eq_some_iff.mp hline
  omega

theorem inLinesFrom_cons {number : Nat} {line : List Char} {rest : List (List Char)}
    {directives : List LineDirective} :
    matcher.inLinesFrom number (line :: rest) = .ok directives ↔
      ∃ directive? others, matcher (String.ofList line) = .ok directive? ∧
        matcher.inLinesFrom (number + 1) rest = .ok others ∧
          directives =
            (directive?.map fun directive => directive.onLine number).toList ++ others := by
  simp only [inLinesFrom, bind, Except.bind]
  cases matcher (String.ofList line) with
  | error e => simp
  | ok directive? =>
      cases matcher.inLinesFrom (number + 1) rest with
      | error e => simp
      | ok others =>
          cases directive? <;> simp [pure, Except.pure, Directive.onLine, eq_comm]

theorem inLinesFrom_append {number : Nat} {lines others : List (List Char)}
    {directives : List LineDirective} :
    matcher.inLinesFrom number (lines ++ others) = .ok directives ↔
      ∃ before after, matcher.inLinesFrom number lines = .ok before ∧
        matcher.inLinesFrom (number + lines.length) others = .ok after ∧
          directives = before ++ after := by
  induction lines generalizing number directives with
  | nil => simp [inLinesFrom]
  | cons line rest ih =>
      have hnumber : number + (line :: rest).length = number + 1 + rest.length := by
        rw [List.length_cons]
        omega
      rw [List.cons_append, inLinesFrom_cons, hnumber]
      constructor
      · rintro ⟨directive?, _, hmatch, hrest, rfl⟩
        obtain ⟨before, after, hbefore, hafter, rfl⟩ := ih.mp hrest
        exact ⟨_, after, inLinesFrom_cons.mpr ⟨directive?, before, hmatch, hbefore, rfl⟩, hafter,
          (List.append_assoc _ _ _).symm⟩
      · rintro ⟨_, after, hfirst, hafter, rfl⟩
        obtain ⟨directive?, before, hmatch, hbefore, rfl⟩ := inLinesFrom_cons.mp hfirst
        exact ⟨directive?, before ++ after, hmatch, ih.mpr ⟨before, after, hbefore, hafter, rfl⟩,
          List.append_assoc _ _ _⟩

theorem inLinesFrom_singleton {number : Nat} {line : List Char}
    {directives : List LineDirective} :
    matcher.inLinesFrom number [line] = .ok directives ↔
      ∃ directive?, matcher (String.ofList line) = .ok directive? ∧
        directives = (directive?.map fun directive => directive.onLine number).toList := by
  rw [inLinesFrom_cons]
  simp [inLinesFrom]

theorem exists_number_of_mem {number : Nat} {lines : List (List Char)}
    {directives : List LineDirective} (h : matcher.inLinesFrom number lines = .ok directives)
    {directive : LineDirective} (hmem : directive ∈ directives) :
    ∃ n, number ≤ n ∧ n < number + lines.length ∧ directive.line = .ofNat n := by
  induction lines generalizing number directives with
  | nil =>
      obtain rfl : directives = [] := by simpa [inLinesFrom, eq_comm] using h
      simp at hmem
  | cons line rest ih =>
      obtain ⟨directive?, others, -, hothers, rfl⟩ := inLinesFrom_cons.mp h
      rw [List.length_cons]
      rcases List.mem_append.mp hmem with hfirst | hrest
      · obtain ⟨found, -, rfl⟩ := Option.map_eq_some_iff.mp (Option.mem_toList.mp hfirst)
        exact ⟨number, Nat.le_refl number, by omega, rfl⟩
      · obtain ⟨n, hle, hlt, hn⟩ := ih hothers hrest
        exact ⟨n, by omega, by omega, hn⟩

theorem exists_directive_of_mem {number : Nat} {lines : List (List Char)}
    {directives : List LineDirective} (h : matcher.inLinesFrom number lines = .ok directives)
    {line : List Char} (hmem : line ∈ lines) :
    ∃ directive?, matcher (String.ofList line) = .ok directive? := by
  induction lines generalizing number directives with
  | nil => simp at hmem
  | cons first rest ih =>
      obtain ⟨directive?, others, hfirst, hothers, -⟩ := inLinesFrom_cons.mp h
      rcases List.mem_cons.mp hmem with rfl | hrest
      · exact ⟨directive?, hfirst⟩
      · exact ih hothers hrest

theorem inLinesFrom_slice_succ {lines : List (List Char)} {above count : Nat} {line : List Char}
    (hline : lines[above + count]? = some line) {directives : List LineDirective} :
    matcher.inLinesFrom (above + 1) ((lines.drop above).take (count + 1)) = .ok directives ↔
      ∃ before directive?,
        matcher.inLinesFrom (above + 1) ((lines.drop above).take count) = .ok before ∧
          matcher (String.ofList line) = .ok directive? ∧
            directives = before ++
              (directive?.map fun directive => directive.onLine (above + count + 1)).toList := by
  obtain ⟨hlt, -⟩ := List.getElem?_eq_some_iff.mp hline
  have hnumber : above + 1 + ((lines.drop above).take count).length = above + count + 1 := by
    rw [List.length_take, List.length_drop]
    omega
  rw [List.take_add_one, List.getElem?_drop, hline, Option.toList_some, inLinesFrom_append,
    hnumber]
  constructor
  · rintro ⟨before, after, hbefore, hafter, rfl⟩
    obtain ⟨directive?, hmatch, rfl⟩ := inLinesFrom_singleton.mp hafter
    exact ⟨before, directive?, hbefore, hmatch, rfl⟩
  · rintro ⟨before, directive?, hbefore, hmatch, rfl⟩
    exact ⟨before, _, hbefore, inLinesFrom_singleton.mpr ⟨directive?, hmatch, rfl⟩, rfl⟩

theorem inLinesFrom_take_succ {lines : List (List Char)} {count : Nat} {line : List Char}
    (hline : lines[count]? = some line) {directives : List LineDirective} :
    matcher.inLinesFrom 1 (lines.take (count + 1)) = .ok directives ↔
      ∃ before directive?, matcher.inLinesFrom 1 (lines.take count) = .ok before ∧
        matcher (String.ofList line) = .ok directive? ∧
          directives =
            before ++ (directive?.map fun directive => directive.onLine (count + 1)).toList := by
  have hcount : lines[0 + count]? = some line := by rwa [Nat.zero_add]
  simpa using @inLinesFrom_slice_succ matcher lines 0 count line hcount directives

end Matcher

end Suppression

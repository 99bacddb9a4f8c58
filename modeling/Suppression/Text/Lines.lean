namespace Suppression.Text

/-- What follows a piece of text: nothing at the end, or one of the two terminators. -/
inductive Ending where
  | none
  | lf
  | crlf
  deriving DecidableEq

def Ending.chars : Ending → List Char
  | none => []
  | lf => ['\n']
  | crlf => ['\r', '\n']

/-- A piece of text without a line feed, and what follows it. -/
structure Piece where
  line : List Char
  ending : Ending

def Piece.chars (piece : Piece) : List Char :=
  piece.line ++ piece.ending.chars

def Piece.cons (c : Char) (pieces : List Piece) : List Piece :=
  if c = '\n' then ⟨[], .lf⟩ :: pieces
  else match pieces with
    | [] => [⟨[c], .none⟩]
    | piece :: rest =>
        if c = '\r' ∧ piece.line = [] ∧ piece.ending = .lf then ⟨[], .crlf⟩ :: rest
        else ⟨c :: piece.line, piece.ending⟩ :: rest

/-- The pieces of a text, the last one without an ending. -/
def pieces (text : List Char) : List Piece :=
  text.foldr Piece.cons [⟨[], .none⟩]

def join (pieces : List Piece) : List Char :=
  pieces.flatMap Piece.chars

/-- The texts between the terminators; after a last terminator there is one more, an empty one. -/
def splitLines (text : List Char) : List (List Char) :=
  (pieces text).map Piece.line

/-- The pieces that are lines of a file: an empty rest after the last terminator is none. -/
def filePieces (text : List Char) : List Piece :=
  (pieces text).filter fun piece => !(piece.line.isEmpty && piece.ending = .none)

def fileLines (text : List Char) : List (List Char) :=
  (filePieces text).map Piece.line

theorem join_cons (c : Char) (pieces : List Piece) :
    join (Piece.cons c pieces) = c :: join pieces := by
  by_cases hc : c = '\n'
  · simp [Piece.cons, join, Piece.chars, Ending.chars, hc]
  · cases pieces with
    | nil => simp [Piece.cons, join, Piece.chars, Ending.chars, hc]
    | cons piece rest =>
        by_cases h : c = '\r' ∧ piece.line = [] ∧ piece.ending = .lf
        · simp [Piece.cons, join, Piece.chars, Ending.chars, h]
        · simp [Piece.cons, join, Piece.chars, hc, h]

theorem join_pieces (text : List Char) : join (pieces text) = text := by
  induction text with
  | nil => simp [pieces, join, Piece.chars, Ending.chars]
  | cons c rest ih =>
      simp only [pieces, List.foldr_cons] at ih ⊢
      rw [join_cons, ih]

theorem newline_not_mem_of_mem_cons {c : Char} {pieces : List Piece}
    (h : ∀ piece ∈ pieces, '\n' ∉ piece.line) :
    ∀ piece ∈ Piece.cons c pieces, '\n' ∉ piece.line := by
  by_cases hc : c = '\n'
  · simpa [Piece.cons, hc] using h
  · cases pieces with
    | nil => simp [Piece.cons, hc, Ne.symm hc]
    | cons first rest =>
        obtain ⟨hfirst, hrest⟩ := List.forall_mem_cons.mp h
        by_cases hr : c = '\r' ∧ first.line = [] ∧ first.ending = .lf
        · simpa [Piece.cons, hr] using hrest
        · simpa [Piece.cons, hc, hr, Ne.symm hc, hfirst] using hrest

theorem newline_not_mem_line (text : List Char) :
    ∀ piece ∈ pieces text, '\n' ∉ piece.line := by
  induction text with
  | nil => simp [pieces]
  | cons c rest ih => exact newline_not_mem_of_mem_cons ih

end Suppression.Text

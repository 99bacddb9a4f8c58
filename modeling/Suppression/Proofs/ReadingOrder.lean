import Mathlib.Data.Prod.Lex
import Mathlib.Order.Compare
import Mathlib.Order.WithBot
import Suppression.Proofs.AcceptedRange

namespace Suppression

theorem compares_then {α β : Type*} [LT α] [LT β] {order order' : Ordering} {a b : α} {c d : β}
    (h : order.Compares a b) (h' : order'.Compares c d) :
    (order.then order').Compares (toLex (a, c)) (toLex (b, d)) := by
  cases order with
  | lt => exact Prod.Lex.toLex_lt_toLex.mpr (Or.inl h)
  | gt => exact Prod.Lex.toLex_lt_toLex.mpr (Or.inl h)
  | eq =>
      obtain rfl : a = b := h
      cases order' with
      | lt => exact Prod.Lex.toLex_lt_toLex.mpr (Or.inr ⟨rfl, h'⟩)
      | gt => exact Prod.Lex.toLex_lt_toLex.mpr (Or.inr ⟨rfl, h'⟩)
      | eq => exact congrArg (fun second => toLex (a, second)) h'

namespace Position

/-- A line and a column, in the order in which a text is read. -/
abbrev Place :=
  ℕ ×ₗ ℕ

def IsCounted (position : Position) : Prop :=
  ∃ line column, position = ⟨.ofNat line, .ofNat column⟩

/-- The position stands on an earlier line, or on the same line at an earlier column. -/
def Before (a b : Position) : Prop :=
  a.line < b.line ∨ a.line = b.line ∧ a.column < b.column

instance (a b : Position) : Decidable (a.Before b) :=
  inferInstanceAs (Decidable (_ ∨ _))

/-- Where a position stands whose line and column are counts. -/
def place (position : Position) : Place :=
  toLex (position.line.toNat, position.column.toNat)

@[simp] theorem place_ofNat (line column : Nat) :
    place ⟨.ofNat line, .ofNat column⟩ = toLex (line, column) := by
  simp [place]

variable {a b : Position}

theorem IsCounted.before_iff (ha : a.IsCounted) (hb : b.IsCounted) :
    a.Before b ↔ a.place < b.place := by
  obtain ⟨line, column, rfl⟩ := ha
  obtain ⟨line', column', rfl⟩ := hb
  simp [Before, Prod.Lex.toLex_lt_toLex]

theorem IsCounted.place_inj (ha : a.IsCounted) (hb : b.IsCounted) :
    a.place = b.place ↔ a = b := by
  obtain ⟨line, column, rfl⟩ := ha
  obtain ⟨line', column', rfl⟩ := hb
  simp

theorem compare_eq_then (line column line' column' : Nat) :
    compare ⟨.ofNat line, .ofNat column⟩ ⟨.ofNat line', .ofNat column'⟩ =
      (cmp line line').then (cmp column column') := by
  rw [compare_ofNat]
  rcases lt_trichotomy line line' with hline | rfl | hline
  · rw [if_neg hline.ne, if_pos hline, hline.cmp_eq_lt]
    rfl
  · rw [if_pos rfl, cmp_self_eq_eq, Ordering.eq_then]
    rcases lt_trichotomy column column' with hcolumn | rfl | hcolumn
    · rw [if_neg hcolumn.ne, if_pos hcolumn, hcolumn.cmp_eq_lt]
    · rw [if_pos rfl, cmp_self_eq_eq]
    · rw [if_neg hcolumn.ne', if_neg hcolumn.not_gt, hcolumn.cmp_eq_gt]
  · rw [if_neg hline.ne', if_neg hline.not_gt, hline.cmp_eq_gt]
    rfl

theorem IsCounted.compares (ha : a.IsCounted) (hb : b.IsCounted) :
    (a.compare b).Compares a.place b.place := by
  obtain ⟨line, column, rfl⟩ := ha
  obtain ⟨line', column', rfl⟩ := hb
  rw [compare_eq_then, place_ofNat, place_ofNat]
  exact compares_then (cmp_compares line line') (cmp_compares column column')

end Position

namespace Span

/-- Both ends of the span are counted positions. -/
structure IsCounted (span : Span) : Prop where
  start : span.start.IsCounted
  stop : span.stop.IsCounted

def places (span : Span) : Position.Place ×ₗ Position.Place :=
  toLex (span.start.place, span.stop.place)

variable {s t : Span}

theorem IsCounted.places_inj (hs : s.IsCounted) (ht : t.IsCounted) :
    s.places = t.places ↔ s = t := by
  have hstart := hs.start.place_inj ht.start
  have hstop := hs.stop.place_inj ht.stop
  obtain ⟨start, stop⟩ := s
  obtain ⟨start', stop'⟩ := t
  simp [places, hstart, hstop]

end Span

namespace Range

variable {a b : Range}

theorem Accepted.isCounted (h : a.Accepted) {span : Span} (hspan : a.span = some span) :
    span.IsCounted := by
  obtain ⟨first, last, hruns⟩ := h.runsOver hspan
  obtain ⟨-, -, hstart, hstop, ⟨column, hcolumn⟩, ⟨column', hcolumn'⟩⟩ := hruns
  constructor
  · exact ⟨first, column, by rw [← hstart, ← hcolumn]⟩
  · exact ⟨last, column', by rw [← hstop, ← hcolumn']⟩

/-- Ranks go by the start and then by the stop, and the whole file comes before them. -/
abbrev Rank :=
  WithBot (Position.Place ×ₗ Position.Place)

def rank (range : Range) : Rank :=
  match range.span with
  | none => ⊥
  | some span => span.places

theorem Accepted.rank_inj (ha : a.Accepted) (hb : b.Accepted) (hfile : a.file = b.file) :
    a.rank = b.rank ↔ a = b := by
  obtain ⟨file, aSpan⟩ := a
  obtain ⟨file', bSpan⟩ := b
  obtain rfl : file = file' := hfile
  cases aSpan with
  | none => cases bSpan <;> simp [rank]
  | some s =>
      cases bSpan with
      | none => simp [rank]
      | some t => simp [rank, (ha.isCounted rfl).places_inj (hb.isCounted rfl)]

/-- Ranges of one file can always be compared, and the comparison tells how their ranks stand to
each other. -/
theorem Accepted.exists_compare (ha : a.Accepted) (hb : b.Accepted) (hfile : a.file = b.file) :
    ∃ order, a.compare b = .ok order ∧ order.Compares a.rank b.rank := by
  cases hs : a.span with
  | none =>
      cases ht : b.span with
      | none => exact ⟨.eq, by simp [compare, hfile, hs, ht], by simp [rank, hs, ht]⟩
      | some t => exact ⟨.lt, by simp [compare, hfile, hs, ht], by simp [rank, hs, ht]⟩
  | some s =>
      cases ht : b.span with
      | none => exact ⟨.gt, by simp [compare, hfile, hs, ht], by simp [rank, hs, ht]⟩
      | some t =>
          have hcounted := ha.isCounted hs
          have hcounted' := hb.isCounted ht
          have hplaces := compares_then (hcounted.start.compares hcounted'.start)
            (hcounted.stop.compares hcounted'.stop)
          refine ⟨(s.start.compare t.start).then (s.stop.compare t.stop),
            by simp [compare, hfile, hs, ht], ?_⟩
          simp only [rank, hs, ht]
          exact WithBot.coe_strictMono.compares.mpr hplaces

theorem Accepted.compare_eq_lt_iff (ha : a.Accepted) (hb : b.Accepted) (hfile : a.file = b.file) :
    a.compare b = .ok .lt ↔ a.rank < b.rank := by
  obtain ⟨order, horder, hcompares⟩ := ha.exists_compare hb hfile
  rw [horder, Except.ok.injEq]
  exact hcompares.eq_lt

/-- The range comes before another one of its file or together with it. -/
def AtMost (a b : Range) : Prop :=
  a.compare b = .ok .lt ∨ a.compare b = .ok .eq

theorem Accepted.atMost_iff (ha : a.Accepted) (hb : b.Accepted) (hfile : a.file = b.file) :
    a.AtMost b ↔ a.rank ≤ b.rank := by
  obtain ⟨order, horder, hcompares⟩ := ha.exists_compare hb hfile
  rw [AtMost, horder, Except.ok.injEq, Except.ok.injEq, hcompares.eq_lt, hcompares.eq_eq]
  exact le_iff_lt_or_eq.symm

theorem compare_of_file_ne (h : a.file ≠ b.file) : a.compare b = .error ⟨a.file, b.file⟩ := by
  rw [compare, if_pos h]

end Range

end Suppression

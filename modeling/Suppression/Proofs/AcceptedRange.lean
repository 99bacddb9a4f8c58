import Suppression.Interval
import Suppression.Proofs.LineNumber

namespace Suppression

/-- A range that queries may be about. -/
inductive Range.Accepted : Range → Prop
  | wholeFile (file : Wide) : Accepted (.wholeFile file)
  | between {file : Wide} {start stop : Position} {range : Range} :
      Range.between file start stop = .ok range → Accepted range

def Position.IsExact (position : Position) : Prop :=
  position.line ≤ .lastExact ∧ position.column ≤ .lastExact

instance (position : Position) : Decidable position.IsExact :=
  inferInstanceAs (Decidable (_ ∧ _))

def Range.IsExact (range : Range) : Prop :=
  ∀ span ∈ range.span, span.start.IsExact ∧ span.stop.IsExact

instance (range : Range) : Decidable range.IsExact :=
  inferInstanceAs (Decidable (∀ span ∈ range.span, span.start.IsExact ∧ span.stop.IsExact))

/-- The span begins on one line and ends on another one or the same, at columns that are counts. -/
structure Span.RunsOver (span : Span) (first last : Nat) : Prop where
  positive : 1 ≤ first
  ordered : first ≤ last
  start_line : span.start.line = .ofNat first
  stop_line : span.stop.line = .ofNat last
  start_column : ∃ column, span.start.column = .ofNat column
  stop_column : ∃ column, span.stop.column = .ofNat column

namespace Position

theorem compare_ofNat (line column line' column' : Nat) :
    compare ⟨.ofNat line, .ofNat column⟩ ⟨.ofNat line', .ofNat column'⟩ =
      if line = line' then (if column = column' then .eq else if column < column' then .lt else .gt)
      else if line < line' then .lt else .gt := by
  by_cases hline : line = line' <;> by_cases hcolumn : column = column' <;>
    simp [compare, hline, hcolumn]

theorem compare_ne_lt (line column line' column' : Nat) :
    (compare ⟨.ofNat line, .ofNat column⟩ ⟨.ofNat line', .ofNat column'⟩ != .lt) =
      decide (line' < line ∨ line' = line ∧ column' ≤ column) := by
  rw [compare_ofNat, Bool.eq_iff_iff, bne_iff_ne, decide_eq_true_iff]
  split_ifs <;> simp only [ne_eq, reduceCtorEq, not_true_eq_false, not_false_eq_true,
    true_iff, false_iff] <;> omega

theorem compare_ne_gt (line column line' column' : Nat) :
    (compare ⟨.ofNat line, .ofNat column⟩ ⟨.ofNat line', .ofNat column'⟩ != .gt) =
      decide (line < line' ∨ line = line' ∧ column ≤ column') := by
  rw [compare_ofNat, Bool.eq_iff_iff, bne_iff_ne, decide_eq_true_iff]
  split_ifs <;> simp only [ne_eq, reduceCtorEq, not_true_eq_false, not_false_eq_true,
    true_iff, false_iff] <;> omega

theorem exists_ofNat_of_check {position : Position} {role : RangeEnd}
    (h : position.check role = .ok ()) :
    ∃ line column, 1 ≤ line ∧ position = ⟨.ofNat line, .ofNat column⟩ := by
  simp only [check] at h
  split at h
  · simp at h
  · next hline =>
      split at h
      · simp at h
      · next hcolumn =>
          obtain ⟨line, hpos, hl⟩ := exists_ofNat_of_isLine (by simpa using hline)
          obtain ⟨column, hc⟩ := exists_ofNat_of_isColumn (by simpa using hcolumn)
          exact ⟨line, column, hpos, by rw [← hl, ← hc]⟩

theorem check_ofNat (role : RangeEnd) {line : Nat} (column : Nat) (h : 1 ≤ line) :
    check role ⟨.ofNat line, .ofNat column⟩ = .ok () := by
  simp [check, isLine_ofNat h, isColumn_ofNat]

end Position

namespace Range

theorem between_cases {file : Wide} {start stop : Position} {range : Range}
    (h : between file start stop = .ok range) :
    start.check .start = .ok () ∧ stop.check .stop = .ok () ∧ start.compare stop ≠ .gt ∧
      range = { file, span := some ⟨start, stop⟩ } := by
  simp only [between] at h
  cases hstart : start.check .start with
  | error e => simp [hstart, bind, Except.bind] at h
  | ok _ =>
      cases hstop : stop.check .stop with
      | error e => simp [hstart, hstop, bind, Except.bind] at h
      | ok _ =>
          by_cases horder : start.compare stop = .gt
          · simp [hstart, hstop, horder, bind, Except.bind, throw, throwThe,
              MonadExceptOf.throw] at h
          · simp only [hstart, hstop, horder, bind, Except.bind, pure, Except.pure, if_false,
              Except.ok.injEq] at h
            exact ⟨rfl, rfl, horder, h.symm⟩

theorem Accepted.runsOver {range : Range} (h : range.Accepted) {span : Span}
    (hspan : range.span = some span) : ∃ first last, span.RunsOver first last := by
  cases h with
  | wholeFile file => simp [Range.wholeFile] at hspan
  | between hbetween =>
      obtain ⟨hstart, hstop, horder, rfl⟩ := between_cases hbetween
      obtain ⟨first, column, hfirst, rfl⟩ := Position.exists_ofNat_of_check hstart
      obtain ⟨last, column', -, rfl⟩ := Position.exists_ofNat_of_check hstop
      obtain rfl : span = _ := (Option.some.inj hspan).symm
      refine ⟨first, last, hfirst, ?_, rfl, rfl, ⟨column, rfl⟩, ⟨column', rfl⟩⟩
      rw [Position.compare_ofNat] at horder
      by_contra hlt
      have hne : first ≠ last := by omega
      have hnlt : ¬ first < last := by omega
      simp [hne, hnlt] at horder

theorem between_ofNat (file : Wide) {first last : Nat} (column column' : Nat)
    (hfirst : 1 ≤ first) (hlast : first < last ∨ first = last ∧ column ≤ column') :
    between file ⟨.ofNat first, .ofNat column⟩ ⟨.ofNat last, .ofNat column'⟩ = .ok
      { file, span := some ⟨⟨.ofNat first, .ofNat column⟩, ⟨.ofNat last, .ofNat column'⟩⟩ } := by
  have horder : Position.compare ⟨.ofNat first, .ofNat column⟩ ⟨.ofNat last, .ofNat column'⟩ ≠
      .gt := by
    rw [Position.compare_ofNat]
    rcases hlast with hlt | ⟨rfl, hle⟩
    · simp [hlt.ne, hlt]
    · rcases hle.lt_or_eq with hlt | rfl
      · simp [hlt.ne, hlt]
      · simp
  have hlast' : 1 ≤ last := by omega
  simp [between, Position.check_ofNat _ _ hfirst, Position.check_ofNat _ _ hlast', horder, bind,
    Except.bind, pure, Except.pure]

end Range

end Suppression

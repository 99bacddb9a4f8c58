import Suppression.Proofs.AcceptedRange
import Suppression.Proofs.IntervalList

/-!
What intervals say about a range. `Intervals.ignore` reads the intervals of a whole file, where an
interval without an end goes on forever; numbers give out, and in the end a range is looked for up
to the last exact one only (`Intervals.settle`), which makes no difference to ranges above it
(`settle_eq_ignore`). As long as the file is known up to a line only, an interval without an end is
trusted up to that line (`cover_eq_any`); directives on later lines take nothing away from what has
been covered (`Secure.apply`), and add nothing to it (`hold_of_hold_apply`).
-/

namespace Suppression

namespace Interval

/-- The interval contains the lines of a span. -/
def holds (interval : Interval) (span : Span) : Bool :=
  interval.startLine ≤ span.start.line &&
    match interval.endLine with
    | .unbounded => true
    | .line last => span.stop.line ≤ last

/-- The interval contains the lines of a span as far as it is known to go. -/
def reaches (interval : Interval) (horizon : Number) (span : Span) : Bool :=
  interval.startLine ≤ span.start.line &&
    match interval.endLine with
    | .unbounded => span.stop.line ≤ horizon.max interval.startLine
    | .line last => span.stop.line ≤ last

end Interval

namespace Intervals

def hold (intervals : Intervals) (span : Span) (origin : Origin) : Bool :=
  intervals.any fun interval => Targets.cover interval.targets origin && interval.holds span

/-- Results in a range are ignored for an origin, if these are the intervals of the whole file. -/
def ignore (intervals : Intervals) (range : Range) (origin : Origin) : Bool :=
  match range.span with
  | none => intervals.mention origin
  | some span => intervals.hold span origin

/-- What is answered about a range, if these are the intervals of the whole file. -/
def settle (intervals : Intervals) (range : Range) (origin : Origin) : Bool :=
  match range.span with
  | none => intervals.mention origin
  | some span => intervals.any fun interval =>
      Targets.cover interval.targets origin && interval.reaches .lastExact span

end Intervals

theorem Span.RunsOver.contains {span : Span} {first last : Nat} (h : span.RunsOver first last)
    (hcolumns : span.stop.column ≤ .lastExact) (file : Wide) (above below : Nat) :
    Range.contains { file, span := some ⟨⟨.ofNat above, .ofNat 0⟩, ⟨.ofNat below, .lastExact⟩⟩ }
      { file, span := some span } = (decide (above ≤ first) && decide (last ≤ below)) := by
  obtain ⟨start, stop⟩ := span
  obtain ⟨-, -, hstart, hstop, ⟨column, hcolumn⟩, ⟨column', hcolumn'⟩⟩ := h
  obtain ⟨startLine, startColumn⟩ := start
  obtain ⟨stopLine, stopColumn⟩ := stop
  subst hstart hstop hcolumn hcolumn'
  have hlimit : column' ≤ 9007199254740991 := Number.ofNat_le_ofNat.mp hcolumns
  have hbelow : (Position.compare ⟨.ofNat last, .ofNat column'⟩ ⟨.ofNat below, .lastExact⟩ != .gt) =
      decide (last < below ∨ last = below ∧ column' ≤ 9007199254740991) :=
    Position.compare_ne_gt last column' below 9007199254740991
  simp only [Range.contains, beq_self_eq_true, Bool.true_and, Position.compare_ne_lt, hbelow]
  congr 1 <;> rw [decide_eq_decide] <;> omega

namespace Interval

theorem between_lines (file : Wide) {above below : Nat} (habove : 1 ≤ above)
    (hle : above ≤ below) :
    Range.between file ⟨.ofNat above, .ofNat 0⟩ ⟨.ofNat below, .lastExact⟩ =
      .ok { file, span := some ⟨⟨.ofNat above, .ofNat 0⟩, ⟨.ofNat below, .lastExact⟩⟩ } :=
  Range.between_ofNat file 0 9007199254740991 habove (by omega)

/-- An interval that directives leave behind has a range, which contains another one exactly if the
interval reaches over its lines. -/
theorem exists_range_of_within {interval : Interval} {line : Nat} (h : interval.Within line)
    {span : Span} {first last : Nat} (hspan : span.RunsOver first last)
    (hcolumn : span.stop.column ≤ .lastExact) (file : Wide) (horizon : Nat) :
    ∃ lines, interval.range file (.ofNat horizon) = .ok lines ∧
      lines.contains { file, span := some span } = interval.reaches (.ofNat horizon) span := by
  have hcontains := hspan.contains hcolumn file
  cases h with
  | @unclosed above targets habove _ =>
      have hrange := between_lines file habove (Nat.le_max_right horizon above)
      rw [← Number.max_ofNat] at hrange
      refine ⟨_, hrange, ?_⟩
      rw [Number.max_ofNat, hcontains]
      simp [reaches, opened, hspan.start_line, hspan.stop_line]
  | @closed above below targets habove hordered _ =>
      have hrange := between_lines file habove hordered
      rw [← Nat.max_eq_left hordered, ← Number.max_ofNat] at hrange
      refine ⟨_, hrange, ?_⟩
      rw [Number.max_ofNat, Nat.max_eq_left hordered, hcontains]
      simp [reaches, opened, hspan.start_line, hspan.stop_line]
  | @inline own targets hpos _ =>
      have hrange : Range.between file ⟨.ofNat own, .ofNat 0⟩
          ⟨(Number.ofNat own).max (.ofNat own), .lastExact⟩ = _ :=
        (congrArg _ (by simp)).trans (between_lines file hpos le_rfl)
      refine ⟨_, hrange, ?_⟩
      rw [hcontains]
      simp [reaches, oneLine, hspan.start_line, hspan.stop_line]

theorem holds_of_reaches {interval : Interval} {horizon : Number} {span : Span}
    (h : interval.reaches horizon span = true) : interval.holds span = true := by
  simp only [reaches, Bool.and_eq_true] at h
  simp only [holds, h.1, Bool.true_and]
  cases hend : interval.endLine with
  | unbounded => rfl
  | line number => simpa [hend] using h.2

theorem reaches_of_holds {interval : Interval} {line : Nat} (hwithin : interval.Within line)
    {span : Span} {first last : Nat} (hspan : span.RunsOver first last) {horizon : Nat}
    (hlast : last ≤ horizon) (h : interval.holds span = true) :
    interval.reaches (.ofNat horizon) span = true := by
  cases hwithin with
  | unclosed targets habove _ =>
      simp only [holds, opened, hspan.start_line, Bool.and_true, decide_eq_true_eq,
        Number.ofNat_le_ofNat] at h
      simp [reaches, opened, hspan.start_line, hspan.stop_line, h, hlast]
  | closed targets _ _ _ => exact h
  | inline targets _ _ => exact h

theorem stop_targets (line : Number) (targets : Targets) (interval : Interval) :
    (stop line targets interval).1.targets = interval.targets := by
  unfold stop
  split
  · cases Targets.stopEffect targets interval.targets <;> rfl
  · rfl

theorem isOpen_iff {interval : Interval} :
    interval.isOpen = true ↔ interval.origin = .start ∧ interval.endLine = .unbounded := by
  simp [isOpen]

theorem isOpen_of_isOpen_stop {interval : Interval} {line : Number} {targets : Targets}
    (h : (stop line targets interval).1.isOpen = true) : interval.isOpen = true := by
  unfold stop at h
  split at h
  · next hopen => exact hopen
  · exact h

theorem holds_stop {interval : Interval} {span : Span} {line : Number}
    (hlast : interval.isOpen = true → span.stop.line ≤ line) (targets : Targets)
    (h : interval.holds span = true) : (stop line targets interval).1.holds span = true := by
  have hstart : interval.startLine ≤ span.start.line := by
    simp only [holds, Bool.and_eq_true, decide_eq_true_eq] at h
    exact h.1
  unfold stop
  split
  · next hopen =>
      cases Targets.stopEffect targets interval.targets with
      | none => exact h
      | close => simp [holds, hstart, hlast hopen]
      | narrow remaining => simp [holds, hstart, hlast hopen]
  · exact h

theorem holds_of_holds_stop {interval : Interval} {span : Span} {line : Number}
    {targets : Targets} (h : (stop line targets interval).1.holds span = true) :
    interval.holds span = true := by
  unfold stop at h
  split at h
  · next hopen =>
      have hend := (isOpen_iff.mp hopen).2
      cases heffect : Targets.stopEffect targets interval.targets <;>
        simp_all [holds]
  · exact h

theorem not_holds_stop_snd {interval next : Interval} {span : Span} {first last line : Nat}
    (hspan : span.RunsOver first last) (hexact : line < 2 ^ 53) (hfirst : first ≤ line)
    {targets : Targets} (h : (stop (.ofNat line) targets interval).2 = some next) :
    next.holds span = false := by
  obtain ⟨remaining, -, rfl⟩ := exists_narrow_of_stop_snd h
  simp only [holds, opened, Number.succ_ofNat hexact, hspan.start_line, Number.ofNat_le_ofNat,
    Bool.and_true, decide_eq_false_iff_not]
  omega

end Interval

namespace Intervals

theorem cover_eq_any {intervals : Intervals} {line : Nat} (h : intervals.Within line)
    {span : Span} {first last : Nat} (hspan : span.RunsOver first last)
    (hcolumn : span.stop.column ≤ .lastExact) (file : Wide) (origin : Origin) (horizon : Nat) :
    intervals.cover { file, span := some span } origin (.ofNat horizon) =
      .ok (intervals.any fun interval =>
        Targets.cover interval.targets origin && interval.reaches (.ofNat horizon) span) := by
  induction intervals with
  | nil => rfl
  | cons interval rest ih =>
      obtain ⟨hfirst, hrest⟩ := List.forall_mem_cons.mp h
      obtain ⟨lines, hlines, hcontains⟩ :=
        Interval.exists_range_of_within hfirst hspan hcolumn file horizon
      simp only [cover, hlines, hcontains, List.any_cons, ih hrest]
      cases Targets.cover interval.targets origin <;>
        cases interval.reaches (.ofNat horizon) span <;> simp

theorem hold_iff {intervals : Intervals} {span : Span} {origin : Origin} :
    intervals.hold span origin = true ↔ ∃ interval ∈ intervals,
      Targets.cover interval.targets origin = true ∧ interval.holds span = true := by
  simp [hold]

theorem any_reaches_eq_hold {intervals : Intervals} {line : Nat} (h : intervals.Within line)
    {span : Span} {first last : Nat} (hspan : span.RunsOver first last) {horizon : Nat}
    (hlast : last ≤ horizon) (origin : Origin) :
    (intervals.any fun interval =>
      Targets.cover interval.targets origin && interval.reaches (.ofNat horizon) span) =
        intervals.hold span origin := by
  rw [Bool.eq_iff_iff, hold_iff, List.any_eq_true]
  constructor
  · rintro ⟨interval, hmem, hinterval⟩
    rw [Bool.and_eq_true] at hinterval
    exact ⟨interval, hmem, hinterval.1, Interval.holds_of_reaches hinterval.2⟩
  · rintro ⟨interval, hmem, hcover, hholds⟩
    refine ⟨interval, hmem, ?_⟩
    rw [hcover, Bool.true_and]
    exact Interval.reaches_of_holds (h interval hmem) hspan hlast hholds

theorem settle_eq_hold {intervals : Intervals} {line : Nat} (h : intervals.Within line)
    {span : Span} {first last : Nat} (hspan : span.RunsOver first last)
    (hlast : last ≤ 9007199254740991) (file : Wide) (origin : Origin) :
    intervals.settle { file, span := some span } origin = intervals.hold span origin :=
  any_reaches_eq_hold h hspan hlast origin

theorem mention_iff {intervals : Intervals} {origin : Origin} :
    intervals.mention origin = true ↔
      ∃ interval ∈ intervals, Targets.cover interval.targets origin = true := by
  simp [mention]

theorem hold_perm {intervals others : Intervals} (h : intervals.Perm others) (span : Span)
    (origin : Origin) : intervals.hold span origin = others.hold span origin :=
  h.any_eq

theorem mention_perm {intervals others : Intervals} (h : intervals.Perm others) (origin : Origin) :
    intervals.mention origin = others.mention origin :=
  h.any_eq

theorem settle_perm {intervals others : Intervals} (h : intervals.Perm others) (range : Range)
    (origin : Origin) : intervals.settle range origin = others.settle range origin := by
  unfold settle
  cases range.span with
  | none => exact mention_perm h origin
  | some span => exact h.any_eq

/-- Up to the last exact number all answers are as the intervals have it. -/
theorem settle_eq_ignore {intervals : Intervals} {line : Nat} (h : intervals.Within line)
    {range : Range} (haccepted : range.Accepted) (hexact : range.IsExact) (origin : Origin) :
    intervals.settle range origin = intervals.ignore range origin := by
  obtain ⟨file, span?⟩ := range
  cases span? with
  | none => rfl
  | some span =>
      obtain ⟨first, last, hruns⟩ := haccepted.runsOver rfl
      have hstop := (hexact span rfl).2.1
      rw [hruns.stop_line] at hstop
      exact settle_eq_hold h hruns (Number.ofNat_le_ofNat.mp hstop) file origin

theorem hold_append (intervals others : Intervals) (span : Span) (origin : Origin) :
    (intervals ++ others).hold span origin =
      (intervals.hold span origin || others.hold span origin) := by
  simp [hold]

theorem mention_append (intervals others : Intervals) (origin : Origin) :
    (intervals ++ others).mention origin =
      (intervals.mention origin || others.mention origin) := by
  simp [mention]

/-- Some interval that speaks for an origin contains the lines of a span, and no stop from some line
on can change that. -/
def Secure (intervals : Intervals) (span : Span) (origin : Origin) (line : Number) : Prop :=
  ∃ interval ∈ intervals, Targets.cover interval.targets origin = true ∧
    interval.holds span = true ∧ (interval.isOpen = true → span.stop.line ≤ line)

theorem Secure.hold {intervals : Intervals} {span : Span} {origin : Origin} {line : Number}
    (h : intervals.Secure span origin line) : intervals.hold span origin = true := by
  obtain ⟨interval, hmem, hcover, hholds, -⟩ := h
  exact hold_iff.mpr ⟨interval, hmem, hcover, hholds⟩

theorem Secure.last_le {intervals : Intervals} {span : Span} {origin : Origin} {limit line : Nat}
    (h : intervals.Secure span origin (.ofNat limit)) (hwithin : intervals.Within line)
    (hlimit : limit ≤ line) {first last : Nat} (hspan : span.RunsOver first last) :
    last ≤ line := by
  obtain ⟨interval, hmem, -, hholds, hopen⟩ := h
  simp only [Interval.holds, hspan.stop_line, Bool.and_eq_true] at hholds
  cases hwithin interval hmem with
  | unclosed targets _ _ =>
      have hlast := hopen rfl
      rw [hspan.stop_line, Number.ofNat_le_ofNat] at hlast
      exact hlast.trans hlimit
  | closed targets _ _ hend =>
      have hlast := hholds.2
      simp only [decide_eq_true_eq, Number.ofNat_le_ofNat] at hlast
      exact hlast.trans hend
  | inline targets _ hown =>
      have hlast := hholds.2
      simp only [Interval.oneLine, decide_eq_true_eq, Number.ofNat_le_ofNat] at hlast
      exact hlast.trans hown

theorem Secure.apply {intervals : Intervals} {span : Span} {origin : Origin} {limit line : Nat}
    (h : intervals.Secure span origin (.ofNat limit)) (hle : limit ≤ line)
    {directive : LineDirective} (hline : directive.line = .ofNat line)
    {first last : Nat} (hspan : span.RunsOver first last) :
    (intervals.apply directive).Secure span origin (.ofNat limit) := by
  obtain ⟨interval, hmem, hcover, hholds, hopen⟩ := h
  unfold Intervals.apply
  cases directive.kind with
  | inline =>
      simp only [addInline]
      split
      · exact ⟨interval, hmem, hcover, hholds, hopen⟩
      · exact ⟨interval, (insert_perm _ _).mem_iff.mpr (List.mem_cons_of_mem _ hmem), hcover,
          hholds, hopen⟩
  | start =>
      exact ⟨interval, (insert_perm _ _).mem_iff.mpr (List.mem_cons_of_mem _ hmem), hcover,
        hholds, hopen⟩
  | stop =>
      have hlast : interval.isOpen = true → span.stop.line ≤ directive.line := by
        intro h
        have hstop := hopen h
        rw [hspan.stop_line, Number.ofNat_le_ofNat] at hstop
        rw [hspan.stop_line, hline, Number.ofNat_le_ofNat]
        omega
      refine ⟨(interval.stop directive.line directive.targets).1, ?_, ?_, ?_, ?_⟩
      · exact (stopAt_perm _ _ _).mem_iff.mpr
          (List.mem_append_left _ (List.mem_map.mpr ⟨interval, hmem, rfl⟩))
      · rwa [Interval.stop_targets]
      · exact Interval.holds_stop hlast _ hholds
      · intro h
        exact hopen (Interval.isOpen_of_isOpen_stop h)

/-- A directive adds nothing to what is covered above its own line. -/
theorem hold_of_hold_apply {intervals : Intervals} {span : Span} {first last line : Nat}
    (hspan : span.RunsOver first last) (hlast : last < line) (hexact : line < 2 ^ 53)
    {directive : LineDirective} (hline : directive.line = .ofNat line) {origin : Origin}
    (h : (apply intervals directive).hold span origin = true) :
    intervals.hold span origin = true := by
  have hordered := hspan.ordered
  have hbelow (interval : Interval) (hstart : interval.startLine = .ofNat line) :
      interval.holds span = false := by
    simp only [Interval.holds, hstart, hspan.start_line, Number.ofNat_le_ofNat,
      Bool.and_eq_false_iff, decide_eq_false_iff_not]
    exact Or.inl (by omega)
  unfold apply at h
  cases hkind : directive.kind with
  | inline =>
      simp only [hkind, addInline] at h
      split at h
      · exact h
      · rw [hold_perm (insert_perm _ _), ← List.singleton_append, hold_append] at h
        simpa [hold, hbelow (.oneLine directive.line directive.targets) hline] using h
  | start =>
      simp only [hkind] at h
      rw [hold_perm (insert_perm _ _), ← List.singleton_append, hold_append] at h
      simpa [hold, hbelow (.opened directive.line directive.targets) hline] using h
  | stop =>
      simp only [hkind, hline] at h
      rw [hold_perm (stopAt_perm _ _ _), hold_append, Bool.or_eq_true] at h
      rcases h with hfst | hsnd
      · obtain ⟨_, hmem, hcover, hholds⟩ := hold_iff.mp hfst
        obtain ⟨interval, hinterval, rfl⟩ := List.mem_map.mp hmem
        rw [Interval.stop_targets] at hcover
        exact hold_iff.mpr ⟨interval, hinterval, hcover, Interval.holds_of_holds_stop hholds⟩
      · obtain ⟨next, hmem, -, hholds⟩ := hold_iff.mp hsnd
        obtain ⟨interval, -, hnext⟩ := List.mem_filterMap.mp hmem
        rw [Interval.not_holds_stop_snd hspan hexact (by omega) hnext] at hholds
        exact absurd hholds (by simp)

theorem mention_apply_of_mention {intervals : Intervals} {origin : Origin}
    (directive : LineDirective) (h : intervals.mention origin = true) :
    (apply intervals directive).mention origin = true := by
  unfold apply
  cases directive.kind with
  | inline =>
      simp only [addInline]
      split
      · exact h
      · rw [mention_perm (insert_perm _ _), ← List.singleton_append, mention_append, h,
          Bool.or_true]
  | start =>
      simp only
      rw [mention_perm (insert_perm _ _), ← List.singleton_append, mention_append, h, Bool.or_true]
  | stop =>
      simp only
      rw [mention_perm (stopAt_perm _ _ _), mention_append, Bool.or_eq_true]
      obtain ⟨interval, hmem, hcover⟩ := mention_iff.mp h
      refine Or.inl (mention_iff.mpr ⟨_, List.mem_map.mpr ⟨interval, hmem, rfl⟩, ?_⟩)
      rwa [Interval.stop_targets]

end Intervals

end Suppression

import Mathlib.Data.List.Forall2
import Suppression.Proofs.Containment
import Suppression.Proofs.CountedRecord

namespace Suppression

namespace Interval

variable {interval other : Interval} {horizon later : Nat}

/-- The last line of an interval that is known up to a horizon. -/
def lastLine (interval : Interval) (horizon : Number) : Number :=
  match interval.endLine with
  | .unbounded => horizon.max interval.startLine
  | .line number => number.max interval.startLine

theorem range_eq_between (interval : Interval) (file : Wide) (horizon : Number) :
    interval.range file horizon = Range.between file ⟨interval.startLine, 0⟩
      ⟨interval.lastLine horizon, .lastExact⟩ := by
  unfold range lastLine
  cases interval.endLine <;> rfl

/-- The other interval speaks for the same targets from the same line on, and at its horizon it goes
at least as far. -/
structure Carries (horizon later : Nat) (interval other : Interval) : Prop where
  targets : other.targets = interval.targets
  startLine : other.startLine = interval.startLine
  lastLine : interval.lastLine (.ofNat horizon) ≤ other.lastLine (.ofNat later)

theorem Counts.exists_lines (h : interval.Counts) (horizon : Nat) :
    ∃ first last, 1 ≤ first ∧ first ≤ last ∧ interval.startLine = .ofNat first ∧
      interval.lastLine (.ofNat horizon) = .ofNat last := by
  obtain ⟨first, hfirst, hstart⟩ := h.startLine
  unfold lastLine
  cases hend : interval.endLine with
  | unbounded =>
      exact ⟨first, Max.max horizon first, hfirst, Nat.le_max_right _ _, hstart, by simp [hstart]⟩
  | line number =>
      obtain ⟨last, rfl⟩ := h.endLine number hend
      exact ⟨first, Max.max last first, hfirst, Nat.le_max_right _ _, hstart, by simp [hstart]⟩

theorem Counts.carries_self (h : interval.Counts) (hle : horizon ≤ later) :
    interval.Carries horizon later interval := by
  refine ⟨rfl, rfl, ?_⟩
  obtain ⟨first, -, hstart⟩ := h.startLine
  unfold Interval.lastLine
  cases hend : interval.endLine with
  | unbounded =>
      simp only [hstart, Number.max_ofNat, Number.ofNat_le_ofNat]
      omega
  | line number =>
      obtain ⟨last, rfl⟩ := h.endLine number hend
      simp [hstart]

def closedAt (interval : Interval) (last : Number) : Interval :=
  { interval with endLine := .line last }

theorem Counts.closedAt (h : interval.Counts) (last : Nat) :
    (interval.closedAt (.ofNat last)).Counts := by
  refine ⟨h.startLine, ?_⟩
  intro number hnumber
  exact ⟨last, (IntervalEnd.line.inj hnumber).symm⟩

theorem Counts.carries_closedAt (h : interval.Counts) (hopen : interval.endLine = .unbounded)
    {last : Nat} (hhorizon : horizon ≤ last) :
    interval.Carries horizon later (interval.closedAt (.ofNat last)) := by
  refine ⟨rfl, rfl, ?_⟩
  obtain ⟨first, -, hstart⟩ := h.startLine
  simp only [Interval.lastLine, Interval.closedAt, hopen, hstart, Number.max_ofNat,
    Number.ofNat_le_ofNat]
  omega

theorem Carries.contains (h : interval.Carries horizon later other) (hcounts : interval.Counts)
    (hcounts' : other.Counts) {range inner lines lines' : Range} (hrange : range.Accepted)
    (hinner : inner.Accepted) (hcontains : range.contains inner = true)
    (hlines : interval.range range.file (.ofNat horizon) = .ok lines)
    (hlines' : other.range inner.file (.ofNat later) = .ok lines')
    (hcovers : lines.contains range = true) : lines'.contains inner = true := by
  have hfile : inner.file = range.file := by
    simp only [Range.contains, Bool.and_eq_true, beq_iff_eq] at hcontains
    exact hcontains.1.symm
  rw [range_eq_between] at hlines hlines'
  have haccepted : lines.Accepted := .between hlines
  have haccepted' : lines'.Accepted := .between hlines'
  obtain ⟨first, last, hfirst, hordered, hstart, hlast⟩ := hcounts.exists_lines horizon
  obtain ⟨first', last', -, hordered', hstart', hlast'⟩ := hcounts'.exists_lines later
  obtain rfl : first' = first := by
    rw [← Number.ofNat_inj, ← hstart', ← hstart, h.startLine]
  have hle : last ≤ last' := by
    rw [← Number.ofNat_le_ofNat, ← hlast, ← hlast']
    exact h.lastLine
  have haround : lines'.contains lines = true := by
    rw [hstart, hlast] at hlines
    rw [hstart', hlast', hfile] at hlines'
    obtain rfl := Except.ok.inj (hlines.symm.trans (between_lines range.file hfirst hordered))
    obtain rfl := Except.ok.inj (hlines'.symm.trans (between_lines range.file hfirst hordered'))
    have hruns : Span.RunsOver
        ⟨⟨.ofNat first', .ofNat 0⟩, ⟨.ofNat last, .lastExact⟩⟩ first' last :=
      ⟨hfirst, hordered, rfl, rfl, ⟨0, rfl⟩, ⟨9007199254740991, rfl⟩⟩
    rw [hruns.contains (Number.ofNat_le_ofNat.mpr le_rfl)]
    simp [hle]
  exact Range.contains_trans haccepted' haccepted hinner haround
    (Range.contains_trans haccepted hrange hinner hcovers hcontains)

end Interval

namespace Intervals

variable {intervals others : Intervals} {origin : Origin} {horizon later : Nat}
  {range inner : Range}

theorem cover_of_carries (h : List.Forall₂ (Interval.Carries horizon later) intervals others)
    (hcounts : intervals.Counts) (hcounts' : others.Counts) (hrange : range.Accepted)
    (hinner : inner.Accepted) (hcontains : range.contains inner = true)
    (hcover : intervals.cover range origin (.ofNat horizon) = .ok true) :
    others.cover inner origin (.ofNat later) = .ok true := by
  induction h with
  | nil => simp [cover] at hcover
  | @cons interval other intervals others hcarries _ ih =>
      obtain ⟨hinterval, hrest⟩ := List.forall_mem_cons.mp hcounts
      obtain ⟨hother, hrest'⟩ := List.forall_mem_cons.mp hcounts'
      obtain ⟨lines, hlines⟩ := hinterval.exists_range range.file horizon
      obtain ⟨lines', hlines'⟩ := hother.exists_range inner.file later
      rw [cover, hlines] at hcover
      rw [cover, hlines', hcarries.targets]
      split at hcover
      · next hspeaks =>
          rw [if_pos hspeaks]
          dsimp only at hcover ⊢
          split at hcover
          · next hcovers =>
              rw [if_pos (hcarries.contains hinterval hother hrange hinner hcontains hlines hlines'
                hcovers)]
          · split
            · rfl
            · exact ih hrest hrest' hcover
      · next hother =>
          rw [if_neg hother]
          exact ih hrest hrest' hcover

theorem Counts.carries_self (h : intervals.Counts) (hle : horizon ≤ later) :
    List.Forall₂ (Interval.Carries horizon later) intervals intervals :=
  List.forall₂_same.mpr fun interval hmem => (h interval hmem).carries_self hle

/-- Whether intervals cover a range can always be told, and what they cover they go on covering when
more is known: each range within the covered one, and also if an open interval has been given an end
that is no nearer than the lines known before. -/
theorem cover_lasting (hcounts : intervals.Counts) (origin : Origin) {horizon later : Nat}
    (hle : horizon ≤ later) :
    (∀ range, ∃ covered, intervals.cover range origin (.ofNat horizon) = .ok covered) ∧
      ∀ range inner : Range, range.Accepted → inner.Accepted → range.contains inner = true →
        intervals.cover range origin (.ofNat horizon) = .ok true →
        intervals.cover inner origin (.ofNat later) = .ok true ∧
          ∀ before interval after last, intervals = before ++ interval :: after →
            interval.endLine = .unbounded → horizon ≤ last →
            cover (before ++ interval.closedAt (.ofNat last) :: after) inner origin
              (.ofNat later) = .ok true := by
  refine ⟨fun range => hcounts.exists_cover range origin horizon, ?_⟩
  intro range inner hrange hinner hcontains hcover
  refine ⟨cover_of_carries (hcounts.carries_self hle) hcounts hcounts hrange hinner hcontains
    hcover, ?_⟩
  rintro before interval after last rfl hopen hhorizon
  obtain ⟨hbefore, hinterval, hafter⟩ : Counts before ∧ interval.Counts ∧ Counts after := by
    simpa [Counts, or_imp, forall_and] using hcounts
  refine cover_of_carries ?_ hcounts ?_ hrange hinner hcontains hcover
  · exact List.rel_append (hbefore.carries_self hle)
      (.cons (hinterval.carries_closedAt hopen hhorizon) (hafter.carries_self hle))
  · have hclosed := hinterval.closedAt last
    simpa [Counts, or_imp, forall_and] using And.intro hbefore (And.intro hclosed hafter)

/-- An open interval known up to line 5, then up to line 8, and in the end closed at line 6. -/
theorem cover_lasting_openRegion :
    let inline := Interval.oneLine (.ofNat 2) []
    let region := Interval.opened (.ofNat 3) [{ analyzer := "MyPy" }]
    let origin : Origin := { analyzer := "mypy" }
    let range : Range := ⟨"a.py", some ⟨⟨.ofNat 3, .ofNat 7⟩, ⟨.ofNat 5, .ofNat 80⟩⟩⟩
    let inner : Range := ⟨"a.py", some ⟨⟨.ofNat 3, .ofNat 9⟩, ⟨.ofNat 5, .ofNat 0⟩⟩⟩
    Counts [inline, region] ∧ range.Accepted ∧ inner.Accepted ∧
      range.contains inner = true ∧ cover [inline, region] range origin (.ofNat 5) = .ok true ∧
      cover [inline, region] inner origin (.ofNat 8) = .ok true ∧
      cover [inline, region.closedAt (.ofNat 6)] inner origin (.ofNat 8) = .ok true := by
  intro inline region origin range inner
  have hcounts : Counts [inline, region] :=
    List.forall_mem_cons.mpr ⟨Interval.counts_oneLine (by decide) _,
      List.forall_mem_singleton.mpr (Interval.counts_opened (by decide) _)⟩
  have hrange : range.Accepted := .between (Range.between_ofNat "a.py" 7 80 (by decide) (by decide))
  have hinner : inner.Accepted := .between (Range.between_ofNat "a.py" 9 0 (by decide) (by decide))
  have hcontains : range.contains inner = true := by decide +kernel
  have hcover : cover [inline, region] range origin (.ofNat 5) = .ok true := by decide +kernel
  obtain ⟨hlater, hclosed⟩ := (cover_lasting hcounts origin (show 5 ≤ 8 by decide)).2 range inner
    hrange hinner hcontains hcover
  exact ⟨hcounts, hrange, hinner, hcontains, hcover, hlater,
    hclosed [inline] region [] 6 rfl rfl (by decide)⟩

end Intervals

end Suppression

import Suppression.Proofs.CountedRecord

namespace Suppression

/-- The interval has a range, however far it reaches without an end. -/
def Interval.HasRange (interval : Interval) : Prop :=
  ∀ (file : Wide) (horizon : Nat), ∃ lines, interval.range file (.ofNat horizon) = .ok lines

namespace Interval

variable {interval : Interval} {file : Wide} {lines : Range}

theorem exists_startLine_of_range {horizon : Number}
    (h : interval.range file horizon = .ok lines) :
    ∃ first, 1 ≤ first ∧ interval.startLine = .ofNat first := by
  unfold range Range.between Position.check at h
  simp only [bind, Except.bind] at h
  split at h
  · simp at h
  · next hstart =>
      split at hstart
      · simp at hstart
      · next hline =>
          simp only [Position.isLine, Bool.not_eq_true', Bool.not_eq_false, Bool.and_eq_true,
            decide_eq_false_iff_not] at hline
          exact Number.exists_ofNat_of_isInteger hline.1 hline.2

theorem exists_between {start stop : Position} (h : Range.between file start stop = .ok lines)
    (other : Wide) : ∃ lines, Range.between other start stop = .ok lines := by
  unfold Range.between at h ⊢
  simp only [bind, Except.bind] at h ⊢
  cases hstart : start.check .start with
  | error e => simp [hstart] at h
  | ok _ =>
      cases hstop : stop.check .stop with
      | error e => simp [hstart, hstop] at h
      | ok _ =>
          by_cases hreversed : start.compare stop = .gt
          · simp [hstart, hstop, hreversed, throw, throwThe, MonadExceptOf.throw] at h
          · simp [hreversed, pure, Except.pure]

theorem hasRange_of_range {horizon : Number} (h : interval.range file horizon = .ok lines) :
    interval.HasRange := by
  intro other reach
  cases hend : interval.endLine with
  | line number =>
      simp only [range, hend] at h ⊢
      exact exists_between h other
  | unbounded =>
      obtain ⟨first, hfirst, hstart⟩ := exists_startLine_of_range h
      refine Counts.exists_range ⟨⟨first, hfirst, hstart⟩, ?_⟩ other reach
      intro last hlast
      simp [hend] at hlast

theorem Counts.hasRange (h : interval.Counts) : interval.HasRange :=
  h.exists_range

theorem HasRange.stop_fst (h : interval.HasRange) (line : Nat) (targets : Targets) :
    (stop (.ofNat line) targets interval).1.HasRange := by
  obtain ⟨lines, hlines⟩ := h "" 0
  obtain ⟨first, hfirst, hstart⟩ := exists_startLine_of_range hlines
  have hclosed : Counts { interval with endLine := .line (.ofNat line) } := by
    refine ⟨⟨first, hfirst, hstart⟩, ?_⟩
    intro last hlast
    exact ⟨line, (IntervalEnd.line.inj hlast).symm⟩
  unfold stop
  split
  · cases Targets.stopEffect targets interval.targets with
    | none => exact h
    | close => exact hclosed.hasRange
    | narrow remaining => exact hclosed.hasRange
  · exact h

end Interval

namespace Intervals

variable {intervals : Intervals} {origin : Origin}

def Ranges (origin : Origin) (intervals : Intervals) : Prop :=
  ∀ interval ∈ intervals, Targets.cover interval.targets origin = true → interval.HasRange

theorem ranges_of_cover {range : Range} {horizon : Number}
    (h : intervals.cover range origin horizon = .ok false) : intervals.Ranges origin := by
  induction intervals with
  | nil => simp [Ranges]
  | cons first rest ih =>
      refine List.forall_mem_cons.mpr ?_
      rw [cover] at h
      split at h
      · split at h
        · simp at h
        · next lines hlines =>
            split at h
            · simp at h
            · exact ⟨fun _ => Interval.hasRange_of_range hlines, ih h⟩
      · next hother => exact ⟨fun hcover => absurd hcover hother, ih h⟩

theorem Ranges.exists_cover (h : intervals.Ranges origin) (range : Range) (horizon : Nat) :
    ∃ covered, intervals.cover range origin (.ofNat horizon) = .ok covered := by
  induction intervals with
  | nil => exact ⟨false, rfl⟩
  | cons first rest ih =>
      obtain ⟨hfirst, hrest⟩ := List.forall_mem_cons.mp h
      rw [cover]
      split
      · next hcover =>
          obtain ⟨lines, hlines⟩ := hfirst hcover range.file horizon
          rw [hlines]
          dsimp only
          split
          · exact ⟨true, rfl⟩
          · exact ih hrest
      · exact ih hrest

theorem Ranges.apply (h : intervals.Ranges origin) {directive : LineDirective} {line : Nat}
    (hpos : 1 ≤ line) (hexact : line < 2 ^ 53) (hline : directive.line = .ofNat line) :
    (intervals.apply directive).Ranges origin := by
  intro interval hmem hcover
  rcases mem_apply hmem with hold | ⟨-, rfl⟩ | ⟨-, rfl⟩ | ⟨-, old, hold, rfl | hnext⟩
  · exact h interval hold hcover
  · rw [hline]
    exact (Interval.counts_oneLine hpos directive.targets).hasRange
  · rw [hline]
    exact (Interval.counts_opened hpos directive.targets).hasRange
  · rw [Interval.stop_targets] at hcover
    rw [hline]
    exact (h old hold hcover).stop_fst line directive.targets
  · rw [hline] at hnext
    exact (Interval.within_stop_snd hexact _ hnext).counts.hasRange

theorem Ranges.applyAll (h : intervals.Ranges origin) {directives : List LineDirective}
    (hlines : ∀ directive ∈ directives, ∃ line, 1 ≤ line ∧ line < 2 ^ 53 ∧
      directive.line = .ofNat line) : (intervals.applyAll directives).Ranges origin := by
  induction directives generalizing intervals with
  | nil => exact h
  | cons directive rest ih =>
      obtain ⟨⟨line, hpos, hexact, hline⟩, hrest⟩ := List.forall_mem_cons.mp hlines
      exact ih (h.apply hpos hexact hline) hrest

end Intervals

namespace Record

variable {record : Record} {range : Range} {origin : Origin}

theorem exists_horizon {line : Nat} (h : record.watermark = .ofNat line) :
    ∃ horizon, record.horizon = .ofNat horizon := by
  unfold horizon
  split
  · exact ⟨9007199254740991, rfl⟩
  · exact ⟨line, h⟩

theorem exists_cover_commit (h : record.cover range origin = .ok false) (last : Nat)
    {directives : List LineDirective} (hlines : ∀ directive ∈ directives, ∃ line, 1 ≤ line ∧
      line < 2 ^ 53 ∧ directive.line = .ofNat line) :
    ∃ covered, (record.commit last directives).cover range origin = .ok covered := by
  have hranges := (Intervals.ranges_of_cover h).applyAll hlines
  obtain ⟨horizon, hhorizon⟩ := @exists_horizon (record.commit last directives) last rfl
  unfold cover
  rw [hhorizon]
  exact hranges.exists_cover range horizon

end Record

end Suppression

import Suppression.Proofs.Answering

namespace Suppression

/-- The lines of the interval are counts, and the first one is a line. -/
structure Interval.Counts (interval : Interval) : Prop where
  startLine : ∃ first, 1 ≤ first ∧ interval.startLine = .ofNat first
  endLine : ∀ last, interval.endLine = .line last → ∃ count, last = .ofNat count

namespace Interval

theorem Counts.exists_range {interval : Interval} (h : interval.Counts) (file : Wide)
    (horizon : Nat) : ∃ lines, interval.range file (.ofNat horizon) = .ok lines := by
  obtain ⟨first, hfirst, hstart⟩ := h.startLine
  have hbetween (last : Nat) : ∃ lines, Range.between file ⟨.ofNat first, 0⟩
      ⟨(Number.ofNat last).max (.ofNat first), .lastExact⟩ = .ok lines := by
    rw [Number.max_ofNat]
    exact ⟨_, between_lines file hfirst (Nat.le_max_right last first)⟩
  unfold range
  rw [hstart]
  cases hend : interval.endLine with
  | unbounded => exact hbetween horizon
  | line number =>
      obtain ⟨last, rfl⟩ := h.endLine number hend
      exact hbetween last

theorem counts_opened {first : Nat} (hfirst : 1 ≤ first) (targets : Targets) :
    (opened (.ofNat first) targets).Counts := by
  constructor
  · exact ⟨first, hfirst, rfl⟩
  · intro last hlast
    simp [opened] at hlast

theorem counts_oneLine {line : Nat} (hline : 1 ≤ line) (targets : Targets) :
    (oneLine (.ofNat line) targets).Counts := by
  constructor
  · exact ⟨line, hline, rfl⟩
  · intro last hlast
    exact ⟨line, (IntervalEnd.line.inj hlast).symm⟩

theorem Within.counts {interval : Interval} {line : Nat} (h : interval.Within line) :
    interval.Counts := by
  cases h with
  | unclosed targets hfirst _ => exact counts_opened hfirst targets
  | inline targets hpos _ => exact counts_oneLine hpos targets
  | @closed first last targets hfirst _ _ =>
      constructor
      · exact ⟨first, hfirst, rfl⟩
      · intro number hnumber
        exact ⟨last, (IntervalEnd.line.inj hnumber).symm⟩

theorem Counts.stop_fst {interval : Interval} (h : interval.Counts) (line : Nat)
    (targets : Targets) : (stop (.ofNat line) targets interval).1.Counts := by
  constructor
  · rw [stop_startLine]
    exact h.startLine
  · intro last hlast
    unfold stop at hlast
    split at hlast
    · cases heffect : Targets.stopEffect targets interval.targets with
      | none => exact h.endLine last (by simpa [heffect] using hlast)
      | close => exact ⟨line, by simpa [heffect, eq_comm] using hlast⟩
      | narrow remaining => exact ⟨line, by simpa [heffect, eq_comm] using hlast⟩
    · exact h.endLine last hlast

end Interval

namespace Intervals

variable {intervals : Intervals} {directive : LineDirective} {matcher : Matcher}

def Counts (intervals : Intervals) : Prop :=
  ∀ interval ∈ intervals, interval.Counts

theorem Counts.exists_cover (h : intervals.Counts) (range : Range) (origin : Origin)
    (horizon : Nat) : ∃ covered, intervals.cover range origin (.ofNat horizon) = .ok covered := by
  induction intervals with
  | nil => exact ⟨false, rfl⟩
  | cons interval rest ih =>
      obtain ⟨hfirst, hrest⟩ := List.forall_mem_cons.mp h
      obtain ⟨lines, hlines⟩ := hfirst.exists_range range.file horizon
      simp only [cover, hlines]
      split
      · split
        · exact ⟨true, rfl⟩
        · exact ih hrest
      · exact ih hrest

theorem Counts.insert (h : intervals.Counts) {interval : Interval} (hnew : interval.Counts) :
    (intervals.insert interval).Counts := by
  intro other hmem
  rcases List.mem_cons.mp ((insert_perm _ _).mem_iff.mp hmem) with rfl | hold
  · exact hnew
  · exact h other hold

theorem Counts.addInline (h : intervals.Counts) {line : Nat} (hline : 1 ≤ line)
    (targets : Targets) : (intervals.addInline (.ofNat line) targets).Counts := by
  unfold Intervals.addInline
  split
  · exact h
  · exact h.insert (Interval.counts_oneLine hline targets)

theorem Counts.apply (h : intervals.Counts) {line : Nat} (hpos : 1 ≤ line)
    (hexact : line < 2 ^ 53) (hline : directive.line = .ofNat line) :
    (intervals.apply directive).Counts := by
  intro interval hmem
  rcases mem_apply hmem with hold | ⟨-, rfl⟩ | ⟨-, rfl⟩ | ⟨-, old, hold, rfl | hnext⟩
  · exact h interval hold
  · rw [hline]
    exact Interval.counts_oneLine hpos directive.targets
  · rw [hline]
    exact Interval.counts_opened hpos directive.targets
  · rw [hline]
    exact (h old hold).stop_fst line directive.targets
  · rw [hline] at hnext
    exact (Interval.within_stop_snd hexact _ hnext).counts

theorem Counts.applyAll (h : intervals.Counts) {number : Nat} (hpos : 1 ≤ number)
    {lines : List (List Char)} (hexact : number + lines.length ≤ 2 ^ 53)
    {directives : List LineDirective}
    (hdirectives : matcher.inLinesFrom number lines = .ok directives) :
    (intervals.applyAll directives).Counts := by
  have hnumbers : ∀ directive ∈ directives, ∃ line, 1 ≤ line ∧ line < 2 ^ 53 ∧
      directive.line = .ofNat line := by
    intro directive hmem
    obtain ⟨line, hle, hlt, hline⟩ := Matcher.exists_number_of_mem hdirectives hmem
    exact ⟨line, by omega, by omega, hline⟩
  -- Only the numbers of the directives matter from here on, not the lines that they stand on.
  clear hdirectives
  induction directives generalizing intervals with
  | nil => exact h
  | cons directive rest ih =>
      obtain ⟨⟨line, hone, hlt, hline⟩, hrest⟩ := List.forall_mem_cons.mp hnumbers
      exact ih (h.apply hone hlt hline) hrest

end Intervals

/-- The lines of all intervals are counts, and so is the watermark. -/
structure Record.Counts (record : Record) : Prop where
  watermark : ∃ line, record.watermark = .ofNat line
  intervals : record.intervals.Counts

namespace Record

variable {record : Record}

theorem Counts.exists_cover (h : record.Counts) (range : Range) (origin : Origin) :
    ∃ covered, record.cover range origin = .ok covered := by
  obtain ⟨line, hline⟩ := h.watermark
  unfold cover horizon
  split
  · exact h.intervals.exists_cover range origin 9007199254740991
  · rw [hline]
    exact h.intervals.exists_cover range origin line

theorem Knows.counts {matcher : Matcher} {text : String} (h : record.Knows matcher text)
    (hheld : text.length < 2 ^ 53) : record.Counts := by
  obtain ⟨line, hline, hwatermark, htell⟩ := h.watermark
  have hwithin := htell.within (lines_lt hheld) (h.lineCount ▸ hline)
  constructor
  · exact ⟨line, hwatermark⟩
  · intro interval hmem
    exact (hwithin interval hmem).counts

end Record

namespace Answered

variable {matcher : Matcher} {lines : List (List Char)} {record known : Record} {line : Nat}
  {range : Range} {origin : Origin} {result : Except QueryError Bool}

theorem counts (h : Answered matcher lines record line range origin result known)
    (hrecord : record.Counts) (hline : line ≤ lines.length) (hlines : lines.length < 2 ^ 53) :
    known.Counts := by
  have hcommit {last : Nat} {span : Option Span} {directives : List LineDirective}
      (hsearched : Searched matcher lines span origin line last [] (.ok (.complete directives))) :
      (record.commit last directives).Counts := by
    cases hsearched with
    | complete hdirectives =>
        rw [List.append_nil]
        constructor
        · exact ⟨last, rfl⟩
        · apply hrecord.intervals.applyAll (Nat.le_add_left 1 line) ?_ hdirectives
          rw [List.length_take, List.length_drop]
          omega
  cases h with
  | covered _ _ => exact hrecord
  | faulty _ _ => exact hrecord
  | looked _ _ _ => exact hrecord
  | failed _ => exact hrecord
  | mentioned _ _ => exact hrecord
  | committed _ _ hsearched => exact hcommit hsearched
  | scanned _ hsearched => exact hcommit hsearched
  | inline _ hsearched =>
      cases hsearched with
      | @inline directive number hlt _ _ _ =>
          constructor
          · exact hrecord.watermark
          · exact hrecord.intervals.addInline (by omega) directive.targets

theorem exists_ok (h : Answered matcher lines record line range origin result known)
    (hrecord : record.Counts) (hline : line ≤ lines.length) (hlines : lines.length < 2 ^ 53)
    {directives : List LineDirective} (hdirectives : matcher.inLinesFrom 1 lines = .ok directives) :
    ∃ ignored, result = .ok ignored := by
  have hknown := h.counts hrecord hline hlines
  cases h with
  | covered _ _ => exact ⟨true, rfl⟩
  | faulty _ herror =>
      obtain ⟨covered, hcovered⟩ := hrecord.exists_cover range origin
      simp [herror] at hcovered
  | looked _ _ _ => exact ⟨false, rfl⟩
  | inline _ _ => exact ⟨true, rfl⟩
  | committed _ _ _ =>
      obtain ⟨covered, hcovered⟩ := hknown.exists_cover range origin
      rw [hcovered]
      exact ⟨covered, rfl⟩
  | failed hsearched =>
      cases hsearched with
      | broken _ _ htext herror =>
          obtain ⟨directive?, hmatch⟩ :=
            Matcher.exists_directive_of_mem hdirectives (List.mem_of_getElem? htext)
          simp [herror] at hmatch
  | mentioned _ _ => exact ⟨_, rfl⟩
  | scanned _ _ => exact ⟨_, rfl⟩

end Answered

end Suppression

import Suppression.Proofs.Knowledge
import Suppression.Source
import Suppression.Tracker.Answer

/-!
Answers from what a record knows. `Record.Knows` is the invariant of records. What a record covers
is ignored in the whole file, and a range that lies within the lines that have been looked at is
covered if it is ignored (`Record.Knows.cover_spec`).
-/

namespace Suppression

/-- What is known about a file is true of its content. -/
structure Record.Knows (matcher : Matcher) (text : String) (record : Record) : Prop where
  fingerprint : record.fingerprint = Text.fingerprint text
  lineCount : record.lineCount = (Text.fileLines text.toList).length
  watermark : ∃ line ≤ record.lineCount, record.watermark = .ofNat line ∧
    record.intervals.Tell matcher (Text.fileLines text.toList) line

namespace Intervals

variable {matcher : Matcher} {lines : List (List Char)} {directives : List LineDirective}

theorem Secure.applyAll_of_le {intervals : Intervals} {span : Span} {origin : Origin} {limit : Nat}
    (h : intervals.Secure span origin (.ofNat limit))
    (hdirectives : ∀ directive ∈ directives, ∃ n, limit ≤ n ∧ directive.line = .ofNat n)
    {first last : Nat} (hspan : span.RunsOver first last) :
    (intervals.applyAll directives).Secure span origin (.ofNat limit) := by
  induction directives generalizing intervals with
  | nil => exact h
  | cons directive rest ih =>
      obtain ⟨⟨n, hle, hn⟩, hrest⟩ := List.forall_mem_cons.mp hdirectives
      exact ih (h.apply hle hn hspan) hrest

theorem Secure.applyAll {intervals : Intervals} {span : Span} {origin : Origin} {number : Nat}
    (h : intervals.Secure span origin (.ofNat number))
    (hdirectives : matcher.inLinesFrom number lines = .ok directives)
    {first last : Nat} (hspan : span.RunsOver first last) :
    (intervals.applyAll directives).Secure span origin (.ofNat number) := by
  refine h.applyAll_of_le (fun directive hmem => ?_) hspan
  obtain ⟨n, hle, -, hn⟩ := Matcher.exists_number_of_mem hdirectives hmem
  exact ⟨n, hle, hn⟩

theorem hold_of_hold_applyAll {intervals : Intervals} {span : Span} {origin : Origin}
    {number : Nat} (hdirectives : matcher.inLinesFrom number lines = .ok directives)
    (hexact : number + lines.length ≤ 2 ^ 53) {first last : Nat} (hspan : span.RunsOver first last)
    (hlast : last < number) (h : (intervals.applyAll directives).hold span origin = true) :
    intervals.hold span origin = true := by
  have hnumbers : ∀ directive ∈ directives, ∃ n, last < n ∧ n < 2 ^ 53 ∧
      directive.line = .ofNat n := by
    intro directive hmem
    obtain ⟨n, hle, hlt, hn⟩ := Matcher.exists_number_of_mem hdirectives hmem
    exact ⟨n, by omega, by omega, hn⟩
  clear hdirectives
  induction directives generalizing intervals with
  | nil => exact h
  | cons directive rest ih =>
      obtain ⟨⟨n, hlt, hn, hline⟩, hrest⟩ := List.forall_mem_cons.mp hnumbers
      exact hold_of_hold_apply hspan hlt hn hline (ih h hrest)

theorem mention_applyAll_of_mention {intervals : Intervals} {origin : Origin}
    (directives : List LineDirective) (h : intervals.mention origin = true) :
    (intervals.applyAll directives).mention origin = true := by
  induction directives generalizing intervals with
  | nil => exact h
  | cons directive rest ih => exact ih (mention_apply_of_mention directive h)

namespace Tell

variable {line : Nat} {intervals : Intervals}

theorem perm_of_complete (h : intervals.Tell matcher lines lines.length)
    (hdirectives : matcher.inLinesFrom 1 lines = .ok directives) :
    intervals.Perm (Intervals.applyAll [] directives) := by
  obtain ⟨known, ahead, hknown, hahead, hperm⟩ := h.parts
  rw [List.take_length] at hknown
  obtain rfl : known = directives := Except.ok.inj (hknown.symm.trans hdirectives)
  have hnil : ahead = [] := by
    refine List.eq_nil_iff_forall_not_mem.mpr ?_
    intro directive hmem
    obtain ⟨-, number, hlt, hfinds, -⟩ := hahead.found directive hmem
    exact absurd hfinds.le_length (by omega)
  simpa [hnil] using hperm

theorem exists_rest (hline : line ≤ lines.length)
    (hdirectives : matcher.inLinesFrom 1 lines = .ok directives) :
    ∃ known rest, matcher.inLinesFrom 1 (lines.take line) = .ok known ∧
      matcher.inLinesFrom (line + 1) (lines.drop line) = .ok rest ∧ directives = known ++ rest := by
  rw [← List.take_append_drop line lines] at hdirectives
  obtain ⟨known, rest, hknown, hrest, rfl⟩ := Matcher.inLinesFrom_append.mp hdirectives
  rw [List.length_take, Nat.min_eq_left hline, Nat.add_comm] at hrest
  exact ⟨known, rest, hknown, hrest, rfl⟩

theorem complete (h : intervals.Tell matcher lines line) (hlines : lines.length < 2 ^ 53)
    (hline : line ≤ lines.length) {rest : List LineDirective}
    (hrest : matcher.inLinesFrom (line + 1) (lines.drop line) = .ok rest) :
    (intervals.applyAll rest).Tell matcher lines lines.length := by
  have hcount : line + (lines.length - line) = lines.length := by omega
  have hslice : (lines.drop line).take (lines.length - line) = lines.drop line :=
    List.take_of_length_le (by rw [List.length_drop])
  have hcommit := h.commit hlines hcount.le (hslice.symm ▸ hrest)
  rwa [hcount] at hcommit

theorem secure_of_reaches (h : intervals.Tell matcher lines line) (hlines : lines.length < 2 ^ 53)
    (hline : line ≤ lines.length) {span : Span} {first last : Nat}
    (hspan : span.RunsOver first last) {interval : Interval} (hmem : interval ∈ intervals)
    {origin : Origin} (hcover : Targets.cover interval.targets origin = true)
    (hreaches : interval.reaches (.ofNat line) span = true) :
    intervals.Secure span origin (.ofNat (line + 1)) := by
  obtain ⟨known, ahead, hknown, hahead, hperm⟩ := h.parts
  refine ⟨interval, hmem, hcover, Interval.holds_of_reaches hreaches, ?_⟩
  intro hopen
  -- An interval without an end comes from a start on one of the lines that have been looked at.
  rcases List.mem_append.mp (hperm.mem_iff.mp hmem) with hbefore | hlater
  · cases within_applyAll hlines hline hknown interval hbefore with
    | unclosed targets _ hstart =>
        simp only [Interval.reaches, Interval.opened, Number.max_ofNat, hspan.stop_line,
          Bool.and_eq_true, decide_eq_true_eq, Number.ofNat_le_ofNat] at hreaches
        rw [hspan.stop_line, Number.ofNat_le_ofNat]
        omega
    | closed targets _ _ _ => simp [Interval.isOpen] at hopen
    | inline targets _ _ => simp [Interval.isOpen, Interval.oneLine] at hopen
  · obtain ⟨directive, -, rfl⟩ := List.mem_map.mp hlater
    simp [LineDirective.ownLine, Interval.isOpen, Interval.oneLine] at hopen

section rest

variable {rest : List LineDirective} {span : Span} {first last : Nat}

theorem settle_eq_hold (h : intervals.Tell matcher lines line) (hlines : lines.length < 2 ^ 53)
    (hline : line ≤ lines.length) (hdirectives : matcher.inLinesFrom 1 lines = .ok directives)
    (hrest : matcher.inLinesFrom (line + 1) (lines.drop line) = .ok rest)
    (hspan : span.RunsOver first last) (hlast : last ≤ lines.length) (file : Wide)
    (origin : Origin) :
    (Intervals.applyAll [] directives).settle { file, span := some span } origin =
      (intervals.applyAll rest).hold span origin := by
  have hfull := h.complete hlines hline hrest
  rw [← settle_perm (hfull.perm_of_complete hdirectives)]
  exact Intervals.settle_eq_hold (hfull.within hlines le_rfl) hspan (by omega) file origin

theorem settle_of_reaches (h : intervals.Tell matcher lines line) (hlines : lines.length < 2 ^ 53)
    (hline : line < lines.length) (hdirectives : matcher.inLinesFrom 1 lines = .ok directives)
    (hrest : matcher.inLinesFrom (line + 1) (lines.drop line) = .ok rest)
    (hspan : span.RunsOver first last) (origin : Origin)
    (hreaches : (intervals.any fun interval =>
      Targets.cover interval.targets origin && interval.reaches (.ofNat line) span) = true)
    (file : Wide) :
    (Intervals.applyAll [] directives).settle { file, span := some span } origin = true := by
  obtain ⟨interval, hmem, hinterval⟩ := List.any_eq_true.mp hreaches
  rw [Bool.and_eq_true] at hinterval
  have hsecure := h.secure_of_reaches hlines hline.le hspan hmem hinterval.1 hinterval.2
  have hlast := hsecure.last_le (h.within hlines hline.le) (by omega) hspan
  rw [h.settle_eq_hold hlines hline.le hdirectives hrest hspan hlast]
  exact (hsecure.applyAll hrest hspan).hold

theorem reaches_of_settle (h : intervals.Tell matcher lines line) (hlines : lines.length < 2 ^ 53)
    (hline : line < lines.length) (hdirectives : matcher.inLinesFrom 1 lines = .ok directives)
    (hrest : matcher.inLinesFrom (line + 1) (lines.drop line) = .ok rest)
    (hspan : span.RunsOver first last) (hlast : last ≤ line) {file : Wide} {origin : Origin}
    (hsettle : (Intervals.applyAll [] directives).settle { file, span := some span } origin =
      true) : (intervals.any fun interval =>
        Targets.cover interval.targets origin && interval.reaches (.ofNat line) span) = true := by
  rw [h.settle_eq_hold hlines hline.le hdirectives hrest hspan (by omega)] at hsettle
  rw [any_reaches_eq_hold (h.within hlines hline.le) hspan hlast]
  exact hold_of_hold_applyAll hrest (by rw [List.length_drop]; omega) hspan (by omega) hsettle

end rest

end Tell

end Intervals

theorem Span.RunsOver.lastLine_eq {span : Span} {first last : Nat} (h : span.RunsOver first last)
    (lineCount : Nat) : TrackerSettings.lastLine span lineCount = Min.min last lineCount := by
  simp only [TrackerSettings.lastLine, h.stop_line, Number.ofNat_lt_ofNat, Number.toNat_ofNat]
  split <;> omega

namespace Record.Knows

variable {matcher : Matcher} {text : String} {record : Record} {directives : List LineDirective}

theorem lines_lt (hheld : text.length < 2 ^ 53) :
    (Text.fileLines text.toList).length < 2 ^ 53 :=
  (Text.length_fileLines_le text.toList).trans_lt hheld

theorem isComplete_iff (h : record.Knows matcher text) {line : Nat}
    (hwatermark : record.watermark = .ofNat line) (hline : line ≤ record.lineCount) :
    record.isComplete = true ↔ line = (Text.fileLines text.toList).length := by
  rw [isComplete, hwatermark, decide_eq_true_iff, Number.ofNat_le_ofNat, ← h.lineCount]
  omega

/-- What is covered is ignored in the whole file, and a range within the lines that have been looked
at is covered exactly if it is ignored. -/
theorem cover_spec (h : record.Knows matcher text) (hheld : text.length < 2 ^ 53)
    (hdirectives : matcher.inLinesFrom 1 (Text.fileLines text.toList) = .ok directives)
    {span : Span} {first last : Nat} (hspan : span.RunsOver first last)
    (hcolumn : span.stop.column ≤ .lastExact) (file : Wide) (origin : Origin) :
    ∃ covered, record.cover { file, span := some span } origin = .ok covered ∧
      (covered = true →
        (Intervals.applyAll [] directives).settle { file, span := some span } origin = true) ∧
      (Number.ofNat (TrackerSettings.lastLine span record.lineCount) ≤ record.watermark →
        covered =
          (Intervals.applyAll [] directives).settle { file, span := some span } origin) := by
  obtain ⟨line, hline, hwatermark, htell⟩ := h.watermark
  have hlines := lines_lt hheld
  rw [h.lineCount] at hline
  have hwithin := htell.within hlines hline
  have hcomplete := h.isComplete_iff hwatermark (h.lineCount ▸ hline)
  by_cases hall : line = (Text.fileLines text.toList).length
  · -- Every line has been looked at, and the intervals are those of the whole file.
    subst hall
    have hhorizon : record.horizon = .ofNat 9007199254740991 := by
      rw [horizon, hcomplete.mpr rfl]
      rfl
    have hcovered := Intervals.cover_eq_any hwithin hspan hcolumn file origin 9007199254740991
    rw [← hhorizon] at hcovered
    have hequal : (record.intervals.any fun interval =>
        Targets.cover interval.targets origin && interval.reaches record.horizon span) =
          (Intervals.applyAll [] directives).settle { file, span := some span } origin := by
      rw [← Intervals.settle_perm (htell.perm_of_complete hdirectives), hhorizon]
      rfl
    exact ⟨_, hcovered, fun hc => hequal ▸ hc, fun _ => hequal⟩
  · have hhorizon : record.horizon = .ofNat line := by
      rw [horizon, Bool.eq_false_iff.mpr (mt hcomplete.mp hall), hwatermark]
      rfl
    have hcovered : record.cover { file, span := some span } origin = _ :=
      (congrArg (record.intervals.cover _ origin) hhorizon).trans
        (Intervals.cover_eq_any hwithin hspan hcolumn file origin line)
    obtain ⟨_, rest, -, hrest, -⟩ := Intervals.Tell.exists_rest hline hdirectives
    have hbefore : line < (Text.fileLines text.toList).length := by omega
    have hsound := htell.settle_of_reaches hlines hbefore hdirectives hrest hspan origin
    refine ⟨_, hcovered, fun hreaches => hsound hreaches file, fun hlooked => ?_⟩
    rw [hspan.lastLine_eq, hwatermark, Number.ofNat_le_ofNat, h.lineCount] at hlooked
    exact Bool.eq_iff_iff.mpr ⟨fun hreaches => hsound hreaches file,
      htell.reaches_of_settle hlines hbefore hdirectives hrest hspan (by omega)⟩

theorem mention_spec (h : record.Knows matcher text) (hheld : text.length < 2 ^ 53)
    (hdirectives : matcher.inLinesFrom 1 (Text.fileLines text.toList) = .ok directives)
    (origin : Origin) :
    (record.mention origin = true → (Intervals.applyAll [] directives).mention origin = true) ∧
      (record.isComplete = true →
        record.mention origin = (Intervals.applyAll [] directives).mention origin) := by
  obtain ⟨line, hline, hwatermark, htell⟩ := h.watermark
  have hlines := lines_lt hheld
  have hcomplete := h.isComplete_iff hwatermark hline
  rw [h.lineCount] at hline
  constructor
  · intro hmention
    obtain ⟨known, rest, hknown, hrest, rfl⟩ := Intervals.Tell.exists_rest hline hdirectives
    have hperm := (htell.complete hlines hline hrest).perm_of_complete hdirectives
    rw [← Intervals.mention_perm hperm]
    exact Intervals.mention_applyAll_of_mention rest hmention
  · intro hall
    obtain rfl := hcomplete.mp hall
    exact Intervals.mention_perm (htell.perm_of_complete hdirectives) origin

theorem cover_settle (h : record.Knows matcher text) (hheld : text.length < 2 ^ 53)
    (hdirectives : matcher.inLinesFrom 1 (Text.fileLines text.toList) = .ok directives)
    {range : Range} (haccepted : range.Accepted)
    (hcolumn : ∀ span ∈ range.span, span.stop.column ≤ .lastExact) {span : Span}
    (hspan : range.span = some span) (origin : Origin) :
    ∃ covered, record.cover range origin = .ok covered ∧
      (covered = true → (Intervals.applyAll [] directives).settle range origin = true) ∧
      (Number.ofNat (TrackerSettings.lastLine span record.lineCount) ≤ record.watermark →
        covered = (Intervals.applyAll [] directives).settle range origin) := by
  obtain ⟨first, last, hruns⟩ := haccepted.runsOver hspan
  obtain ⟨file, span?⟩ := range
  obtain rfl : span? = some span := hspan
  exact h.cover_spec hheld hdirectives hruns (hcolumn span rfl) file origin

theorem mention_settle (h : record.Knows matcher text) (hheld : text.length < 2 ^ 53)
    (hdirectives : matcher.inLinesFrom 1 (Text.fileLines text.toList) = .ok directives)
    {range : Range} (hspan : range.span = none) (origin : Origin) :
    (record.mention origin = true →
        (Intervals.applyAll [] directives).settle range origin = true) ∧
      (record.isComplete = true →
        record.mention origin = (Intervals.applyAll [] directives).settle range origin) := by
  rw [Intervals.settle, hspan]
  exact h.mention_spec hheld hdirectives origin

theorem cold (matcher : Matcher) (text : String) :
    (Record.cold (Text.fingerprint text) (Text.fileLines text.toList).length).Knows matcher text :=
  ⟨rfl, rfl, 0, Nat.zero_le _, rfl, .cold⟩

theorem ofSnapshot (h : record.Knows matcher text) :
    (Record.ofSnapshot (Text.fingerprint text) (Text.fileLines text.toList).length
      record.snapshot).Knows matcher text :=
  ⟨rfl, rfl, h.lineCount ▸ h.watermark⟩

theorem addInline (h : record.Knows matcher text) (hheld : text.length < 2 ^ 53) {line : Nat}
    (hwatermark : record.watermark = .ofNat line) {number : Nat} (hlt : line < number)
    {directive : Directive} (hkind : directive.kind = .inline)
    (hfinds : matcher.Finds (Text.fileLines text.toList) number directive) :
    (record.addInline (directive.onLine number)).Knows matcher text := by
  obtain ⟨line', hline, hwatermark', htell⟩ := h.watermark
  obtain rfl : line = line' := Number.ofNat_inj.mp (hwatermark.symm.trans hwatermark')
  exact ⟨h.fingerprint, h.lineCount, line, hline, hwatermark,
    htell.addInline (lines_lt hheld) hlt hkind hfinds⟩

theorem commit (h : record.Knows matcher text) (hheld : text.length < 2 ^ 53) {line : Nat}
    (hwatermark : record.watermark = .ofNat line) {last : Nat} (hle : line ≤ last)
    (hlast : last ≤ record.lineCount)
    (hdirectives : matcher.inLinesFrom (line + 1)
      (((Text.fileLines text.toList).drop line).take (last - line)) = .ok directives) :
    (record.commit last directives).Knows matcher text := by
  obtain ⟨line', hline, hwatermark', htell⟩ := h.watermark
  obtain rfl : line = line' := Number.ofNat_inj.mp (hwatermark.symm.trans hwatermark')
  have hcount : line + (last - line) = last := by omega
  have hcommit := htell.commit (lines_lt hheld) (by rw [hcount, ← h.lineCount]; exact hlast)
    hdirectives
  rw [hcount] at hcommit
  exact ⟨h.fingerprint, h.lineCount, last, hlast, rfl, hcommit⟩

end Record.Knows

theorem Intervals.settle_of_finds {matcher : Matcher} {lines : List (List Char)}
    {directives : List LineDirective} (hlines : lines.length < 2 ^ 53)
    (hdirectives : matcher.inLinesFrom 1 lines = .ok directives) {number : Nat}
    {directive : Directive} (hkind : directive.kind = .inline)
    (hfinds : matcher.Finds lines number directive) {span : Span}
    (hspan : span.RunsOver number number) (file : Wide) {origin : Origin}
    (hcover : Targets.cover directive.targets origin = true) :
    (applyAll [] directives).settle { file, span := some span } origin = true := by
  have hcold : Tell matcher lines 0 [] := .cold
  have htell := hcold.addInline hlines hspan.positive hkind hfinds
  have hown : Intervals.Secure (addInline [] (.ofNat number) directive.targets) span origin
      (.ofNat 1) := by
    refine ⟨.oneLine (.ofNat number) directive.targets, by simp [addInline, insert], hcover, ?_, ?_⟩
    · simp [Interval.holds, Interval.oneLine, hspan.start_line, hspan.stop_line]
    · simp [Interval.isOpen, Interval.oneLine]
  have hfull := htell.complete hlines (Nat.zero_le _) hdirectives
  have hnumber := hfinds.le_length
  rw [← settle_perm (hfull.perm_of_complete hdirectives),
    settle_eq_hold (hfull.within hlines le_rfl) hspan (by omega)]
  exact (hown.applyAll hdirectives hspan).hold

end Suppression

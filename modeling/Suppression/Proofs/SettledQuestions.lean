import Suppression.Proofs.ReachedRecords
import Suppression.Proofs.Requests

/-!
Questions that are settled by what is known (`Record.Settles`). A question that has had an answer is
settled (`Answered.settles`), and whatever is found out after that leaves it settled
(`Record.Consulted.settles`): a stop closes a region only below the lines that have been looked at,
and a directive for its own line stays.
-/

namespace Suppression

namespace Intervals

theorem mem_addInline {intervals : Intervals} {interval : Interval} (h : interval ∈ intervals)
    (line : Number) (targets : Targets) : interval ∈ intervals.addInline line targets := by
  unfold addInline
  split
  · exact h
  · exact (insert_perm _ _).mem_iff.mpr (List.mem_cons_of_mem _ h)

theorem exists_isInlineAt_addInline (intervals : Intervals) (number : Nat) (targets : Targets) :
    ∃ interval ∈ intervals.addInline (.ofNat number) targets,
      interval.isInlineAt (.ofNat number) = true := by
  unfold addInline
  split
  · next hany => exact List.any_eq_true.mp hany
  · refine ⟨.oneLine (.ofNat number) targets, ?_, ?_⟩
    · exact (insert_perm _ _).mem_iff.mpr List.mem_cons_self
    · simp [Interval.isInlineAt, Interval.oneLine]

theorem Secure.cover {intervals : Intervals} {span : Span} {origin : Origin} {limit : Nat}
    (h : intervals.Secure span origin (.ofNat limit)) {line : Nat} (hwithin : intervals.Within line)
    {first last : Nat} (hspan : span.RunsOver first last)
    (hcolumn : span.stop.column ≤ .lastExact) {horizon : Nat} (hle : limit ≤ horizon)
    (file : Wide) :
    intervals.cover { file, span := some span } origin (.ofNat horizon) = .ok true := by
  obtain ⟨interval, hmem, hcover, hholds, hopen⟩ := h
  rw [cover_eq_any hwithin hspan hcolumn, Except.ok.injEq, List.any_eq_true]
  refine ⟨interval, hmem, ?_⟩
  rw [hcover, Bool.true_and]
  cases hinterval : interval.isOpen with
  | true =>
      have hlast := hopen hinterval
      rw [hspan.stop_line, Number.ofNat_le_ofNat] at hlast
      exact Interval.reaches_of_holds (hwithin interval hmem) hspan (hlast.trans hle) hholds
  | false =>
      cases hwithin interval hmem with
      | unclosed targets _ _ => simp [Interval.isOpen, Interval.opened] at hinterval
      | closed targets _ _ _ => exact hholds
      | inline targets _ _ => exact hholds

theorem Tell.eq_oneLine {matcher : Matcher} {lines : List (List Char)} {line : Nat}
    {intervals : Intervals} (h : intervals.Tell matcher lines line)
    (hlines : lines.length < 2 ^ 53) {number : Nat} (hlt : line < number) {directive : Directive}
    (hfinds : matcher.Finds lines number directive) {interval : Interval}
    (hmem : interval ∈ intervals) (hown : interval.isInlineAt (.ofNat number) = true) :
    interval = .oneLine (.ofNat number) directive.targets := by
  obtain ⟨directives, ahead, hdirectives, hahead, hperm⟩ := h.parts
  have hline := hlt.le.trans hfinds.le_length
  rcases List.mem_append.mp (hperm.mem_iff.mp hmem) with hbefore | hlater
  · have hnone := any_isInlineAt_eq_false (within_applyAll hlines hline hdirectives) hlt
    exact absurd hown (List.any_eq_false.mp hnone interval hbefore)
  · obtain ⟨other, hother, rfl⟩ := List.mem_map.mp hlater
    obtain ⟨-, number', -, hfinds', hnumber'⟩ := hahead.found other hother
    simp only [Interval.isInlineAt, LineDirective.ownLine, Interval.oneLine, hnumber',
      Number.same_ofNat, decide_true, Bool.true_and, decide_eq_true_eq] at hown
    subst hown
    obtain ⟨text, htext, hmatch⟩ := hfinds
    obtain ⟨text', htext', hmatch'⟩ := hfinds'
    obtain rfl : text = text' := Option.some.inj (htext.symm.trans htext')
    obtain rfl : directive = other.toDirective :=
      Option.some.inj (Except.ok.inj (hmatch.symm.trans hmatch'))
    rw [LineDirective.ownLine, hnumber']

end Intervals

namespace Record

variable {matcher : Matcher} {text : String} {record known : Record} {line : Nat} {range : Range}
  {origin : Origin}

theorem Knows.within (h : record.Knows matcher text) (hheld : text.length < 2 ^ 53) :
    record.intervals.Within (Text.fileLines text.toList).length := by
  obtain ⟨line, hline, -, htell⟩ := h.watermark
  exact htell.within (Knows.lines_lt hheld) (h.lineCount ▸ hline)

theorem horizon_eq (hwatermark : record.watermark = .ofNat line) (hlt : line < record.lineCount) :
    record.horizon = .ofNat line := by
  have hincomplete : ¬ record.isComplete = true := by
    simpa [isComplete, hwatermark] using hlt
  rw [horizon, if_neg hincomplete, hwatermark]

theorem Knows.secure (h : record.Knows matcher text) (hheld : text.length < 2 ^ 53)
    (hwatermark : record.watermark = .ofNat line) (hlt : line < record.lineCount) {span : Span}
    {first last : Nat} (hspan : span.RunsOver first last)
    (hcolumn : span.stop.column ≤ .lastExact) {file : Wide}
    (hcover : record.cover { file, span := some span } origin = .ok true) :
    record.intervals.Secure span origin (.ofNat (line + 1)) := by
  obtain ⟨line', hline', hwatermark', htell⟩ := h.watermark
  obtain rfl : line = line' := Number.ofNat_inj.mp (hwatermark.symm.trans hwatermark')
  rw [cover, horizon_eq hwatermark hlt,
    Intervals.cover_eq_any (h.within hheld) hspan hcolumn, Except.ok.injEq, List.any_eq_true]
    at hcover
  obtain ⟨interval, hmem, hinterval⟩ := hcover
  rw [Bool.and_eq_true] at hinterval
  exact htell.secure_of_reaches (Knows.lines_lt hheld) (h.lineCount ▸ hline') hspan hmem
    hinterval.1 hinterval.2

theorem settles_ownLine (hwatermark : record.watermark = .ofNat line)
    {number : Nat} (hlt : line < number) {directive : Directive}
    (hfinds : matcher.Finds (Text.fileLines text.toList) number directive)
    (hknown : (record.addInline (directive.onLine number)).Knows matcher text)
    (hheld : text.length < 2 ^ 53) {span : Span} (hspan : span.RunsOver number number)
    (hcolumn : span.stop.column ≤ .lastExact)
    (hcover : Targets.cover directive.targets origin = true) (file : Wide) :
    (record.addInline (directive.onLine number)).Settles { file, span := some span } origin := by
  left
  obtain ⟨line', -, hwatermark', htell⟩ := hknown.watermark
  obtain rfl : line = line' := Number.ofNat_inj.mp (hwatermark.symm.trans hwatermark')
  obtain ⟨interval, hmem, hown⟩ :=
    Intervals.exists_isInlineAt_addInline record.intervals number directive.targets
  have hinterval := htell.eq_oneLine (Knows.lines_lt hheld) hlt hfinds hmem hown
  have hcount : line < (record.addInline (directive.onLine number)).lineCount := by
    rw [hknown.lineCount]
    exact hlt.trans_le hfinds.le_length
  rw [cover, horizon_eq hwatermark' hcount,
    Intervals.cover_eq_any (hknown.within hheld) hspan hcolumn, Except.ok.injEq, List.any_eq_true]
  refine ⟨interval, hmem, ?_⟩
  rw [hinterval]
  simp [Interval.oneLine, Interval.reaches, hcover, hspan.start_line, hspan.stop_line]

theorem Settles.addInline (h : record.Settles range origin) (hknows : record.Knows matcher text)
    (hheld : text.length < 2 ^ 53) (hwatermark : record.watermark = .ofNat line)
    (hlt : line < record.lineCount) (haccepted : range.Accepted)
    (hcolumn : ∀ span ∈ range.span, span.stop.column ≤ .lastExact) {directive : LineDirective}
    (hknown : (record.addInline directive).Knows matcher text) :
    (record.addInline directive).Settles range origin := by
  obtain ⟨file, span?⟩ := range
  cases span? with
  | none =>
      rcases h with hmention | hcomplete
      · left
        obtain ⟨interval, hmem, hcover⟩ := Intervals.mention_iff.mp hmention
        exact Intervals.mention_iff.mpr ⟨interval, Intervals.mem_addInline hmem _ _, hcover⟩
      · exact Or.inr hcomplete
  | some span =>
      obtain ⟨first, last, hspan⟩ := haccepted.runsOver rfl
      rcases h with hcover | hlast
      · left
        rw [cover, horizon_eq hwatermark hlt,
          Intervals.cover_eq_any (hknows.within hheld) hspan (hcolumn span rfl),
          Except.ok.injEq, List.any_eq_true] at hcover
        obtain ⟨interval, hmem, hinterval⟩ := hcover
        have hhorizon : (record.addInline directive).horizon = .ofNat line :=
          horizon_eq hwatermark hlt
        rw [cover, hhorizon, Intervals.cover_eq_any (hknown.within hheld) hspan (hcolumn span rfl),
          Except.ok.injEq, List.any_eq_true]
        exact ⟨interval, Intervals.mem_addInline hmem _ _, hinterval⟩
      · exact Or.inr hlast

theorem Settles.commit (h : record.Settles range origin) (hknows : record.Knows matcher text)
    (hheld : text.length < 2 ^ 53) (hwatermark : record.watermark = .ofNat line) {reached : Nat}
    (hlt : line < reached) (haccepted : range.Accepted)
    (hcolumn : ∀ span ∈ range.span, span.stop.column ≤ .lastExact)
    {directives : List LineDirective}
    (hdirectives : ∀ directive ∈ directives, ∃ number, line < number ∧
      directive.line = .ofNat number)
    (hknown : (record.commit reached directives).Knows matcher text) :
    (record.commit reached directives).Settles range origin := by
  by_cases hall : record.lineCount ≤ reached
  · have hcomplete : (record.commit reached directives).isComplete = true := by
      simpa [isComplete, Record.commit] using hall
    exact settles_of_isComplete hcomplete range origin rfl
  · rw [not_le] at hall
    obtain ⟨file, span?⟩ := range
    cases span? with
    | none =>
        rcases h with hmention | hcomplete
        · exact Or.inl (Intervals.mention_applyAll_of_mention directives hmention)
        · rw [isComplete, hwatermark, decide_eq_true_iff, Number.ofNat_le_ofNat] at hcomplete
          omega
    | some span =>
        obtain ⟨first, last, hspan⟩ := haccepted.runsOver rfl
        rcases h with hcover | hlast
        · left
          have hsecure := hknows.secure hheld hwatermark (by omega) hspan (hcolumn span rfl) hcover
          have hhorizon : (record.commit reached directives).horizon = .ofNat reached :=
            horizon_eq rfl hall
          rw [cover, hhorizon]
          exact (hsecure.applyAll_of_le hdirectives hspan).cover (hknown.within hheld) hspan
            (hcolumn span rfl) hlt file
        · right
          rw [hwatermark, Number.ofNat_le_ofNat] at hlast
          exact Number.ofNat_le_ofNat.mpr (hlast.trans hlt.le)

/-- The step lemma of what is settled: no question about the same file unsettles it. -/
theorem Consulted.settles {asked : Range} {origin' : Origin} {made : List Request}
    {result : Except QueryError Bool} (h : record.Consulted line asked origin' made result known)
    (hsettles : record.Settles range origin) (hknows : record.Knows matcher text)
    (hknown : known.Knows matcher text) (hheld : text.length < 2 ^ 53)
    (hwatermark : record.watermark = .ofNat line) (haccepted : range.Accepted)
    (hcolumn : ∀ span ∈ range.span, span.stop.column ≤ .lastExact) :
    known.Settles range origin := by
  have hlast := record.lastLine_le asked
  cases h with
  | settled _ => exact hsettles
  | faulty _ => exact hsettles
  | broken _ _ _ => exact hsettles
  | ownLine _ _ _ hle hlt =>
      exact hsettles.addInline hknows hheld hwatermark (by omega) haccepted hcolumn hknown
  | allBeyond _ hlt hdirectives =>
      exact hsettles.commit hknows hheld hwatermark hlt haccepted hcolumn hdirectives hknown

end Record

namespace Answered

variable {matcher : Matcher} {text : String} {record known : Record} {line : Nat} {range : Range}
  {origin : Origin} {answer : Bool}

theorem settles (h : Answered matcher (Text.fileLines text.toList) record line range origin
    (.ok answer) known) (hknows : record.Knows matcher text) (hheld : text.length < 2 ^ 53)
    (hwatermark : record.watermark = .ofNat line) (hline : line ≤ record.lineCount)
    (haccepted : range.Accepted) (hcolumn : ∀ span ∈ range.span, span.stop.column ≤ .lastExact) :
    known.Settles range origin := by
  have hknown := h.knows hknows hheld hwatermark hline
  generalize hresult : Except.ok answer = result at h
  cases h with
  | covered hspan hcover =>
      simp only [Record.Settles, hspan]
      exact Or.inl hcover
  | faulty _ _ => simp at hresult
  | looked hspan _ hlooked =>
      simp only [Record.Settles, Record.lastLine, hspan, hwatermark, Number.ofNat_le_ofNat]
      exact Or.inr hlooked
  | @inline span _ hspan hsearched =>
      cases hsearched with
      | @inline directive number hlt hle hfinds hends =>
          obtain ⟨first, last, hruns⟩ := haccepted.runsOver hspan
          simp only [TrackerSettings.endsSearch, Directive.onLine, hruns.start_line,
            hruns.stop_line, Number.same_ofNat, Bool.and_eq_true, decide_eq_true_eq] at hends
          obtain ⟨⟨⟨-, rfl⟩, rfl⟩, htargets⟩ := hends
          obtain ⟨file, span?⟩ := range
          obtain rfl : span? = some span := hspan
          exact Record.settles_ownLine hwatermark hlt hfinds hknown hheld hruns (hcolumn span rfl)
            htargets file
  | committed hspan _ _ =>
      simp only [Record.Settles, Record.lastLine, hspan]
      exact Or.inr (Number.ofNat_le_ofNat.mpr le_rfl)
  | failed _ => simp at hresult
  | mentioned hspan hmentioned =>
      simp only [Record.Settles, hspan]
      exact hmentioned
  | scanned hspan _ =>
      simp only [Record.Settles, hspan]
      right
      simp [Record.isComplete, Record.commit]

end Answered

end Suppression

import Suppression.Proofs.LazyScanning

namespace Suppression

namespace Sweep

/-- The target lists that are open below a line, from those that are open above it. -/
def below (opened : List Targets) : Option Directive → List Targets
  | none => opened
  | some ⟨.start, targets⟩ => opened ++ [targets]
  | some ⟨.stop, targets⟩ =>
      opened.filterMap fun start => (Targets.stopEffect targets start).left start
  | some ⟨.inline, _⟩ => opened

/-- The target lists that count on a line. A start counts on its own line already, and a stop not
before the next one. -/
def counting (opened : List Targets) : Option Directive → List Targets
  | none => opened
  | some ⟨.start, targets⟩ => opened ++ [targets]
  | some ⟨.stop, _⟩ => opened
  | some ⟨.inline, targets⟩ => opened ++ [targets]

def speaks (lists : List Targets) (origin : Origin) : Bool :=
  lists.any fun targets => Targets.cover targets origin

/-- Whether results are suppressed on a line, where the first of the given lines is line zero. Below
the last line, the lists that are left open count. -/
def suppresses (origin : Origin) (opened : List Targets) : List (Option Directive) → Nat → Bool
  | [], _ => speaks opened origin
  | line :: _, 0 => speaks (counting opened line) origin
  | line :: rest, number + 1 => suppresses origin (below opened line) rest number

end Sweep

/-- What a matcher tells of each of some lines. -/
def Matcher.Reads (matcher : Matcher) (lines : List (List Char))
    (read : List (Option Directive)) : Prop :=
  List.Forall₂ (fun line directive? => matcher (String.ofList line) = .ok directive?) lines read

theorem Matcher.Reads.exists_inLinesFrom {matcher : Matcher} {lines : List (List Char)}
    {read : List (Option Directive)} (h : matcher.Reads lines read) (number : Nat) :
    ∃ directives, matcher.inLinesFrom number lines = .ok directives := by
  induction h generalizing number with
  | nil => exact ⟨[], rfl⟩
  | cons hmatch _ ih =>
      obtain ⟨others, hothers⟩ := ih (number + 1)
      exact ⟨_, inLinesFrom_cons.mpr ⟨_, others, hmatch, hothers, rfl⟩⟩

theorem Matcher.exists_inLinesFrom {matcher : Matcher}
    (h : ∀ line, ∃ directive?, matcher line = .ok directive?) (number : Nat)
    (lines : List (List Char)) :
    ∃ directives, matcher.inLinesFrom number lines = .ok directives := by
  choose read hread using h
  have hreads : matcher.Reads lines (lines.map fun line => read (String.ofList line)) :=
    List.forall₂_map_right_iff.mpr (List.forall₂_same.mpr fun line _ => hread _)
  exact hreads.exists_inLinesFrom number

theorem Matcher.exists_ofGrammar {grammar : Grammar}
    (h : ∀ text, ∃ targets?, grammar text = .ok targets?) (line : String) :
    ∃ directive?, ofGrammar grammar line = .ok directive? := by
  unfold ofGrammar
  split
  · exact ⟨none, rfl⟩
  · next kind text _ =>
      obtain ⟨targets?, htargets⟩ := h text
      rw [htargets]
      exact ⟨_, rfl⟩

namespace Interval

theorem isOpen_stop_iff {line : Number} {stopped targets : Targets} {interval : Interval} :
    ((stop line stopped interval).1.isOpen = true ∧ interval.targets = targets ∨
        ∃ next, (stop line stopped interval).2 = some next ∧ next.isOpen = true ∧
          next.targets = targets) ↔
      interval.isOpen = true ∧
        (Targets.stopEffect stopped interval.targets).left interval.targets = some targets := by
  by_cases hopen : interval.isOpen = true
  · cases heffect : Targets.stopEffect stopped interval.targets with
    | none => simp [stop, hopen, heffect, StopEffect.left]
    | close => simp only [stop, hopen, heffect]; simp [StopEffect.left, isOpen]
    | narrow remaining => simp only [stop, hopen, heffect]; simp [StopEffect.left, isOpen, opened]
  · simp [stop, hopen]

end Interval

namespace Intervals

variable {matcher : Matcher} {intervals : Intervals} {opened : List Targets} {span : Span}
  {origin : Origin} {above line : Nat}

/-- The target lists of the open intervals are the given ones. -/
def Opens (intervals : Intervals) (opened : List Targets) : Prop :=
  ∀ targets, targets ∈ opened ↔
    ∃ interval ∈ intervals, interval.isOpen = true ∧ interval.targets = targets

theorem Opens.stopAt (h : intervals.Opens opened) (number : Number) (stopped : Targets) :
    (intervals.stopAt number stopped).Opens
      (opened.filterMap fun start => (Targets.stopEffect stopped start).left start) := by
  intro targets
  rw [List.mem_filterMap]
  constructor
  · rintro ⟨start, hstart, hleft⟩
    obtain ⟨interval, hmem, hopen, rfl⟩ := (h start).mp hstart
    have hparts := @Interval.isOpen_stop_iff number stopped targets interval
    rcases hparts.mpr ⟨hopen, hleft⟩ with ⟨hstill, heq⟩ | ⟨next, hnext, hopened, heq⟩
    · refine ⟨(interval.stop number stopped).1, ?_, hstill, ?_⟩
      · apply (stopAt_perm _ _ _).mem_iff.mpr
        exact List.mem_append_left _ (List.mem_map_of_mem hmem)
      · rw [Interval.stop_targets, heq]
    · refine ⟨next, ?_, hopened, heq⟩
      apply (stopAt_perm _ _ _).mem_iff.mpr
      exact List.mem_append_right _ (List.mem_filterMap.mpr ⟨interval, hmem, hnext⟩)
  · rintro ⟨after, hafter, hopen, htargets⟩
    have hfrom : ∃ interval ∈ intervals, interval.isOpen = true ∧
        (Targets.stopEffect stopped interval.targets).left interval.targets = some targets := by
      rcases List.mem_append.mp ((stopAt_perm _ _ _).mem_iff.mp hafter) with hfst | hsnd
      · obtain ⟨interval, hmem, rfl⟩ := List.mem_map.mp hfst
        rw [Interval.stop_targets] at htargets
        exact ⟨interval, hmem, Interval.isOpen_stop_iff.mp (Or.inl ⟨hopen, htargets⟩)⟩
      · obtain ⟨interval, hmem, hnext⟩ := List.mem_filterMap.mp hsnd
        exact ⟨interval, hmem,
          Interval.isOpen_stop_iff.mp (Or.inr ⟨after, hnext, hopen, htargets⟩)⟩
    obtain ⟨interval, hmem, hwas, hleft⟩ := hfrom
    exact ⟨interval.targets, (h _).mpr ⟨interval, hmem, hwas, rfl⟩, hleft⟩

theorem Opens.apply (h : intervals.Opens opened) (directive : LineDirective) :
    (intervals.apply directive).Opens (Sweep.below opened (some directive.toDirective)) := by
  obtain ⟨⟨kind, targets⟩, line⟩ := directive
  cases kind with
  | start =>
      intro other
      rw [Sweep.below, List.mem_append, List.mem_singleton, h other]
      simp only [Intervals.apply, (insert_perm _ _).mem_iff, List.mem_cons]
      constructor
      · rintro (⟨interval, hmem, hopen, rfl⟩ | rfl)
        · exact ⟨interval, Or.inr hmem, hopen, rfl⟩
        · exact ⟨_, Or.inl rfl, rfl, rfl⟩
      · rintro ⟨interval, rfl | hmem, hopen, rfl⟩
        · exact Or.inr rfl
        · exact Or.inl ⟨interval, hmem, hopen, rfl⟩
  | stop => exact h.stopAt _ _
  | inline =>
      intro other
      rw [Sweep.below, h other]
      simp only [Intervals.apply]
      cases hany : intervals.any fun interval => interval.isInlineAt line with
      | true => rw [addInline_of_any targets hany]
      | false =>
          simp only [(addInline_perm targets hany).mem_iff, List.mem_cons]
          constructor
          · rintro ⟨interval, hmem, hopen, rfl⟩
            exact ⟨interval, Or.inr hmem, hopen, rfl⟩
          · rintro ⟨interval, rfl | hmem, hopen, rfl⟩
            · simp [Interval.isOpen, Interval.oneLine] at hopen
            · exact ⟨interval, hmem, hopen, rfl⟩

theorem Opens.hold_eq (h : intervals.Opens opened) (hwithin : intervals.Within above)
    (hspan : span.RunsOver line line) (hbelow : above < line) :
    intervals.hold span origin = Sweep.speaks opened origin := by
  rw [Bool.eq_iff_iff, hold_iff, Sweep.speaks, List.any_eq_true]
  constructor
  · rintro ⟨interval, hmem, hcover, hholds⟩
    cases hwithin interval hmem with
    | unclosed targets hpos hfirst =>
        exact ⟨targets, (h targets).mpr ⟨_, hmem, rfl, rfl⟩, hcover⟩
    | closed targets hpos hordered hlast =>
        simp only [Interval.holds, Interval.opened, hspan.start_line, hspan.stop_line,
          Bool.and_eq_true, decide_eq_true_eq, Number.ofNat_le_ofNat] at hholds
        omega
    | inline targets hpos hown =>
        simp only [Interval.holds, Interval.oneLine, hspan.start_line, hspan.stop_line,
          Bool.and_eq_true, decide_eq_true_eq, Number.ofNat_le_ofNat] at hholds
        omega
  · rintro ⟨targets, hopened, hcover⟩
    obtain ⟨interval, hmem, hopen, rfl⟩ := (h targets).mp hopened
    refine ⟨interval, hmem, hcover, ?_⟩
    cases hwithin interval hmem with
    | unclosed targets hpos hfirst =>
        simp only [Interval.holds, Interval.opened, hspan.start_line, Bool.and_true,
          decide_eq_true_eq, Number.ofNat_le_ofNat]
        omega
    | closed targets hpos hordered hlast => simp [Interval.isOpen] at hopen
    | inline targets hpos hown => simp [Interval.isOpen, Interval.oneLine] at hopen

theorem hold_stopAt_own (hspan : span.RunsOver line line) (hexact : line < 2 ^ 53)
    (stopped : Targets) :
    (intervals.stopAt (.ofNat line) stopped).hold span origin = intervals.hold span origin := by
  rw [Bool.eq_iff_iff, hold_perm (stopAt_perm _ _ _), hold_append, Bool.or_eq_true]
  constructor
  · rintro (hfst | hsnd)
    · obtain ⟨_, hmem, hcover, hholds⟩ := hold_iff.mp hfst
      obtain ⟨interval, hinterval, rfl⟩ := List.mem_map.mp hmem
      rw [Interval.stop_targets] at hcover
      exact hold_iff.mpr ⟨interval, hinterval, hcover, Interval.holds_of_holds_stop hholds⟩
    · obtain ⟨next, hmem, -, hholds⟩ := hold_iff.mp hsnd
      obtain ⟨interval, -, hnext⟩ := List.mem_filterMap.mp hmem
      simp [Interval.not_holds_stop_snd hspan hexact le_rfl hnext] at hholds
  · intro hhold
    obtain ⟨interval, hmem, hcover, hholds⟩ := hold_iff.mp hhold
    refine Or.inl (hold_iff.mpr ⟨_, List.mem_map_of_mem hmem, ?_, ?_⟩)
    · rwa [Interval.stop_targets]
    · apply Interval.holds_stop _ _ hholds
      intro _
      rw [hspan.stop_line]
      exact Number.ofNat_le_ofNat.mpr le_rfl

theorem Opens.hold_apply (h : intervals.Opens opened) (hwithin : intervals.Within above)
    (hspan : span.RunsOver (above + 1) (above + 1)) (hexact : above + 1 < 2 ^ 53)
    (directive : Directive) :
    (intervals.apply (directive.onLine (above + 1))).hold span origin =
      Sweep.speaks (Sweep.counting opened (some directive)) origin := by
  have habove : intervals.hold span origin = Sweep.speaks opened origin :=
    h.hold_eq hwithin hspan (Nat.lt_succ_self above)
  obtain ⟨kind, targets⟩ := directive
  cases kind with
  | start =>
      simp only [Intervals.apply, Directive.onLine, Sweep.counting]
      rw [hold_perm (insert_perm _ _), ← List.singleton_append, hold_append, habove]
      simp [Sweep.speaks, hold, Interval.holds, Interval.opened, hspan.start_line, Bool.or_comm]
  | stop => exact (hold_stopAt_own hspan hexact targets).trans habove
  | inline =>
      have hnew := Tell.any_isInlineAt_eq_false hwithin (Nat.lt_succ_self above)
      simp only [Intervals.apply, Directive.onLine, Sweep.counting]
      rw [hold_perm (addInline_perm targets hnew), ← List.singleton_append, hold_append, habove]
      simp [Sweep.speaks, hold, Interval.holds, Interval.oneLine, hspan.start_line,
        hspan.stop_line, Bool.or_comm]

theorem hold_applyAll_of_below {lines : List (List Char)} {directives : List LineDirective}
    (hspan : span.RunsOver line line) (hlines : line + 1 + lines.length ≤ 2 ^ 53)
    (hdirectives : matcher.inLinesFrom (line + 1) lines = .ok directives) :
    (intervals.applyAll directives).hold span origin = intervals.hold span origin := by
  rw [Bool.eq_iff_iff]
  constructor
  · exact hold_of_hold_applyAll hdirectives hlines hspan (Nat.lt_succ_self line)
  · intro hhold
    obtain ⟨interval, hmem, hcover, hholds⟩ := hold_iff.mp hhold
    -- The interval reaches the line already, and directives below close nothing above themselves.
    have hsecure : intervals.Secure span origin (.ofNat (line + 1)) := by
      refine ⟨interval, hmem, hcover, hholds, ?_⟩
      intro _
      rw [hspan.stop_line]
      exact Number.ofNat_le_ofNat.mpr (Nat.le_succ line)
    exact (hsecure.applyAll hdirectives hspan).hold

/-- The intervals that all directives leave hold on a line what the sweep suppresses there. -/
theorem hold_applyAll_eq_suppresses {lines : List (List Char)} {directives : List LineDirective}
    {read : List (Option Directive)} (h : intervals.Opens opened)
    (hwithin : intervals.Within above) (hlines : above + lines.length < 2 ^ 53)
    (hdirectives : matcher.inLinesFrom (above + 1) lines = .ok directives)
    (hread : matcher.Reads lines read) (hspan : span.RunsOver line line) (hline : above < line) :
    (intervals.applyAll directives).hold span origin =
      Sweep.suppresses origin opened read (line - (above + 1)) := by
  induction hread generalizing intervals opened above directives with
  | nil =>
      obtain rfl : directives = [] := by simpa [Matcher.inLinesFrom, eq_comm] using hdirectives
      exact h.hold_eq hwithin hspan hline
  | @cons text directive? rest read hmatch _ ih =>
      rw [List.length_cons] at hlines
      obtain ⟨found, others, hfound, hothers, rfl⟩ := Matcher.inLinesFrom_cons.mp hdirectives
      obtain rfl : found = directive? := Except.ok.inj (hfound.symm.trans hmatch)
      rw [applyAll_append]
      -- What the line itself makes of the intervals.
      have hnext : (intervals.applyAll
          (found.map fun directive => directive.onLine (above + 1)).toList).Opens
            (Sweep.below opened found) := by
        cases found with
        | none => exact h
        | some directive => exact h.apply (directive.onLine (above + 1))
      have hown : (intervals.applyAll
          (found.map fun directive => directive.onLine (above + 1)).toList).Within (above + 1) := by
        cases found with
        | none => exact fun interval hmem => (hwithin interval hmem).mono (Nat.le_succ above)
        | some directive => exact within_apply hwithin (Nat.lt_succ_self above) (by omega) rfl
      rcases Nat.eq_or_lt_of_le hline with rfl | hlt
      · -- The line is the one that was asked about: what is below it makes no difference.
        rw [hold_applyAll_of_below hspan (by omega) hothers, Nat.sub_self, Sweep.suppresses]
        cases found with
        | none => exact h.hold_eq hwithin hspan (Nat.lt_succ_self above)
        | some directive => exact h.hold_apply hwithin hspan (by omega) directive
      · have hnumber : line - (above + 1) = line - (above + 1 + 1) + 1 := by omega
        rw [hnumber, Sweep.suppresses]
        exact ih hnext hown (by omega) hothers hlt

end Intervals

/-- A tracker that knows nothing says of a single line what a reading of the file from the top to
the bottom says of it. -/
theorem Tracker.isIgnored_eq_suppresses {tree : FileTree} {settings : TrackerSettings}
    {file : Wide} {text : String} (htext : tree.readText file = .ok text)
    (hheld : text.length < 2 ^ 53)
    {read : List (Option Directive)}
    (hread : settings.matcher.Reads (Text.fileLines text.toList) read)
    {line column column' : Nat} (hline : 1 ≤ line ∧ line < 2 ^ 53)
    (hcolumns : column ≤ column' ∧ column' < 2 ^ 53) (origin : Origin) :
    (isIgnored { settings } tree
        { file, span := some ⟨⟨.ofNat line, .ofNat column⟩, ⟨.ofNat line, .ofNat column'⟩⟩ }
        origin).1 =
      .ok (Sweep.suppresses origin [] read (line - 1)) := by
  obtain ⟨directives, hdirectives⟩ := hread.exists_inLinesFrom 1
  have hbetween := Range.between_ofNat file column column' hline.1 (Or.inr ⟨rfl, hcolumns.1⟩)
  have hspan : Span.RunsOver
      ⟨⟨.ofNat line, .ofNat column⟩, ⟨.ofNat line, .ofNat column'⟩⟩ line line :=
    ⟨hline.1, le_rfl, rfl, rfl, ⟨column, rfl⟩, ⟨column', rfl⟩⟩
  have hexact {number : Nat} (hnumber : number < 2 ^ 53) : Number.ofNat number ≤ .lastExact :=
    Number.ofNat_le_ofNat.mpr (Nat.le_of_lt_succ hnumber)
  have hanswer := (sound_fresh tree settings).isIgnored_eq htext hheld hdirectives
    (.between hbetween) (fun span hmem => ?_) origin
  · rw [hanswer, Intervals.ignore]
    have hlines := Record.Knows.lines_lt hheld
    have hopens : Intervals.Opens [] [] := by simp [Intervals.Opens]
    have hwithin : Intervals.Within 0 [] := by simp [Intervals.Within]
    exact congrArg _ (Intervals.hold_applyAll_eq_suppresses hopens hwithin (by omega) hdirectives
      hread hspan hline.1)
  · obtain rfl := Option.some.inj hmem
    exact ⟨⟨hexact hline.2, hexact (by omega)⟩, ⟨hexact hline.2, hexact hcolumns.2⟩⟩

theorem Tracker.isIgnored_eq_suppresses_reopenedLine :
    let text := "# start ignoring pylint mypy\n# stop ignoring pylint\n# stop ignoring mypy\n\n"
    let read : List (Option Directive) := [
      some ⟨.start, [{ analyzer := "pylint" }, { analyzer := "mypy" }]⟩,
      some ⟨.stop, [{ analyzer := "pylint" }]⟩, some ⟨.stop, [{ analyzer := "mypy" }]⟩, none]
    Matcher.standard.Reads (Text.fileLines text.toList) read ∧
      (isIgnored { settings := {} } (.single "a.py" text)
          { file := "a.py", span := some ⟨⟨3, 1⟩, ⟨3, 4⟩⟩ } { analyzer := "mypy" }).1 =
        .ok (Sweep.suppresses { analyzer := "mypy" } [] read 2) := by
  intro text read
  have hlines : Text.fileLines text.toList = ["# start ignoring pylint mypy".toList,
      "# stop ignoring pylint".toList, "# stop ignoring mypy".toList, []] := by decide +kernel
  have hread : Matcher.standard.Reads (Text.fileLines text.toList) read := by
    rw [hlines]
    exact .cons (by decide +kernel) (.cons (by decide +kernel) (.cons (by decide +kernel)
      (.cons (by decide +kernel) .nil)))
  exact ⟨hread, isIgnored_eq_suppresses (FileTree.readText_single_script text) (by decide) hread
    (show 1 ≤ 3 ∧ 3 < 2 ^ 53 by decide) (show 1 ≤ 4 ∧ 4 < 2 ^ 53 by decide)
    { analyzer := "mypy" }⟩

end Suppression

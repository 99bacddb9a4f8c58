import Suppression.Proofs.Deciding
import Suppression.Proofs.LastingRegion
import Suppression.Proofs.ReachedRecords

namespace Suppression

open scoped List

namespace Targets

variable {span : Span} {origin : Origin} {start : Targets} {directive : LineDirective}
  {rest : List LineDirective} {first last number : Nat}

theorem Lasts.of_cons_of_above (hline : ¬ directive.line < span.start.line)
    (h : Lasts span origin start (directive :: rest)) : Lasts span origin start rest := by
  cases h with
  | kept _ hrest => exact hrest
  | narrowed _ hlt _ _ => exact absurd hlt hline

theorem Lasts.cons_of_below (hirrelevant : Targets.cover directive.targets origin = false)
    (hline : directive.line < span.start.line) (h : Lasts span origin start rest) :
    Lasts span origin start (directive :: rest) := by
  by_cases hkind : directive.kind = .stop
  · cases heffect : stopEffect directive.targets start with
    | none => exact .kept (fun _ _ => heffect) h
    | close =>
        have hwildcard := isWildcard_of_cover_eq_false hirrelevant
        rcases stopEffect_eq_close_iff.mp heffect with hstop | ⟨hstart, hnil⟩
        · rw [hwildcard] at hstop
          simp at hstop
        · exact absurd hnil
            (without_ne_nil hirrelevant (ne_nil_of_isWildcard_eq_false hstart) h.cover)
    | narrow remaining =>
        obtain ⟨rfl, hne, -⟩ := eq_of_narrow heffect
        exact .narrowed hkind hline heffect (h.without hirrelevant hne)
  · exact .kept (fun hstop => absurd hstop hkind) h

/-- A stop for others makes no difference to a region if it leaves the region alone, or stands above
the span while the stops below end the same parts. -/
theorem Lasts.cons_iff (hspan : span.RunsOver first last) (hnumber : directive.line = .ofNat number)
    (hirrelevant : Targets.cover directive.targets origin = false)
    (hspares : directive.kind = .stop → directive.line < span.stop.line →
      Targets.cover start origin = true → stopEffect directive.targets start = .none ∨
        directive.line < span.start.line ∧ EndAlike span directive.targets start rest) :
    Lasts span origin start (directive :: rest) ↔ Lasts span origin start rest := by
  by_cases hacts : directive.kind = .stop ∧ directive.line < span.stop.line
  · constructor
    · intro h
      rcases hspares hacts.1 hacts.2 h.cover with hnone | ⟨-, halike⟩
      · exact (cons_iff_of_none hnone).mp h
      · cases h with
        | kept _ hrest => exact hrest
        | narrowed _ _ heffect hrest =>
            obtain ⟨rfl, hne, -⟩ := eq_of_narrow heffect
            exact hrest.of_without hirrelevant hne halike
    · intro h
      rcases hspares hacts.1 hacts.2 h.cover with hnone | ⟨hline, -⟩
      · exact (cons_iff_of_none hnone).mpr h
      · exact h.cons_of_below hirrelevant hline
  · refine ⟨?_, .kept fun hkind hlt => absurd ⟨hkind, hlt⟩ hacts⟩
    intro h
    cases h with
    | kept _ hrest => exact hrest
    | narrowed hkind hline _ _ =>
        refine absurd ⟨hkind, ?_⟩ hacts
        rw [hnumber, hspan.start_line, Number.ofNat_lt_ofNat] at hline
        rw [hnumber, hspan.stop_line, Number.ofNat_lt_ofNat]
        exact hline.trans_le hspan.ordered

end Targets

/-- A directive among others leaves results in a range alone: it is not a stop, it stands on the
last line of the range or below, or what it does to each open region that speaks for the origin is
nothing, or narrows it above the range while the stops below end the same parts of the region with
and without that. -/
def LineDirective.Spares (directive : LineDirective) (regions : Intervals)
    (later : List LineDirective) (range : Range) (origin : Origin) : Prop :=
  directive.kind = .stop → ∀ span ∈ range.span, directive.line < span.stop.line →
    ∀ region ∈ regions, region.isOpen = true → Targets.cover region.targets origin = true →
      Targets.stopEffect directive.targets region.targets = .none ∨
        directive.line < span.start.line ∧
          Targets.EndAlike span directive.targets region.targets later

namespace Intervals

variable {intervals : Intervals} {span : Span} {origin : Origin} {directive : LineDirective}
  {directives others later : List LineDirective} {first last line number : Nat}

theorem hold_applyAll (hwithin : intervals.Within line) (h : Ascending (line + 1) directives)
    (span : Span) (origin : Origin) : (applyAll intervals directives).hold span origin =
      ((stopAll intervals directives).hold span origin ||
        (applyAll [] directives).hold span origin) := by
  rw [← hold_append, ← hold_perm (applyAll_append_perm hwithin h), List.append_nil]

theorem mention_applyAll (hwithin : intervals.Within line) (h : Ascending (line + 1) directives)
    (origin : Origin) : (applyAll intervals directives).mention origin =
      (intervals.mention origin || (applyAll [] directives).mention origin) := by
  rw [← mention_stopAll intervals directives, ← mention_append,
    ← mention_perm (applyAll_append_perm hwithin h), List.append_nil]

theorem hold_stopAll_imp (hwithin : intervals.Within line) (h : Ascending (line + 1) directives)
    (h' : Ascending (line + 1) others) (hspan : span.RunsOver first last)
    (hlasts : ∀ region ∈ intervals, region.isOpen = true →
      Targets.Lasts span origin region.targets directives →
        Targets.Lasts span origin region.targets others)
    (hhold : (stopAll intervals directives).hold span origin = true) :
    (stopAll intervals others).hold span origin = true := by
  rw [hold_stopAll, List.any_eq_true] at hhold ⊢
  obtain ⟨interval, hmem, hholds⟩ := hhold
  refine ⟨interval, hmem, ?_⟩
  have hlast := hlasts interval hmem
  cases hwithin interval hmem with
  | unclosed targets _ hopening =>
      rw [hold_stopAll_opened h hspan hopening] at hholds
      rw [hold_stopAll_opened h' hspan hopening]
      exact ⟨hholds.1, hlast rfl hholds.2⟩
  | closed targets _ _ _ => rwa [stopAll_of_isOpen_eq_false rfl] at hholds ⊢
  | inline targets _ _ => rwa [stopAll_of_isOpen_eq_false rfl] at hholds ⊢

theorem mention_apply_nil (h : Targets.cover directive.targets origin = false) :
    (apply [] directive).mention origin = false := by
  unfold apply
  cases directive.kind with
  | inline => simp [addInline, insert, mention, Interval.oneLine, h]
  | start => simp [insert, mention, Interval.opened, h]
  | stop => rfl

/-- A directive stops what is open above it and opens what is its own; what is below goes its own
way. -/
theorem applyAll_cons_perm (hwithin : intervals.Within line)
    (h : Ascending (line + 1) (directive :: later)) :
    applyAll intervals (directive :: later) ~
      stopAll intervals (directive :: later) ++
        (stopAll (apply [] directive) later ++ applyAll [] later) := by
  have hparts := @applyAll_append_perm intervals [] (directive :: later) line hwithin h
  rw [List.append_nil] at hparts
  refine hparts.trans (List.Perm.append_left _ ?_)
  cases h with
  | cons hle hexact hline hlater =>
      have hopened : (apply [] directive).Within _ :=
        within_apply (show Within line [] by simp [Within]) (by omega) hexact hline
      have hrest := @applyAll_append_perm _ [] later _ hopened hlater
      rwa [List.append_nil] at hrest

theorem exists_applyAll_cons_perm (hwithin : intervals.Within line)
    (h : Ascending (line + 1) (directive :: later))
    (hirrelevant : Targets.cover directive.targets origin = false) :
    ∃ silent : Intervals, silent.mention origin = false ∧
      applyAll intervals (directive :: later) ~
        stopAll intervals (directive :: later) ++ (silent ++ applyAll [] later) := by
  refine ⟨stopAll (apply [] directive) later, ?_, applyAll_cons_perm hwithin h⟩
  rw [mention_stopAll]
  exact mention_apply_nil hirrelevant

theorem hold_applyAll_cons (hwithin : intervals.Within line)
    (h : Ascending (line + 1) (directive :: later))
    (hirrelevant : Targets.cover directive.targets origin = false) (span : Span) :
    (applyAll intervals (directive :: later)).hold span origin =
      ((stopAll intervals (directive :: later)).hold span origin ||
        (applyAll [] later).hold span origin) := by
  obtain ⟨silent, hsilent, hperm⟩ := exists_applyAll_cons_perm hwithin h hirrelevant
  rw [hold_perm hperm, hold_append, hold_append, hold_eq_false_of_mention hsilent,
    Bool.false_or]

theorem mention_applyAll_cons (hwithin : intervals.Within line)
    (h : Ascending (line + 1) (directive :: later))
    (hirrelevant : Targets.cover directive.targets origin = false) :
    (applyAll intervals (directive :: later)).mention origin =
      (intervals.mention origin || (applyAll [] later).mention origin) := by
  obtain ⟨silent, hsilent, hperm⟩ := exists_applyAll_cons_perm hwithin h hirrelevant
  rw [mention_perm hperm, mention_append, mention_append, mention_stopAll, hsilent,
    Bool.false_or]

theorem hold_applyAll_of_cons (hwithin : intervals.Within line)
    (h : Ascending (line + 1) (directive :: later)) (hspan : span.RunsOver first last)
    (hirrelevant : Targets.cover directive.targets origin = false)
    (hlasts : ∀ region ∈ intervals, region.isOpen = true →
      Targets.Lasts span origin region.targets (directive :: later) →
        Targets.Lasts span origin region.targets later)
    (hhold : (applyAll intervals (directive :: later)).hold span origin = true) :
    (applyAll intervals later).hold span origin = true := by
  have hlater := h.of_cons
  rw [hold_applyAll_cons hwithin h hirrelevant, Bool.or_eq_true] at hhold
  rw [hold_applyAll hwithin hlater, Bool.or_eq_true]
  exact hhold.imp_left (hold_stopAll_imp hwithin h hlater hspan hlasts)

theorem hold_applyAll_cons_of (hwithin : intervals.Within line)
    (h : Ascending (line + 1) (directive :: later)) (hspan : span.RunsOver first last)
    (hirrelevant : Targets.cover directive.targets origin = false)
    (hlasts : ∀ region ∈ intervals, region.isOpen = true →
      Targets.Lasts span origin region.targets later →
        Targets.Lasts span origin region.targets (directive :: later))
    (hhold : (applyAll intervals later).hold span origin = true) :
    (applyAll intervals (directive :: later)).hold span origin = true := by
  have hlater := h.of_cons
  rw [hold_applyAll hwithin hlater, Bool.or_eq_true] at hhold
  rw [hold_applyAll_cons hwithin h hirrelevant, Bool.or_eq_true]
  exact hhold.imp_left (hold_stopAll_imp hwithin hlater h hspan hlasts)

theorem ignore_applyAll_cons (hwithin : intervals.Within line)
    (h : Ascending (line + 1) (directive :: later)) {range : Range} (haccepted : range.Accepted)
    (hirrelevant : Targets.cover directive.targets origin = false)
    (hspares : directive.Spares intervals later range origin) :
    (applyAll intervals (directive :: later)).ignore range origin =
      (applyAll intervals later).ignore range origin := by
  cases hspan : range.span with
  | none =>
      simp only [ignore, hspan]
      rw [mention_applyAll_cons hwithin h hirrelevant, mention_applyAll hwithin h.of_cons]
  | some span =>
      obtain ⟨first, last, hruns⟩ := haccepted.runsOver hspan
      obtain ⟨number, hnumber⟩ := h.exists_line
      have hlasts (region : Interval) (hmem : region ∈ intervals) (hopen : region.isOpen = true) :=
        @Targets.Lasts.cons_iff span origin region.targets directive later first last number
          hruns hnumber hirrelevant fun hkind hlt hcover =>
            hspares hkind span hspan hlt region hmem hopen hcover
      simp only [ignore, hspan]
      rw [Bool.eq_iff_iff]
      constructor
      · exact hold_applyAll_of_cons hwithin h hruns hirrelevant fun region hmem hopen =>
          (hlasts region hmem hopen).mp
      · exact hold_applyAll_cons_of hwithin h hruns hirrelevant fun region hmem hopen =>
          (hlasts region hmem hopen).mpr

end Intervals

theorem Matcher.inLinesFrom_middle {matcher : Matcher} {above below : List (List Char)}
    {line : List Char} {directive? : Option Directive} {earlier later : List LineDirective}
    (hearlier : matcher.inLinesFrom 1 above = .ok earlier)
    (hdirective : matcher (String.ofList line) = .ok directive?)
    (hlater : matcher.inLinesFrom (above.length + 2) below = .ok later) :
    matcher.inLinesFrom 1 (above ++ line :: below) = .ok (earlier ++
      ((directive?.map fun directive => directive.onLine (above.length + 1)).toList ++ later)) := by
  have hnumber : 1 + above.length = above.length + 1 := Nat.add_comm _ _
  rw [inLinesFrom_append, hnumber]
  exact ⟨earlier, _, hearlier,
    inLinesFrom_cons.mpr ⟨directive?, later, hdirective, hlater, rfl⟩, rfl⟩

namespace Tracker

/-- What a file says with a directive on one of its lines, and what it says when that line is
replaced by a line without a directive, or by an empty rest at the end. -/
theorem Reached.isIgnored_replaced {matcher : Matcher} {tree tree' : FileTree}
    {tracker tracker' : Tracker} (h : tracker.Reached matcher tree)
    (h' : tracker'.Reached matcher tree') {range : Range} (haccepted : range.Accepted)
    (hexact : range.IsExact) {text text' : String}
    (htext : tree.readText range.file = .ok text)
    (htext' : tree'.readText range.file = .ok text') {above below : List (List Char)}
    {line line' : List Char} (hlines : Text.fileLines text.toList = above ++ line :: below)
    (hlines' : Text.fileLines text'.toList = above ++ line' :: below ∨
      below = [] ∧ Text.fileLines text'.toList = above) {directive : Directive}
    (hdirective : matcher (String.ofList line) = .ok (some directive))
    (hblank : matcher (String.ofList line') = .ok none) {earlier later : List LineDirective}
    (hearlier : matcher.inLinesFrom 1 above = .ok earlier)
    (hlater : matcher.inLinesFrom (above.length + 2) below = .ok later) (origin : Origin) :
    (Intervals.applyAll [] earlier).Within above.length ∧
      Ascending (above.length + 1) (directive.onLine (above.length + 1) :: later) ∧
      (tracker.isIgnored tree range origin).1 = .ok ((Intervals.applyAll
        (Intervals.applyAll [] earlier) (directive.onLine (above.length + 1) :: later)).ignore range
          origin) ∧
      (tracker'.isIgnored tree' range origin).1 =
        .ok ((Intervals.applyAll (Intervals.applyAll [] earlier) later).ignore range origin) := by
  obtain ⟨hheld, rfl, hsound⟩ := h.sound
  obtain ⟨hheld', hmatcher, hsound'⟩ := h'.sound
  have hlength := (Text.length_fileLines_le text.toList).trans_lt (hheld.length_lt htext)
  rw [hlines, List.length_append, List.length_cons] at hlength
  have hwith : tracker.settings.matcher.inLinesFrom 1 (Text.fileLines text.toList) =
      .ok (earlier ++ directive.onLine (above.length + 1) :: later) := by
    rw [hlines]
    exact Matcher.inLinesFrom_middle hearlier hdirective hlater
  have hwithout : tracker'.settings.matcher.inLinesFrom 1 (Text.fileLines text'.toList) =
      .ok (earlier ++ later) := by
    rw [hmatcher]
    rcases hlines' with hlines' | ⟨rfl, hlines'⟩
    · rw [hlines']
      exact Matcher.inLinesFrom_middle hearlier hblank hlater
    · obtain rfl : later = [] := by simpa [Matcher.inLinesFrom, eq_comm] using hlater
      rw [hlines', List.append_nil]
      exact hearlier
  refine ⟨?_, ?_, ?_, ?_⟩
  · have habove := @Intervals.within_applyAll tracker.settings.matcher above (by omega)
      above.length le_rfl earlier
    rw [List.take_length] at habove
    exact habove hearlier
  · exact .cons le_rfl (by omega) rfl (Matcher.ascending_inLinesFrom hlater (by omega))
  · rw [← Intervals.applyAll_append]
    exact hsound.isIgnored_eq htext (hheld.length_lt htext) hwith haccepted hexact origin
  · rw [← Intervals.applyAll_append]
    exact hsound'.isIgnored_eq htext' (hheld'.length_lt htext') hwithout haccepted hexact origin

/-- Replacing the line of a directive that does not speak for an origin by a line without a
directive, which may be an empty one at the end and so none at all. If the directive leaves results
in the range alone, the answer stays the same. Without it, results in a range that starts on its
line or above stay ignored, and of those in a range below no more become ignored. -/
theorem Reached.isIgnored_of_irrelevant {matcher : Matcher} {tree tree' : FileTree}
    {tracker tracker' : Tracker} (h : tracker.Reached matcher tree)
    (h' : tracker'.Reached matcher tree') {range : Range} (haccepted : range.Accepted)
    (hexact : range.IsExact) {text text' : String}
    (htext : tree.readText range.file = .ok text)
    (htext' : tree'.readText range.file = .ok text') {above below : List (List Char)}
    {line line' : List Char} (hlines : Text.fileLines text.toList = above ++ line :: below)
    (hlines' : Text.fileLines text'.toList = above ++ line' :: below ∨
      below = [] ∧ Text.fileLines text'.toList = above) {directive : Directive}
    (hdirective : matcher (String.ofList line) = .ok (some directive))
    (hblank : matcher (String.ofList line') = .ok none) {earlier later : List LineDirective}
    (hearlier : matcher.inLinesFrom 1 above = .ok earlier)
    (hlater : matcher.inLinesFrom (above.length + 2) below = .ok later) {origin : Origin}
    (hirrelevant : Targets.cover directive.targets origin = false) :
    ∃ kept replaced, (tracker.isIgnored tree range origin).1 = .ok kept ∧
      (tracker'.isIgnored tree' range origin).1 = .ok replaced ∧
      ((directive.onLine (above.length + 1)).Spares (Intervals.applyAll [] earlier) later range
        origin → kept = replaced) ∧
      ∀ span ∈ range.span,
        (¬ .ofNat (above.length + 1) < span.start.line → kept = true → replaced = true) ∧
        (.ofNat (above.length + 1) < span.start.line → replaced = true → kept = true) := by
  obtain ⟨hwithin, hascending, hkept, hreplaced⟩ := h.isIgnored_replaced h' haccepted hexact htext
    htext' hlines hlines' hdirective hblank hearlier hlater origin
  refine ⟨_, _, hkept, hreplaced, fun hspares => ?_, fun span hspan => ?_⟩
  · exact Intervals.ignore_applyAll_cons hwithin hascending haccepted hirrelevant hspares
  · obtain ⟨first, last, hruns⟩ := haccepted.runsOver hspan
    simp only [Intervals.ignore, Option.mem_def.mp hspan]
    constructor
    · intro hline
      exact Intervals.hold_applyAll_of_cons hwithin hascending hruns hirrelevant
        fun _ _ _ => .of_cons_of_above hline
    · intro hline
      exact Intervals.hold_applyAll_cons_of hwithin hascending hruns hirrelevant
        fun _ _ _ => .cons_of_below hirrelevant hline

theorem Reached.isIgnored_of_irrelevant_narrowed :
    let text := "# start ignoring pylint mypy\n# stop ignoring pylint\n\n# stop ignoring flake8\n\n"
    let text' := "# start ignoring pylint mypy\n\n\n# stop ignoring flake8\n\n"
    let range := { file := "a.py", span := some ⟨⟨3, 0⟩, ⟨5, 0⟩⟩ }
    ∃ answer,
      (isIgnored { settings := {} } (.single "a.py" text) range { analyzer := "mypy" }).1 =
        .ok answer ∧
      (isIgnored { settings := {} } (.single "a.py" text') range { analyzer := "mypy" }).1 =
        .ok answer := by
  intro text text' range
  have hstart : Reached .standard (.single "a.py" text) { settings := {} } :=
    .fresh (FileTree.holdable_single (by decide +kernel)) rfl
  have hstart' : Reached .standard (.single "a.py" text') { settings := {} } :=
    .fresh (FileTree.holdable_single (by decide +kernel)) rfl
  have hbetween : Range.between "a.py" ⟨3, 0⟩ ⟨5, 0⟩ = .ok range := by decide
  have hexact : range.IsExact := by decide
  have hlines : Text.fileLines text.toList = ["# start ignoring pylint mypy".toList] ++
      "# stop ignoring pylint".toList :: [[], "# stop ignoring flake8".toList, []] := by
    decide +kernel
  have hlines' : Text.fileLines text'.toList = ["# start ignoring pylint mypy".toList] ++
      [] :: [[], "# stop ignoring flake8".toList, []] := by decide +kernel
  have hdirective : Matcher.standard (String.ofList "# stop ignoring pylint".toList) =
      .ok (some ⟨.stop, [{ analyzer := "pylint" }]⟩) := by decide +kernel
  have habove : Matcher.standard.inLinesFrom 1 ["# start ignoring pylint mypy".toList] =
      .ok [⟨⟨.start, [{ analyzer := "pylint" }, { analyzer := "mypy" }]⟩, 1⟩] := by
    decide +kernel
  have hbelow : Matcher.standard.inLinesFrom 3 [[], "# stop ignoring flake8".toList, []] =
      .ok [⟨⟨.stop, [{ analyzer := "flake8" }]⟩, 4⟩] := by decide +kernel
  obtain ⟨kept, replaced, hkept, hreplaced, hsame, -⟩ :=
    hstart.isIgnored_of_irrelevant hstart' (.between hbetween) hexact
      (FileTree.readText_single_script text) (FileTree.readText_single_script text') hlines
      (Or.inl hlines') hdirective (by decide +kernel) habove hbelow
      (show Targets.cover [{ analyzer := "pylint" }] { analyzer := "mypy" } = false by
        decide +kernel)
  refine ⟨kept, hkept, ?_⟩
  rw [hsame ?_]
  · exact hreplaced
  · intro _ span hspan _ region hregion _ _
    obtain rfl := Option.some.inj hspan
    obtain rfl := List.mem_singleton.mp hregion
    refine Or.inr ⟨by decide, ?_⟩
    intro next hnext _ _ _ target htarget hends
    obtain rfl := List.mem_singleton.mp hnext
    rcases List.mem_pair.mp htarget with rfl | rfl
    · exact absurd hends (by decide +kernel)
    · exact absurd hends (by decide +kernel)

def freshAnswer (text : String) (first last : Nat) (analyzer : String) :
    Except QueryError Bool :=
  (isIgnored { settings := {} } (.single "a.py" text)
    { file := "a.py", span := some ⟨⟨.ofNat first, .ofNat 0⟩, ⟨.ofNat last, .ofNat 0⟩⟩ }
    { analyzer }).1

theorem freshAnswer_eq {text analyzer : String} {first last : Nat} {answer : Bool}
    (hheld : text.length < 2 ^ 53) (hlines : 1 ≤ first ∧ first ≤ last ∧ last < 2 ^ 53)
    (hanswer : ((Matcher.standard.inLinesFrom 1 (Text.fileLines text.toList)).map
      fun directives => (Intervals.applyAll [] directives).ignore
        { file := "a.py", span := some ⟨⟨.ofNat first, .ofNat 0⟩, ⟨.ofNat last, .ofNat 0⟩⟩ }
        { analyzer }) = .ok answer) :
    freshAnswer text first last analyzer = .ok answer := by
  obtain ⟨directives, hdirectives⟩ :=
    Matcher.exists_standard_inLinesFrom 1 (Text.fileLines text.toList)
  rw [hdirectives] at hanswer
  obtain rfl := Except.ok.inj hanswer
  obtain ⟨hfirst, hlast, hexact⟩ := hlines
  have hbetween := Range.between_ofNat "a.py" 0 0 hfirst
    (show first < last ∨ first = last ∧ 0 ≤ 0 by omega)
  refine (sound_fresh _ _).isIgnored_eq (FileTree.readText_single_script text) hheld hdirectives
    (.between hbetween) (fun span hspan => ?_) { analyzer }
  obtain rfl := Option.some.inj hspan
  have hline {line : Nat} (hle : line ≤ last) : Number.ofNat line ≤ .lastExact :=
    Number.ofNat_le_ofNat.mpr (show line ≤ 9007199254740991 by omega)
  have hcolumn : Number.ofNat 0 ≤ .lastExact := Number.ofNat_le_ofNat.mpr (Nat.zero_le _)
  exact ⟨⟨hline hlast, hcolumn⟩, ⟨hline le_rfl, hcolumn⟩⟩

/-- Stops for pylint alone do make a difference to others. The line of a stop parts a region, and no
part contains a range over both. What a stop has ended is not there for a stop below, which would
part the region. Where a stop leaves nothing but `all`, no stop for some analyzers ends it. -/
theorem freshAnswer_irrelevant_stop :
    Matcher.standard "# stop ignoring pylint" =
        .ok (some ⟨.stop, [{ analyzer := "pylint" }]⟩) ∧ Matcher.standard "" = .ok none ∧
      Targets.cover [{ analyzer := "pylint" }] { analyzer := "mypy" } = false ∧
      Targets.cover [{ analyzer := "pylint" }] { analyzer := "flake8" } = false ∧
      (freshAnswer "# start ignoring pylint mypy\n\n# stop ignoring pylint\n\n" 2 4 "mypy" =
          .ok false ∧
        freshAnswer "# start ignoring pylint mypy\n\n\n\n" 2 4 "mypy" = .ok true) ∧
      (freshAnswer
            "# start ignoring pylint mypy\n# stop ignoring pylint\n\n# stop ignoring pylint\n\n"
            3 5 "mypy" = .ok true ∧
        freshAnswer "# start ignoring pylint mypy\n\n\n# stop ignoring pylint\n\n" 3 5 "mypy" =
          .ok false) ∧
      freshAnswer
          "# start ignoring all pylint\n# stop ignoring pylint\n# stop ignoring all flake8\n\n"
          4 4 "flake8" = .ok true ∧
        freshAnswer "# start ignoring all pylint\n\n# stop ignoring all flake8\n\n" 4 4 "flake8" =
          .ok false := by
  refine ⟨by decide +kernel, by decide +kernel, by decide +kernel, by decide +kernel, ?_, ?_, ?_⟩
  · exact ⟨freshAnswer_eq (by decide) (by decide) (by decide +kernel),
      freshAnswer_eq (by decide) (by decide) (by decide +kernel)⟩
  · exact ⟨freshAnswer_eq (by decide) (by decide) (by decide +kernel),
      freshAnswer_eq (by decide) (by decide) (by decide +kernel)⟩
  · exact ⟨freshAnswer_eq (by decide) (by decide) (by decide +kernel),
      freshAnswer_eq (by decide) (by decide) (by decide +kernel)⟩

end Tracker

end Suppression

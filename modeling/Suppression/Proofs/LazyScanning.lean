import Suppression.Proofs.Answering
import Suppression.Proofs.FileContents

namespace Suppression

theorem TrackerSettings.settle_of_endsSearch {matcher : Matcher} {text : String} {range : Range}
    {span : Span} {origin : Origin} {directives : List LineDirective} {number : Nat}
    {directive : Directive} (hheld : text.length < 2 ^ 53) (haccepted : range.Accepted)
    (hspan : range.span = some span)
    (hdirectives : matcher.inLinesFrom 1 (Text.fileLines text.toList) = .ok directives)
    (hfinds : matcher.Finds (Text.fileLines text.toList) number directive)
    (hends : endsSearch span origin (directive.onLine number) = true) :
    (Intervals.applyAll [] directives).settle range origin = true := by
  have hkind := kind_of_endsSearch hends
  obtain ⟨first, last, hruns⟩ := haccepted.runsOver hspan
  simp only [endsSearch, Directive.onLine, hruns.start_line, hruns.stop_line, Number.same_ofNat,
    Bool.and_eq_true, decide_eq_true_eq] at hends
  obtain ⟨⟨⟨-, rfl⟩, rfl⟩, htargets⟩ := hends
  obtain ⟨file, span?⟩ := range
  obtain rfl : span? = some span := hspan
  exact Intervals.settle_of_finds (Record.Knows.lines_lt hheld) hdirectives hkind hfinds hruns file
    htargets

namespace Answered

variable {matcher : Matcher} {text : String} {record known : Record} {line : Nat} {range : Range}
  {origin : Origin} {result : Except QueryError Bool}

theorem knows (h : Answered matcher (Text.fileLines text.toList) record line range origin result
    known) (hknows : record.Knows matcher text) (hheld : text.length < 2 ^ 53)
    (hwatermark : record.watermark = .ofNat line) (hline : line ≤ record.lineCount) :
    known.Knows matcher text := by
  cases h with
  | covered _ _ => exact hknows
  | faulty _ _ => exact hknows
  | looked _ _ _ => exact hknows
  | failed _ => exact hknows
  | mentioned _ _ => exact hknows
  | inline _ hsearched =>
      cases hsearched with
      | inline hlt _ hfinds hends =>
          exact hknows.addInline hheld hwatermark hlt (TrackerSettings.kind_of_endsSearch hends)
            hfinds
  | committed _ hlt hsearched =>
      cases hsearched with
      | complete hdirectives =>
          rw [List.append_nil]
          exact hknows.commit hheld hwatermark hlt.le (TrackerSettings.lastLine_le _ _)
            hdirectives
  | scanned _ hsearched =>
      cases hsearched with
      | complete hdirectives =>
          rw [List.append_nil]
          exact hknows.commit hheld hwatermark hline le_rfl hdirectives

theorem result_eq_settle (h : Answered matcher (Text.fileLines text.toList) record line range origin
    result known) (hknows : record.Knows matcher text) (hheld : text.length < 2 ^ 53)
    (hwatermark : record.watermark = .ofNat line) (hline : line ≤ record.lineCount)
    (haccepted : range.Accepted)
    (hcolumn : ∀ span ∈ range.span, span.stop.column ≤ .lastExact)
    {directives : List LineDirective}
    (hdirectives : matcher.inLinesFrom 1 (Text.fileLines text.toList) = .ok directives) :
    result = .ok ((Intervals.applyAll [] directives).settle range origin) := by
  have hafter := h.knows hknows hheld hwatermark hline
  have hcover {record : Record} (hknows : record.Knows matcher text) {span : Span}
      (hspan : range.span = some span) :=
    hknows.cover_settle hheld hdirectives haccepted hcolumn hspan origin
  cases h with
  | covered hspan htrue =>
      obtain ⟨covered, hcovered, hsound, -⟩ := hcover hknows hspan
      obtain rfl : true = covered := Except.ok.inj (htrue.symm.trans hcovered)
      rw [hsound rfl]
  | faulty hspan herror =>
      obtain ⟨covered, hcovered, -⟩ := hcover hknows hspan
      simp [herror] at hcovered
  | looked hspan hfalse hlooked =>
      obtain ⟨covered, hcovered, -, hall⟩ := hcover hknows hspan
      obtain rfl : false = covered := Except.ok.inj (hfalse.symm.trans hcovered)
      rw [hall (by rwa [hwatermark, Number.ofNat_le_ofNat])]
  | inline hspan hsearched =>
      cases hsearched with
      | inline _ _ hfinds hends =>
          rw [TrackerSettings.settle_of_endsSearch hheld haccepted hspan hdirectives hfinds hends]
  | @committed span directives' hspan _ _ =>
      obtain ⟨covered, hcovered, -, hall⟩ := hcover hafter hspan
      rw [hcovered, hall (by rw [Record.commit, Number.ofNat_le_ofNat])]
      rfl
  | failed hsearched =>
      cases hsearched with
      | broken _ _ htext herror =>
          obtain ⟨directive?, hmatch⟩ :=
            Matcher.exists_directive_of_mem hdirectives (List.mem_of_getElem? htext)
          simp [herror] at hmatch
  | mentioned hspan hmentioned =>
      obtain ⟨hsound, hall⟩ := hknows.mention_settle hheld hdirectives hspan origin
      rcases hmentioned with hmentioned | hcomplete
      · rw [hmentioned, hsound hmentioned]
      · rw [hall hcomplete]
  | scanned hspan _ =>
      rw [(hafter.mention_settle hheld hdirectives hspan origin).2]
      simp [Record.isComplete, Record.commit]

end Answered

namespace Tracker

variable {tree : FileTree} {tracker : Tracker} {range : Range}

theorem Sound.isIgnored (h : tracker.Sound tree)
    (hheld : ∀ text, tree.readText range.file = .ok text → text.length < 2 ^ 53)
    (origin : Origin) :
    (tracker.isIgnored tree range origin).2.Sound tree ∧
      Learns tree tracker (tracker.isIgnored tree range origin).2 := by
  rcases h.isIgnored_cases range origin with
    ⟨error, after, -, -, hidle, hrun⟩ |
    ⟨text, record, line, result, known, after, htext, hknows, hwatermark, hline, hanswered, hidle,
      hrun⟩
  · rw [hrun]
    exact ⟨h.idles hidle, hidle.toLearns⟩
  · rw [hrun]
    have hafter := hanswered.knows hknows (hheld text htext) hwatermark hline
    exact ⟨(h.remember htext hafter).idles hidle, hidle.settings, hidle.stored, hidle.storePath⟩

theorem Sound.isIgnored_eq_settle (h : tracker.Sound tree) {text : String}
    (htext : tree.readText range.file = .ok text) (hheld : text.length < 2 ^ 53)
    {directives : List LineDirective} (hdirectives : tracker.settings.matcher.inLinesFrom 1
      (Text.fileLines text.toList) = .ok directives)
    (haccepted : range.Accepted) (hcolumn : ∀ span ∈ range.span, span.stop.column ≤ .lastExact)
    (origin : Origin) :
    (tracker.isIgnored tree range origin).1 =
      .ok ((Intervals.applyAll [] directives).settle range origin) := by
  rcases h.isIgnored_cases range origin with
    ⟨error, after, -, hsource, -⟩ |
    ⟨text', record, line, result, known, after, htext', hknows, hwatermark, hline, hanswered, -,
      hrun⟩
  · rw [FileTree.source_of_readText htext] at hsource
    simp at hsource
  · obtain rfl : text = text' := Except.ok.inj (htext.symm.trans htext')
    rw [hrun]
    exact hanswered.result_eq_settle hknows hheld hwatermark hline haccepted hcolumn hdirectives

theorem Sound.isIgnored_eq (h : tracker.Sound tree) {text : String}
    (htext : tree.readText range.file = .ok text) (hheld : text.length < 2 ^ 53)
    {directives : List LineDirective} (hdirectives : tracker.settings.matcher.inLinesFrom 1
      (Text.fileLines text.toList) = .ok directives)
    (haccepted : range.Accepted) (hexact : range.IsExact) (origin : Origin) :
    (tracker.isIgnored tree range origin).1 =
      .ok ((Intervals.applyAll [] directives).ignore range origin) := by
  have hlines := Record.Knows.lines_lt hheld
  have hwithin : (Intervals.applyAll [] directives).Within (Text.fileLines text.toList).length := by
    rw [← @List.take_length _ (Text.fileLines text.toList)] at hdirectives
    exact Intervals.within_applyAll hlines le_rfl hdirectives
  rw [h.isIgnored_eq_settle htext hheld hdirectives haccepted
    fun span hspan => (hexact span hspan).2.2]
  exact congrArg _ (Intervals.settle_eq_ignore hwithin haccepted hexact origin)

theorem sound_fresh (tree : FileTree) (settings : TrackerSettings) :
    Sound tree { settings } := by
  refine ⟨Reader.reflects_empty tree, fun file record h => ?_, fun cache file entry text h => ?_⟩
  · simp [Entries.get?] at h
  · simp [stored] at h

end Tracker

/-- Something to ask a tracker. -/
structure Question where
  range : Range
  origin : Origin

namespace Tracker

/-- Asks one question after the other. -/
def askAll (tracker : Tracker) (tree : FileTree) :
    List Question → List (Except QueryError Bool) × Tracker
  | [] => ([], tracker)
  | question :: rest =>
      let (answer, tracker) := tracker.isIgnored tree question.range question.origin
      let (answers, tracker) := tracker.askAll tree rest
      (answer :: answers, tracker)

theorem askAll_cons (tracker : Tracker) (tree : FileTree) (question : Question)
    (questions : List Question) :
    tracker.askAll tree (question :: questions) =
      ((tracker.isIgnored tree question.range question.origin).1 ::
          ((tracker.isIgnored tree question.range question.origin).2.askAll tree questions).1,
        ((tracker.isIgnored tree question.range question.origin).2.askAll tree questions).2) := rfl

theorem askAll_append (tracker : Tracker) (tree : FileTree) (before after : List Question) :
    tracker.askAll tree (before ++ after) =
      ((tracker.askAll tree before).1 ++ ((tracker.askAll tree before).2.askAll tree after).1,
        ((tracker.askAll tree before).2.askAll tree after).2) := by
  induction before generalizing tracker with
  | nil => rfl
  | cons question rest ih =>
      rw [List.cons_append, askAll_cons, askAll_cons, ih]
      rfl

theorem Sound.askAll_eq {tree : FileTree} {tracker : Tracker} (h : tracker.Sound tree)
    {file : Wide} {text : String} (htext : tree.readText file = .ok text)
    (hheld : text.length < 2 ^ 53)
    {directives : List LineDirective} (hdirectives : tracker.settings.matcher.inLinesFrom 1
      (Text.fileLines text.toList) = .ok directives) (questions : List Question)
    (hquestions : ∀ question ∈ questions, question.range.file = file ∧
      question.range.Accepted ∧ question.range.IsExact) :
    (tracker.askAll tree questions).1 = questions.map fun question =>
      .ok ((Intervals.applyAll [] directives).ignore question.range question.origin) := by
  induction questions generalizing tracker with
  | nil => rfl
  | cons question rest ih =>
      obtain ⟨⟨rfl, haccepted, hexact⟩, hrest⟩ := List.forall_mem_cons.mp hquestions
      have hanswer := h.isIgnored_eq htext hheld hdirectives haccepted hexact question.origin
      obtain ⟨hsound, hlearns⟩ := h.isIgnored
        (fun text' htext' => Except.ok.inj (htext.symm.trans htext') ▸ hheld) question.origin
      have hothers := ih hsound (hlearns.settings ▸ hdirectives) hrest
      simp only [askAll, List.map_cons, hanswer, hothers]

/-- Whatever is asked about a file, and in whatever order, every answer is that of the directives of
the whole file, taken in from the top to the bottom. No text has as many as 2^53 characters. -/
theorem askAll_eq_ignore {tree : FileTree} {settings : TrackerSettings} {file : Wide}
    {text : String} (htext : tree.readText file = .ok text) (hheld : text.length < 2 ^ 53)
    {directives : List LineDirective} (hdirectives : settings.matcher.inLinesFrom 1
      (Text.fileLines text.toList) = .ok directives) (questions : List Question)
    (hquestions : ∀ question ∈ questions, question.range.file = file ∧
      question.range.Accepted ∧ question.range.IsExact) :
    (askAll { settings } tree questions).1 = questions.map fun question =>
      .ok ((Intervals.applyAll [] directives).ignore question.range question.origin) :=
  (sound_fresh tree settings).askAll_eq htext hheld hdirectives questions hquestions

theorem askAll_eq_ignore_ignoredLine :
    (askAll { settings := {} } (.single "a.py" "# ignore mypy\n") [
        ⟨.wholeFile "a.py", { analyzer := "pylint" }⟩,
        ⟨{ file := "a.py", span := some ⟨⟨1, 0⟩, ⟨1, 4⟩⟩ }, { analyzer := "mypy" }⟩]).1 =
      [.ok false, .ok true] := by
  have htext := FileTree.readText_single_script "# ignore mypy\n"
  have hdirectives : Matcher.standard.inLinesFrom 1 (Text.fileLines "# ignore mypy\n".toList) =
      .ok [⟨⟨.inline, [{ analyzer := "mypy" }]⟩, 1⟩] := by decide +kernel
  have hbetween : Range.between "a.py" ⟨1, 0⟩ ⟨1, 4⟩ =
      .ok { file := "a.py", span := some ⟨⟨1, 0⟩, ⟨1, 4⟩⟩ } := by decide
  refine (askAll_eq_ignore htext (by decide) hdirectives _ ?_).trans (by decide)
  intro question hmem
  simp only [List.mem_cons, List.not_mem_nil, or_false] at hmem
  rcases hmem with rfl | rfl
  · exact ⟨rfl, .wholeFile "a.py", fun span hspan => by simp [Range.wholeFile] at hspan⟩
  · refine ⟨rfl, .between hbetween, ?_⟩
    intro span hspan
    obtain rfl := Option.some.inj hspan
    exact ⟨⟨by decide, by decide⟩, ⟨by decide, by decide⟩⟩

end Tracker

end Suppression

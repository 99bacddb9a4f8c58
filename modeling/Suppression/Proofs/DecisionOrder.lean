import Suppression.Diagnostic.Input
import Suppression.Proofs.AlikeTrackers
import Suppression.Proofs.CountedRecord
import Suppression.Proofs.Deciding

namespace Suppression

open scoped List

namespace Diagnostic

/-- The finding ends at a column that is no greater than the last one of a line, 2^53 - 1. -/
def endsInLine (d : Diagnostic) : Bool :=
  match d.range with
  | .error _ => true
  | .ok range => range.span.all fun span => span.stop.column ≤ .lastExact

/-- Whether a finding is ignored, told by its file alone. -/
def settled (matcher : Matcher) (tree : FileTree) (d : Diagnostic) : Bool :=
  match d.range, tree.readText d.file with
  | .ok range, .ok text =>
      match matcher.inLinesFrom 1 (Text.fileLines text.toList) with
      | .ok directives => (Intervals.applyAll [] directives).settle range d.origin
      | .error _ => false
  | _, _ => false

/-- The matcher can tell every line of the finding's file, if the file can be read. -/
def Legible (matcher : Matcher) (tree : FileTree) (d : Diagnostic) : Prop :=
  ∀ text, tree.readText d.file = .ok text →
    ∃ directives, matcher.inLinesFrom 1 (Text.fileLines text.toList) = .ok directives

theorem exists_range_of_ofRecord {number : Nat} {record : Json} {d : Diagnostic}
    (h : ofRecord number record = .ok d) : ∃ range, d.range = .ok range := by
  unfold ofRecord at h
  split at h
  · split at h
    · simp at h
    · split at h
      · simp at h
      · next range hrange =>
          obtain rfl := Except.ok.inj h
          exact ⟨range, hrange⟩
  · simp at h

theorem exists_range_of_ofText {text : String} {diagnostics : List Diagnostic}
    (h : ofText text = .ok diagnostics) : ∀ d ∈ diagnostics, ∃ range, d.range = .ok range := by
  have hfrom {number : Nat} {records : List Json} {diagnostics : List Diagnostic}
      (h : ofRecordsFrom number records = .ok diagnostics) :
      ∀ d ∈ diagnostics, ∃ range, d.range = .ok range := by
    induction records generalizing number diagnostics with
    | nil =>
        obtain rfl := Except.ok.inj h
        simp
    | cons record rest ih =>
        simp only [ofRecordsFrom, bind, Except.bind] at h
        split at h
        · simp at h
        next first hfirst =>
        split at h
        · simp at h
        next others hothers =>
        obtain rfl := Except.ok.inj h
        exact List.forall_mem_cons.mpr ⟨exists_range_of_ofRecord hfirst, ih hothers⟩
  simp only [ofText, bind, Except.bind] at h
  split at h
  · simp at h
  · exact hfrom h

theorem decisions_map_ok (ignored : List Bool) :
    decisions (ignored.map .ok) = .ok ignored := by
  have hplaced : (ignored.map .ok : List (Except DecisionError Bool)).any isUnplaced = false := by
    simp [isUnplaced]
  have hall : (ignored.map .ok : List (Except DecisionError Bool)).mapM id = .ok ignored := by
    induction ignored with
    | nil => rfl
    | cons first rest ih =>
        rw [List.map_cons, List.mapM_cons, ih (by simp [isUnplaced])]
        rfl
  rw [decisions, hplaced]
  exact hall

variable {diagnostics : List Diagnostic} {decisions : List Bool} {p f : Diagnostic → Bool}

theorem withDecision_cons (ignored : Bool) (d : Diagnostic) (diagnostics : List Diagnostic)
    (decision : Bool) (decisions : List Bool) :
    withDecision ignored (d :: diagnostics) (decision :: decisions) =
      if decision = ignored then d :: withDecision ignored diagnostics decisions
      else withDecision ignored diagnostics decisions := by
  unfold withDecision
  rw [List.zip_cons_cons, List.filter_cons]
  by_cases h : decision = ignored <;> simp [h]

theorem sublist_withDecision (h : diagnostics.length = decisions.length) (ignored : Bool) :
    withDecision ignored diagnostics decisions <+ diagnostics := by
  have hentries : (diagnostics.zip decisions).filter (fun entry => entry.2 == ignored) <+
      diagnostics.zip decisions := List.filter_sublist
  have hfst := hentries.map Prod.fst
  rwa [List.map_fst_zip h.le] at hfst

theorem withDecision_perm (h : diagnostics.length = decisions.length) :
    withDecision false diagnostics decisions ++ withDecision true diagnostics decisions ~
      diagnostics := by
  induction diagnostics generalizing decisions with
  | nil => rfl
  | cons d rest ih =>
      cases decisions with
      | nil => simp at h
      | cons decision others =>
          have hrest := ih (Nat.succ.inj h)
          rw [withDecision_cons, withDecision_cons]
          cases decision with
          | false => exact hrest.cons d
          | true => exact List.perm_middle.trans (hrest.cons d)

theorem filter_withDecision
    (h : List.Forall₂ (fun d decision => p d = true → decision = f d) diagnostics decisions)
    (ignored : Bool) : (withDecision ignored diagnostics decisions).filter p =
      diagnostics.filter fun d => p d && f d == ignored := by
  induction h with
  | nil => rfl
  | @cons d decision rest others hd _ ih =>
      rw [withDecision_cons, List.filter_cons, ← ih]
      by_cases hp : p d = true
      · obtain rfl := hd hp
        by_cases hf : f d = ignored <;> simp [hp, hf]
      · by_cases hdecision : decision = ignored <;> simp [hp, hdecision]

end Diagnostic

namespace Tracker

variable {tree : FileTree} {tracker : Tracker} {range : Range}

theorem Sound.exists_isIgnored (h : tracker.Sound tree) {text : String}
    (htext : tree.readText range.file = .ok text) (hheld : text.length < 2 ^ 53)
    {directives : List LineDirective} (hdirectives : tracker.settings.matcher.inLinesFrom 1
      (Text.fileLines text.toList) = .ok directives) (origin : Origin) :
    ∃ ignored, (tracker.isIgnored tree range origin).1 = .ok ignored := by
  rcases h.isIgnored_cases range origin with
    ⟨error, after, -, hsource, -⟩ |
    ⟨text', record, line, result, known, after, htext', hknows, -, hline, hanswered, -, hrun⟩
  · rw [FileTree.source_of_readText htext] at hsource
    simp at hsource
  · obtain rfl : text = text' := Except.ok.inj (htext.symm.trans htext')
    rw [hrun]
    exact hanswered.exists_ok (hknows.counts hheld) (hknows.lineCount ▸ hline)
      (Record.Knows.lines_lt hheld) hdirectives

end Tracker

namespace Sorting

variable {tree : FileTree} {sorting : Sorting}

theorem exists_decide_settled (h : sorting.tracker.Sound tree) {d : Diagnostic} {range : Range}
    (hrange : d.range = .ok range)
    (hheld : ∀ text, tree.readText d.file = .ok text → text.length < 2 ^ 53)
    (hlegible : d.Legible sorting.tracker.settings.matcher tree) :
    ∃ ignored, (sorting.decide tree d).1 = .ok ignored ∧
      (d.endsInLine = true → ignored = d.settled sorting.tracker.settings.matcher tree) := by
  obtain ⟨hfile, haccepted⟩ := Diagnostic.accepted_of_range hrange
  cases htext : tree.readText d.file with
  | error e =>
      refine ⟨false, decide_of_unreadable h hrange htext, ?_⟩
      simp [Diagnostic.settled, hrange, htext]
  | ok text =>
      obtain ⟨directives, hdirectives⟩ := hlegible text htext
      have hlength := hheld text htext
      have hsettled : d.settled sorting.tracker.settings.matcher tree =
          (Intervals.applyAll [] directives).settle range d.origin := by
        simp only [Diagnostic.settled, hrange, htext, hdirectives]
      rw [← hfile] at htext
      obtain ⟨ignored, hanswer⟩ := h.exists_isIgnored htext hlength hdirectives d.origin
      refine ⟨ignored, decide_of_answer hrange hanswer, ?_⟩
      intro hends
      have hcolumn : ∀ span ∈ range.span, span.stop.column ≤ .lastExact := by
        intro span hspan
        simpa [Diagnostic.endsInLine, hrange, Option.mem_def.mp hspan] using hends
      rw [h.isIgnored_eq_settle htext hlength hdirectives haccepted hcolumn] at hanswer
      rw [hsettled]
      exact (Except.ok.inj hanswer).symm

theorem exists_decideAll_settled {matcher : Matcher} (h : sorting.tracker.Sound tree)
    (hmatcher : sorting.tracker.settings.matcher = matcher) {diagnostics : List Diagnostic}
    (hranges : ∀ d ∈ diagnostics, ∃ range, d.range = .ok range)
    (hheld : ∀ d ∈ diagnostics, ∀ text, tree.readText d.file = .ok text → text.length < 2 ^ 53)
    (hlegible : ∀ d ∈ diagnostics, d.Legible matcher tree) :
    ∃ decisions : List Bool, (sorting.decideAll tree diagnostics).1 = decisions.map .ok ∧
      List.Forall₂ (fun d decision => d.endsInLine = true → decision = d.settled matcher tree)
        diagnostics decisions := by
  -- Each decision leaves a sound tracker behind, and from any sound one the answer is the same.
  induction diagnostics generalizing sorting with
  | nil => exact ⟨[], rfl, .nil⟩
  | cons d rest ih =>
      obtain ⟨⟨range, hrange⟩, hranges'⟩ := List.forall_mem_cons.mp hranges
      obtain ⟨hlength, hheld'⟩ := List.forall_mem_cons.mp hheld
      obtain ⟨hlines, hlegible'⟩ := List.forall_mem_cons.mp hlegible
      subst hmatcher
      obtain ⟨ignored, hdecide, hsettled⟩ := exists_decide_settled h hrange hlength hlines
      obtain ⟨hsound, hlearns⟩ := decide_sound h hlength
      obtain ⟨decisions, hdecisions, hothers⟩ :=
        ih hsound (by rw [hlearns.settings]) hranges' hheld' hlegible'
      refine ⟨ignored :: decisions, ?_, .cons hsettled hothers⟩
      simp only [decideAll, List.map_cons, hdecide, hdecisions]

end Sorting

/-- Findings that have been read from a text are parted in any order and in any company, some of
them or all: each is on one side or the other, in the order in which they come, and those that end
within their line are on the side that their file alone puts them on. -/
theorem Diagnostic.partition_settled {text : String} {diagnostics others : List Diagnostic}
    (hread : ofText text = .ok diagnostics) (hothers : ∀ d ∈ others, d ∈ diagnostics)
    {tree : FileTree} (htree : tree.Holdable) {settings : TrackerSettings}
    (hlegible : ∀ d ∈ diagnostics, d.Legible settings.matcher tree) (verbose : Bool) :
    ∃ parted, (partition others { settings } tree verbose).1 = .ok parted ∧
      parted.kept <+ others ∧ parted.ignored <+ others ∧ parted.kept ++ parted.ignored ~ others ∧
      parted.kept.filter endsInLine = others.filter (fun d =>
        d.endsInLine && d.settled settings.matcher tree == false) ∧
      parted.ignored.filter endsInLine = others.filter (fun d =>
        d.endsInLine && d.settled settings.matcher tree == true) := by
  have hranges := exists_range_of_ofText hread
  have hfresh : ({ tracker := { settings }, verbose } : Sorting).tracker.Sound tree :=
    Tracker.sound_fresh tree settings
  have hmatcher : ({ tracker := { settings }, verbose } : Sorting).tracker.settings.matcher =
      settings.matcher := rfl
  obtain ⟨decided, hanswers, hsettled⟩ := Sorting.exists_decideAll_settled hfresh hmatcher
    (fun d hd => hranges d (hothers d hd)) (fun _ _ _ htext => htree.length_lt htext)
    (fun d hd => hlegible d (hothers d hd))
  have hlength := hsettled.length_eq
  have hparted : (partition others { settings } tree verbose).1 = .ok {
      kept := withDecision false others decided
      ignored := withDecision true others decided
      failedFiles := (Sorting.decideAll { tracker := { settings }, verbose } tree
        others).2.failedFiles } := by
    simp only [partition, hanswers, decisions_map_ok]
    rfl
  exact ⟨_, hparted, sublist_withDecision hlength false, sublist_withDecision hlength true,
    withDecision_perm hlength, filter_withDecision hsettled false,
    filter_withDecision hsettled true⟩

theorem Diagnostic.partition_settled_reversed :
    let tree := FileTree.single "a.py" "# ignore mypy\n"
    let text := "[\x7b\"file\":\"a.py\",\"analyzer\":\"mypy\",\"message\":\"m\",\"line\":1\x7d," ++
      "\x7b\"file\":\"a.py\",\"analyzer\":\"pylint\",\"message\":\"m\",\"line\":1\x7d]"
    ∃ diagnostics parted, ofText text = .ok diagnostics ∧
      (partition diagnostics.reverse { settings := {} } tree false).1 = .ok parted ∧
      parted.ignored.filter endsInLine =
        diagnostics.reverse.filter fun d => d.endsInLine && d.settled .standard tree == true := by
  intro tree text
  have haccepted : (ofText text).isOk = true := by decide +kernel
  obtain ⟨diagnostics, hread⟩ : ∃ diagnostics, ofText text = .ok diagnostics := by
    cases hread : ofText text with
    | error e => simp [hread, Except.isOk, Except.toBool] at haccepted
    | ok diagnostics => exact ⟨diagnostics, rfl⟩
  have hlegible : ∀ d ∈ diagnostics, d.Legible .standard tree :=
    fun _ _ text _ => Matcher.exists_standard_inLinesFrom 1 (Text.fileLines text.toList)
  obtain ⟨parted, hparted, -, -, -, -, hignored⟩ := partition_settled hread
    (fun _ hd => List.mem_reverse.mp hd) (FileTree.holdable_single (by decide +kernel))
    (show ∀ d ∈ diagnostics, d.Legible (TrackerSettings.matcher {}) tree from hlegible) false
  exact ⟨diagnostics, parted, hread, hparted, hignored⟩

/-- A finding beyond the last column of its line is ignored if it comes first, by the directive that
the search for it comes upon, but not if the whole file is known by then: the line as an interval
ends at its last column. -/
theorem Diagnostic.partition_beyond_last_column :
    let tree := FileTree.single "a.py" "# ignore mypy\n"
    let near : Diagnostic :=
      { file := "a.py", analyzer := "pylint", message := "m", line := some (.num 1) }
    let far : Diagnostic := { near with
      analyzer := "mypy", column := some (.num (.ofNat 9007199254740992)) }
    let sides (diagnostics : List Diagnostic) : Except DecisionError (List Wide × List Wide) :=
      (partition diagnostics { settings := {} } tree false).1.map fun parted =>
        (parted.kept.map Diagnostic.analyzer, parted.ignored.map Diagnostic.analyzer)
    sides [far, near] = .ok (["pylint"], ["mypy"]) ∧
      sides [near, far] = .ok (["pylint", "mypy"], []) := by
  intro tree near far sides
  have hread := Tracker.alike_read (FileTree.readText_single_script "# ignore mypy\n") {} none none
    rfl
  have hsides (diagnostics : List Diagnostic) := congrArg
    (Except.map fun parted => (parted.kept.map Diagnostic.analyzer,
      parted.ignored.map Diagnostic.analyzer)) (hread.partition diagnostics false)
  constructor
  · exact (hsides [far, near]).trans (by decide +kernel)
  · exact (hsides [near, far]).trans (by decide +kernel)

end Suppression

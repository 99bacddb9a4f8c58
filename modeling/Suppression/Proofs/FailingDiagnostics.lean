import Suppression.Proofs.DecisionOrder

namespace Suppression

open scoped List

namespace Diagnostic

/-- The finding has a range, and its file cannot be read. -/
def IsUnreadable (tree : FileTree) (d : Diagnostic) : Prop :=
  (∃ range, d.range = .ok range) ∧ ∃ error, tree.readText d.file = .error error

/-- The finding has no range, or its file cannot be read. -/
def fails (tree : FileTree) (d : Diagnostic) : Bool :=
  match d.range, tree.readText d.file with
  | .ok _, .ok _ => false
  | _, _ => true

end Diagnostic

namespace Sorting

variable {tree : FileTree} {sorting : Sorting} {d : Diagnostic}

/-- What a decision about a finding does: without a range nothing, in a file that cannot be read
the file is added to those, and otherwise a question is answered. -/
inductive Decides (tree : FileTree) (sorting : Sorting) (d : Diagnostic) : Bool → Sorting → Prop
  | unplaced {error : RangeError} {after : Sorting} : d.range = .error (.range error) →
      Tracker.Idles tree sorting.tracker after.tracker →
      after.failedFiles = sorting.failedFiles → Decides tree sorting d false after
  | unreadable {after : Sorting} : d.IsUnreadable tree →
      Tracker.Idles tree sorting.tracker after.tracker →
      after.failedFiles = (if d.file ∈ sorting.failedFiles then sorting.failedFiles
        else sorting.failedFiles ++ [d.file]) → Decides tree sorting d false after
  | answered {range : Range} {text : String} {ignored : Bool} {asked : Tracker} :
      d.range = .ok range → tree.readText d.file = .ok text →
      sorting.tracker.isIgnored tree range d.origin = (.ok ignored, asked) →
        Decides tree sorting d ignored { sorting with tracker := asked }

theorem failedFiles_note (sorting : Sorting) (text : Wide) :
    (sorting.note text).failedFiles = sorting.failedFiles := by
  unfold note
  split <;> rfl

theorem failedFiles_fail (sorting : Sorting) (e : AccessError) :
    (sorting.fail e).failedFiles = if e.file ∈ sorting.failedFiles then sorting.failedFiles
      else sorting.failedFiles ++ [e.file] := by
  unfold fail
  by_cases hknown : e.file ∈ sorting.failedFiles
  · rw [if_pos (List.contains_iff_mem.mpr hknown), if_pos hknown]
  · rw [if_neg (mt List.contains_iff_mem.mp hknown), if_neg hknown]

/-- The step lemma of decisions: there always is one, if what is no position can be named. -/
theorem exists_decides (h : sorting.tracker.Sound tree)
    (hmatcher : sorting.tracker.settings.matcher = .standard)
    (hheld : ∀ text, tree.readText d.file = .ok text → text.length < 2 ^ 53)
    (hnamed : d.range ≠ .error .noText) :
    ∃ ignored after, sorting.decide tree d = (.ok ignored, after) ∧
      sorting.Decides tree d ignored after := by
  cases hrange : d.range with
  | error e =>
      cases e with
      | noText => exact absurd hrange hnamed
      | range e =>
          refine ⟨false, sorting.note ("Reporting diagnostic in " ++ d.file ++ " unfiltered: " ++
            e.message), by simp only [decide, hrange], .unplaced hrange ?_ ?_⟩
          · exact idles_note tree sorting _
          · exact failedFiles_note sorting _
  | ok range =>
      obtain ⟨hfile, -⟩ := Diagnostic.accepted_of_range hrange
      cases htext : tree.readText d.file with
      | error error =>
          rcases h.isIgnored_cases range d.origin with ⟨failure, asked, -, hsource, hidle, hrun⟩ |
            ⟨text, record, line, result, known, after, htext', -⟩
          · have hfailure : failure.file = d.file := by
              rw [hfile, FileTree.source, htext] at hsource
              rw [← Except.error.inj hsource]
            refine ⟨false, { sorting with tracker := asked }.fail failure,
              by simp only [decide, hrange, hrun],
              .unreadable ⟨⟨range, hrange⟩, error, htext⟩ ?_ ?_⟩
            · exact hidle.trans (idles_fail tree { sorting with tracker := asked } failure)
            · rw [failedFiles_fail, hfailure]
          · simp [hfile, htext] at htext'
      | ok text =>
          obtain ⟨directives, hdirectives⟩ := Matcher.exists_standard_inLinesFrom 1
            (Text.fileLines text.toList)
          obtain ⟨ignored, hanswer⟩ := h.exists_isIgnored (hfile ▸ htext) (hheld text htext)
            (hmatcher ▸ hdirectives) d.origin
          rcases hask : sorting.tracker.isIgnored tree range d.origin with ⟨answer, asked⟩
          obtain rfl : answer = .ok ignored := by rw [← hanswer, hask]
          exact ⟨ignored, { sorting with tracker := asked },
            by simp only [decide, hrange, hask, Except.mapError], .answered hrange htext hask⟩

theorem Decides.fails {ignored : Bool} {after : Sorting} (h : sorting.Decides tree d ignored after)
    (hfails : d.fails tree = true) : ignored = false := by
  cases h with
  | unplaced _ _ _ => rfl
  | unreadable _ _ _ => rfl
  | answered hrange htext _ => simp [Diagnostic.fails, hrange, htext] at hfails

theorem Decides.nodup {ignored : Bool} {after : Sorting} (h : sorting.Decides tree d ignored after)
    (hnodup : sorting.failedFiles.Nodup) : after.failedFiles.Nodup := by
  cases h with
  | unplaced _ _ hsame => rwa [hsame]
  | answered _ _ _ => exact hnodup
  | unreadable _ _ hfailed =>
      rw [hfailed]
      split
      · exact hnodup
      · next hnew => exact List.concat_eq_append ▸ hnodup.concat hnew

theorem Decides.mem_failedFiles {ignored : Bool} {after : Sorting}
    (h : sorting.Decides tree d ignored after) (file : Wide) :
    file ∈ after.failedFiles ↔
      file ∈ sorting.failedFiles ∨ (d.file = file ∧ d.IsUnreadable tree) := by
  cases h with
  | unplaced hrange _ hsame => simp [hsame, Diagnostic.IsUnreadable, hrange]
  | answered _ htext _ => simp [Diagnostic.IsUnreadable, htext]
  | unreadable hunreadable _ hfailed =>
      rw [hfailed]
      split
      · next hknown =>
          refine ⟨Or.inl, ?_⟩
          rintro (hfile | ⟨rfl, -⟩)
          · exact hfile
          · exact hknown
      · simp [hunreadable, eq_comm]

theorem Decides.alike_of_fails {ignored : Bool} {after : Sorting}
    (h : sorting.Decides tree d ignored after) (hfails : d.fails tree = true) {other : Tracker}
    (halike : Tracker.Alike tree sorting.tracker other) :
    Tracker.Alike tree after.tracker other := by
  cases h with
  | unplaced _ hidle _ => exact halike.idles hidle (.refl tree other)
  | unreadable _ hidle _ => exact halike.idles hidle (.refl tree other)
  | answered hrange htext _ => simp [Diagnostic.fails, hrange, htext] at hfails

theorem Decides.alike {ignored : Bool} {after : Sorting} (h : sorting.Decides tree d ignored after)
    (hfails : d.fails tree = false) {other : Sorting}
    (halike : Tracker.Alike tree sorting.tracker other.tracker) :
    ∃ after', other.decide tree d = (.ok ignored, after') ∧
      Tracker.Alike tree after.tracker after'.tracker ∧ after'.failedFiles = other.failedFiles := by
  cases h with
  | unplaced hrange _ _ => simp [Diagnostic.fails, hrange] at hfails
  | unreadable hunreadable _ _ =>
      obtain ⟨⟨range, hrange⟩, error, htext⟩ := hunreadable
      simp [Diagnostic.fails, hrange, htext] at hfails
  | @answered range text _ asked hrange _ hask =>
      obtain ⟨hanswer, hafter⟩ := halike.isIgnored range d.origin
      rcases hask' : other.tracker.isIgnored tree range d.origin with ⟨answer, asked'⟩
      rw [hask, hask'] at hanswer hafter
      obtain rfl : Except.ok ignored = answer := hanswer
      exact ⟨{ other with tracker := asked' },
        by simp only [decide, hrange, hask', Except.mapError], hafter, rfl⟩

/-- The run lemma of decisions: all findings are decided, those that fail are reported, and their
files are told if they have a range. -/
theorem exists_decideAll (h : sorting.tracker.Sound tree)
    (hmatcher : sorting.tracker.settings.matcher = .standard) {diagnostics : List Diagnostic}
    (hheld : ∀ d ∈ diagnostics, ∀ text, tree.readText d.file = .ok text → text.length < 2 ^ 53)
    (hnamed : ∀ d ∈ diagnostics, d.range ≠ .error .noText) :
    ∃ decisions after, sorting.decideAll tree diagnostics = (decisions.map .ok, after) ∧
      List.Forall₂ (fun d ignored => d.fails tree = true → ignored = false) diagnostics decisions ∧
      (sorting.failedFiles.Nodup → after.failedFiles.Nodup) ∧
      ∀ file, file ∈ after.failedFiles ↔ file ∈ sorting.failedFiles ∨
        ∃ d ∈ diagnostics, d.file = file ∧ d.IsUnreadable tree := by
  induction diagnostics generalizing sorting with
  | nil => exact ⟨[], sorting, rfl, .nil, id, by simp⟩
  | cons d rest ih =>
      obtain ⟨hlength, hheld'⟩ := List.forall_mem_cons.mp hheld
      obtain ⟨hname, hnamed'⟩ := List.forall_mem_cons.mp hnamed
      obtain ⟨ignored, next, hdecide, hdecides⟩ := exists_decides h hmatcher hlength hname
      obtain ⟨hsound, hlearns⟩ := decide_sound h hlength
      rw [hdecide] at hsound hlearns
      obtain ⟨decisions, after, hall, hdecisions, hnodup, hmem⟩ :=
        ih hsound (hlearns.settings ▸ hmatcher) hheld' hnamed'
      refine ⟨ignored :: decisions, after, ?_, .cons hdecides.fails hdecisions,
        fun h => hnodup (hdecides.nodup h), fun file => ?_⟩
      · simp only [decideAll, hdecide, hall, List.map_cons]
      · rw [hmem, hdecides.mem_failedFiles, or_assoc, List.exists_mem_cons_iff]

/-- The run lemma of company: without the findings that fail, the others are decided as with them,
and no file is told. -/
theorem exists_decideAll_filter {other : Sorting} (h : sorting.tracker.Sound tree)
    (hmatcher : sorting.tracker.settings.matcher = .standard)
    (halike : Tracker.Alike tree sorting.tracker other.tracker) {diagnostics : List Diagnostic}
    (hheld : ∀ d ∈ diagnostics, ∀ text, tree.readText d.file = .ok text → text.length < 2 ^ 53)
    (hnamed : ∀ d ∈ diagnostics, d.range ≠ .error .noText) {decisions : List Bool}
    (hdecisions : (sorting.decideAll tree diagnostics).1 = decisions.map .ok) :
    ∃ others after, other.decideAll tree (diagnostics.filter fun d => !d.fails tree) =
        (others.map .ok, after) ∧ after.failedFiles = other.failedFiles ∧
      (diagnostics.filter fun d => !d.fails tree).zip others =
        (diagnostics.zip decisions).filter fun entry => !entry.1.fails tree := by
  induction diagnostics generalizing sorting other decisions with
  | nil =>
      obtain rfl : decisions = [] := List.map_eq_nil_iff.mp hdecisions.symm
      exact ⟨[], other, rfl, rfl, rfl⟩
  | cons d rest ih =>
      obtain ⟨hlength, hheld'⟩ := List.forall_mem_cons.mp hheld
      obtain ⟨hname, hnamed'⟩ := List.forall_mem_cons.mp hnamed
      obtain ⟨ignored, next, hdecide, hdecides⟩ := exists_decides h hmatcher hlength hname
      obtain ⟨hsound, hlearns⟩ := decide_sound h hlength
      rw [hdecide] at hsound hlearns
      have hmatcher' : next.tracker.settings.matcher = .standard := hlearns.settings ▸ hmatcher
      simp only [decideAll, hdecide] at hdecisions
      obtain ⟨_, later, rfl, hfirst, hlater⟩ := List.map_eq_cons_iff.mp hdecisions.symm
      obtain rfl := Except.ok.inj hfirst
      cases hfails : d.fails tree with
      | true =>
          have hskip : ((d :: rest).filter fun d => !d.fails tree) =
              rest.filter fun d => !d.fails tree := List.filter_cons_of_neg (by simp [hfails])
          obtain ⟨others, after, hall, hsame, hzip⟩ :=
            ih hsound hmatcher' (hdecides.alike_of_fails hfails halike) hheld' hnamed' hlater.symm
          rw [hskip, List.zip_cons_cons, List.filter_cons_of_neg (by simp [hfails])]
          exact ⟨others, after, hall, hsame, hzip⟩
      | false =>
          have hkeep : ((d :: rest).filter fun d => !d.fails tree) =
              d :: rest.filter fun d => !d.fails tree := List.filter_cons_of_pos (by simp [hfails])
          obtain ⟨next', hdecide', halike', hsame'⟩ := hdecides.alike hfails halike
          obtain ⟨others, after, hall, hsame, hzip⟩ :=
            ih hsound hmatcher' halike' hheld' hnamed' hlater.symm
          rw [hkeep, List.zip_cons_cons, List.filter_cons_of_pos (by simp [hfails]), ← hzip]
          refine ⟨_ :: others, after, ?_, hsame.trans hsame', rfl⟩
          simp only [decideAll, hdecide', hall, List.map_cons]

end Sorting

namespace Diagnostic

/-- Findings have been parted by these decisions, on a tracker that knows nothing and has no store.
-/
structure Parted (tree : FileTree) (settings : TrackerSettings) (verbose : Bool)
    (diagnostics : List Diagnostic) (decisions : List Bool) (parted : Partition) : Prop where
  decided : (Sorting.decideAll { tracker := { settings }, verbose } tree diagnostics).1 =
    decisions.map .ok
  result : (partition diagnostics { settings } tree verbose).1 = .ok parted
  kept : parted.kept = withDecision false diagnostics decisions
  ignored : parted.ignored = withDecision true diagnostics decisions

theorem parted_of_decideAll {tree : FileTree} {settings : TrackerSettings} {verbose : Bool}
    {diagnostics : List Diagnostic} {decisions : List Bool} {after : Sorting}
    (h : Sorting.decideAll { tracker := { settings }, verbose } tree diagnostics =
      (decisions.map .ok, after)) :
    Parted tree settings verbose diagnostics decisions {
      kept := withDecision false diagnostics decisions
      ignored := withDecision true diagnostics decisions
      failedFiles := after.failedFiles } := by
  refine ⟨by rw [h], ?_, rfl, rfl⟩
  simp only [partition, h, decisions_map_ok]
  rfl

/-- Each finding is on one side, in the order of all; those that fail are reported, and the files
that could not be read are told once each. -/
structure FailsOpen (tree : FileTree) (diagnostics : List Diagnostic) (decisions : List Bool)
    (parted : Partition) : Prop where
  kept_sublist : parted.kept <+ diagnostics
  ignored_sublist : parted.ignored <+ diagnostics
  perm : parted.kept ++ parted.ignored ~ diagnostics
  decisions : List.Forall₂ (fun d ignored => d.fails tree = true → ignored = false) diagnostics
    decisions
  mem_kept : ∀ d ∈ diagnostics, d.fails tree = true → d ∈ parted.kept
  nodup : parted.failedFiles.Nodup
  mem_failedFiles : ∀ file, file ∈ parted.failedFiles ↔
    ∃ d ∈ diagnostics, d.file = file ∧ d.IsUnreadable tree

/-- Findings are parted openly if what is no position in them can be named at least, and without
those that fail the others are decided as with them. -/
theorem exists_parted_failsOpen {tree : FileTree} (htree : tree.Holdable)
    {diagnostics : List Diagnostic} (hnamed : ∀ d ∈ diagnostics, d.range ≠ .error .noText)
    (reports verbose : Bool) :
    ∃ decisions parted, Parted tree { verbose := reports } verbose diagnostics decisions parted ∧
      FailsOpen tree diagnostics decisions parted ∧
      ∃ others remaining, Parted tree { verbose := reports } verbose
          (diagnostics.filter fun d => !d.fails tree) others remaining ∧
        remaining.failedFiles = [] ∧
        (diagnostics.filter fun d => !d.fails tree).zip others =
          (diagnostics.zip decisions).filter fun entry => !entry.1.fails tree := by
  have hfresh : ({ tracker := { settings := { verbose := reports } }, verbose } :
      Sorting).tracker.Sound tree := Tracker.sound_fresh tree _
  have hheld : ∀ d ∈ diagnostics, ∀ text, tree.readText d.file = .ok text →
      text.length < 2 ^ 53 := fun _ _ _ htext => htree.length_lt htext
  have halike : Tracker.Alike tree { settings := { verbose := reports } }
      { settings := { verbose := reports } } :=
    ⟨rfl, rfl, rfl, Reader.reflects_empty tree, Reader.reflects_empty tree⟩
  obtain ⟨decisions, after, hall, hdecisions, hnodup, hmem⟩ :=
    Sorting.exists_decideAll hfresh rfl hheld hnamed
  have hdecided := congrArg Prod.fst hall
  obtain ⟨others, remaining, hothers, hsame, hzip⟩ := @Sorting.exists_decideAll_filter tree
    { tracker := { settings := { verbose := reports } }, verbose }
    { tracker := { settings := { verbose := reports } }, verbose } hfresh rfl halike diagnostics
    hheld hnamed decisions hdecided
  have hlength := hdecisions.length_eq
  refine ⟨decisions, _, parted_of_decideAll hall, ?_, others, _, parted_of_decideAll hothers, hsame,
    hzip⟩
  refine ⟨sublist_withDecision hlength false, sublist_withDecision hlength true,
    withDecision_perm hlength, hdecisions, ?_, hnodup List.nodup_nil, fun file => ?_⟩
  · intro d hd hfails
    have hfiltered := filter_withDecision (p := fails tree) (f := fun _ => false) hdecisions false
    have hreported : d ∈ (withDecision false diagnostics decisions).filter (fails tree) := by
      rw [hfiltered]
      exact List.mem_filter.mpr ⟨hd, by simp [hfails]⟩
    exact (List.mem_filter.mp hreported).1
  · rw [hmem]
    simp

/-- One finding of a file that is missing, one on line zero, and one that is ignored. -/
theorem exists_parted_failsOpen_missingFile :
    let tree := FileTree.single "a.py" "# ignore mypy\n"
    let found : Diagnostic := { file := "a.py", analyzer := "mypy", message := "m" }
    let diagnostics := [{ found with file := "b.py" }, { found with line := some (.num 0) },
      { found with line := some (.num 1) }]
    ∃ decisions parted, Parted tree {} true diagnostics decisions parted ∧
      FailsOpen tree diagnostics decisions parted := by
  intro tree found diagnostics
  have htree : tree.Holdable := FileTree.holdable_single (by decide +kernel)
  have hnamed : ∀ d ∈ diagnostics, d.range ≠ .error .noText := by decide +kernel
  obtain ⟨decisions, parted, hparted, hopen, -⟩ := exists_parted_failsOpen htree hnamed false true
  exact ⟨decisions, parted, hparted, hopen⟩

/-- A line that is no number and has no text either keeps all findings from being parted. -/
theorem partition_unnamableLine :
    let found : Diagnostic := { file := "a.py", analyzer := "mypy", message := "m" }
    (partition [{ found with line := some (.obj [("toString", .num 1)]) }] { settings := {} }
      (.single "a.py" "# ignore mypy\n") false).1 = .error .noText := rfl

end Diagnostic

end Suppression

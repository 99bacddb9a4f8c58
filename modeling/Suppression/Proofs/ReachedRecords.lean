import Suppression.Proofs.LazyScanning

namespace Suppression

open scoped List

/-- The record holds what the first lines of a file say, up to a given one, and of the lines beyond
it some directives for their own lines. -/
structure Record.Represents (matcher : Matcher) (lines : List (List Char)) (line : Nat)
    (record : Record) : Prop where
  lineCount : record.lineCount = lines.length
  watermark : record.watermark = .ofNat line
  line_le : line ≤ record.lineCount
  sorted : record.intervals.IsSorted
  parts : ∃ directives, ∃ ahead : List LineDirective,
    matcher.inLinesFrom 1 (lines.take line) = .ok directives ∧
    record.intervals ~ Intervals.applyAll [] directives ++ ahead.map LineDirective.ownLine ∧
      ∀ directive ∈ ahead, directive.kind = .inline ∧ ∃ number, line < number ∧
        number ≤ record.lineCount ∧ matcher.Finds lines number directive.toDirective ∧
          directive.line = .ofNat number
  ownLines : record.intervals.ownLines.Nodup
  starts : ∀ interval ∈ record.intervals, interval.origin = .start →
    ∃ first, interval.startLine = .ofNat first ∧ 1 ≤ first ∧ first ≤ line + 1 ∧
      (interval.endLine = .unbounded ∨
        ∃ last, interval.endLine = .line (.ofNat last) ∧ first ≤ last ∧ last ≤ line)

theorem Intervals.nodup_ownLines_applyAll {matcher : Matcher} {lines : List (List Char)}
    {directives : List LineDirective} {number : Nat}
    (h : matcher.inLinesFrom number lines = .ok directives) {intervals : Intervals}
    (hnodup : intervals.ownLines.Nodup) : (intervals.applyAll directives).ownLines.Nodup := by
  have hlines : ∀ directive ∈ directives, ∃ n, directive.line = .ofNat n := by
    intro directive hmem
    obtain ⟨n, -, -, hn⟩ := Matcher.exists_number_of_mem h hmem
    exact ⟨n, hn⟩
  clear h
  induction directives generalizing intervals with
  | nil => exact hnodup
  | cons directive rest ih =>
      obtain ⟨⟨n, hn⟩, hrest⟩ := List.forall_mem_cons.mp hlines
      exact ih (nodup_ownLines_apply hnodup hn) hrest

theorem Intervals.Tell.nodup_ownLines {matcher : Matcher} {lines : List (List Char)} {line : Nat}
    {intervals : Intervals} (h : intervals.Tell matcher lines line)
    (hlines : lines.length < 2 ^ 53) (hline : line ≤ lines.length) :
    intervals.ownLines.Nodup := by
  obtain ⟨directives, ahead, hdirectives, hahead, hperm⟩ := h.parts
  have hown : ownLines (ahead.map LineDirective.ownLine) = ahead.map LineDirective.line := by
    rw [ownLines, List.filterMap_map, ← List.filterMap_eq_map]
    rfl
  rw [(ownLines_perm hperm).nodup_iff, ownLines_append, hown]
  refine List.nodup_append.mpr
    ⟨nodup_ownLines_applyAll hdirectives List.nodup_nil, hahead.distinct, ?_⟩
  intro number hbefore _ hlater rfl
  obtain ⟨interval, hmem, horigin, rfl⟩ := mem_ownLines.mp hbefore
  obtain ⟨directive, hdirective, hdirective'⟩ := List.mem_map.mp hlater
  obtain ⟨-, later, hlt, -, hlater'⟩ := hahead.found directive hdirective
  cases within_applyAll hlines hline hdirectives interval hmem with
  | unclosed targets _ _ => simp [Interval.opened] at horigin
  | closed targets _ _ _ => simp [Interval.opened] at horigin
  | inline targets _ hown =>
      rw [hlater'] at hdirective'
      obtain rfl := Number.ofNat_inj.mp hdirective'
      omega

theorem Record.Knows.exists_represents {matcher : Matcher} {text : String} {record : Record}
    (h : record.Knows matcher text) (hheld : text.length < 2 ^ 53) :
    ∃ line, record.Represents matcher (Text.fileLines text.toList) line := by
  obtain ⟨line, hline, hwatermark, htell⟩ := h.watermark
  have hlines := lines_lt hheld
  have hline' : line ≤ (Text.fileLines text.toList).length := h.lineCount ▸ hline
  obtain ⟨directives, ahead, hdirectives, hahead, hperm⟩ := htell.parts
  refine ⟨line, h.lineCount, hwatermark, hline, htell.sorted,
    ⟨directives, ahead, hdirectives, hperm, fun directive hmem => ?_⟩,
    htell.nodup_ownLines hlines hline', fun interval hmem horigin => ?_⟩
  · obtain ⟨hkind, number, hlt, hfinds, hnumber⟩ := hahead.found directive hmem
    exact ⟨hkind, number, hlt, h.lineCount ▸ hfinds.le_length, hfinds, hnumber⟩
  · rcases List.mem_append.mp (hperm.mem_iff.mp hmem) with hbefore | hlater
    · cases Intervals.within_applyAll hlines hline' hdirectives interval hbefore with
      | unclosed targets hpos hle => exact ⟨_, rfl, hpos, hle, Or.inl rfl⟩
      | closed targets hpos hordered hle =>
          exact ⟨_, rfl, hpos, by omega, Or.inr ⟨_, rfl, hordered, hle⟩⟩
      | inline targets _ _ => simp [Interval.oneLine] at horigin
    · obtain ⟨directive, -, rfl⟩ := List.mem_map.mp hlater
      simp [LineDirective.ownLine, Interval.oneLine] at horigin

mutual

/-- The states of a tracker that questions lead to while the files stay as they are. At first
nothing is known, and what the store has for the contents of files was kept of such states. -/
inductive Tracker.Reached (matcher : Matcher) : FileTree → Tracker → Prop
  | start {tree : FileTree} {settings : TrackerSettings} {store : Option Store} :
      tree.Holdable → settings.matcher = matcher →
      (∀ cache file entry text, Tracker.stored { settings, store } tree = some (.ok cache) →
        cache.get? file = some entry → tree.readText file = .ok text →
          entry.fingerprint = Text.fingerprint text → CacheEntry.Persisted matcher text entry) →
      Tracker.Reached matcher tree { settings, store }
  | ask {tree : FileTree} {tracker : Tracker} (range : Range) (origin : Origin) :
      Tracker.Reached matcher tree tracker →
        Tracker.Reached matcher tree (tracker.isIgnored tree range origin).2

/-- An entry that was kept of what such a state knew about a content. -/
inductive CacheEntry.Persisted (matcher : Matcher) : String → CacheEntry → Prop
  | intro {tree : FileTree} {tracker : Tracker} {file : Wide} {text : String} {record : Record} :
      Tracker.Reached matcher tree tracker → tracker.records.get? file = some record →
        tree.readText file = .ok text → CacheEntry.Persisted matcher text record.entry

end

theorem Tracker.Reached.fresh {matcher : Matcher} {tree : FileTree} {settings : TrackerSettings}
    (hheld : tree.Holdable) (hmatcher : settings.matcher = matcher) :
    Tracker.Reached matcher tree { settings } := by
  refine .start hheld hmatcher ?_
  intro cache file entry text hcache
  simp [Tracker.stored] at hcache

mutual

theorem Tracker.Reached.sound {matcher : Matcher} {tree : FileTree} {tracker : Tracker} :
    tracker.Reached matcher tree →
      tree.Holdable ∧ tracker.settings.matcher = matcher ∧ tracker.Sound tree
  | .start hheld hmatcher hstored => by
      refine ⟨hheld, hmatcher, Reader.reflects_empty tree, ?_, ?_⟩
      · intro file record hrecord
        simp [Entries.get?] at hrecord
      · intro cache file entry text hcache hentry htext hfingerprint
        rw [hmatcher]
        exact (hstored cache file entry text hcache hentry htext hfingerprint).exists_knows
  | .ask range origin h => by
      obtain ⟨hheld, hmatcher, hsound⟩ := h.sound
      obtain ⟨hafter, hlearns⟩ := hsound.isIgnored (fun _ => hheld.length_lt) origin
      exact ⟨hheld, hlearns.settings ▸ hmatcher, hafter⟩

theorem CacheEntry.Persisted.exists_knows {matcher : Matcher} {text : String}
    {entry : CacheEntry} : entry.Persisted matcher text →
      ∃ record : Record, record.Knows matcher text ∧ record.entry = entry
  | .intro h hrecord htext => by
      obtain ⟨-, hmatcher, hsound⟩ := h.sound
      obtain ⟨text', htext', hknows⟩ := hsound.records _ _ hrecord
      obtain rfl := Except.ok.inj (htext.symm.trans htext')
      exact ⟨_, hmatcher ▸ hknows, rfl⟩

end

/-- Whatever has been asked, with an answer or without one, every record represents the first lines
of its file. -/
theorem Tracker.Reached.represents {matcher : Matcher} {tree : FileTree} {tracker : Tracker}
    (h : tracker.Reached matcher tree) {file : Wide} {record : Record}
    (hrecord : tracker.records.get? file = some record) :
    ∃ text line, tree.readText file = .ok text ∧
      record.Represents matcher (Text.fileLines text.toList) line := by
  obtain ⟨hheld, hmatcher, hsound⟩ := h.sound
  obtain ⟨text, htext, hknows⟩ := hsound.records file record hrecord
  obtain ⟨line, hrepresents⟩ := hknows.exists_represents (hheld.length_lt htext)
  exact ⟨text, line, htext, hmatcher ▸ hrepresents⟩

theorem Tracker.Reached.represents_ignoredLine :
    ∃ record, (isIgnored { settings := {} } (.single "a.py" "# ignore mypy\n")
        (.wholeFile "a.py") { analyzer := "pylint" }).2.records.get? "a.py" = some record ∧
      ∃ text line, (FileTree.single "a.py" "# ignore mypy\n").readText "a.py" = .ok text ∧
        record.Represents .standard (Text.fileLines text.toList) line := by
  have hstart : Reached .standard (.single "a.py" "# ignore mypy\n") { settings := {} } :=
    .fresh (FileTree.holdable_single (by decide +kernel)) rfl
  rcases hstart.sound.2.2.isIgnored_cases (.wholeFile "a.py") { analyzer := "pylint" } with
    ⟨error, after, -, hsource, -⟩ |
    ⟨text, record, line, result, known, after, -, -, -, -, -, hidle, hrun⟩
  · have hreadable := FileTree.source_of_readText
      (FileTree.readText_single_script "# ignore mypy\n")
    exact absurd (hreadable.symm.trans hsource) (by simp)
  · have hknown : after.records.get? "a.py" = some known := by
      rw [hidle.records, Entries.get?_put]
      rfl
    have hask := hstart.ask (.wholeFile "a.py") { analyzer := "pylint" }
    rw [hrun] at hask ⊢
    exact ⟨known, hknown, hask.represents hknown⟩

end Suppression

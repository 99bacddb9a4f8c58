import Suppression.Proofs.SavedRun

namespace Suppression

mutual

/-- What becomes of a tracker that keeps what it finds out in a cache file, and of the files, while
it is asked about some sources that stay as they are. Nobody but the tracker changes the cache. -/
inductive Tracker.Works : String → Set Wide → FileTree → Tracker → Prop
  | start {path : String} {sources : Set Wide} {tree : FileTree} {settings : TrackerSettings}
      (verbose : Bool) : settings.matcher = .standard → tree.CacheFound path →
      (∀ file ∈ sources, ∀ text, tree.readText file = .ok text → text.length < 2 ^ 53) →
        Tracker.Works path sources tree { settings, store := some { path, verbose } }
  | ask {path : String} {sources : Set Wide} {tree : FileTree} {tracker : Tracker}
      (range : Range) (origin : Origin) : Tracker.Works path sources tree tracker →
      range.file ∈ sources →
        Tracker.Works path sources tree (tracker.isIgnored tree range origin).2
  | persist {path : String} {sources : Set Wide} {tree written : FileTree}
      {tracker saved : Tracker} {result : Except FileError Unit} :
      Tracker.Works path sources tree tracker → tracker.persist tree = (result, written, saved) →
      (∀ file ∈ sources, written.readText file = tree.readText file) →
        Tracker.Works path sources written saved
  | edit {path : String} {sources : Set Wide} {tree later : FileTree} {tracker : Tracker} :
      Tracker.Works path sources tree tracker →
      (∀ file ∈ sources, later.readText file = tree.readText file) →
      later.readText path = tree.readText path → Tracker.Works path sources later tracker

/-- A cache file that is missing, or as such a tracker has left it when it had persisted what it
knew. -/
inductive FileTree.CacheFound : FileTree → String → Prop
  | missing {tree : FileTree} {path : String} {error : FileError} :
      tree.readText path = .error error → error.code? = some .noEntry →
        FileTree.CacheFound tree path
  | written {path other : String} {sources : Set Wide} {tree written later : FileTree}
      {tracker saved : Tracker} : Tracker.Works other sources tree tracker →
      tracker.persist tree = (.ok (), written, saved) →
      later.readText path = written.readText other → FileTree.CacheFound later path

end

mutual

theorem Tracker.Works.exists_saves {path : String} {sources : Set Wide} {tree : FileTree}
    {tracker : Tracker} : tracker.Works path sources tree →
      ∃ cache, tracker.Saves path sources tree cache
  | .start verbose hmatcher hfound hlength => by
      obtain ⟨served, hserves, hstorable⟩ := hfound.exists_serves
      obtain ⟨cache, hstocks, -⟩ := Store.exists_stocks hserves hstorable verbose
      refine ⟨cache, hmatcher, hlength, Reader.reflects_empty tree, fun _ _ => ⟨rfl, rfl⟩,
        ⟨_, rfl, hstocks⟩, ?_⟩
      intro file record hrecord
      simp [Entries.get?] at hrecord
  | .ask range origin h hfile => by
      obtain ⟨cache, hsaves⟩ := h.exists_saves
      exact ⟨cache, hsaves.isIgnored hfile origin⟩
  | .persist h hpersist hsources => by
      obtain ⟨cache, hsaves⟩ := h.exists_saves
      obtain ⟨-, kept, -, -, -, hlater⟩ := hsaves.persist hpersist
      exact ⟨kept, hlater _ hsources rfl⟩
  | .edit h hsources hpath => by
      obtain ⟨cache, hsaves⟩ := h.exists_saves
      obtain ⟨store, hstore, hstocks⟩ := hsaves.stocks
      exact ⟨cache, hsaves.move hsources rfl rfl rfl ⟨store, hstore, hstocks.edit hpath⟩⟩

theorem FileTree.CacheFound.exists_serves {tree : FileTree} {path : String} :
    tree.CacheFound path → ∃ cache, tree.Serves path cache ∧ cache.IsStorable
  | .missing herror hcode => ⟨[], FileTree.serves_of_missing herror hcode, Cache.Holds.empty _⟩
  | .written h hpersist hpath => by
      obtain ⟨cache, hsaves⟩ := h.exists_saves
      obtain ⟨-, kept, ⟨store, -, hstocks⟩, hserves, -⟩ := hsaves.persist hpersist
      refine ⟨kept, ?_, hstocks.storable⟩
      rw [FileTree.Serves, FileTree.cacheAt_congr hpath]
      exact hserves rfl

end

namespace Tracker

/-- After all has been persisted, and while the sources stay as they are, a new tracker over the
same cache file answers all further questions as the old one does. It reads the same lines, in the
same order, and knows the same of a file after each question about it. What was known when it was
persisted is not read again, nor what the cache holds for the content of any other file. -/
theorem Works.continued {path : String} {sources : Set Wide} {tree written later : FileTree}
    {tracker saved : Tracker} (h : tracker.Works path sources tree)
    (hpersist : tracker.persist tree = (.ok (), written, saved))
    (hsources : ∀ file ∈ sources, later.readText file = tree.readText file)
    (hcache : later.readText path = written.readText path) {settings : TrackerSettings}
    (hmatcher : settings.matcher = .standard) (verbose : Bool) (questions : List Question) :
    let fresh : Tracker := { settings, store := some { path, verbose } }
    let asked := fresh.askAll later questions
    asked.1 = (saved.askAll later questions).1 ∧
      (saved.askAll later questions).2.reads = saved.reads ++ asked.2.reads ∧
      (∀ question ∈ questions, asked.2.snapshotOf? question.range.file =
        (saved.askAll later questions).2.snapshotOf? question.range.file) ∧
      (∀ file snapshot, saved.snapshotOf? file = some snapshot →
        ∀ read ∈ asked.2.reads, read.1 = file → snapshot.watermark < .ofNat read.2) ∧
      ∀ file text snapshot, later.readText file = .ok text →
        (fresh.load later file (Text.fingerprint text)).1 = .ok (some snapshot) →
          ¬ Number.ofNat (Text.fileLines text.toList).length < snapshot.watermark →
            ∀ read ∈ asked.2.reads, read.1 = file → snapshot.watermark < .ofNat read.2 := by
  intro fresh asked
  obtain ⟨cache, hsaves⟩ := h.exists_saves
  obtain ⟨-, kept, -, hserves, hunchanged, hlater⟩ := hsaves.persist hpersist
  have hsaved := hlater later hsources hcache
  have hserves' : later.Serves path kept := by
    rw [FileTree.Serves, FileTree.cacheAt_congr hcache]
    exact hserves rfl
  have hresumes (file : Wide) : Resumes later file saved fresh :=
    hsaved.resumes hunchanged hserves' hmatcher verbose file
  obtain ⟨hanswers, ⟨news, hnews, hfresh⟩, -, halike⟩ :=
    @Resumes.askAll later saved fresh (fun _ => True) questions (fun file _ => hresumes file)
      fun _ _ => trivial
  have hreads : asked.2.reads = news := hfresh.trans (List.nil_append news)
  -- What the new tracker makes out about a file at first, it does not read again.
  have hbeyond {file : Wide} {record : Record}
      (hresolved : fresh.resolved later file = .ok record) :
      ∀ read ∈ asked.2.reads, read.1 = file → record.watermark < .ofNat read.2 := by
    rw [(hresumes file).resolved] at hresolved
    obtain ⟨text, -, hbacked⟩ :=
      hsaved.carries.of_resolved (Record.backed_cold kept) hresolved
    obtain ⟨line, -, hline⟩ := hbacked.fits.watermark
    obtain ⟨same, hsame, hall⟩ := reads_beyond_resolved hresolved hline questions
    obtain rfl : news = same := List.append_cancel_left (hnews.symm.trans hsame)
    intro read hmem hfile
    rw [hline, Number.ofNat_lt_ofNat]
    exact hall read (hreads ▸ hmem) hfile
  refine ⟨hanswers.symm, hreads ▸ hnews, fun question hmem => ?_, fun file snapshot hknown => ?_,
    fun file text snapshot htext hload hwithin => ?_⟩
  · have hsame := (halike question.range.file (Or.inr ⟨question, hmem, rfl⟩)).record
    exact congrArg (Option.map Record.snapshot) hsame
  · obtain ⟨record, hrecord, rfl⟩ := Option.map_eq_some_iff.mp hknown
    exact hbeyond ((hresumes file).resolved.trans (resolved_of_get? hrecord later))
  · have hsource : (fresh.reader.source later file).1 = .ok (Source.ofText text) :=
      ((Reader.reflects_empty later).source file).1.trans (FileTree.source_of_readText htext)
    have hfirst : Record.first (Text.fingerprint text) (Source.ofText text).lines.size
        (fresh.load later file (Text.fingerprint text)).1 =
          .ofSnapshot (Text.fingerprint text) (Source.ofText text).lines.size snapshot := by
      rw [hload, Source.size_ofText]
      simp only [Record.first, usable?, hwithin, if_false]
    exact hbeyond ((resolved_of_source rfl hsource).trans (congrArg Except.ok hfirst))

/-- A tracker that has read a file to its end has persisted what it knows. -/
theorem Works.continued_ignoredLine :
    let tree := FileTree.single "a.py" "# ignore mypy\n"
    let tracker : Tracker := (isIgnored { settings := {}, store := some { path := "c" } } tree
      (.wholeFile "a.py") { analyzer := "pylint" }).2
    let questions : List Question := [
      ⟨{ file := "a.py", span := some ⟨⟨1, 0⟩, ⟨1, 4⟩⟩ }, { analyzer := "mypy" }⟩]
    let fresh : Tracker := { settings := { verbose := true }, store := some { path := "c" } }
    ∃ written saved, tracker.persist tree = (.ok (), written, saved) ∧
      (fresh.askAll written questions).1 = (saved.askAll written questions).1 ∧
      ∀ read ∈ (fresh.askAll written questions).2.reads, read.1 = "a.py" →
        Number.ofNat 1 < .ofNat read.2 := by
  intro tree tracker questions fresh
  have htext := FileTree.readText_single_script "# ignore mypy\n"
  have hmissing := FileTree.readText_single_other "# ignore mypy\n"
  have hworks : tracker.Works "c" {↑"a.py"} tree := by
    refine .ask (.wholeFile "a.py") _ (.start false rfl (.missing hmissing rfl) ?_) rfl
    intro file _ text hread
    obtain rfl := FileTree.eq_of_readText_single hread
    decide
  obtain ⟨cache, hsaves⟩ := hworks.exists_saves
  obtain ⟨written, saved, hpersist, hsources⟩ := hsaves.exists_persist fun content => by
    refine ⟨_, FileTree.writeWithParents_single_other _ content, fun file hfile => ?_⟩
    obtain rfl := Set.mem_singleton_iff.mp hfile
    exact (FileTree.readText_script rfl rfl).trans htext.symm
  have hknown : saved.snapshotOf? "a.py" =
      some { watermark := .ofNat 1, intervals := [.oneLine 1 [{ analyzer := "mypy" }]] } := by
    have hsnapshot := snapshotOf?_persist tracker tree "a.py"
    have halike := alike_opened ((Reader.reflects_empty tree).hold htext) {}
      (FileTree.cacheAt_of_missing hmissing rfl) false
    have hafter := (halike.isIgnored (.wholeFile "a.py") { analyzer := "pylint" }).2
    rw [hpersist] at hsnapshot
    rw [hsnapshot, snapshotOf?, ← hafter.records]
    decide +kernel
  obtain ⟨hanswers, -, -, hbeyond, -⟩ :=
    hworks.continued hpersist hsources rfl (@rfl _ (TrackerSettings.matcher { verbose := true }))
      false questions
  exact ⟨written, saved, hpersist, hanswers, hbeyond "a.py" _ hknown⟩

end Tracker

end Suppression

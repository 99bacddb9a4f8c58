import Suppression.Proofs.ReloadedCache
import Suppression.Proofs.Resuming

/-!
Runs that keep what they find out. What a tracker knows is backed by the cache that its store has
(`Record.Backed`), apart from what has changed since it was handed over; questions keep that
(`Tracker.Saves.isIgnored`), and so does persisting (`Tracker.Saves.exists_persist`). When all has
been written, a new tracker makes out the same about every file (`Tracker.Saves.resumes`).
-/

namespace Suppression

/-- What is known about a file fits its content and may be kept, and the cache has it unless it has
changed. -/
structure Record.Backed (cache : Cache) (file : Wide) (text : String) (record : Record) : Prop where
  fits : record.Fits text
  fingerprint : record.fingerprint = Text.fingerprint text
  storable : record.IsStorable
  entry : record.changed = false → cache.get? file = some record.entry

namespace Record

variable {cache : Cache} {file : Wide} {text : String} {record : Record} {entry : CacheEntry}

theorem backed_cold (cache : Cache) (file : Wide) (text : String) :
    Backed cache file text (.cold (Text.fingerprint text) (Text.fileLines text.toList).length) :=
  ⟨fits_cold text, rfl, isStorable_cold text _, nofun⟩

theorem backed_ofSnapshot (h : cache.IsStorable) (hentry : cache.get? file = some entry)
    (hsame : entry.fingerprint = Text.fingerprint text)
    (hpast : ¬ Number.ofNat (Text.fileLines text.toList).length < entry.snapshot.watermark) :
    Backed cache file text
      (.ofSnapshot (Text.fingerprint text) (Text.fileLines text.toList).length entry.snapshot) := by
  obtain ⟨record, hrecord, heq⟩ := h.entries (file, entry) (Entries.mem_of_get? hentry)
  obtain rfl : record.entry = entry := heq
  obtain ⟨line, hline, hwatermark, hplaced⟩ := hrecord.placed
  have hle : line ≤ (Text.fileLines text.toList).length := by
    change ¬ Number.ofNat _ < record.watermark at hpast
    rwa [hwatermark, Number.ofNat_lt_ofNat, not_lt] at hpast
  refine ⟨⟨rfl, line, hle, hwatermark⟩, rfl, ?_, fun _ => ?_⟩
  · exact ⟨Text.fingerprint_ne_empty text, ⟨line, hline, hwatermark, hplaced⟩, hrecord.targets⟩
  · exact hentry.trans
      (congrArg (fun fingerprint => some { record.entry with fingerprint }) hsame)

theorem Backed.first_eq (h : record.Backed cache file text) (hchanged : record.changed = false) :
    Record.first (Text.fingerprint text) (Text.fileLines text.toList).length
      (.ok (some record.snapshot)) = record := by
  obtain ⟨line, hline, hwatermark⟩ := h.fits.watermark
  have hpast : ¬ Number.ofNat (Text.fileLines text.toList).length < record.snapshot.watermark := by
    change ¬ Number.ofNat _ < record.watermark
    rw [hwatermark, Number.ofNat_lt_ofNat, not_lt, ← h.fits.lineCount]
    exact hline
  simp only [first, usable?, hpast, if_false]
  rw [← h.fingerprint, ← h.fits.lineCount, ofSnapshot, ← hchanged]
  rfl

theorem Backed.saved (h : record.Backed cache file text) :
    Backed (cache.put file record.entry) file text { record with changed := false } := by
  refine ⟨⟨h.fits.lineCount, h.fits.watermark⟩, h.fingerprint, ?_, fun _ => ?_⟩
  · exact ⟨h.storable.fingerprint, h.storable.placed, h.storable.targets⟩
  · rw [Entries.get?_put, if_pos rfl]
    rfl

theorem Backed.put (h : record.Backed cache file text) {other : Wide} (hne : file ≠ other)
    (entry : CacheEntry) : Backed (cache.put other entry) file text record := by
  refine ⟨h.fits, h.fingerprint, h.storable, fun hunchanged => ?_⟩
  rw [Entries.get?_put, if_neg hne]
  exact h.entry hunchanged

end Record

namespace Answered

variable {matcher : Matcher} {lines : List (List Char)} {record known : Record} {line : Nat}
  {range : Range} {origin : Origin} {result : Except QueryError Bool}

theorem eq_or_changed (h : Answered matcher lines record line range origin result known) :
    known = record ∨ known.changed = true ∧ known.fingerprint = record.fingerprint := by
  cases h with
  | covered _ _ => exact Or.inl rfl
  | faulty _ _ => exact Or.inl rfl
  | looked _ _ _ => exact Or.inl rfl
  | failed _ => exact Or.inl rfl
  | mentioned _ _ => exact Or.inl rfl
  | inline _ _ => exact Or.inr ⟨rfl, rfl⟩
  | committed _ _ _ => exact Or.inr ⟨rfl, rfl⟩
  | scanned _ _ => exact Or.inr ⟨rfl, rfl⟩

theorem backed {cache : Cache} {file : Wide} {text : String}
    (h : Answered matcher (Text.fileLines text.toList) record line range origin result known)
    (hmatcher : matcher.Names Target.IsStorable) (hheld : text.length < 2 ^ 53)
    (hwatermark : record.watermark = .ofNat line) (hline : line ≤ record.lineCount)
    (hrecord : record.Backed cache file text) : known.Backed cache file text := by
  have hstorable := h.isStorable hmatcher (Record.Knows.lines_lt hheld) hrecord.fits.lineCount.le
    hwatermark hline hrecord.storable
  rcases h.eq_or_changed with rfl | ⟨hchanged, hsame⟩
  · exact hrecord
  · refine ⟨h.fits hrecord.fits, hsame.trans hrecord.fingerprint, hstorable, ?_⟩
    intro hunchanged
    rw [hchanged] at hunchanged
    exact absurd hunchanged (by decide)

end Answered

namespace Reader

theorem held_source (reader : Reader) (tree : FileTree) {asked file : Wide} (h : file ≠ asked) :
    (reader.source tree asked).2.held.get? file = reader.held.get? file := by
  unfold source
  split
  · rfl
  · split
    · rfl
    · simp [Entries.get?_put, h]

end Reader

namespace Tracker

variable {tree later : FileTree} {tracker after : Tracker} {path : String} {sources : Set Wide}
  {cache : Cache}

theorem held_respond {r : Request} {file : Wide} (h : r.file? ≠ some file) (tracker : Tracker) :
    (respond tree r tracker).2.reader.held.get? file = tracker.reader.held.get? file := by
  cases r with
  | fingerprint asked => exact Reader.held_source _ tree fun heq => h (congrArg some heq.symm)
  | lineCount asked => exact Reader.held_source _ tree fun heq => h (congrArg some heq.symm)
  | readLine asked line => exact Reader.held_source _ tree fun heq => h (congrArg some heq.symm)
  | release asked =>
      have hne : file ≠ asked := fun heq => h (congrArg some heq.symm)
      simp [respond, saw, Reader.release, Entries.get?_remove, hne]
  | load asked fingerprint => simp only [respond, reader_load]
  | _ => rfl

theorem held_isIgnored {range : Range} {file : Wide} (h : file ≠ range.file) (tracker : Tracker)
    (tree : FileTree) (origin : Origin) :
    (tracker.isIgnored tree range origin).2.reader.held.get? file =
      tracker.reader.held.get? file := by
  refine (uses_answer tracker.settings range origin).run_keeps (fun r state hr hstate => ?_)
    (I := fun state : Tracker => state.reader.held.get? file = tracker.reader.held.get? file) rfl
  refine (held_respond (fun hfile => h ?_) state).trans hstate
  exact Option.some.inj (hfile.symm.trans (hr file hfile))

def Stocks (path : String) (tree : FileTree) (cache : Cache) (tracker : Tracker) : Prop :=
  ∃ store, tracker.store = some store ∧ store.Stocks path tree cache

theorem Stocks.respond (h : tracker.Stocks path tree cache) (r : Request) :
    (respond tree r tracker).2.Stocks path tree cache := by
  cases r with
  | load file fingerprint =>
      obtain ⟨store, hstore, hstocks⟩ := h
      refine ⟨(store.entries tree).2.1, ?_, hstocks.opened⟩
      simp only [Tracker.respond, load, hstore, store_noteAll,
        (store.load_eq tree file fingerprint).2]
  | _ => exact h

theorem Stocks.isIgnored (h : tracker.Stocks path tree cache) (range : Range) (origin : Origin) :
    (tracker.isIgnored tree range origin).2.Stocks path tree cache :=
  (uses_answer tracker.settings range origin).run_keeps (fun r _ _ hstate => hstate.respond r) h

theorem Stocks.stored (h : tracker.Stocks path tree cache) :
    tracker.stored tree = some (.ok cache) := by
  obtain ⟨store, hstore, hstocks⟩ := h
  rw [Tracker.stored, hstore, Option.map_some, hstocks.entries]

/-- All that a tracker knows is about some sources, and it is backed by the cache of its store. -/
structure Saves (path : String) (sources : Set Wide) (tree : FileTree) (cache : Cache)
    (tracker : Tracker) : Prop where
  matcher : tracker.settings.matcher = .standard
  length_lt : ∀ file ∈ sources, ∀ text, tree.readText file = .ok text → text.length < 2 ^ 53
  reflects : tracker.reader.Reflects tree
  elsewhere : ∀ file, file ∉ sources →
    tracker.records.get? file = none ∧ tracker.reader.held.get? file = none
  stocks : tracker.Stocks path tree cache
  records : ∀ file record, tracker.records.get? file = some record →
    ∃ text, tree.readText file = .ok text ∧ record.Backed cache file text

namespace Saves

theorem storable (h : tracker.Saves path sources tree cache) : cache.IsStorable := by
  obtain ⟨store, -, hstocks⟩ := h.stocks
  exact hstocks.storable

theorem mem_sources (h : tracker.Saves path sources tree cache) {file : Wide} {record : Record}
    (hrecord : tracker.records.get? file = some record) : file ∈ sources := by
  by_contra hfile
  rw [(h.elsewhere file hfile).1] at hrecord
  simp at hrecord

theorem carries (h : tracker.Saves path sources tree cache) :
    tracker.Carries (Record.Backed cache) tree := by
  refine ⟨h.reflects, h.records, ?_⟩
  intro found file entry text hfound hentry _ hsame hpast
  rw [h.stocks.stored] at hfound
  obtain rfl := Except.ok.inj (Option.some.inj hfound)
  exact Record.backed_ofSnapshot h.storable hentry hsame hpast

theorem move (h : tracker.Saves path sources tree cache)
    (hsources : ∀ file ∈ sources, later.readText file = tree.readText file)
    (hsettings : after.settings = tracker.settings) (hreader : after.reader = tracker.reader)
    (hrecords : after.records = tracker.records) (hstocks : after.Stocks path later cache) :
    after.Saves path sources later cache := by
  refine ⟨hsettings ▸ h.matcher, ?_, ?_, hrecords ▸ hreader ▸ h.elsewhere, hstocks, ?_⟩
  · intro file hfile text htext
    exact h.length_lt file hfile text (hsources file hfile ▸ htext)
  · rw [hreader]
    intro file source hsource
    have hfile : file ∈ sources := by
      by_contra hfile
      rw [(h.elsewhere file hfile).2] at hsource
      simp at hsource
    rw [FileTree.source, hsources file hfile]
    exact h.reflects file source hsource
  · rw [hrecords]
    intro file record hrecord
    obtain ⟨text, htext, hbacked⟩ := h.records file record hrecord
    exact ⟨text, (hsources file (h.mem_sources hrecord)).trans htext, hbacked⟩

/-- The step lemma of a question about one of the sources. -/
theorem isIgnored (h : tracker.Saves path sources tree cache) {range : Range}
    (hfile : range.file ∈ sources) (origin : Origin) :
    (tracker.isIgnored tree range origin).2.Saves path sources tree cache := by
  have hstocks := h.stocks.isIgnored range origin
  have helsewhere : ∀ file, file ∉ sources →
      (tracker.isIgnored tree range origin).2.records.get? file = none ∧
        (tracker.isIgnored tree range origin).2.reader.held.get? file = none := by
    intro file hother
    have hne : file ≠ range.file := fun heq => hother (heq ▸ hfile)
    obtain ⟨hrecord, hheld⟩ := h.elsewhere file hother
    have hsame : AlikeOn tree file tracker (tracker.isIgnored tree range origin).2 :=
      isIgnored_elsewhere hne tracker origin
    exact ⟨hsame.record.trans hrecord, (held_isIgnored hne tracker tree origin).trans hheld⟩
  rcases h.carries.isIgnored_cases (Record.backed_cold cache) (fun _ _ _ hbacked => hbacked.fits)
    range origin with
    ⟨error, after, -, -, hidle, hrun⟩ |
    ⟨text, record, line, result, known, after, htext, hbacked, hwatermark, hline, hanswered, hidle,
      hrun⟩
  · rw [hrun] at hstocks helsewhere ⊢
    exact ⟨hidle.settings ▸ h.matcher, h.length_lt, hidle.reflects h.reflects, helsewhere, hstocks,
      hidle.records ▸ h.records⟩
  · rw [hrun] at hstocks helsewhere ⊢
    have hknown := hanswered.backed (h.matcher ▸ Matcher.standard_namesStorable)
      (h.length_lt _ hfile text htext) hwatermark hline hbacked
    have hremembered := (h.carries.remember htext hknown).idles hidle
    exact ⟨hidle.settings ▸ h.matcher, h.length_lt, hidle.reflects h.reflects, helsewhere, hstocks,
      hremembered.records⟩

/-- The step lemma of persisting: what is known about one file is handed over. -/
theorem saveRecord (h : tracker.Saves path sources tree cache) (file : Wide) :
    (tracker.saveRecord tree file).1 = .ok () ∧
      ∃ kept, (tracker.saveRecord tree file).2.Saves path sources tree kept := by
  obtain ⟨store, hstore, hstocks⟩ := h.stocks
  have hend := handedOver_saveRecord tracker tree file
  rcases hsave : tracker.saveRecord tree file with ⟨result, after⟩
  rw [hsave] at hend
  change HandedOver tree tracker file result after at hend
  cases hend with
  | idle _ => exact ⟨rfl, cache, h⟩
  | @failed store' error _ hstore' herror =>
      obtain rfl := Option.some.inj (hstore.symm.trans hstore')
      rw [hstocks.entries] at herror
      simp at herror
  | @saved store' record found texts hstore' hrecord _ hfound =>
      obtain rfl := Option.some.inj (hstore.symm.trans hstore')
      obtain rfl := Except.ok.inj (hstocks.entries.symm.trans hfound)
      obtain ⟨text, htext, hbacked⟩ := h.records file record hrecord
      have hidle := Idles.noteAll tree { tracker with
        store := some { (store.entries tree).2.1 with
          opened := some (.ok (cache.put file record.entry)), changed := true } } texts
      refine ⟨rfl, cache.put file record.entry, ?_, h.length_lt, ?_, ?_, ?_, ?_⟩
      · exact (congrArg TrackerSettings.matcher hidle.settings).trans h.matcher
      · exact hidle.reflects h.reflects
      · intro other hother
        have hne : other ≠ file := fun heq => hother (heq ▸ h.mem_sources hrecord)
        simp only [Entries.get?_put, hne, if_false, reader_noteAll]
        exact h.elsewhere other hother
      · exact ⟨_, store_noteAll _ texts, hstocks.save hbacked.storable file⟩
      · intro other known hknown
        simp only [Entries.get?_put] at hknown
        split at hknown
        · next heq =>
            obtain rfl := Option.some.inj hknown
            exact ⟨text, heq ▸ htext, heq ▸ hbacked.saved⟩
        · next hne =>
            obtain ⟨text', htext', hother⟩ := h.records other known hknown
            exact ⟨text', htext', hother.put hne _⟩

/-- The run lemma of persisting: what is known about some files is handed over. -/
theorem saveRecords (h : tracker.Saves path sources tree cache) (files : List Wide) :
    (tracker.saveRecords tree files).1 = .ok () ∧
      ∃ kept, (tracker.saveRecords tree files).2.Saves path sources tree kept := by
  induction files generalizing tracker cache with
  | nil => exact ⟨rfl, cache, h⟩
  | cons file rest ih =>
      obtain ⟨hresult, kept, hsaves⟩ := h.saveRecord file
      obtain ⟨hresult', hsaves'⟩ := ih hsaves
      rcases hsave : tracker.saveRecord tree file with ⟨result, after⟩
      simp only [hsave] at hresult hresult' hsaves'
      subst hresult
      simp only [Tracker.saveRecords, hsave]
      exact ⟨hresult', hsaves'⟩

/-- The cache file is left alone or written to. If that succeeds then there is nothing left to
write, and what is known stays as it is. -/
theorem flush (h : tracker.Saves path sources tree cache) {written : FileTree}
    {result : Except FileError Unit} (hflush : tracker.flush tree = (result, written, after)) :
    ((result = .ok () ∧ written = tree) ∨
        ∃ content, tree.writeWithParents path content = (result, written)) ∧
      after.Stocks path written cache ∧ (result = .ok () → written.Serves path cache) ∧
        after.settings = tracker.settings ∧ after.reader = tracker.reader ∧
          after.records = tracker.records := by
  obtain ⟨store, hstore, hstocks⟩ := h.stocks
  have hend := flushed_flush tracker tree
  rw [hflush] at hend
  change Flushed tree tracker result written after at hend
  have hnoted (store : Store) (texts : List Wide) :
      ({ tracker with store := some store }.noteAll texts).settings = tracker.settings ∧
        ({ tracker with store := some store }.noteAll texts).reader = tracker.reader ∧
          ({ tracker with store := some store }.noteAll texts).records = tracker.records :=
    ⟨(Idles.noteAll tree _ texts).settings, reader_noteAll _ texts, records_noteAll _ texts⟩
  cases hend with
  | idle hidle =>
      have hserves := hstocks.serves (hidle store hstore)
      exact ⟨Or.inl ⟨rfl, rfl⟩, h.stocks, fun _ => hserves, rfl, rfl, rfl⟩
  | @failed store' error _ hstore' herror =>
      obtain rfl := Option.some.inj (hstore.symm.trans hstore')
      rw [hstocks.entries] at herror
      simp at herror
  | @unwritten store' found _ error texts hstore' hchanged _ hwrite =>
      obtain rfl := Option.some.inj (hstore.symm.trans hstore')
      exact ⟨Or.inr ⟨_, hstocks.storePath ▸ hwrite⟩,
        ⟨_, store_noteAll _ texts, hstocks.unwritten hchanged written⟩, nofun, hnoted _ texts⟩
  | @written store' found _ texts hstore' hfound hwrite =>
      obtain rfl := Option.some.inj (hstore.symm.trans hstore')
      obtain rfl := Except.ok.inj (hstocks.entries.symm.trans hfound)
      have hwritten := hstocks.written hwrite
      exact ⟨Or.inr ⟨_, hstocks.storePath ▸ hwrite⟩, ⟨_, store_noteAll _ texts, hwritten⟩,
        fun _ => hwritten.serves rfl, hnoted _ texts⟩

/-- Persisting hands over all that is known, and if it succeeds then all of it has been written. -/
theorem persist (h : tracker.Saves path sources tree cache) {written : FileTree}
    {result : Except FileError Unit} (hpersist : tracker.persist tree = (result, written, after)) :
    ((result = .ok () ∧ written = tree) ∨
        ∃ content, tree.writeWithParents path content = (result, written)) ∧
      ∃ kept, after.Stocks path written kept ∧ (result = .ok () → written.Serves path kept) ∧
        (∀ file record, after.records.get? file = some record → record.changed = false) ∧
        ∀ later : FileTree, (∀ file ∈ sources, later.readText file = tree.readText file) →
          later.readText path = written.readText path → after.Saves path sources later kept := by
  obtain ⟨store, hstore, -⟩ := h.stocks
  obtain ⟨hresult, kept, hsaves⟩ := h.saveRecords tracker.records.keys
  unfold Tracker.persist at hpersist
  rcases hsave : tracker.saveRecords tree tracker.records.keys with ⟨result', handed⟩
  simp only [hsave] at hresult hsaves
  subst hresult
  simp only [hsave] at hpersist
  obtain ⟨hwrites, hstocks, hserves, hsettings, hreader, hrecords⟩ := hsaves.flush hpersist
  refine ⟨hwrites, kept, hstocks, hserves, ?_, fun later hsources hpath => ?_⟩
  · intro file record hrecord
    rw [hrecords] at hrecord
    rcases unchanged_saveRecords hstore hsave hrecord with hdone | ⟨hnot, hknown⟩
    · exact hdone
    · exact absurd (List.mem_map_of_mem (Entries.mem_of_get? hknown)) hnot
  · obtain ⟨store, hstore, hstocks⟩ := hstocks
    exact hsaves.move hsources hsettings hreader hrecords ⟨store, hstore, hstocks.edit hpath⟩

/-- Persisting succeeds where the cache file can be written without any of the sources changing. -/
theorem exists_persist (h : tracker.Saves path sources tree cache)
    (hwritable : ∀ content, ∃ written, tree.writeWithParents path content = (.ok (), written) ∧
      ∀ file ∈ sources, written.readText file = tree.readText file) :
    ∃ written saved, tracker.persist tree = (.ok (), written, saved) ∧
      ∀ file ∈ sources, written.readText file = tree.readText file := by
  rcases hpersist : tracker.persist tree with ⟨result, written, saved⟩
  obtain ⟨⟨rfl, rfl⟩ | ⟨content, hwrite⟩, -⟩ := h.persist hpersist
  · exact ⟨_, _, rfl, fun _ _ => rfl⟩
  · obtain ⟨after, hafter, hsources⟩ := hwritable content
    obtain ⟨rfl, rfl⟩ := Prod.mk.inj (hafter.symm.trans hwrite)
    exact ⟨_, _, rfl, hsources⟩

/-- Once all that is known has been written, a new tracker makes out the same about every file. -/
theorem resumes (h : tracker.Saves path sources tree cache)
    (hunchanged : ∀ file record, tracker.records.get? file = some record → record.changed = false)
    (hserves : tree.Serves path cache) {settings : TrackerSettings}
    (hmatcher : settings.matcher = .standard) (verbose : Bool) (file : Wide) :
    Resumes tree file tracker { settings, store := some { path, verbose } } := by
  obtain ⟨read, hread, hperm⟩ := Store.exists_stocks hserves h.storable verbose
  have hfresh : Tracker.kept { settings, store := some { path, verbose } } tree = .ok read := by
    simp only [Tracker.kept, Tracker.stored, Option.map_some, hread.entries, Option.getD_some]
  have htracker : tracker.kept tree = .ok cache := by
    rw [Tracker.kept, h.stocks.stored, Option.getD_some]
  have hkept : (Tracker.kept { settings, store := some { path, verbose } } tree).map
      (fun cache => cache.get? file) = (tracker.kept tree).map fun cache => cache.get? file := by
    rw [hfresh, htracker]
    exact congrArg Except.ok (Entries.get?_perm h.storable.keys hperm file)
  have hsource := ((Reader.reflects_empty tree).source file).1.trans (h.reflects.source file).1.symm
  refine ⟨hmatcher.trans h.matcher.symm, hkept, hsource, ?_⟩
  have hload (fingerprint : Wide) := load_fst_congr hkept fingerprint
  cases hknown : tracker.records.get? file with
  | none => simp only [resolved, hknown, hsource, hload, Entries.get?]
  | some record =>
      obtain ⟨text, htext, hbacked⟩ := h.records file record hknown
      have hentry := hbacked.entry (hunchanged file record hknown)
      have hstored : (tracker.load tree file (Text.fingerprint text)).1 =
          .ok (some record.snapshot) := by
        rw [load_fst, htracker, Except.map, hentry, ← hbacked.fingerprint]
        simp [Record.entry, Option.filter]
      have hfirst := hbacked.first_eq (hunchanged file record hknown)
      rw [resolved_of_get? hknown, resolved]
      simp only [Entries.get?, hsource, (h.reflects.source file).1,
        FileTree.source_of_readText htext, Except.map, hload, Source.size_ofText]
      exact congrArg Except.ok (hstored ▸ hfirst)

end Saves

end Tracker

end Suppression

import Suppression.Proofs.HeldEntries
import Suppression.Proofs.SavedRun

namespace Suppression

/-- All targets that the grammar lists are of some kind. -/
def Grammar.Lists (P : Target → Prop) (grammar : Grammar) : Prop :=
  ∀ text targets, grammar text = .ok (some targets) → ∀ target ∈ targets, P target

theorem Grammar.Lists.names {P : Target → Prop} {grammar : Grammar} (h : grammar.Lists P) :
    (Matcher.ofGrammar grammar).Names P := by
  intro line directive hmatch
  unfold Matcher.ofGrammar at hmatch
  split at hmatch
  · simp at hmatch
  · next kind text hfind =>
      cases hlisted : grammar text with
      | error e => simp [hlisted, Except.map] at hmatch
      | ok targets? =>
          cases targets? with
          | none => simp [hlisted, Except.map] at hmatch
          | some targets =>
              obtain rfl : { kind, targets } = directive := by
                simpa [hlisted, Except.map] using hmatch
              exact h text targets hlisted

theorem Record.IsGathered.mono {P P' : Target → Prop} {record : Record} (h : record.IsGathered P)
    (hP : ∀ target, P target → P' target) : record.IsGathered P' :=
  ⟨h.lineCount_lt, h.fingerprint, h.placed, fun interval hmem target htarget =>
    hP target (h.targets interval hmem target htarget)⟩

def Record.AllValid (record : Record) : Prop :=
  record.intervals.Name fun target => target.isValid = true

namespace Record.IsGathered

variable {record : Record} (h : record.IsGathered Target.IsWritable)
include h

theorem isWritable : record.entry.snapshot.IsWritable := by
  obtain ⟨line, hline, hwatermark, hplaced⟩ := h.placed
  exact isWritable_of_placed hline hwatermark hplaced h.targets

theorem isValid_iff : record.entry.isValid = true ↔ record.AllValid := by
  constructor
  · intro hvalid interval hmem target htarget
    simp only [CacheEntry.isValid, Snapshot.isValid, Bool.and_eq_true, List.all_eq_true] at hvalid
    have hinterval := hvalid.2.2 interval hmem
    simp only [Interval.isValid, Bool.and_eq_true, List.all_eq_true] at hinterval
    exact hinterval.1.2 target htarget
  · intro hvalid
    refine Record.IsStorable.isValid ⟨h.fingerprint, h.placed, fun interval hmem target ht => ?_⟩
    exact ⟨hvalid interval hmem target ht, h.targets interval hmem target ht⟩

end Record.IsGathered

theorem Cache.Holds.canonical_of_get? {P : Record → Prop} {cache : Cache} (h : cache.Holds P)
    {file : Wide} {entry : CacheEntry} (hentry : cache.get? file = some entry) :
    entry.canonical = entry := by
  obtain ⟨record, -, hrecord⟩ := h.entries (file, entry) (Entries.mem_of_get? hentry)
  obtain rfl : record.entry = entry := hrecord
  rfl

abbrev Cache.IsGathered (cache : Cache) : Prop :=
  cache.Holds (Record.IsGathered Target.IsWritable)

namespace Cache.IsGathered

variable {cache : Cache} (h : cache.IsGathered)
include h

theorem decode?_encode : decode? (encode cache) = (some (Json.inKeyOrder cache)).filter fun cache =>
    cache.all fun (_, entry) => entry.isValid := by
  refine Cache.decode?_encode ⟨h.keys, fun entry hmem => ?_⟩
  obtain ⟨record, hrecord, hentry⟩ := h.entries entry hmem
  exact hentry ▸ hrecord.isWritable

theorem decode?_of_valid
    (hvalid : ∀ file entry, cache.get? file = some entry → entry.isValid = true) :
    decode? (encode cache) = some (Json.inKeyOrder cache) := by
  rw [h.decode?_encode, Option.filter_eq_some_iff]
  refine ⟨rfl, List.all_eq_true.mpr fun entry hmem => ?_⟩
  have hmem' := (Json.inKeyOrder_perm cache).mem_iff.mp hmem
  exact hvalid entry.1 entry.2 (Entries.get?_of_mem h.keys hmem')

theorem decode?_of_invalid {file : Wide} {entry : CacheEntry}
    (hentry : cache.get? file = some entry) (hinvalid : ¬ entry.isValid = true) :
    decode? (encode cache) = none := by
  rw [h.decode?_encode, Option.filter_eq_none_iff]
  rintro _ ⟨⟩ hall
  have hmem := (Json.inKeyOrder_perm cache).mem_iff.mpr (Entries.mem_of_get? hentry)
  exact hinvalid (List.all_eq_true.mp hall (file, entry) hmem)

end Cache.IsGathered

/-- The store has collected a cache since its file was found missing, and the file has the same
unless something has been handed over since it was written. -/
structure Store.Collects (path : String) (tree : FileTree) (cache : Cache) (store : Store) :
    Prop where
  storePath : store.path = path
  entries : (store.entries tree).1 = .ok cache
  gathered : cache.IsGathered
  written : store.changed = false → cache = [] ∨ tree.readText path = .ok cache.encode
  filled : store.changed = true → cache ≠ []

namespace Store.Collects

variable {path : String} {tree later : FileTree} {cache : Cache} {store : Store}

theorem missing {error : FileError} (h : tree.readText path = .error error)
    (hcode : error.code? = some .noEntry) (verbose : Bool) :
    Collects path tree [] { path, verbose } := by
  refine ⟨rfl, ?_, Cache.Holds.empty _, fun _ => Or.inl rfl, nofun⟩
  simp [Store.entries, Store.readCache, h, hcode]

theorem opened (h : store.Collects path tree cache) :
    (store.entries tree).2.1.Collects path tree cache := by
  refine ⟨(path_entries store tree).trans h.storePath, ?_, h.gathered, ?_, ?_⟩
  · rw [entries_entries]
    exact h.entries
  · rw [changed_entries]
    exact h.written
  · rw [changed_entries]
    exact h.filled

theorem edit (h : store.Collects path tree cache)
    (hpath : later.readText path = tree.readText path) : store.Collects path later cache := by
  refine ⟨h.storePath, ?_, h.gathered, hpath ▸ h.written, h.filled⟩
  rw [entries_fst_congr (h.storePath.symm ▸ hpath), h.entries]

theorem save (h : store.Collects path tree cache) {record : Record}
    (hrecord : record.IsGathered Target.IsWritable) (file : Wide) :
    Collects path tree (cache.put file record.entry) { (store.entries tree).2.1 with
      opened := some (.ok (cache.put file record.entry)), changed := true } := by
  refine ⟨h.opened.storePath, rfl, h.gathered.put hrecord file, nofun, fun _ hempty => ?_⟩
  have hget := Entries.get?_put cache file file record.entry
  simp [hempty, Entries.get?] at hget

theorem flushed (h : store.Collects path tree cache) {written : FileTree} (hwrite :
      tree.writeWithParents path (Text.encodeUtf8 cache.encode) = (.ok (), written)) :
    Collects path written cache { (store.entries tree).2.1 with changed := false } := by
  refine ⟨h.opened.storePath, ?_, h.gathered, fun _ => Or.inr ?_, nofun⟩
  · rw [entries_fst_unchanged, entries_entries]
    exact h.entries
  · exact FileTree.readText_of_writeWithParents hwrite

theorem unflushed (h : store.Collects path tree cache) (hchanged : store.changed = true)
    (written : FileTree) : (store.entries tree).2.1.Collects path written cache := by
  refine ⟨h.opened.storePath, ?_, h.gathered, fun hunchanged => ?_, h.opened.filled⟩
  · rw [entries_entries]
    exact h.entries
  · rw [changed_entries, hchanged] at hunchanged
    exact absurd hunchanged (by decide)

end Store.Collects

namespace Tracker

variable {path : String} {tree written later : FileTree} {tracker saved after : Tracker}
  {cache : Cache} {file : Wide} {result : Except FileError Unit} {P : Target → Prop}

/-- What is known is gathered from directives, and the store has collected it from the files that
are known, apart from what has changed since it was handed over. -/
structure Collects (P : Target → Prop) (path : String) (tree : FileTree) (cache : Cache)
    (tracker : Tracker) : Prop where
  names : tracker.settings.matcher.Names P
  warrants : tracker.Warrants (Record.IsGathered P) tree
  store : ∃ store, tracker.store = some store ∧ store.Collects path tree cache
  tracked : ∀ file entry, cache.get? file = some entry →
    ∃ record, tracker.records.get? file = some record

namespace Collects

theorem start {settings : TrackerSettings} {error : FileError} (hnames : settings.matcher.Names P)
    (hmissing : tree.readText path = .error error) (hcode : error.code? = some .noEntry)
    (verbose : Bool) : Collects P path tree [] { settings, store := some { path, verbose } } := by
  have hstore := Store.Collects.missing hmissing hcode verbose
  refine ⟨hnames, warrants_start _ _ ?_, ⟨_, rfl, hstore⟩, ?_⟩
  · intro file entry hentry
    rw [heldOf_of_entries rfl hstore.entries] at hentry
    simp [Entries.get?] at hentry
  · intro file entry hentry
    simp [Entries.get?] at hentry

theorem heldOf_eq (h : tracker.Collects P path tree cache) (file : Wide) :
    tracker.heldOf tree file = cache.get? file := by
  obtain ⟨store, hstore, hcollects⟩ := h.store
  exact heldOf_of_entries hstore hcollects.entries file

theorem exists_store_respond
    (h : ∃ store, tracker.store = some store ∧ store.Collects path tree cache) (r : Request) :
    ∃ store, (Tracker.respond tree r tracker).2.store = some store ∧
      store.Collects path tree cache := by
  cases r with
  | load file fingerprint =>
      obtain ⟨store, hstore, hcollects⟩ := h
      refine ⟨(store.entries tree).2.1, ?_, hcollects.opened⟩
      simp only [Tracker.respond, load, hstore, store_noteAll,
        (store.load_eq tree file fingerprint).2]
  | _ => exact h

theorem exists_record_respond {record : Record} (h : tracker.records.get? file = some record)
    (r : Request) :
    ∃ record, (Tracker.respond tree r tracker).2.records.get? file = some record := by
  cases r with
  | remember asked known =>
      simp only [Tracker.respond, Entries.get?_put]
      split
      · exact ⟨known, rfl⟩
      · exact ⟨record, h⟩
  | load asked fingerprint =>
      exact ⟨record, (load_idles tracker tree asked fingerprint).1.records ▸ h⟩
  | _ => exact ⟨record, h⟩

/-- The step lemma of a question. -/
theorem isIgnored (h : tracker.Collects P path tree cache) (htree : tree.Holdable) (range : Range)
    (origin : Origin) : (tracker.isIgnored tree range origin).2.Collects P path tree cache := by
  have hendures := Record.endures_isGathered h.names
  refine Query.Honors.run (I := Collects P path tree cache)
    (TrackerSettings.answer_honors (hendures.toLasts.isHeldAs (cache.get? range.file)) range origin)
    (uses_answer tracker.settings range origin) (fun r state hfile hgrants hstate => ?_) h
  rw [← hstate.heldOf_eq] at hgrants ⊢
  obtain ⟨hanswer, hwarrants, -⟩ := hstate.warrants.respond htree
    (fun asked hasked => Option.some.inj (hasked.symm.trans (hfile asked hasked))) hgrants
  refine ⟨hanswer, ?_, hwarrants, exists_store_respond hstate.store r, fun file entry hentry => ?_⟩
  · rw [settings_respond]
    exact hstate.names
  · obtain ⟨record, hrecord⟩ := hstate.tracked file entry hentry
    exact exists_record_respond hrecord r

theorem move (h : tracker.Collects P path tree cache)
    (hsettings : after.settings = tracker.settings)
    (hreader : after.reader = tracker.reader) (hrecords : after.records = tracker.records)
    (hstore : ∃ store, after.store = some store ∧ store.Collects path later cache) :
    after.Collects P path later cache := by
  obtain ⟨store, hafter, hcollects⟩ := hstore
  have hheld (file : Wide) : after.heldOf later file = tracker.heldOf tree file := by
    rw [heldOf_of_entries hafter hcollects.entries, h.heldOf_eq]
  exact ⟨hsettings ▸ h.names, h.warrants.of_eq hreader hrecords hheld, ⟨store, hafter, hcollects⟩,
    hrecords ▸ h.tracked⟩

theorem edit (h : tracker.Collects P path tree cache)
    (hpath : later.readText path = tree.readText path) : tracker.Collects P path later cache := by
  obtain ⟨store, hstore, hcollects⟩ := h.store
  exact h.move rfl rfl rfl ⟨store, hstore, hcollects.edit hpath⟩

/-- The step lemma of persisting: what is known about one file is handed over. -/
theorem saveRecord (h : tracker.Collects P path tree cache)
    (hP : ∀ target, P target → target.IsWritable) (file : Wide) :
    ∃ after kept, tracker.saveRecord tree file = (.ok (), after) ∧
      after.Collects P path tree kept := by
  obtain ⟨store, hstore, hcollects⟩ := h.store
  have hendures := Record.endures_isGathered h.names
  rw [saveRecord_eq hstore]
  cases hrecord : tracker.records.get? file with
  | none => exact ⟨tracker, cache, rfl, h⟩
  | some record =>
      cases hchanged : record.changed with
      | false => exact ⟨tracker, cache, by simp only [hchanged, Bool.false_eq_true, if_false], h⟩
      | true =>
          rcases saveEntry_cases hstore tree file record.entry with
            ⟨error, texts, herror, -⟩ | ⟨found, texts, hentries, hsave⟩
          · simp [hcollects.entries] at herror
          · obtain rfl : found = cache := Except.ok.inj (hentries.symm.trans hcollects.entries)
            obtain ⟨hwarrants, hrecords, hheld⟩ :=
              h.warrants.saveEntry hstore hrecord hchanged hendures hsave
            simp only [hchanged, if_true, hsave]
            have hgathered := (h.warrants.records file record hrecord).kind
            have hafter := hwarrants.markSaved (hrecords ▸ hrecord) (by simpa using hheld file)
              hendures
            refine ⟨_, found.put file record.entry, rfl, ?_, hafter, ?_,
              fun other entry hentry => ?_⟩
            · rw [markSaved_settings, settings_noteAll]
              exact h.names
            · refine ⟨_, (markSaved_store _ file).trans (store_noteAll _ texts), ?_⟩
              exact hcollects.save (hgathered.mono hP) file
            · rw [get?_markSaved (hrecords ▸ hrecord), hrecords]
              rw [Entries.get?_put] at hentry
              split
              · exact ⟨_, rfl⟩
              · next hne =>
                  rw [if_neg hne] at hentry
                  exact h.tracked other entry hentry

/-- The run lemma of persisting: what is known about some files is handed over. -/
theorem saveRecords (h : tracker.Collects P path tree cache)
    (hP : ∀ target, P target → target.IsWritable) (files : List Wide) :
    ∃ after kept, tracker.saveRecords tree files = (.ok (), after) ∧
      after.Collects P path tree kept := by
  induction files generalizing tracker cache with
  | nil => exact ⟨tracker, cache, rfl, h⟩
  | cons file rest ih =>
      obtain ⟨saved, kept, hsave, hcollects⟩ := h.saveRecord hP file
      obtain ⟨after, kept, hrest, hafter⟩ := ih hcollects
      exact ⟨after, kept, by rw [Tracker.saveRecords, hsave]; exact hrest, hafter⟩

theorem flush (h : tracker.Collects P path tree cache)
    (hflush : tracker.flush tree = (result, written, after)) :
    (∃ store, after.store = some store ∧ store.Collects path written cache) ∧
      after.settings = tracker.settings ∧ after.reader = tracker.reader ∧
      after.records = tracker.records ∧
      (result = .ok () → (cache = [] ∧ written = tree) ∨
        written.readText path = .ok cache.encode) ∧
      ((result = .ok () ∧ written = tree) ∨
        ∃ content, tree.writeWithParents path content = (result, written)) := by
  obtain ⟨store, hstore, hcollects⟩ := h.store
  have hend := flushed_flush tracker tree
  rw [hflush] at hend
  change Flushed tree tracker result written after at hend
  have hrecords := hend.records_eq
  cases hend with
  | idle hidle =>
      have hunchanged := hidle store hstore
      refine ⟨h.store, rfl, rfl, rfl, fun _ => ?_, Or.inl ⟨rfl, rfl⟩⟩
      exact (hcollects.written hunchanged).imp_left fun hempty => ⟨hempty, rfl⟩
  | @failed store' error texts hstore' herror =>
      obtain rfl := Option.some.inj (hstore.symm.trans hstore')
      simp [hcollects.entries] at herror
  | @unwritten store' found _ error texts hstore' hchanged _ hwrite =>
      obtain rfl := Option.some.inj (hstore.symm.trans hstore')
      exact ⟨⟨_, store_noteAll _ texts, hcollects.unflushed hchanged written⟩,
        settings_noteAll _ texts, reader_noteAll _ texts, hrecords, nofun,
        Or.inr ⟨_, hcollects.storePath ▸ hwrite⟩⟩
  | @written store' found _ texts hstore' hfound hwrite =>
      obtain rfl := Option.some.inj (hstore.symm.trans hstore')
      obtain rfl := Except.ok.inj (hcollects.entries.symm.trans hfound)
      have hflushed := hcollects.flushed (hcollects.storePath ▸ hwrite)
      refine ⟨⟨_, store_noteAll _ texts, hflushed⟩, settings_noteAll _ texts,
        reader_noteAll _ texts, hrecords, fun _ => Or.inr ?_,
        Or.inr ⟨_, hcollects.storePath ▸ hwrite⟩⟩
      exact FileTree.readText_of_writeWithParents (hcollects.storePath ▸ hwrite)

theorem get?_eq (h : tracker.Collects P path tree cache)
    (hunchanged : ∀ file record, tracker.records.get? file = some record → record.changed = false)
    (file : Wide) : cache.get? file = (tracker.records.get? file).map Record.entry := by
  obtain ⟨store, -, hcollects⟩ := h.store
  cases hrecord : tracker.records.get? file with
  | none =>
      cases hentry : cache.get? file with
      | none => rfl
      | some entry =>
          obtain ⟨record, hknown⟩ := h.tracked file entry hentry
          simp [hrecord] at hknown
  | some record =>
      have hheld := (h.warrants.records file record hrecord).entry (hunchanged file record hrecord)
      rw [h.heldOf_eq] at hheld
      obtain ⟨entry, hentry, hcanonical⟩ := Option.map_eq_some_iff.mp hheld
      rw [hcollects.gathered.canonical_of_get? hentry] at hcanonical
      rw [hentry, hcanonical, Option.map_some]

theorem persist (h : tracker.Collects P path tree cache)
    (hP : ∀ target, P target → target.IsWritable)
    (hpersist : tracker.persist tree = (result, written, saved)) :
    (∀ later, later.readText path = written.readText path →
      ∃ kept, saved.Collects P path later kept) ∧
    (result = .ok () → (tracker.records = [] ∧ written = tree) ∨ ∃ kept : Cache,
      written.readText path = .ok kept.encode ∧ kept.IsGathered ∧
        ∀ file, kept.get? file = (tracker.records.get? file).map Record.entry) ∧
    ((result = .ok () ∧ written = tree) ∨
      ∃ content, tree.writeWithParents path content = (result, written)) := by
  obtain ⟨handed, kept, hsave, hcollects⟩ := h.saveRecords hP tracker.records.keys
  obtain ⟨store, hstore, -⟩ := h.store
  have hentries (file : Wide) : (handed.records.get? file).map Record.entry =
      (tracker.records.get? file).map Record.entry := by
    have hmap := @map_get?_saveRecords _ Record.entry (fun _ => rfl) tracker tree
      tracker.records.keys file
    rwa [hsave] at hmap
  have hunchanged : ∀ file record, handed.records.get? file = some record →
      record.changed = false := by
    intro file record hrecord
    rcases unchanged_saveRecords hstore hsave hrecord with hdone | ⟨hnot, hknown⟩
    · exact hdone
    · exact absurd (List.mem_map_of_mem (Entries.mem_of_get? hknown)) hnot
  have hflush : handed.flush tree = (result, written, saved) := by
    rw [← hpersist, Tracker.persist, hsave]
  obtain ⟨hstored, hsettings, hreader, hrecords, hwritten, hresult⟩ := hcollects.flush hflush
  refine ⟨fun later hpath => ?_, fun hok => ?_, hresult⟩
  · obtain ⟨store, hstore, hstored⟩ := hstored
    exact ⟨kept, hcollects.move hsettings hreader hrecords ⟨store, hstore, hstored.edit hpath⟩⟩
  · have hkept (file : Wide) := (hcollects.get?_eq hunchanged file).trans (hentries file)
    rcases hwritten hok with ⟨rfl, rfl⟩ | htext
    · refine Or.inl ⟨Entries.eq_nil_of_get? fun file => ?_, rfl⟩
      simpa [Entries.get?, eq_comm] using hkept file
    · obtain ⟨store, -, hstored⟩ := hstored
      exact Or.inr ⟨kept, htext, hstored.gathered, hkept⟩

theorem exists_persist (h : tracker.Collects P path tree cache)
    (hP : ∀ target, P target → target.IsWritable)
    (hwritable : ∀ content, (tree.writeWithParents path content).1 = .ok ()) :
    ∃ written saved, tracker.persist tree = (.ok (), written, saved) := by
  rcases hpersist : tracker.persist tree with ⟨result, written, saved⟩
  obtain ⟨-, -, ⟨rfl, -⟩ | ⟨content, hcontent⟩⟩ := h.persist hP hpersist
  · exact ⟨written, saved, rfl⟩
  · obtain rfl := (hwritable content).symm.trans (congrArg Prod.fst hcontent)
    exact ⟨written, saved, rfl⟩

end Collects

/-- What comes of a tracker whose cache file was missing at first, and of the files, while questions
are asked and what is known is persisted. Anyone may write to the sources, but nobody else to the
cache file. -/
inductive FirstRun (P : Target → Prop) (path : String) : FileTree → Tracker → Prop
  | start {tree : FileTree} {settings : TrackerSettings} {grammar : Grammar} {error : FileError}
      (verbose : Bool) : settings.matcher = .ofGrammar grammar →
      grammar.Lists P → tree.Holdable → tree.readText path = .error error →
      error.code? = some .noEntry →
      FirstRun P path tree { settings, store := some { path, verbose } }
  | ask {tree : FileTree} {tracker : Tracker} (range : Range) (origin : Origin) :
      FirstRun P path tree tracker → FirstRun P path tree (tracker.isIgnored tree range origin).2
  | persist {tree written : FileTree} {tracker saved : Tracker} {result : Except FileError Unit} :
      FirstRun P path tree tracker → tracker.persist tree = (result, written, saved) →
      written.Holdable → FirstRun P path written saved
  | edit {tree later : FileTree} {tracker : Tracker} : FirstRun P path tree tracker →
      later.readText path = tree.readText path → later.Holdable → FirstRun P path later tracker

theorem FirstRun.exists_collects (hP : ∀ target, P target → target.IsWritable)
    (h : FirstRun P path tree tracker) :
    tree.Holdable ∧ ∃ cache, tracker.Collects P path tree cache := by
  induction h with
  | start verbose hmatcher hgrammar htree hmissing hcode =>
      exact ⟨htree, [], .start (hmatcher ▸ hgrammar.names) hmissing hcode verbose⟩
  | ask range origin _ ih =>
      obtain ⟨htree, cache, hcollects⟩ := ih
      exact ⟨htree, cache, hcollects.isIgnored htree range origin⟩
  | persist _ hpersist hwritten ih =>
      obtain ⟨-, cache, hcollects⟩ := ih
      exact ⟨hwritten, (hcollects.persist hP hpersist).1 _ rfl⟩
  | edit _ hpath hlater ih =>
      obtain ⟨-, cache, hcollects⟩ := ih
      exact ⟨hlater, cache, hcollects.edit hpath⟩

/-- What a first run has written when persisting succeeds is read back with the entry of every file
that is known, and with no other, if all targets in them are valid. One that is not leaves no entry
of any file to be read. All targets are such as the grammar lists. -/
theorem FirstRun.accepted (hP : ∀ target, P target → target.IsWritable)
    (h : FirstRun P path tree tracker)
    (hpersist : tracker.persist tree = (.ok (), written, saved)) :
    (∀ file record, tracker.records.get? file = some record → record.intervals.Name P) ∧
    ((tracker.records = [] ∧ written = tree) ∨ ∃ text, written.readText path = .ok text ∧
      ((∀ file record, tracker.records.get? file = some record → record.AllValid) →
        ∃ cache, Cache.decode? text = some cache ∧
          ∀ file, cache.get? file = (tracker.records.get? file).map Record.entry) ∧
      ((∃ file record, tracker.records.get? file = some record ∧ ¬ record.AllValid) →
        Cache.decode? text = none)) := by
  obtain ⟨-, cache, hcollects⟩ := h.exists_collects hP
  have hkind {file : Wide} {record : Record}
      (hrecord : tracker.records.get? file = some record) : record.IsGathered P :=
    (hcollects.warrants.records file record hrecord).kind
  refine ⟨fun file record hrecord => (hkind hrecord).targets, ?_⟩
  rcases (hcollects.persist hP hpersist).2.1 rfl with hnone | ⟨kept, htext, hgathered, hkept⟩
  · exact Or.inl hnone
  · refine Or.inr ⟨kept.encode, htext, fun hvalid => ?_, fun hinvalid => ?_⟩
    · refine ⟨_, hgathered.decode?_of_valid fun file entry hentry => ?_, fun file => ?_⟩
      · obtain ⟨record, hrecord, rfl⟩ := Option.map_eq_some_iff.mp ((hkept file).symm.trans hentry)
        exact ((hkind hrecord).mono hP).isValid_iff.mpr (hvalid file record hrecord)
      · rw [Entries.get?_perm hgathered.keys (Json.inKeyOrder_perm kept), hkept]
    · obtain ⟨file, record, hrecord, hnot⟩ := hinvalid
      refine @Cache.IsGathered.decode?_of_invalid _ hgathered file record.entry ?_ ?_
      · rw [hkept, hrecord, Option.map_some]
      · rwa [((hkind hrecord).mono hP).isValid_iff]

theorem FirstRun.accepted_ignoredLine :
    let tree := FileTree.single "a.py" "# ignore mypy\n"
    let tracker : Tracker := (isIgnored { settings := {}, store := some { path := "c" } } tree
      (.wholeFile "a.py") { analyzer := "pylint" }).2
    ∃ written saved text cache, tracker.persist tree = (.ok (), written, saved) ∧
      written.readText "c" = .ok text ∧ Cache.decode? text = some cache ∧
      (cache.get? "a.py").map CacheEntry.snapshot =
        some { watermark := .ofNat 1, intervals := [.oneLine 1 [{ analyzer := "mypy" }]] } := by
  intro tree tracker
  have htext := FileTree.readText_single_script "# ignore mypy\n"
  have hmissing := FileTree.readText_single_other "# ignore mypy\n"
  have hgrammar : Grammar.flat.Lists Target.IsStorable := fun text targets hlisted target hmem => by
    have hplain := Grammar.arePlain_of_flat? (Except.ok.inj hlisted) target hmem
    exact ⟨hplain.isValid, hplain.isWritable⟩
  have hrun : FirstRun Target.IsStorable "c" tree tracker :=
    .ask (.wholeFile "a.py") _ (.start false rfl hgrammar
      (FileTree.holdable_single (by decide +kernel)) hmissing rfl)
  have hP (target : Target) (h : target.IsStorable) : target.IsWritable := h.isWritable
  obtain ⟨-, cache, hcollects⟩ := hrun.exists_collects hP
  obtain ⟨written, saved, hpersist⟩ :=
    hcollects.exists_persist hP (FileTree.writable_single_other _)
  have hcache := FileTree.cacheAt_of_missing hmissing rfl
  have halike := (alike_opened ((Reader.reflects_empty tree).hold htext) {} hcache false).isIgnored
    (.wholeFile "a.py") { analyzer := "pylint" }
  have hrecord : (tracker.records.get? "a.py").map Record.snapshot =
      some { watermark := .ofNat 1, intervals := [.oneLine 1 [{ analyzer := "mypy" }]] } := by
    rw [← halike.2.records]
    decide +kernel
  obtain ⟨hnames, ⟨hnone, -⟩ | ⟨text, hread, hvalid, -⟩⟩ := hrun.accepted hP hpersist
  · rw [hnone] at hrecord
    exact absurd hrecord (by decide)
  · obtain ⟨cache, hdecoded, hentries⟩ := hvalid fun file record hrecord interval hmem target ht =>
      (hnames file record hrecord interval hmem target ht).isValid
    refine ⟨written, saved, text, cache, hpersist, hread, hdecoded, ?_⟩
    rw [hentries, Option.map_map]
    exact hrecord

end Tracker

/-- A grammar that takes each piece of a text between bars for an analyzer. -/
def Grammar.pieces : Grammar := fun text =>
  .ok (some ((splitAt '|' (Text.trimChars text.toList)).map fun piece =>
    { analyzer := String.ofList piece }))

theorem Grammar.pieces_lists : pieces.Lists Target.IsWritable := by
  intro text targets hlisted target hmem
  obtain rfl := Option.some.inj (Except.ok.inj hlisted)
  obtain ⟨piece, -, rfl⟩ := List.mem_map.mp hmem
  exact fun _ => rfl

/-- A file system with two files in its working directory. -/
def FileTree.pair (first second : String) : FileTree :=
  { nodes := [(["a.py"], .file (Text.encodeUtf8 first)), (["b.py"], .file (Text.encodeUtf8 second))]
    working := [] }

theorem FileTree.readText_pair (first second : String) :
    (pair first second).readText "a.py" = .ok first ∧
      (pair first second).readText "b.py" = .ok second :=
  ⟨readText_script rfl rfl,
    readText_plain (by cbv) (by cbv) (by decide) (by decide) rfl rfl⟩

theorem FileTree.holdable_pair {first second : String}
    (hfirst : (Text.encodeUtf8 first).length < 2 ^ 53)
    (hsecond : (Text.encodeUtf8 second).length < 2 ^ 53) : (pair first second).Holdable := by
  intro place content hmem
  simp only [pair, List.mem_cons, Prod.mk.injEq, Node.file.injEq, List.not_mem_nil, or_false]
    at hmem
  rcases hmem with ⟨-, rfl⟩ | ⟨-, rfl⟩
  · exact hfirst
  · exact hsecond

namespace Tracker

/-- Where a directive of one file names no analyzer, and one of another file does, both entries are
written, and none can be read. -/
theorem exists_persist_pieces :
    let tree := FileTree.pair "# ignore\n" "# ignore mypy\n"
    let first : Tracker := (isIgnored
      { settings := { matcher := .ofGrammar .pieces }, store := some { path := "c" } } tree
      (.wholeFile "a.py") { analyzer := "mypy" }).2
    let tracker : Tracker := (first.isIgnored tree (.wholeFile "b.py") { analyzer := "mypy" }).2
    ∃ content saved kept,
      tracker.persist tree = (.ok (), tree.putNode ["c"] (.file content), saved) ∧
      (tree.putNode ["c"] (.file content)).readText "c" = .ok (Cache.encode kept) ∧
      Cache.decode? (Cache.encode kept) = none ∧
      (∀ file, kept.get? file = (tracker.records.get? file).map Record.entry) ∧
      tracker.snapshotOf? "b.py" =
        some { watermark := .ofNat 1, intervals := [.oneLine 1 [{ analyzer := "mypy" }]] } := by
  intro tree first tracker
  obtain ⟨hfirst, hsecond⟩ := FileTree.readText_pair "# ignore\n" "# ignore mypy\n"
  have hmissing : tree.readText "c" = .error (.system .noEntry (.openFile "c")) :=
    FileTree.readText_other rfl rfl
  have htree : tree.Holdable := FileTree.holdable_pair (by decide +kernel) (by decide +kernel)
  have hrun : FirstRun Target.IsWritable "c" tree tracker :=
    .ask (.wholeFile "b.py") _ (.ask (.wholeFile "a.py") _
      (.start false rfl Grammar.pieces_lists htree hmissing rfl))
  obtain ⟨-, cache, hcollects⟩ := hrun.exists_collects fun _ => id
  have hwrite (content : List UInt8) :
      tree.writeWithParents "c" content = (.ok (), tree.putNode ["c"] (.file content)) :=
    FileTree.writeWithParents_other rfl rfl content
  obtain ⟨written, saved, hpersist⟩ := hcollects.exists_persist (fun _ => id) fun content => by
    rw [hwrite]
  have hcache := FileTree.cacheAt_of_missing hmissing rfl
  have hreflects := ((Reader.reflects_empty tree).hold hfirst).hold hsecond
  have halike := (((alike_opened hreflects { matcher := .ofGrammar .pieces } hcache false).isIgnored
    (.wholeFile "a.py") { analyzer := "mypy" }).2.isIgnored (.wholeFile "b.py")
      { analyzer := "mypy" }).2
  have hrecords : tracker.snapshotOf? "a.py" =
        some { watermark := .ofNat 1, intervals := [.oneLine 1 [{ analyzer := "" }]] } ∧
      tracker.snapshotOf? "b.py" =
        some { watermark := .ofNat 1, intervals := [.oneLine 1 [{ analyzer := "mypy" }]] } := by
    have hsame : tracker.records = _ := halike.records.symm
    rw [snapshotOf?, snapshotOf?, hsame]
    decide +kernel
  obtain ⟨-, hdone, hend⟩ := hcollects.persist (fun _ => id) hpersist
  obtain ⟨hnone, -⟩ | ⟨kept, htext, hgathered, hkept⟩ := hdone rfl
  · have hknown := hrecords.1
    rw [snapshotOf?, hnone] at hknown
    exact nomatch hknown
  · obtain ⟨-, rfl⟩ | ⟨content, hcontent⟩ := hend
    · exact nomatch hmissing.symm.trans htext
    · obtain rfl := congrArg Prod.snd ((hwrite content).symm.trans hcontent)
      refine ⟨content, saved, kept, hpersist, htext, ?_, hkept, hrecords.2⟩
      obtain ⟨record, hrecord, hsnapshot⟩ := Option.map_eq_some_iff.mp hrecords.1
      refine @Cache.IsGathered.decode?_of_invalid _ hgathered "a.py" record.entry ?_ ?_
      · rw [hkept, hrecord, Option.map_some]
      · intro hvalid
        have hsnapshot' : record.entry.snapshot = _ := hsnapshot
        rw [CacheEntry.isValid, hsnapshot'] at hvalid
        simp [Snapshot.isValid, Interval.isValid, Interval.oneLine, Target.isValid] at hvalid

/-- A directive that names no analyzer, in one file, keeps the entry of another one from being
read. -/
theorem persist_namelessTarget :
    let tree := FileTree.pair "# ignore\n" "# ignore mypy\n"
    let first : Tracker := (isIgnored
      { settings := { matcher := .ofGrammar .pieces }, store := some { path := "c" } } tree
      (.wholeFile "a.py") { analyzer := "mypy" }).2
    let tracker : Tracker := (first.isIgnored tree (.wholeFile "b.py") { analyzer := "mypy" }).2
    ∃ written saved text, tracker.persist tree = (.ok (), written, saved) ∧
      written.readText "c" = .ok text ∧ Cache.decode? text = none ∧
      tracker.snapshotOf? "b.py" =
        some { watermark := .ofNat 1, intervals := [.oneLine 1 [{ analyzer := "mypy" }]] } := by
  intro tree first tracker
  obtain ⟨content, saved, kept, hpersist, htext, hunread, -, hother⟩ := exists_persist_pieces
  exact ⟨_, saved, kept.encode, hpersist, htext, hunread, hother⟩

end Tracker

end Suppression

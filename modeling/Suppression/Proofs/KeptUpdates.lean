import Suppression.Proofs.SessionDocuments
import Suppression.Proofs.SessionRuns

namespace Suppression

open scoped List

/-- The cache file is missing, or has been written with a cache that has been gathered from
directives. -/
inductive FileTree.IsLeft (tree : FileTree) (path : String) : Cache → Prop
  | missing {error : FileError} : tree.readText path = .error error →
      error.code? = some .noEntry → IsLeft tree path []
  | written {cache : Cache} : cache.IsGathered → tree.readText path = .ok cache.encode →
      IsLeft tree path cache

theorem FileTree.IsLeft.exists_cacheAt {tree : FileTree} {path : String} {kept : Cache}
    (h : tree.IsLeft path kept) : ∃ read, tree.cacheAt path = .ok read ∧ read.IsStorable ∧
      ((∀ file entry, kept.get? file = some entry → entry.isValid = true) →
        ∀ file, read.get? file = kept.get? file) := by
  cases h with
  | missing hmissing hcode =>
      exact ⟨[], by simp [cacheAt, hmissing, hcode], Cache.Holds.empty _, fun _ _ => rfl⟩
  | written hgathered htext =>
      have hperm := Json.inKeyOrder_perm kept
      by_cases hvalid : ∀ file entry, kept.get? file = some entry → entry.isValid = true
      · refine ⟨Json.inKeyOrder kept, ?_, ?_,
          fun _ file => Entries.get?_perm hgathered.keys hperm file⟩
        · rw [cacheAt, htext]
          simp only [hgathered.decode?_of_valid hvalid, Option.getD_some]
        · refine Cache.Holds.of_perm ⟨hgathered.keys, fun entry hmem => ?_⟩ hperm
          obtain ⟨record, hrecord, hentry⟩ := hgathered.entries entry hmem
          have hall := hvalid entry.1 entry.2 (Entries.get?_of_mem hgathered.keys hmem)
          rw [← hentry, hrecord.isValid_iff] at hall
          exact ⟨record, ⟨hrecord.fingerprint, hrecord.placed, fun interval hin target ht =>
            ⟨hall interval hin target ht, hrecord.targets interval hin target ht⟩⟩, hentry⟩
      · refine ⟨[], ?_, Cache.Holds.empty _, fun hall => absurd hall hvalid⟩
        push Not at hvalid
        obtain ⟨file, entry, hentry, hinvalid⟩ := hvalid
        rw [cacheAt, htext]
        simp only [hgathered.decode?_of_invalid hentry hinvalid, Option.getD_none]

namespace Session

variable {session after : Session} {settings : TrackerSettings} {path : String}
  {read cache : Cache} {apart : Prop} {tree : FileTree}

/-- The persist of the given number succeeds in a step. -/
structure Resolves (apart : Prop) (session : Session) (index : Nat) (persist : Persist)
    (after : Session) : Prop where
  step : Step apart session after
  persist_eq : after.persists[index]? = some persist
  ended : persist.stage = .ended (.ok ())
  before : ∀ earlier, session.persists[index]? = some earlier → earlier.stage ≠ .ended (.ok ())

theorem Resolves.unchanged {index : Nat} {persist : Persist}
    (h : Resolves apart session index persist after) :
    ∃ store, after.tracker.store = some store ∧ store.changed = false := by
  obtain ⟨hstep, hpersist, hended, hbefore⟩ := h
  have hnew (hold : session.persists[index]? = some persist) :
      ∃ store, after.tracker.store = some store ∧ store.changed = false :=
    absurd hended (hbefore persist hold)
  cases hstep with
  | ask question => exact hnew hpersist
  | work _ _ _ _ => exact hnew hpersist
  | settle _ => exact hnew hpersist
  | edit _ _ => exact hnew hpersist
  | call =>
      rw [List.getElem?_append] at hpersist
      split at hpersist
      · exact hnew hpersist
      · obtain rfl := List.mem_singleton.mp (List.mem_of_getElem? hpersist)
        exact nomatch hended
  | @visit before rest old file record hpersists _ _ =>
      rw [getElem?_replace old] at hpersist
      split at hpersist
      · obtain rfl := Option.some.inj hpersist
        exact nomatch hended
      · exact hnew (hpersists ▸ hpersist)
  | @go before rest old next tree tracker hpersists hgoes =>
      rw [getElem?_replace old] at hpersist
      split at hpersist
      · obtain rfl := Option.some.inj hpersist
        cases hgoes with
        | rest _ _ hstore hunchanged => exact ⟨_, hstore, hunchanged⟩
        | write _ _ _ _ _ => exact ⟨_, Tracker.store_noteAll _ _, rfl⟩
        | _ => exact nomatch hended
      · exact hnew (hpersists ▸ hpersist)

theorem keeps_isMeasured (htree : tree.Holdable) (settings : TrackerSettings) (path : String)
    (verbose : Bool) :
    Keeps settings path Record.IsMeasured (fresh tree settings path verbose) := by
  refine .start htree verbose fun file entry hentry digest hdigest lineCount hcount hpast => ?_
  have hmeasured : (fresh tree settings path verbose).tracker.IsMeasured :=
    Tracker.isMeasured_start settings (by simp)
  cases hstored : (fresh tree settings path verbose).tracker.stored tree with
  | none => simp [Tracker.heldOf, hstored] at hentry
  | some found =>
      cases found with
      | error e => simp [Tracker.heldOf, hstored] at hentry
      | ok cache =>
          rw [Tracker.heldOf, hstored] at hentry
          obtain ⟨line, -, hline⟩ :=
            (hmeasured.stored tree cache file entry hstored hentry).exists_watermark hpast
          exact ⟨hcount, line, hline⟩

theorem keeps_isGathered (htree : tree.Holdable) (hcache : tree.cacheAt path = .ok read)
    (hstorable : read.IsStorable) (settings : TrackerSettings) (verbose : Bool) :
    Keeps settings path (Record.IsGathered Target.IsStorable)
      (fresh tree settings path verbose) := by
  refine .start htree verbose fun file entry hentry digest hdigest lineCount hcount hpast => ?_
  have hentries : (Store.entries { path, verbose } tree).1 = .ok read :=
    (Store.readCache_fst { path, verbose } tree).trans hcache
  rw [Tracker.heldOf_of_entries rfl hentries] at hentry
  obtain ⟨record, hrecord, hkept⟩ :=
    hstorable.entries (file, entry) (Entries.mem_of_get? hentry)
  obtain rfl : record.entry = entry := hkept
  obtain rfl := Wide.text.inj hdigest
  exact ⟨hcount, hrecord.fingerprint, hrecord.placed, hrecord.targets⟩

theorem reached_firstAnswer (htree : tree.Holdable) {error : FileError}
    (hmissing : tree.readText path = .error error) (hcode : error.code? = some .noEntry)
    (settings : TrackerSettings) (hmatcher : settings.matcher.Names Target.IsStorable)
    (verbose : Bool) (range : Range) (origin : Origin) :
    ∃ asked store, Reached apart (fresh tree settings path verbose) asked ∧ asked.IsFree ∧
      asked.tree = tree ∧ asked.persists = [] ∧
      asked.tracker =
        ((fresh tree settings path verbose).tracker.isIgnored tree range origin).2 ∧
      asked.tracker.store = some store ∧ store.Collects path tree [] := by
  obtain ⟨asked, hasked, hfree, hsame, hpersists, htracker, -⟩ :=
    @reached_isIgnored (fresh tree settings path verbose) apart (fun _ => rfl) range origin
  have hstart : Tracker.Collects Target.IsStorable path tree []
      (fresh tree settings path verbose).tracker := .start hmatcher hmissing hcode verbose
  obtain ⟨store, hstore, hcollects⟩ := (hstart.isIgnored htree range origin).store
  exact ⟨asked, store, hasked, hfree, hsame, hpersists, htracker,
    (congrArg Tracker.store htracker).trans hstore, hcollects⟩

/-- What is known and does not count as changed is what the store holds, in whatever order questions
are asked and persists proceed. If nothing is handed over while the cache file is written, and all
targets in directives are valid, then a persist that succeeds leaves a document that has the entry
of every file that has not changed since its turn, and all files that were known when the persist
was called have had one. Files of which nothing is known keep the entries that have been written for
them earlier, if all of those are valid. -/
theorem updates_kept {verbose : Bool} (htree : tree.Holdable)
    (h : Reached apart (fresh tree settings path verbose) session) :
    (∀ file record, session.tracker.records.get? file = some record → record.changed = false →
      (session.tracker.heldOf session.tree file).map CacheEntry.canonical = some record.entry) ∧
    (apart → settings.matcher.Names Target.IsStorable → ∀ kept, tree.IsLeft path kept →
      ∀ index persist after, Resolves apart session index persist after →
        ∃ document, after.tree.cacheAt path = .ok document ∧
          (∀ file ∈ persist.tracked, ∃ record, persist.turns.get? file = some record) ∧
          (∀ file record, persist.turns.get? file = some record →
            after.tracker.records.get? file = some record →
              document.get? file = some record.entry) ∧
          ((∀ file entry, kept.get? file = some entry → entry.isValid = true) →
            ∀ file, after.tracker.records.get? file = none →
              document.get? file = kept.get? file)) := by
  constructor
  · intro file record hrecord hunchanged
    have hkeeps := (keeps_isMeasured htree settings path verbose).reached
      (Record.endures_isMeasured settings.matcher) h
    exact (hkeeps.warrants.records file record hrecord).entry hunchanged
  · intro hapart hmatcher kept hkept index persist after hresolves
    obtain ⟨read, hread, hstorable, hall⟩ := hkept.exists_cacheAt
    have hafter : Reached apart (fresh tree settings path verbose) after :=
      h.tail hresolves.step
    have hstart := keeps_isGathered htree hread hstorable settings verbose
    have hkeeps := hstart.reached (Record.endures_isGathered hmatcher) hafter
    obtain ⟨cache, hstores⟩ :=
      (Stores.start hread hstorable verbose).reached hstart hmatcher hapart hafter
    obtain ⟨store, hstore, hunchanged⟩ := hresolves.unchanged
    obtain ⟨store', hstore', hstocks⟩ := hstores.stocks
    obtain rfl := Option.some.inj (hstore.symm.trans hstore')
    obtain ⟨document, hdocument, hperm⟩ := hstocks.serves hunchanged
    have hget (file : Wide) : document.get? file = cache.get? file :=
      Entries.get?_perm hstocks.storable.keys hperm file
    have hvisits := hstores.visits persist (List.mem_of_getElem? hresolves.persist_eq)
    refine ⟨document, hdocument, fun file hfile => ?_, fun file record hturn hrecord => ?_,
      fun hvalid file hfile => ?_⟩
    · have hmem := (hvisits.visited (Or.inr hresolves.ended)).subset hfile
      rw [← Option.isSome_iff_exists, Option.isSome_iff_ne_none]
      exact fun hnone => Entries.get?_eq_none_iff.mp hnone hmem
    · have hheld := (hkeeps.warrants.records file record hrecord).entry
        (hvisits.unchanged _ (Entries.mem_of_get? hturn))
      rw [Tracker.heldOf_of_entries hstore hstocks.entries] at hheld
      obtain ⟨entry, hentry, hcanonical⟩ := Option.map_eq_some_iff.mp hheld
      rw [hget, hentry, ← hcanonical, hstocks.storable.canonical_of_get? hentry]
    · rw [hget, hstores.untracked file (Entries.get?_eq_none_iff.mp hfile), hall hvalid]

theorem updates_kept_ignoredLine :
    let tree := FileTree.single "a.py" "# ignore mypy\n"
    ∃ session persist after document, Reached True (fresh tree {} "c" false) session ∧
      Resolves True session 0 persist after ∧ after.tree.cacheAt "c" = .ok document ∧
      (document.get? "a.py").map CacheEntry.snapshot =
        some { watermark := .ofNat 1, intervals := [.oneLine 1 [{ analyzer := "mypy" }]] } ∧
      document.get? "b.py" = none := by
  intro tree
  have htree : tree.Holdable := FileTree.holdable_single (by decide +kernel)
  have hmissing : tree.readText "c" = .error (.system .noEntry (.openFile "c")) :=
    FileTree.readText_single_other "# ignore mypy\n"
  have hcache := FileTree.cacheAt_of_missing hmissing rfl
  have hkept : tree.IsLeft "c" [] := .missing hmissing rfl
  obtain ⟨session, store, hasked, hfree, hsame, hpersists, htracker, hstore, hcollects⟩ :=
    @reached_firstAnswer "c" True tree htree _ hmissing rfl {} Matcher.standard_namesStorable false
      (.wholeFile "a.py") { analyzer := "pylint" }
  let record : Record :=
    { fingerprint := Text.fingerprint "# ignore mypy\n", lineCount := 1, watermark := .ofNat 1,
      intervals := [.oneLine 1 [{ analyzer := "mypy" }]], changed := true }
  have hrecords : session.tracker.records = ([("a.py", record)] : Entries Record) := by
    have hreflects := (Reader.reflects_empty tree).hold
      (FileTree.readText_single_script "# ignore mypy\n")
    have halike := (Tracker.alike_opened hreflects {} hcache false).isIgnored (.wholeFile "a.py")
      { analyzer := "pylint" }
    rw [htracker]
    refine halike.2.records.symm.trans ?_
    decide +kernel
  have hwrite := FileTree.writeWithParents_single_other "# ignore mypy\n"
    (Text.encodeUtf8 (Cache.encode [("a.py", record.entry)]))
  have hwritten : (tree.putNode ["c"] (.file
      (Text.encodeUtf8 (Cache.encode [("a.py", record.entry)])))).Holdable :=
    htree.putNode (by decide +kernel) _
  obtain ⟨saved, hpersist⟩ := Tracker.persist_one hstore hrecords rfl hcollects.entries
    (by rw [hcollects.storePath]; exact hwrite)
  have hpersist' : session.tracker.persist session.tree = _ := hsame ▸ hpersist
  obtain ⟨last, after, stage, hlast, hstage, hpersists', hstep, -, -, rfl, hended⟩ :=
    @reached_persist session True hfree (by simp [hrecords, Entries.keys])
      (by simp [IsFlushing, hpersists]) _ hstore _ _ hpersist' hwritten
  rw [hpersists] at hpersists' hended
  have hresolves : Resolves True last 0 ⟨session.tracker.records.keys, after.tracker.records,
      .ended (.ok ())⟩ after := by
    refine ⟨hstep, by rw [hended]; rfl, rfl, fun earlier hearlier => ?_⟩
    rw [hpersists'] at hearlier
    obtain rfl := Option.some.inj hearlier
    exact hstage _
  obtain ⟨document, hdocument, hturns, htracked, huntracked⟩ := (updates_kept htree
    (hasked.trans hlast)).2 trivial Matcher.standard_namesStorable [] hkept _ _ _ hresolves
  have hknown (file : Wide) := Tracker.snapshotOf?_persist session.tracker tree file
  simp only [hpersist, Tracker.snapshotOf?, hrecords] at hknown
  refine ⟨last, _, after, document, hasked.trans hlast, hresolves, hdocument, ?_, ?_⟩
  · obtain ⟨known, hturn⟩ := hturns "a.py" (by simp [hrecords, Entries.keys])
    have hsnapshot := hknown "a.py"
    rw [hturn] at hsnapshot
    rw [htracked "a.py" known hturn hturn]
    exact hsnapshot
  · refine huntracked (by simp [Entries.get?]) "b.py" ?_
    simpa [Entries.get?] using hknown "b.py"

/-- While a persist writes the cache file, another one can hand over all that has become known since
it began. When the file has been written, there is nothing left to write for the other one. -/
theorem resolves_overlapping (hfree : session.IsFree) (hkeys : session.tracker.records.keys.Nodup)
    {first : Persist} {text : String} {store : Store} {cache : Cache} {written : FileTree}
    (hpersists : session.persists = [first]) (hwriting : first.stage = .writing text)
    (hstore : session.tracker.store = some store)
    (hentries : (store.entries session.tree).1 = .ok cache)
    (hwrite : session.tree.writeWithParents store.path (Text.encodeUtf8 text) = (.ok (), written))
    (hwritten : written.Holdable) :
    ∃ last persist after, Reached False session last ∧ Resolves False last 1 persist after ∧
      after.tree = written ∧ persist.turns = after.tracker.records ∧
      ∀ file, (after.tracker.records.get? file).map Record.entry =
        (session.tracker.records.get? file).map Record.entry := by
  obtain ⟨saved, opened, kept, hsave, hopened, hpath, hkept⟩ :=
    Tracker.exists_saveRecords hstore hentries session.tracker.records.keys
  obtain ⟨next, hnext, -, htree, rfl, -, hpersists'⟩ :=
    @reached_call session False hfree hkeys nofun _ hstore _ hsave
  rw [hpersists] at hpersists'
  obtain ⟨last, hwrites, rfl, hrecords, ⟨store', hstore', hunchanged⟩, hlast⟩ : ∃ last,
      Step False next last ∧ last.tree = written ∧
      last.tracker.records = next.tracker.records ∧
      (∃ store, last.tracker.store = some store ∧ store.changed = false) ∧
      last.persists = [{ first with stage := .ended (.ok ()) }] ++
        [⟨session.tracker.records.keys, next.tracker.records, .visiting⟩] :=
    ⟨_, @Step.go _ _ [] _ _ _ _ _ hpersists'
      (.write hwriting hopened (htree ▸ hkept) (by rw [htree, hpath]; exact hwrite) hwritten),
      rfl, Tracker.records_noteAll _ _, ⟨_, Tracker.store_noteAll _ _, rfl⟩, rfl⟩
  have hnone : last.tracker.records[next.tracker.records.length]? = none := by
    rw [hrecords, List.getElem?_eq_none_iff]
  refine ⟨last, _, _, hnext.tail hwrites,
    ⟨.go hlast (.rest rfl hnone hstore' hunchanged), rfl, rfl, fun earlier hearlier => ?_⟩, rfl,
    hrecords.symm, fun file => ?_⟩
  · rw [hlast] at hearlier
    obtain rfl := Option.some.inj hearlier
    exact nofun
  · rw [hrecords]
    have hsame := Tracker.map_get?_saveRecords (f := Record.entry) (fun _ => rfl) session.tracker
      session.tree session.tracker.records.keys file
    rwa [hsave] at hsame

theorem reached_askedMeanwhile (hfree : session.IsFree) (hpersists : session.persists = [])
    {store : Store} (hstore : session.tracker.store = some store) {file : Wide} {record : Record}
    (hrecords : session.tracker.records = [(file, record)]) (hchanged : record.changed = true)
    (hentries : (store.entries session.tree).1 = .ok cache) {range : Range}
    (hother : range.file ≠ file) (origin : Origin) :
    ∃ busy first opened, Reached apart session busy ∧ busy.IsFree ∧ busy.tree = session.tree ∧
      busy.persists = [first] ∧
      first.stage = .writing (Cache.encode (cache.put file record.entry)) ∧
      busy.tracker.store = some opened ∧ opened.path = store.path ∧
      (opened.entries session.tree).1 = .ok (cache.put file record.entry) ∧
      busy.tracker.records.keys.Nodup ∧ busy.tracker.records.get? range.file =
        (session.tracker.isIgnored session.tree range origin).2.records.get? range.file := by
  obtain ⟨writing, first, opened, hwriting, hfree', htree, hpersists', hstage, hopened, hpath,
    hkept, hkeys, helsewhere⟩ :=
    @reached_writingOne _ apart hfree hpersists _ hstore _ _ hrecords hchanged _ hentries
  obtain ⟨busy, hbusy, hfree'', htree', hpersists'', htracker, -⟩ :=
    @reached_isIgnored writing apart hfree' range origin
  refine ⟨busy, first, opened, hwriting.trans hbusy, hfree'', htree'.trans htree,
    hpersists''.trans hpersists', hstage, ?_, hpath, by simp [Store.entries, hkept], ?_, ?_⟩
  · rw [htracker]
    exact Tracker.store_isIgnored hopened (by simp [hkept]) _ range origin
  · rw [htracker]
    exact Tracker.nodup_keys_isIgnored (by simp [hkeys]) _ range origin
  · rw [htracker, htree]
    exact ((helsewhere range.file hother).isIgnored origin).2.1.record

/-- One of two files is asked about while a persist writes the cache file for the other one. What a
second persist then hands over is not written, although that persist succeeds. -/
theorem persists_lose :
    let tree := FileTree.pair "x\n" "x\n"
    ∃ session persist after document, Reached False (fresh tree {} "c" false) session ∧
      Resolves False session 1 persist after ∧ after.tree.cacheAt "c" = .ok document ∧
      (∃ record, persist.turns.get? "b.py" = some record ∧
        after.tracker.records.get? "b.py" = some record) ∧ document.get? "b.py" = none := by
  intro tree
  obtain ⟨hfirst, hsecond⟩ := FileTree.readText_pair "x\n" "x\n"
  have htree : tree.Holdable := FileTree.holdable_pair (by decide +kernel) (by decide +kernel)
  have hmissing : tree.readText "c" = .error (.system .noEntry (.openFile "c")) :=
    FileTree.readText_other rfl rfl
  let record : Record :=
    { fingerprint := Text.fingerprint "x\n", lineCount := 1, watermark := .ofNat 1,
      intervals := [], changed := true }
  have hanswered := (Tracker.alike_opened
    (((Reader.reflects_empty tree).hold hfirst).hold hsecond) {}
    (FileTree.cacheAt_of_missing hmissing rfl) false).isIgnored (.wholeFile "a.py")
    { analyzer := "mypy" }
  obtain ⟨asked, store, hasked, hfree, hsame, hpersists, htracker, hstore, hcollects⟩ :=
    @reached_firstAnswer "c" False tree htree _ hmissing rfl {} Matcher.standard_namesStorable
      false (.wholeFile "a.py") { analyzer := "mypy" }
  have hrecords : asked.tracker.records = ([("a.py", record)] : Entries Record) := by
    rw [htracker]
    refine hanswered.2.records.symm.trans ?_
    decide +kernel
  obtain ⟨busy, first, opened, hbusy, hfree', hsame', hpersists', hwriting, hopened, hpath,
    hentries, hnodup, hother⟩ :=
    @reached_askedMeanwhile asked [] False hfree hpersists _ hstore _ _ hrecords rfl
      (hsame ▸ hcollects.entries) (.wholeFile "b.py") (by decide) { analyzer := "mypy" }
  have hknown : busy.tracker.records.get? "b.py" = some record := by
    have halike := (hanswered.2.isIgnored (.wholeFile "b.py") { analyzer := "mypy" }).2
    rw [hsame, htracker] at hother
    refine hother.trans ((congrArg (Entries.get? · "b.py") halike.records.symm).trans ?_)
    decide +kernel
  have hwrite : busy.tree.writeWithParents opened.path
      (Text.encodeUtf8 (Cache.encode [("a.py", record.entry)])) = (.ok (), tree.putNode ["c"]
        (.file (Text.encodeUtf8 (Cache.encode [("a.py", record.entry)])))) := by
    rw [hsame', hsame, hpath, hcollects.storePath]
    exact FileTree.writeWithParents_other rfl rfl _
  obtain ⟨last, persist, after, hlast, hresolves, hafter, hturns, hrest⟩ :=
    resolves_overlapping hfree' hnodup hpersists' hwriting hopened (hsame' ▸ hentries) hwrite
      (htree.putNode (by decide +kernel) _)
  have hstorable : Cache.IsStorable [("a.py", record.entry)] :=
    (Cache.Holds.empty Record.IsStorable).put
      (Record.isStorable_of_nil (Text.fingerprint_ne_empty "x\n") (by norm_num) rfl rfl) "a.py"
  obtain ⟨document, hdocument, hperm⟩ := FileTree.serves_of_written hstorable hwrite
  rw [hpath, hcollects.storePath, ← hafter] at hdocument
  have hlost : document.get? "b.py" = none := by
    rw [Entries.get?_perm hstorable.keys hperm]
    simp [Entries.get?]
  have hsome := hrest "b.py"
  rw [hknown] at hsome
  obtain ⟨known, hget, -⟩ := Option.map_eq_some_iff.mp hsome
  exact ⟨last, persist, after, document, (hasked.trans hbusy).trans hlast, hresolves, hdocument,
    ⟨known, hturns ▸ hget, hget⟩, hlost⟩

end Session

namespace Tracker

/-- Where a directive of one file names no analyzer, what an earlier run has written for another
file is lost when a later run persists, although that file has not been asked about. -/
theorem persist_forgets :
    let tree := FileTree.pair "# ignore\n" "# ignore mypy\n"
    let asked : Tracker := (isIgnored
      { settings := { matcher := .ofGrammar .pieces }, store := some { path := "c" } } tree
      (.wholeFile "a.py") { analyzer := "mypy" }).2
    let first : Tracker := (asked.isIgnored tree (.wholeFile "b.py") { analyzer := "mypy" }).2
    ∃ written saved kept, first.persist tree = (.ok (), written, saved) ∧
      written.readText "c" = .ok (Cache.encode kept) ∧
      (kept.get? "b.py").map CacheEntry.snapshot =
        some { watermark := .ofNat 1, intervals := [.oneLine 1 [{ analyzer := "mypy" }]] } ∧
      let later := written.putNode ["a.py"] (.file (Text.encodeUtf8 "x\n"))
      let second : Tracker := (isIgnored { store := some { path := "c" } } later (.wholeFile "a.py")
        { analyzer := "mypy" }).2
      later.readText "c" = written.readText "c" ∧ second.records.get? "b.py" = none ∧
        ∃ rewritten again document, second.persist later = (.ok (), rewritten, again) ∧
          rewritten.cacheAt "c" = .ok document ∧ document.get? "b.py" = none := by
  intro tree asked first
  obtain ⟨content, saved, kept, hpersist, htext, hunread, hkept, hother⟩ := exists_persist_pieces
  refine ⟨_, saved, kept, hpersist, htext, ?_, ?_⟩
  · rw [hkept, Option.map_map]
    exact hother
  intro later second
  have hnode : later.nodes.lookup ["c"] = some (.file content) := rfl
  have hplain (tree : FileTree) (hworking : tree.working = [])
      (hnode : tree.nodes.lookup ["c"] = some (.file content)) : tree.read "c" = .ok content :=
    FileTree.read_plain (by cbv) (by cbv) (by decide) (by decide) hworking hnode
  have hsame : later.readText "c" = (tree.putNode ["c"] (.file content)).readText "c" := by
    rw [FileTree.readText, FileTree.readText, Wide.shown_text, hplain later rfl hnode,
      hplain _ rfl rfl]
  have hsource : later.readText "a.py" = .ok "x\n" :=
    FileTree.readText_script rfl rfl
  -- The second tracker finds no cache that it could read.
  have hcache : later.cacheAt "c" = .ok [] := by
    simp only [FileTree.cacheAt, hsame.trans htext, hunread, Option.getD_none]
  have hstocks : Stocks "c" later [] { store := some { path := "c" } } :=
    ⟨_, rfl, rfl, (Store.readCache_fst _ later).trans hcache, Cache.Holds.empty _,
      fun _ => ⟨[], hcache, .refl []⟩⟩
  obtain ⟨store, hstore, hstocks'⟩ :=
    hstocks.isIgnored (.wholeFile "a.py") { analyzer := "mypy" }
  let record : Record :=
    { fingerprint := Text.fingerprint "x\n", lineCount := 1, watermark := .ofNat 1,
      intervals := [], changed := true }
  have hrecords : second.records = ([("a.py", record)] : Entries Record) := by
    have halike := (alike_opened ((Reader.reflects_empty later).hold hsource) {} hcache
      false).isIgnored (.wholeFile "a.py") { analyzer := "mypy" }
    exact halike.2.records.symm
  have hwrite : later.writeWithParents "c"
      (Text.encodeUtf8 (Cache.encode [("a.py", record.entry)])) = _ :=
    FileTree.writeWithParents_file rfl (some content) hnode _
  obtain ⟨again, hagain⟩ := persist_one hstore hrecords rfl hstocks'.entries
    (by rw [hstocks'.storePath]; exact hwrite)
  have hstorable : Cache.IsStorable [("a.py", record.entry)] :=
    (Cache.Holds.empty Record.IsStorable).put
      (Record.isStorable_of_nil (Text.fingerprint_ne_empty "x\n") (by norm_num) rfl rfl) "a.py"
  obtain ⟨document, hdocument, hperm⟩ := FileTree.serves_of_written hstorable hwrite
  refine ⟨hsame, by simp [hrecords, Entries.get?], _, again, document, hagain, hdocument, ?_⟩
  rw [Entries.get?_perm hstorable.keys hperm]
  simp [Entries.get?]

end Tracker

end Suppression

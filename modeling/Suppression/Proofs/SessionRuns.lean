import Suppression.Proofs.Sessions

namespace Suppression

namespace Entries

variable {α : Type}

theorem put_append {before rest : Entries α} {key : Wide} {old : α} (h : key ∉ before.keys)
    (value : α) : Entries.put (before ++ (key, old) :: rest) key value =
      before ++ (key, value) :: rest := by
  induction before with
  | nil => simp [put]
  | cons entry before ih =>
      obtain ⟨k, v⟩ := entry
      simp only [keys, List.map_cons, List.mem_cons, not_or] at h
      simp [put, Ne.symm h.1, ih h.2]

theorem get?_append {before rest : Entries α} {key : Wide} {value : α} (h : key ∉ before.keys) :
    Entries.get? (before ++ (key, value) :: rest) key = some value := by
  induction before with
  | nil => simp [get?]
  | cons entry before ih =>
      obtain ⟨k, v⟩ := entry
      simp only [keys, List.map_cons, List.mem_cons, not_or] at h
      simp [get?, Ne.symm h.1, ih h.2]

end Entries

namespace Tracker

theorem noteAll_append (tracker : Tracker) (texts more : List Wide) :
    tracker.noteAll (texts ++ more) = (tracker.noteAll texts).noteAll more :=
  List.foldl_append ..

theorem noteAll_with_store (tracker : Tracker) (texts : List Wide) (store : Option Store) :
    ({ tracker with store } : Tracker).noteAll texts = { tracker.noteAll texts with store } := by
  induction texts generalizing tracker with
  | nil => rfl
  | cons text rest ih => exact ih (tracker.saw (.noted text))

/-- Flushing takes three steps if there is something to write: the store is opened, the cache file
is written, and what has been handed over does not count as changed any more. -/
theorem flush_cases {tracker saved : Tracker} {tree written : FileTree} {store : Store}
    (hstore : tracker.store = some store) (h : tracker.flush tree = (.ok (), written, saved)) :
    (store.changed = false ∧ written = tree ∧ saved = tracker) ∨
    store.changed = true ∧ ∃ cache opened texts, store.entries tree = (.ok cache, opened, texts) ∧
      tree.writeWithParents opened.path (Text.encodeUtf8 cache.encode) = (.ok (), written) ∧
      saved = Tracker.noteAll
        { Tracker.noteAll { tracker with store := some opened } texts with
          store := some { opened with changed := false } }
        (opened.note
          ("Wrote " ++ toString cache.length ++ " snapshot(s) to " ++ opened.path)) := by
  unfold flush Store.flush at h
  simp only [hstore] at h
  cases hchanged : store.changed with
  | false =>
      have hsame : { tracker with store := some store } = tracker := by rw [← hstore]
      simp only [hchanged, Bool.false_eq_true, if_false, noteAll, List.foldl_nil, hsame,
        Prod.mk.injEq, true_and] at h
      exact Or.inl ⟨rfl, h.1.symm, h.2.symm⟩
  | true =>
      rcases hentries : store.entries tree with ⟨found, opened, texts⟩
      simp only [hchanged, if_true, hentries] at h
      cases found with
      | error e => cases congrArg Prod.fst h
      | ok cache =>
          rcases hwrite : tree.writeWithParents opened.path (Text.encodeUtf8 cache.encode) with
            ⟨result, after⟩
          simp only [hwrite] at h
          cases result with
          | error e => cases congrArg Prod.fst h
          | ok _ =>
              simp only [Prod.mk.injEq, true_and] at h
              obtain ⟨rfl, rfl⟩ := h
              refine Or.inr ⟨rfl, cache, opened, texts, rfl, hwrite, ?_⟩
              rw [noteAll_append]
              exact congrArg (noteAll · _)
                (noteAll_with_store { tracker with store := some opened } texts _)

theorem exists_saveRecords {tracker : Tracker} {tree : FileTree} {store : Store} {cache : Cache}
    (hstore : tracker.store = some store) (hentries : (store.entries tree).1 = .ok cache)
    (files : List Wide) : ∃ saved opened kept,
      tracker.saveRecords tree files = (.ok (), saved) ∧ saved.store = some opened ∧
      opened.path = store.path ∧ (opened.entries tree).1 = .ok kept := by
  induction files generalizing tracker store cache with
  | nil => exact ⟨tracker, store, cache, rfl, hstore, rfl, hentries⟩
  | cons file rest ih =>
      have hend := handedOver_saveRecord tracker tree file
      rw [saveRecords]
      rcases hsave : tracker.saveRecord tree file with ⟨result, handed⟩
      rw [hsave] at hend
      change HandedOver tree tracker file result handed at hend
      cases hend with
      | idle _ => exact ih hstore hentries
      | failed hstore' herror =>
          obtain rfl := Option.some.inj (hstore.symm.trans hstore')
          cases hentries.symm.trans herror
      | @saved store' record found texts hstore' _ _ _ =>
          obtain rfl := Option.some.inj (hstore.symm.trans hstore')
          obtain ⟨saved, opened, kept, hrest, hopened, hpath, hkept⟩ :=
            @ih { Tracker.noteAll { tracker with
                store := some { (store.entries tree).2.1 with
                  opened := some (.ok (found.put file record.entry)), changed := true } } texts with
              records := tracker.records.put file { record with changed := false } } _ _
              (store_noteAll _ texts) rfl
          exact ⟨saved, opened, kept, hrest, hopened, hpath.trans (store.path_entries tree), hkept⟩

theorem HandedOver.alikeOn {tracker after : Tracker} {tree : FileTree} {file other : Wide}
    {result : Except FileError Unit} (h : HandedOver tree tracker file result after)
    (hne : other ≠ file) : AlikeOn tree other tracker after := by
  cases h with
  | idle _ => exact .refl tree other tracker
  | @failed store error texts hstore _ =>
      have hopened : AlikeOn tree other tracker
          { tracker with store := some (store.entries tree).2.1 } :=
        ⟨rfl, rfl, by simp only [kept, stored, hstore, Option.map_some, Store.entries_entries], rfl⟩
      exact hopened.trans ((Rests.noteAll tree _ texts).alikeOn other)
  | @saved store record cache texts hstore _ _ hentries =>
      have hbefore : tracker.kept tree = .ok cache := by
        simp only [kept, stored, hstore, Option.map_some, Option.getD_some, hentries]
      refine ⟨congrArg TrackerSettings.matcher (settings_noteAll _ texts), ?_, ?_, ?_⟩
      · simp only [Entries.get?_put, hne, if_false]
      · rw [hbefore]
        simp only [kept, stored, store_noteAll, Option.map_some, Option.getD_some, Store.entries,
          Except.map, Entries.get?_put, hne, if_false]
      · simp only [reader_noteAll]

theorem store_isIgnored {tracker : Tracker} {store : Store} (hstore : tracker.store = some store)
    (hopened : store.opened.isSome = true) (tree : FileTree) (range : Range) (origin : Origin) :
    (tracker.isIgnored tree range origin).2.store = some store := by
  refine (uses_answer tracker.settings range origin).run_keeps (fun r state _ hstate => ?_)
    (I := fun state : Tracker => state.store = some store) hstore
  cases r with
  | load file fingerprint =>
      simp only [respond, load, hstate, store_noteAll, (store.load_eq tree file fingerprint).2,
        Store.entries_of_opened hopened]
  | _ => exact hstate

theorem nodup_keys_isIgnored {tracker : Tracker} (h : tracker.records.keys.Nodup) (tree : FileTree)
    (range : Range) (origin : Origin) :
    (tracker.isIgnored tree range origin).2.records.keys.Nodup := by
  refine (uses_answer tracker.settings range origin).run_keeps (fun r state _ hstate => ?_)
    (I := fun state : Tracker => state.records.keys.Nodup) h
  cases r with
  | remember file record => exact Entries.nodup_keys_put hstate file record
  | _ =>
      rw [records_respond]
      exacts [hstate, nofun]

end Tracker

namespace Session

variable {session : Session} {apart : Prop}

def IsFree (session : Session) : Prop :=
  ∀ file, session.locks.get? file = none

theorem get?_unlock {locks : Entries Nat} (h : ∀ file, locks.get? file = none) (file : Wide)
    (index : Nat) (other : Wide) :
    (Turns.unlock (locks.put file index) file index).get? other = none := by
  rw [Turns.unlock, Entries.get?_put, if_pos rfl, if_pos rfl, Entries.get?_remove,
    Entries.get?_put, h other]
  split <;> rfl

theorem reached_run {before : List Errand} {job : Job} {rest : Query (Except QueryError Bool)}
    (herrands : session.errands = before ++ [⟨job, .asking rest⟩]) :
    Reached apart session { session with
      tracker := (rest.run (Tracker.respond session.tree) session.tracker).2
      errands := before ++ [⟨job, .ended
        (.answered (rest.run (Tracker.respond session.tree) session.tracker).1)⟩] } := by
  induction rest generalizing session with
  | done result => exact .single (.work herrands nofun nofun (.answer job result))
  | ask r next ih => exact .head (.work herrands nofun nofun (.request job r next)) (ih _ rfl)

/-- A question that is put while no file is locked can be answered before anything else is done. -/
theorem reached_isIgnored (hfree : session.IsFree) (range : Range) (origin : Origin) :
    ∃ after, Reached apart session after ∧ after.IsFree ∧ after.tree = session.tree ∧
      after.persists = session.persists ∧
      after.tracker = (session.tracker.isIgnored session.tree range origin).2 ∧
      ∃ job, after.errands = session.errands ++ [⟨job, .settled
        (.answered (session.tracker.isIgnored session.tree range origin).1)⟩] := by
  have hlaunch : Step apart session _ := .ask ⟨range, origin⟩
  have hstart : Step apart (session.launch (.question ⟨range, origin⟩)) _ :=
    .work rfl (fun index hindex => ?_) nofun (.start ⟨range, origin⟩ _)
  · refine ⟨_, .tail (.head hlaunch (.head hstart (reached_run rfl))) (.settle rfl), ?_, rfl, rfl,
      rfl, _, rfl⟩
    exact get?_unlock hfree _ _
  · exact nomatch (Progress.waiting.inj hindex).symm.trans (hfree range.file)

theorem reached_handedOver {before : List Errand} {file : Wide} {record : Record}
    {store : Store} {saved : Tracker}
    (herrands : session.errands = before ++ [⟨.handOver file, .waiting none⟩])
    (hstore : session.tracker.store = some store)
    (hrecord : session.tracker.records.get? file = some record)
    (hstill : apart → ¬ session.IsWriting)
    (hsave : session.tracker.saveRecord session.tree file = (.ok (), saved)) :
    Reached apart session { session with
      tracker := saved
      errands := before ++
        [⟨.handOver file, .ended (.handedOver (.ok { record with changed := false }))⟩] } := by
  rw [Tracker.saveRecord_eq hstore, hrecord] at hsave
  cases hchanged : record.changed with
  | false =>
      have hsame : { record with changed := false } = record := by rw [← hchanged]
      obtain rfl : session.tracker = saved := by simpa [hchanged] using hsave
      rw [hsame]
      exact .single (.work herrands nofun nofun (.skip none hrecord hchanged))
  | true =>
      simp only [hchanged, if_true] at hsave
      rcases hentry : session.tracker.saveEntry session.tree file record.entry with
        ⟨result, handed⟩
      rw [hentry] at hsave
      cases result with
      | error e => cases congrArg Prod.fst hsave
      | ok _ =>
          obtain rfl : handed.markSaved file = saved := (Prod.mk.inj hsave).2
          have hknown : handed.records.get? file = some record := by
            rw [(Tracker.saveEntry_keeps hentry).2, hrecord]
          have hhand : Step apart session _ :=
            .work herrands nofun nofun (.hand none hrecord hchanged)
          refine .head hhand (.head (.work rfl nofun (fun h _ _ => hstill h) (.save hentry))
            (.single (.work rfl nofun nofun (.mark hknown))))

theorem reached_visited (hfree : session.IsFree) {before rest : List Persist} {persist : Persist}
    {more : Entries Record} {file : Wide} {record : Record} {store : Store} {saved : Tracker}
    (hpersists : session.persists = before ++ persist :: rest)
    (hstage : persist.stage = .visiting)
    (hrecords : session.tracker.records = persist.turns ++ (file, record) :: more)
    (hrecord : session.tracker.records.get? file = some record)
    (hstore : session.tracker.store = some store) (hstill : apart → ¬ session.IsWriting)
    (hsave : session.tracker.saveRecord session.tree file = (.ok (), saved)) :
    ∃ after, Reached apart session after ∧ after.IsFree ∧ after.tree = session.tree ∧
      after.tracker = saved ∧ after.persists = before ++ { persist with
        turns := persist.turns ++ [(file, { record with changed := false })] } :: rest := by
  have hvisit : Step apart session _ := .visit hpersists hstage (by
    rw [hrecords, List.getElem?_append_right le_rfl, Nat.sub_self, List.getElem?_cons_zero])
  have hnone : session.locks.get? file = none := hfree file
  have hstill' : apart → ¬ IsWriting { session.launch (.handOver file) with persists := before ++
      { persist with stage := .handing session.errands.length } :: rest } := by
    rintro h ⟨other, hmem, hwriting⟩
    rcases mem_of_mem_replace hmem with rfl | hold
    · exact nomatch hwriting.choose_spec
    · exact hstill h ⟨other, hpersists ▸ hold, hwriting⟩
  have hhanded : Reached apart { session.launch (.handOver file) with
      persists := before ++
        { persist with stage := .handing session.errands.length } :: rest } _ :=
    reached_handedOver (by simp [launch, Job.file, Job.asked, Range.wholeFile, hnone]; rfl)
      hstore hrecord hstill' hsave
  refine ⟨_, ((Relation.ReflTransGen.head hvisit hhanded).tail (.settle rfl)).tail
    (.go rfl (.proceed rfl (List.getElem?_concat_length ..) rfl)), ?_, rfl, rfl, ?_⟩
  · exact get?_unlock hfree file session.errands.length
  · rw [hstage]

theorem reached_allVisited (hfree : session.IsFree) {before : List Persist} {persist : Persist}
    {more : Entries Record} {store : Store} {saved : Tracker}
    (hpersists : session.persists = before ++ [persist]) (hstage : persist.stage = .visiting)
    (hrecords : session.tracker.records = persist.turns ++ more)
    (hkeys : session.tracker.records.keys.Nodup) (hstore : session.tracker.store = some store)
    (hstill : apart → ∀ other ∈ before, ¬ other.IsFlushing)
    (hsave : session.tracker.saveRecords session.tree more.keys = (.ok (), saved)) :
    ∃ after, Reached apart session after ∧ after.IsFree ∧ after.tree = session.tree ∧
      after.tracker = saved ∧ (∃ store, saved.store = some store) ∧
      after.persists = before ++ [{ persist with turns := saved.records }] := by
  -- Handing over a record keeps its place among the others, so the files are visited in this order.
  induction more generalizing session persist store with
  | nil =>
      obtain rfl : session.tracker = saved := congrArg Prod.snd hsave
      refine ⟨session, .refl, hfree, rfl, rfl, ⟨store, hstore⟩, ?_⟩
      rw [hpersists, hrecords, List.append_nil]
  | cons entry more ih =>
      obtain ⟨file, record⟩ := entry
      have hnew : file ∉ persist.turns.keys := by
        rw [hrecords, Entries.keys, List.map_append, List.nodup_append] at hkeys
        exact fun hmem => hkeys.2.2 file hmem file (by simp) rfl
      have hrecord : session.tracker.records.get? file = some record := by
        rw [hrecords, Entries.get?_append hnew]
      have hwriting : apart → ¬ session.IsWriting := by
        rintro hapart ⟨other, hmem, hwriting⟩
        rcases List.mem_append.mp (hpersists ▸ hmem) with hold | hown
        · exact hstill hapart other hold (Or.inr hwriting)
        · obtain rfl := List.mem_singleton.mp hown
          cases hstage.symm.trans hwriting.choose_spec
      change session.tracker.saveRecords session.tree (file :: Entries.keys more) = _ at hsave
      rw [Tracker.saveRecords] at hsave
      rcases hfirst : session.tracker.saveRecord session.tree file with ⟨result, handed⟩
      rw [hfirst] at hsave
      cases result with
      | error e => cases congrArg Prod.fst hsave
      | ok _ =>
          obtain ⟨next, hnext, hfree', htree, rfl, hpersists'⟩ :=
            reached_visited hfree hpersists hstage hrecords hrecord hstore hwriting hfirst
          have hend := Tracker.handedOver_saveRecord session.tracker session.tree file
          rw [hfirst] at hend
          change Tracker.HandedOver _ _ _ (.ok ()) next.tracker at hend
          obtain ⟨store', hstore'⟩ := hend.exists_store hstore
          have hput := hend.records_eq hstore hrecord
          rw [hrecords, Entries.put_append hnew] at hput
          have hkeys' : next.tracker.records.keys.Nodup := by
            rw [hrecords] at hkeys
            simpa [hput, Entries.keys] using hkeys
          obtain ⟨after, hafter, hend⟩ := ih hfree' hpersists' hstage
            (by rw [hput, List.append_assoc]; rfl) hkeys' hstore' (htree ▸ hsave)
          exact ⟨after, hnext.trans hafter, htree ▸ hend⟩

/-- A persist that is called while no file is locked can hand over all that is known before anything
else is done. -/
theorem reached_call (hfree : session.IsFree) (hkeys : session.tracker.records.keys.Nodup)
    (hstill : apart → ¬ session.IsFlushing) {store : Store}
    (hstore : session.tracker.store = some store) {saved : Tracker}
    (hsave : session.tracker.saveRecords session.tree session.tracker.records.keys =
      (.ok (), saved)) :
    ∃ after, Reached apart session after ∧ after.IsFree ∧ after.tree = session.tree ∧
      after.tracker = saved ∧ (∃ store, saved.store = some store) ∧ after.persists =
        session.persists ++ [⟨session.tracker.records.keys, saved.records, .visiting⟩] := by
  have hcall : Step apart session _ := .call
  obtain ⟨after, hafter, hend⟩ := @reached_allVisited { session with
      persists := session.persists ++ [{ tracked := session.tracker.records.keys }] }
    apart hfree _ _ session.tracker.records _ _ rfl rfl rfl hkeys hstore
    (fun hapart other hmem hflushing => hstill hapart ⟨other, hmem, hflushing⟩) hsave
  exact ⟨after, .head hcall hafter, hend⟩

/-- When all files have been visited, the cache file begins to be written if there is anything to
write. -/
theorem reached_writing {before : List Persist} {persist : Persist} {store : Store} {cache : Cache}
    (hpersists : session.persists = before ++ [persist]) (hstage : persist.stage = .visiting)
    (hrecords : session.tracker.records = persist.turns)
    (hstore : session.tracker.store = some store) (hchanged : store.changed = true)
    (hcache : (store.entries session.tree).1 = .ok cache)
    (hstill : ∀ other ∈ before, ¬ other.IsFlushing) :
    Reached apart session { session with
      tracker := { session.tracker with store := some (store.entries session.tree).2.1 }.noteAll
        (store.entries session.tree).2.2
      persists := before ++ [{ persist with stage := .writing cache.encode }] } := by
  have hnone : session.tracker.records[persist.turns.length]? = none := by
    rw [hrecords, List.getElem?_eq_none_iff]
  have hidle : apart → ¬ session.IsFlushing := by
    rintro - ⟨other, hmem, hflushing⟩
    rcases List.mem_append.mp (hpersists ▸ hmem) with hold | hown
    · exact hstill other hold hflushing
    · obtain rfl := List.mem_singleton.mp hown
      simp [Persist.IsFlushing, Persist.IsWriting, hstage] at hflushing
  have hflushing : Step apart session _ :=
    .go hpersists (.flush hstage hnone hstore hchanged hidle)
  exact .tail (.single hflushing) (.go rfl (.begin rfl hstore hcache))

/-- Where one file is known, and has changed, a persist hands over what is known and begins to
write. For other files the tracker stays as it is. -/
theorem reached_writingOne (hfree : session.IsFree) (hpersists : session.persists = [])
    {store : Store} (hstore : session.tracker.store = some store) {file : Wide} {record : Record}
    (hrecords : session.tracker.records = [(file, record)]) (hchanged : record.changed = true)
    {cache : Cache} (hentries : (store.entries session.tree).1 = .ok cache) :
    ∃ busy first opened, Reached apart session busy ∧ busy.IsFree ∧ busy.tree = session.tree ∧
      busy.persists = [first] ∧
      first.stage = .writing (Cache.encode (cache.put file record.entry)) ∧
      busy.tracker.store = some opened ∧ opened.path = store.path ∧
      opened.opened = some (.ok (cache.put file record.entry)) ∧
      busy.tracker.records.keys = [file] ∧ ∀ other ≠ file,
        Tracker.AlikeOn session.tree other session.tracker busy.tracker := by
  have hrecord : session.tracker.records.get? file = some record := by simp [hrecords, Entries.get?]
  have hkeys : session.tracker.records.keys = [file] := by simp [hrecords, Entries.keys]
  have hidle : ¬ session.IsFlushing := by simp [IsFlushing, hpersists]
  obtain ⟨saved, hsave, hopened⟩ :=
    Tracker.saveRecord_changed hstore hrecord hchanged hentries
  have hhanded := Tracker.handedOver_saveRecord session.tracker session.tree file
  rw [hsave] at hhanded
  obtain ⟨next, hnext, hfree', htree, rfl, -, hpersists'⟩ :=
    @reached_call session apart hfree (by simp [hkeys]) (fun _ => hidle) _ hstore saved
      (by rw [hkeys, Tracker.saveRecords, hsave]; rfl)
  have hwriting : Reached apart next _ :=
    @reached_writing next apart [] _ _ _ (by rw [hpersists', hpersists]) rfl rfl hopened rfl
      rfl (by simp)
  refine ⟨_, _, _, hnext.trans hwriting, hfree', htree, rfl, rfl, Tracker.store_noteAll _ _,
    store.path_entries _, rfl, ?_, fun other hne => ?_⟩
  · rw [Tracker.records_noteAll, hhanded.records_eq hstore hrecord, hrecords]
    simp [Entries.put, Entries.keys]
  · have hopening : Tracker.AlikeOn session.tree other next.tracker
        { next.tracker with store := next.tracker.store } := .refl _ _ _
    rw [hopened] at hopening
    exact (hhanded.alikeOn hne).trans hopening

theorem exists_resolving {before : List Persist} {persist : Persist} {store : Store}
    {written : FileTree} {saved : Tracker}
    (hpersists : session.persists = before ++ [persist]) (hstage : persist.stage = .visiting)
    (hrecords : session.tracker.records = persist.turns)
    (hstore : session.tracker.store = some store) (hstill : ∀ other ∈ before, ¬ other.IsFlushing)
    (hflush : session.tracker.flush session.tree = (.ok (), written, saved))
    (hwritten : written.Holdable) :
    ∃ last stage, Reached apart session last ∧ (∀ result, stage ≠ .ended result) ∧
      last.persists = before ++ [{ persist with stage }] ∧
      Step apart last { session with
        tree := written
        tracker := saved
        persists := before ++ [{ persist with stage := .ended (.ok ()) }] } := by
  rcases Tracker.flush_cases hstore hflush with
    ⟨hchanged, rfl, rfl⟩ | ⟨hchanged, cache, opened, texts, hentries, hwrite, rfl⟩
  · have hnone : session.tracker.records[persist.turns.length]? = none := by
      rw [hrecords, List.getElem?_eq_none_iff]
    exact ⟨session, .visiting, .refl, nofun, hstage ▸ hpersists,
      .go hpersists (.rest hstage hnone hstore hchanged)⟩
  · have hopened := store.entries_entries session.tree session.tree
    have hwriting : Reached apart session _ := reached_writing hpersists hstage hrecords hstore
      hchanged (congrArg Prod.fst hentries) hstill
    rw [hentries] at hopened hwriting
    exact ⟨_, .writing cache.encode, hwriting, nofun, rfl,
      .go rfl (.write rfl (Tracker.store_noteAll _ texts) (congrArg Prod.fst hopened) hwrite
        hwritten)⟩

/-- A persist that is called while no file is locked and no other one writes the cache file can do
all that it does before anything else is done. -/
theorem reached_persist (hfree : session.IsFree) (hkeys : session.tracker.records.keys.Nodup)
    (hstill : ¬ session.IsFlushing) {store : Store}
    (hstore : session.tracker.store = some store) {written : FileTree} {saved : Tracker}
    (hpersist : session.tracker.persist session.tree = (.ok (), written, saved))
    (hwritten : written.Holdable) :
    ∃ last after stage, Reached apart session last ∧ (∀ result, stage ≠ .ended result) ∧
      last.persists = session.persists ++
        [⟨session.tracker.records.keys, saved.records, stage⟩] ∧
      Step apart last after ∧ after.IsFree ∧ after.tree = written ∧ after.tracker = saved ∧
      after.persists = session.persists ++
        [⟨session.tracker.records.keys, saved.records, .ended (.ok ())⟩] := by
  have hothers : ∀ other ∈ session.persists, ¬ other.IsFlushing :=
    fun other hmem hflushing => hstill ⟨other, hmem, hflushing⟩
  unfold Tracker.persist at hpersist
  rcases hsave : session.tracker.saveRecords session.tree session.tracker.records.keys with
    ⟨result, handed⟩
  rw [hsave] at hpersist
  cases result with
  | error e => exact nomatch congrArg Prod.fst hpersist
  | ok _ =>
      have hflush : handed.flush session.tree = (.ok (), written, saved) := hpersist
      obtain ⟨next, hnext, hfree', htree, rfl, ⟨opened, hopened⟩, hpersists⟩ :=
        reached_call hfree hkeys (fun _ => hstill) hstore hsave
      have hend := Tracker.flushed_flush next.tracker session.tree
      rw [hflush] at hend
      have hrecords : saved.records = next.tracker.records := hend.records_eq
      obtain ⟨last, stage, hlast, hstage, hpersists', hstep⟩ := exists_resolving hpersists rfl rfl
        hopened hothers (htree ▸ hflush) hwritten
      exact ⟨last, _, stage, hnext.trans hlast, hstage, hrecords ▸ hpersists', hstep, hfree', rfl,
        rfl, hrecords ▸ rfl⟩

end Session

end Suppression

import Suppression.Proofs.AskingFiles
import Suppression.Proofs.KeyedEntries

namespace Suppression.Tracker

variable {tree : FileTree} {tracker other : Tracker} {file : Wide}

theorem store_noteAll (tracker : Tracker) (texts : List Wide) :
    (tracker.noteAll texts).store = tracker.store := by
  induction texts generalizing tracker with
  | nil => rfl
  | cons text rest ih => exact ih _

theorem settings_noteAll (tracker : Tracker) (texts : List Wide) :
    (tracker.noteAll texts).settings = tracker.settings := by
  induction texts generalizing tracker with
  | nil => rfl
  | cons text rest ih => exact ih _

theorem records_noteAll (tracker : Tracker) (texts : List Wide) :
    (tracker.noteAll texts).records = tracker.records := by
  induction texts generalizing tracker with
  | nil => rfl
  | cons text rest ih => exact ih _

/-- How handing over what is known about a file ends, and what there is then. -/
inductive HandedOver (tree : FileTree) (tracker : Tracker) (file : Wide) :
    Except FileError Unit → Tracker → Prop
  | idle : (∀ store record, tracker.store = some store → tracker.records.get? file = some record →
      record.changed = false) → HandedOver tree tracker file (.ok ()) tracker
  | failed {store : Store} {error : FileError} {texts : List Wide} :
      tracker.store = some store → (store.entries tree).1 = .error error →
        HandedOver tree tracker file (.error error)
          ({ tracker with store := some (store.entries tree).2.1 }.noteAll texts)
  | saved {store : Store} {record : Record} {cache : Cache} {texts : List Wide} :
      tracker.store = some store → tracker.records.get? file = some record →
      record.changed = true → (store.entries tree).1 = .ok cache →
        HandedOver tree tracker file (.ok ())
          { { tracker with
              store := some { (store.entries tree).2.1 with
                opened := some (.ok (cache.put file record.entry)), changed := true } }.noteAll
                  texts with
            records := tracker.records.put file { record with changed := false } }

theorem handedOver_saveRecord (tracker : Tracker) (tree : FileTree) (file : Wide) :
    HandedOver tree tracker file (tracker.saveRecord tree file).1
      (tracker.saveRecord tree file).2 := by
  unfold saveRecord
  cases hstore : tracker.store with
  | none => exact .idle (by simp [hstore])
  | some store =>
      cases hrecord : tracker.records.get? file with
      | none => exact .idle (by simp [hrecord])
      | some record =>
          cases hchanged : record.changed with
          | false =>
              simp only [hchanged, Bool.false_eq_true, if_false]
              refine .idle fun _ record' _ hrecord' => ?_
              obtain rfl := Option.some.inj (hrecord.symm.trans hrecord')
              exact hchanged
          | true =>
              cases hentries : (store.entries tree).1 with
              | error e =>
                  simp only [hchanged, if_true, Store.save, hentries]
                  exact .failed hstore hentries
              | ok cache =>
                  simp only [hchanged, if_true, Store.save, hentries, records_noteAll]
                  exact .saved hstore hrecord hchanged hentries

/-- How writing the cache file ends, and what there is then. -/
inductive Flushed (tree : FileTree) (tracker : Tracker) :
    Except FileError Unit → FileTree → Tracker → Prop
  | idle : (∀ store, tracker.store = some store → store.changed = false) →
      Flushed tree tracker (.ok ()) tree tracker
  | failed {store : Store} {error : FileError} {texts : List Wide} :
      tracker.store = some store → (store.entries tree).1 = .error error →
        Flushed tree tracker (.error error) tree
          ({ tracker with store := some (store.entries tree).2.1 }.noteAll texts)
  | unwritten {store : Store} {cache : Cache} {written : FileTree} {error : FileError}
      {texts : List Wide} : tracker.store = some store → store.changed = true →
      (store.entries tree).1 = .ok cache →
      tree.writeWithParents store.path (Text.encodeUtf8 cache.encode) = (.error error, written) →
        Flushed tree tracker (.error error) written
          ({ tracker with store := some (store.entries tree).2.1 }.noteAll texts)
  | written {store : Store} {cache : Cache} {written : FileTree} {texts : List Wide} :
      tracker.store = some store → (store.entries tree).1 = .ok cache →
      tree.writeWithParents store.path (Text.encodeUtf8 cache.encode) = (.ok (), written) →
        Flushed tree tracker (.ok ()) written
          ({ tracker with
              store := some { (store.entries tree).2.1 with changed := false } }.noteAll texts)

theorem flushed_flush (tracker : Tracker) (tree : FileTree) :
    Flushed tree tracker (tracker.flush tree).1 (tracker.flush tree).2.1
      (tracker.flush tree).2.2 := by
  unfold flush
  cases hstore : tracker.store with
  | none => exact .idle (by simp [hstore])
  | some store =>
      cases hchanged : store.changed with
      | false =>
          have hsame : { tracker with store := some store } = tracker := by rw [← hstore]
          simp only [Store.flush, hchanged, Bool.false_eq_true, if_false, noteAll, List.foldl_nil,
            hsame]
          refine .idle fun store' hstore' => ?_
          obtain rfl := Option.some.inj (hstore.symm.trans hstore')
          exact hchanged
      | true =>
          cases hentries : (store.entries tree).1 with
          | error e =>
              simp only [Store.flush, hchanged, if_true, hentries]
              exact .failed hstore hentries
          | ok cache =>
              simp only [Store.flush, hchanged, if_true, hentries]
              rcases hwrite : tree.writeWithParents (store.entries tree).2.1.path
                (Text.encodeUtf8 cache.encode) with ⟨result, written⟩
              rw [Store.path_entries] at hwrite
              cases result with
              | error e => exact .unwritten hstore hchanged hentries hwrite
              | ok _ => exact .written hstore hentries hwrite

section known

variable {α : Type} {f : Record → α} {result : Except FileError Unit} {after : Tracker}

theorem HandedOver.map_get? (h : HandedOver tree tracker file result after)
    (hf : ∀ record, f { record with changed := false } = f record) (asked : Wide) :
    (after.records.get? asked).map f = (tracker.records.get? asked).map f := by
  cases h with
  | idle _ => rfl
  | failed _ _ => rw [records_noteAll]
  | saved _ hrecord _ _ =>
      simp only [Entries.get?_put]
      split
      · next heq => rw [heq, hrecord, Option.map_some, Option.map_some, hf]
      · rfl

theorem map_get?_saveRecords (hf : ∀ record, f { record with changed := false } = f record)
    (tracker : Tracker) (tree : FileTree) (files : List Wide) (asked : Wide) :
    ((tracker.saveRecords tree files).2.records.get? asked).map f =
      (tracker.records.get? asked).map f := by
  induction files generalizing tracker with
  | nil => rfl
  | cons file rest ih =>
      have hfirst := (handedOver_saveRecord tracker tree file).map_get? hf asked
      simp only [saveRecords]
      rcases hsave : tracker.saveRecord tree file with ⟨result, after⟩
      rw [hsave] at hfirst
      cases result with
      | error e => exact hfirst
      | ok _ => exact (ih after).trans hfirst

theorem Flushed.records_eq {written : FileTree} (h : Flushed tree tracker result written after) :
    after.records = tracker.records := by
  cases h with
  | idle _ => rfl
  | failed _ _ => rw [records_noteAll]
  | unwritten _ _ _ _ => rw [records_noteAll]
  | written _ _ _ => rw [records_noteAll]

theorem map_get?_persist (hf : ∀ record, f { record with changed := false } = f record)
    (tracker : Tracker) (tree : FileTree) (asked : Wide) :
    ((tracker.persist tree).2.2.records.get? asked).map f = (tracker.records.get? asked).map f := by
  have hsaved := map_get?_saveRecords hf tracker tree tracker.records.keys asked
  unfold persist
  rcases hsave : tracker.saveRecords tree tracker.records.keys with ⟨result, after⟩
  rw [hsave] at hsaved
  cases result with
  | error e => exact hsaved
  | ok _ =>
      change ((after.flush tree).2.2.records.get? asked).map f = _
      rw [(flushed_flush after tree).records_eq]
      exact hsaved

theorem snapshotOf?_persist (tracker : Tracker) (tree : FileTree) (asked : Wide) :
    (tracker.persist tree).2.2.snapshotOf? asked = tracker.snapshotOf? asked :=
  map_get?_persist (fun _ => rfl) tracker tree asked

theorem HandedOver.records_eq {store : Store} {record : Record}
    (h : HandedOver tree tracker file (.ok ()) after) (hstore : tracker.store = some store)
    (hrecord : tracker.records.get? file = some record) :
    after.records = tracker.records.put file { record with changed := false } := by
  cases h with
  | idle hunchanged =>
      have hsame : { record with changed := false } = record := by
        rw [← hunchanged store record hstore hrecord]
      rw [hsame, Entries.put_of_get? hrecord]
  | saved _ hrecord' _ _ =>
      obtain rfl := Option.some.inj (hrecord.symm.trans hrecord')
      rfl

theorem HandedOver.exists_store {store : Store} (h : HandedOver tree tracker file result after)
    (hstore : tracker.store = some store) : ∃ store, after.store = some store := by
  cases h with
  | idle _ => exact ⟨store, hstore⟩
  | failed _ _ => exact ⟨_, store_noteAll _ _⟩
  | saved _ _ _ _ => exact ⟨_, store_noteAll _ _⟩

theorem HandedOver.unchanged {other : Wide} {record : Record} {store : Store}
    (h : HandedOver tree tracker file (.ok ()) after) (hstore : tracker.store = some store)
    (hrecord : after.records.get? other = some record) :
    record.changed = false ∨ other ≠ file ∧ tracker.records.get? other = some record := by
  cases h with
  | idle hunchanged =>
      by_cases heq : other = file
      · exact Or.inl (hunchanged store record hstore (heq ▸ hrecord))
      · exact Or.inr ⟨heq, hrecord⟩
  | saved _ _ _ _ =>
      simp only [Entries.get?_put] at hrecord
      split at hrecord
      · obtain rfl := Option.some.inj hrecord
        exact Or.inl rfl
      · next hne => exact Or.inr ⟨hne, hrecord⟩

theorem unchanged_saveRecords {store : Store} (hstore : tracker.store = some store)
    {files : List Wide} (h : tracker.saveRecords tree files = (.ok (), after)) {other : Wide}
    {record : Record} (hrecord : after.records.get? other = some record) :
    record.changed = false ∨ other ∉ files ∧ tracker.records.get? other = some record := by
  induction files generalizing tracker store with
  | nil =>
      obtain rfl : tracker = after := congrArg Prod.snd h
      exact Or.inr ⟨by simp, hrecord⟩
  | cons file rest ih =>
      have hend := handedOver_saveRecord tracker tree file
      rcases hsave : tracker.saveRecord tree file with ⟨result, saved⟩
      rw [hsave] at hend
      rw [saveRecords, hsave] at h
      cases result with
      | error e => exact nomatch congrArg Prod.fst h
      | ok _ =>
          obtain ⟨store', hstore'⟩ := hend.exists_store hstore
          rcases ih hstore' h with hunchanged | ⟨hother, hbefore⟩
          · exact Or.inl hunchanged
          · rcases hend.unchanged hstore hbefore with hunchanged | ⟨hne, hknown⟩
            · exact Or.inl hunchanged
            · exact Or.inr ⟨by simp [hne, hother], hknown⟩

end known

section congr

theorem saveRecord_congr (hrecords : other.records = tracker.records)
    (hstore : other.store = tracker.store) (tree : FileTree) (file : Wide) :
    (other.saveRecord tree file).1 = (tracker.saveRecord tree file).1 ∧
      (other.saveRecord tree file).2.records = (tracker.saveRecord tree file).2.records ∧
      (other.saveRecord tree file).2.store = (tracker.saveRecord tree file).2.store := by
  unfold saveRecord
  rw [hrecords, hstore]
  split
  · next store record _ _ =>
      split
      · rcases store.save tree file record.entry with ⟨result, saved, texts⟩
        cases result with
        | error e => exact ⟨rfl, by simp [records_noteAll], by simp [store_noteAll]⟩
        | ok _ => exact ⟨rfl, by simp [records_noteAll], by simp [store_noteAll]⟩
      · exact ⟨rfl, hrecords, hstore⟩
  · exact ⟨rfl, hrecords, hstore⟩

theorem saveRecords_congr (hrecords : other.records = tracker.records)
    (hstore : other.store = tracker.store) (tree : FileTree) (files : List Wide) :
    (other.saveRecords tree files).1 = (tracker.saveRecords tree files).1 ∧
      (other.saveRecords tree files).2.store = (tracker.saveRecords tree files).2.store := by
  induction files generalizing tracker other with
  | nil => exact ⟨rfl, hstore⟩
  | cons file rest ih =>
      obtain ⟨hresult, hrecords', hstore'⟩ := saveRecord_congr hrecords hstore tree file
      simp only [saveRecords]
      rcases hsave : tracker.saveRecord tree file with ⟨result, after⟩
      rcases hsave' : other.saveRecord tree file with ⟨result', after'⟩
      simp only [hsave, hsave'] at hresult hrecords' hstore'
      subst hresult
      cases result' with
      | error e => exact ⟨rfl, hstore'⟩
      | ok _ => exact ih hrecords' hstore'

theorem persist_congr (hrecords : other.records = tracker.records)
    (hstore : other.store = tracker.store) (tree : FileTree) :
    (other.persist tree).1 = (tracker.persist tree).1 ∧
      (other.persist tree).2.1 = (tracker.persist tree).2.1 := by
  obtain ⟨hresult, hstore'⟩ := saveRecords_congr hrecords hstore tree tracker.records.keys
  unfold persist
  rw [hrecords]
  rcases hsave : tracker.saveRecords tree tracker.records.keys with ⟨result, after⟩
  rcases hsave' : other.saveRecords tree tracker.records.keys with ⟨result', after'⟩
  simp only [hsave, hsave'] at hresult hstore'
  subst hresult
  cases result' with
  | error e => exact ⟨rfl, rfl⟩
  | ok _ =>
      simp only [flush, hstore']
      cases after.store <;> exact ⟨rfl, rfl⟩

end congr

theorem exists_flush_of_opened {written : FileTree} {store : Store} {cache : Cache}
    (hstore : tracker.store = some store) (hchanged : store.changed = true)
    (hopened : store.opened = some (.ok cache)) (hwrite : tree.writeWithParents store.path
      (Text.encodeUtf8 cache.encode) = (.ok (), written)) :
    ∃ saved, tracker.flush tree = (.ok (), written, saved) := by
  unfold flush Store.flush Store.entries
  simp only [hstore, hchanged, if_true, hopened, hwrite]
  exact ⟨_, rfl⟩

theorem saveRecord_changed {store : Store} {record : Record} {cache : Cache}
    (hstore : tracker.store = some store) (hrecord : tracker.records.get? file = some record)
    (hchanged : record.changed = true) (hentries : (store.entries tree).1 = .ok cache) :
    ∃ saved, tracker.saveRecord tree file = (.ok (), saved) ∧
      saved.store = some { (store.entries tree).2.1 with
        opened := some (.ok (cache.put file record.entry)), changed := true } := by
  have hend := handedOver_saveRecord tracker tree file
  rcases hsave : tracker.saveRecord tree file with ⟨result, saved⟩
  rw [hsave] at hend
  change HandedOver tree tracker file result saved at hend
  cases hend with
  | idle hidle => cases (hidle store record hstore hrecord).symm.trans hchanged
  | failed hstore' herror =>
      obtain rfl := Option.some.inj (hstore.symm.trans hstore')
      cases hentries.symm.trans herror
  | saved hstore' hrecord' _ hfound =>
      obtain rfl := Option.some.inj (hstore.symm.trans hstore')
      obtain rfl := Option.some.inj (hrecord.symm.trans hrecord')
      obtain rfl := Except.ok.inj (hentries.symm.trans hfound)
      exact ⟨_, rfl, store_noteAll _ _⟩

theorem persist_one {store : Store} {record : Record} {cache : Cache}
    (hstore : tracker.store = some store) (hrecords : tracker.records = [(file, record)])
    (hchanged : record.changed = true)
    (hentries : (store.entries tree).1 = .ok cache) {written : FileTree}
    (hwrite : tree.writeWithParents store.path
      (Text.encodeUtf8 (Cache.encode (cache.put file record.entry))) = (.ok (), written)) :
    ∃ saved, tracker.persist tree = (.ok (), written, saved) := by
  have hrecord : tracker.records.get? file = some record := by simp [hrecords, Entries.get?]
  have hkeys : tracker.records.keys = [file] := by simp [hrecords, Entries.keys]
  obtain ⟨handed, hsave, hhanded⟩ := saveRecord_changed hstore hrecord hchanged hentries
  unfold persist
  rw [hkeys, saveRecords, hsave]
  refine exists_flush_of_opened hhanded rfl rfl ?_
  rw [store.path_entries]
  exact hwrite

end Suppression.Tracker

import Suppression.Proofs.AnyCache
import Suppression.Proofs.Persisting
import Suppression.Proofs.Rejection

namespace Suppression

namespace Record

variable {record : Record}

theorem IsMeasured.isMarked (h : record.IsMeasured) : record.entry.snapshot.IsMarked := by
  obtain ⟨line, hline⟩ := h.watermark
  have hwatermark : record.entry.snapshot.watermark = .ofNat line := hline
  have hzero : (0 : Number) = .ofNat 0 := rfl
  constructor
  · rw [hwatermark]
    exact Number.isInteger_ofNat line
  · rw [hwatermark, hzero, Number.ofNat_le_ofNat]
    exact Nat.zero_le line

theorem isMeasured_first {fingerprint : String} {lineCount : Nat}
    {stored : Except FileError (Option Snapshot)} (hcount : lineCount < 2 ^ 53)
    (hstored : ∀ snapshot, stored = .ok (some snapshot) → snapshot.IsMarked) :
    (Record.first fingerprint lineCount stored).IsMeasured := by
  unfold first
  cases husable : usable? lineCount stored with
  | none => exact ⟨hcount, 0, rfl⟩
  | some snapshot =>
      obtain ⟨hload, hpast⟩ := of_usable? husable
      obtain ⟨line, -, hline⟩ := (hstored snapshot hload).exists_watermark hpast
      exact ⟨hcount, line, hline⟩

end Record

namespace Tracker

/-- What is known is measured, and the watermarks that the store keeps are marked. -/
structure IsMeasured (tracker : Tracker) : Prop where
  records : ∀ file record, tracker.records.get? file = some record → record.IsMeasured
  stored : ∀ tree cache file entry, tracker.stored tree = some (.ok cache) →
    cache.get? file = some entry → entry.snapshot.IsMarked

variable {tracker after : Tracker} {file : Wide}

theorem isMeasured_start (settings : TrackerSettings) {store : Option Store}
    (h : ∀ store' ∈ store, store'.opened = none) : IsMeasured { settings, store } := by
  constructor
  · intro file record hrecord
    simp [Entries.get?] at hrecord
  · intro tree cache file entry hstored hentry
    obtain ⟨store', hstore, hentries⟩ := Option.map_eq_some_iff.mp hstored
    simp only [Store.entries, h store' hstore] at hentries
    obtain ⟨text, -, hdecoded⟩ := Store.exists_text_of_readCache hentries hentry
    have hvalid := Cache.isValid_of_get? hdecoded hentry
    simp only [CacheEntry.isValid, Bool.and_eq_true] at hvalid
    exact Snapshot.isMarked_of_isValid hvalid.2

namespace IsMeasured

theorem of_eq (h : tracker.IsMeasured) (hrecords : after.records = tracker.records)
    (hstore : after.store = tracker.store) : after.IsMeasured := by
  refine ⟨hrecords ▸ h.records, ?_⟩
  simp only [Tracker.stored, hstore]
  exact h.stored

theorem noteAll (h : tracker.IsMeasured) (texts : List Wide) :
    (tracker.noteAll texts).IsMeasured :=
  h.of_eq (records_noteAll tracker texts) (store_noteAll tracker texts)

theorem remember (h : tracker.IsMeasured) {record : Record} (hrecord : record.IsMeasured)
    (file : Wide) : IsMeasured { tracker with records := tracker.records.put file record } := by
  refine ⟨?_, h.stored⟩
  intro other record' hother
  rw [Entries.get?_put] at hother
  split at hother
  · obtain rfl := Option.some.inj hother
    exact hrecord
  · exact h.records other record' hother

theorem openStore (h : tracker.IsMeasured) {store opened : Store}
    (hstore : tracker.store = some store)
    (tree : FileTree) (hopened : opened.opened = (store.entries tree).2.1.opened) :
    IsMeasured { tracker with store := some opened } := by
  refine ⟨h.records, ?_⟩
  intro later cache file entry hstored hentry
  have hsome := hopened.trans (store.opened_entries tree)
  simp only [Tracker.stored, Option.map_some, Store.entries, hsome] at hstored
  refine h.stored tree cache file entry ?_ hentry
  rw [Tracker.stored, hstore]
  exact hstored

theorem load (h : tracker.IsMeasured) (tree : FileTree) (file fingerprint : Wide) :
    (tracker.load tree file fingerprint).2.IsMeasured ∧
      ∀ snapshot, (tracker.load tree file fingerprint).1 = .ok (some snapshot) →
        snapshot.IsMarked := by
  constructor
  · unfold Tracker.load
    cases hstore : tracker.store with
    | none => exact h
    | some store =>
        refine IsMeasured.noteAll (h.openStore hstore tree ?_) _
        rw [(store.load_eq tree file fingerprint).2]
  · intro snapshot hsnapshot
    obtain ⟨cache, entry, hcache, hentry, -, rfl⟩ :=
      (load_idles tracker tree file fingerprint).2 snapshot hsnapshot
    exact h.stored tree cache file entry hcache hentry

theorem saveRecord (h : tracker.IsMeasured) (tree : FileTree) (file : Wide) :
    (tracker.saveRecord tree file).2.IsMeasured := by
  have hends := handedOver_saveRecord tracker tree file
  rcases hsave : tracker.saveRecord tree file with ⟨result, after⟩
  rw [hsave] at hends
  cases hends with
  | idle _ => exact h
  | failed hstore _ => exact (h.openStore hstore tree rfl).noteAll _
  | @saved store record cache texts hstore hrecord hchanged hentries =>
      have hmeasured := h.records file record hrecord
      have hsaved : IsMeasured { tracker with
          store := some { (store.entries tree).2.1 with
            opened := some (.ok (cache.put file record.entry)), changed := true } } := by
        refine ⟨h.records, ?_⟩
        intro later found other entry hstored hentry
        obtain rfl : Entries.put cache file record.entry = found :=
          Except.ok.inj (Option.some.inj hstored)
        rw [Entries.get?_put] at hentry
        split at hentry
        · obtain rfl := Option.some.inj hentry
          exact hmeasured.isMarked
        · refine h.stored tree cache other entry ?_ hentry
          rw [Tracker.stored, hstore, Option.map_some, hentries]
      have hnoted := hsaved.noteAll texts
      refine ⟨?_, hnoted.stored⟩
      have hunchanged : Record.IsMeasured { record with changed := false } :=
        ⟨hmeasured.lineCount_lt, hmeasured.watermark⟩
      exact (h.remember hunchanged file).records

theorem saveRecords (h : tracker.IsMeasured) (tree : FileTree) (files : List Wide) :
    (tracker.saveRecords tree files).2.IsMeasured := by
  induction files generalizing tracker with
  | nil => exact h
  | cons file rest ih =>
      have hsaved := h.saveRecord tree file
      rw [Tracker.saveRecords]
      rcases hsave : tracker.saveRecord tree file with ⟨result, after⟩
      rw [hsave] at hsaved
      cases result with
      | error e => exact hsaved
      | ok _ => exact ih hsaved

theorem flush (h : tracker.IsMeasured) (tree : FileTree) :
    (tracker.flush tree).2.2.IsMeasured := by
  have hends := flushed_flush tracker tree
  rcases hflush : tracker.flush tree with ⟨result, written, after⟩
  rw [hflush] at hends
  change Flushed tree tracker result written after at hends
  cases hends with
  | idle _ => exact h
  | failed hstore _ => exact (h.openStore hstore tree rfl).noteAll _
  | unwritten hstore _ _ _ => exact (h.openStore hstore tree rfl).noteAll _
  | written hstore _ _ =>
      refine IsMeasured.noteAll (h.openStore hstore tree ?_) _
      rfl

theorem persist (h : tracker.IsMeasured) (tree : FileTree) :
    (tracker.persist tree).2.2.IsMeasured := by
  have hsaved := h.saveRecords tree tracker.records.keys
  unfold Tracker.persist
  rcases hsave : tracker.saveRecords tree tracker.records.keys with ⟨result, after⟩
  rw [hsave] at hsaved
  cases result with
  | error e => exact hsaved
  | ok _ => exact hsaved.flush tree

end IsMeasured

end Tracker

end Suppression

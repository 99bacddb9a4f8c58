import Mathlib.Data.Set.Function
import Suppression.Proofs.AskingFiles
import Suppression.Proofs.FileWriting
import Suppression.Proofs.Utf8
import Suppression.Proofs.WritableRecord

namespace Suppression

open scoped List

/-- Contents that fingerprints tell apart. No text has as many as 2^53 characters. -/
structure Text.ToldApart (contents : Set String) : Prop where
  injOn : Set.InjOn Text.fingerprint contents
  length_lt : ∀ text ∈ contents, text.length < 2 ^ 53

theorem Text.toldApart_of_nodup {texts : List String} (hapart : (texts.map fingerprint).Nodup)
    (hheld : ∀ text ∈ texts, text.length < 2 ^ 53) : ToldApart {text | text ∈ texts} :=
  ⟨fun _ hone _ hother => List.inj_on_of_nodup_map hapart hone hother, hheld⟩

/-- What is known is true of one of the contents. -/
def Record.KnowsOf (matcher : Matcher) (contents : Set String) (record : Record) : Prop :=
  ∃ text ∈ contents, record.Knows matcher text

/-- No file has two entries, and every entry is that of a record of some kind. -/
structure Cache.Holds (P : Record → Prop) (cache : Cache) : Prop where
  keys : cache.keys.Nodup
  entries : ∀ entry ∈ cache, ∃ record : Record, P record ∧ record.entry = entry.2

namespace Cache.Holds

variable {P : Record → Prop} {cache other : Cache}

theorem empty (P : Record → Prop) : Holds P [] :=
  ⟨List.nodup_nil, by simp⟩

theorem of_perm (h : cache.Holds P) (hperm : other ~ cache) : other.Holds P :=
  ⟨(hperm.map Prod.fst).nodup_iff.mpr h.keys,
    fun entry hmem => h.entries entry (hperm.mem_iff.mp hmem)⟩

theorem put (h : cache.Holds P) {record : Record} (hrecord : P record) (file : Wide) :
    Holds P (Entries.put cache file record.entry) := by
  refine ⟨Entries.nodup_keys_put h.keys file _, ?_⟩
  intro entry hmem
  rcases Entries.mem_put hmem with rfl | hold
  · exact ⟨record, hrecord, rfl⟩
  · exact h.entries entry hold

end Cache.Holds

/-- Every entry is what was known of one of the contents. -/
abbrev Cache.TellsOf (matcher : Matcher) (contents : Set String) (cache : Cache) : Prop :=
  cache.Holds (Record.KnowsOf matcher contents)

namespace Cache.TellsOf

variable {matcher : Matcher} {contents : Set String} {cache : Cache}

theorem isWritable (h : cache.TellsOf matcher contents) (hcontents : Text.ToldApart contents)
    (hmatcher : matcher.NamesWritable) : cache.IsWritable := by
  refine ⟨h.keys, ?_⟩
  intro entry hmem
  obtain ⟨record, ⟨text, htext, hknows⟩, hentry⟩ := h.entries entry hmem
  rw [← hentry]
  exact hknows.isWritable (hcontents.length_lt text htext) hmatcher

theorem exists_knows (h : cache.TellsOf matcher contents) (hcontents : Text.ToldApart contents)
    {file : Wide} {text : String} {entry : CacheEntry}
    (hentry : Entries.get? cache file = some entry) (htext : text ∈ contents)
    (hfingerprint : entry.fingerprint = Text.fingerprint text) :
    ∃ record : Record, record.Knows matcher text ∧ record.entry = entry := by
  obtain ⟨record, ⟨known, hknown, hknows⟩, hrecord⟩ :=
    h.entries (file, entry) (Entries.mem_of_get? hentry)
  obtain rfl : record.entry = entry := hrecord
  have hsame : Text.fingerprint known = Text.fingerprint text :=
    Wide.text.inj (congrArg Wide.text hknows.fingerprint.symm |>.trans hfingerprint)
  obtain rfl := hcontents.injOn hknown htext hsame
  exact ⟨record, hknows, rfl⟩

end Cache.TellsOf

theorem FileTree.readText_of_writeWithParents {tree written : FileTree} {path text : String}
    (h : tree.writeWithParents path (Text.encodeUtf8 text) = (.ok (), written)) :
    written.readText path = .ok text := by
  rw [readText, Wide.shown_text, read_of_writeWithParents h, Except.map, Text.decodeUtf8_encodeUtf8]

/-- A file of a cache is missing, or has been written with a cache that tells of the contents. -/
inductive FileTree.HoldsCache (matcher : Matcher) (contents : Set String) (tree : FileTree)
    (path : String) : Prop
  | missing {error : FileError} : tree.readText path = .error error →
      error.code? = some .noEntry → HoldsCache matcher contents tree path
  | written {cache : Cache} : cache.TellsOf matcher contents →
      tree.readText path = .ok cache.encode → HoldsCache matcher contents tree path

variable {matcher : Matcher} {contents : Set String} {tree : FileTree} {path : String}

theorem Store.exists_readCache (hcontents : Text.ToldApart contents)
    (hmatcher : matcher.NamesWritable) {store : Store}
    (h : tree.HoldsCache matcher contents store.path) :
    ∃ cache, (store.readCache tree).1 = .ok cache ∧ cache.TellsOf matcher contents := by
  unfold readCache
  cases h with
  | missing hread hcode => exact ⟨[], by simp [hread, hcode], Cache.Holds.empty _⟩
  | @written cache htells hread =>
      have hdecode := Cache.decode?_encode (htells.isWritable hcontents hmatcher)
      simp only [hread]
      cases hdecoded : Cache.decode? cache.encode with
      | none => exact ⟨[], rfl, Cache.Holds.empty _⟩
      | some decoded =>
          rw [hdecode, Option.filter_eq_some_iff] at hdecoded
          obtain rfl := Option.some.inj hdecoded.1
          exact ⟨_, rfl, htells.of_perm (Json.inKeyOrder_perm cache)⟩

theorem Store.exists_flush (store : Store) {cache : Cache}
    (hentries : (store.entries tree).1 = .ok cache) (htells : cache.TellsOf matcher contents)
    (hholds : tree.HoldsCache matcher contents store.path)
    (hwritable : ∀ content, (tree.writeWithParents store.path content).1 = .ok ()) :
    ∃ written after notes, store.flush tree = (.ok (), written, after, notes) ∧
      written.HoldsCache matcher contents store.path := by
  unfold flush
  cases hchanged : store.changed with
  | false => exact ⟨tree, store, [], rfl, hholds⟩
  | true =>
      have hwrite := hwritable (Text.encodeUtf8 cache.encode)
      rcases hrun : tree.writeWithParents store.path (Text.encodeUtf8 cache.encode) with
        ⟨result, written⟩
      obtain rfl : result = .ok () := by rwa [hrun] at hwrite
      have hread := FileTree.readText_of_writeWithParents hrun
      simp only [if_true, hentries, Store.path_entries, hrun]
      exact ⟨written, _, _, rfl, .written htells hread⟩

namespace Tracker

/-- What is known and what is stored tells of the contents, and the store writes to a path. -/
structure Keeps (matcher : Matcher) (contents : Set String) (tree : FileTree) (path : String)
    (tracker : Tracker) : Prop where
  records : ∀ file record, tracker.records.get? file = some record →
    record.KnowsOf matcher contents
  storePath : tracker.store.map Store.path = some path
  stored : ∃ cache, tracker.stored tree = some (.ok cache) ∧ cache.TellsOf matcher contents

namespace Keeps

variable {tracker : Tracker}

theorem idles (h : tracker.Keeps matcher contents tree path) {after : Tracker}
    (hidle : Idles tree tracker after) : after.Keeps matcher contents tree path :=
  ⟨hidle.records ▸ h.records, hidle.storePath ▸ h.storePath, hidle.stored ▸ h.stored⟩

theorem remember (h : tracker.Keeps matcher contents tree path) {record : Record}
    (hknows : record.KnowsOf matcher contents) (file : Wide) :
    Keeps matcher contents tree path
      { tracker with records := tracker.records.put file record } := by
  refine ⟨?_, h.storePath, h.stored⟩
  intro other record' hother
  rw [Entries.get?_put] at hother
  split at hother
  · obtain rfl := Option.some.inj hother
    exact hknows
  · exact h.records other record' hother

theorem exists_store (h : tracker.Keeps matcher contents tree path) :
    ∃ store cache, tracker.store = some store ∧ store.path = path ∧
      (store.entries tree).1 = .ok cache ∧ cache.TellsOf matcher contents := by
  obtain ⟨store, hstore, hpath⟩ := Option.map_eq_some_iff.mp h.storePath
  obtain ⟨cache, hstored, htells⟩ := h.stored
  rw [Tracker.stored, hstore, Option.map_some] at hstored
  exact ⟨store, cache, hstore, hpath, Option.some.inj hstored, htells⟩

theorem saveRecord (h : tracker.Keeps matcher contents tree path) (file : Wide) :
    ∃ after, tracker.saveRecord tree file = (.ok (), after) ∧
      after.Keeps matcher contents tree path := by
  obtain ⟨store, cache, hstore, hpath, hentries, htells⟩ := h.exists_store
  unfold Tracker.saveRecord
  cases hrecord : tracker.records.get? file with
  | none => exact ⟨tracker, by simp [hstore], h⟩
  | some record =>
      cases hchanged : record.changed with
      | false => exact ⟨tracker, by simp [hstore, hchanged], h⟩
      | true =>
          have hknows := h.records file record hrecord
          have hsaved : Keeps matcher contents tree path
              { tracker with
                store := some { (store.entries tree).2.1 with
                  opened := some (.ok (cache.put file record.entry)), changed := true } } :=
            ⟨h.records, by rw [Option.map_some, Store.path_entries, hpath],
              _, rfl, htells.put hknows file⟩
          have hunchanged : Record.KnowsOf matcher contents { record with changed := false } := by
            obtain ⟨text, htext, hrecord⟩ := hknows
            exact ⟨text, htext, hrecord.fingerprint, hrecord.lineCount, hrecord.watermark⟩
          refine ⟨_, ?_, (hsaved.idles (.noteAll tree _ (store.entries tree).2.2)).remember
            hunchanged file⟩
          simp [hstore, hchanged, Store.save, hentries]

theorem saveRecords (h : tracker.Keeps matcher contents tree path) (files : List Wide) :
    ∃ after, tracker.saveRecords tree files = (.ok (), after) ∧
      after.Keeps matcher contents tree path := by
  induction files generalizing tracker with
  | nil => exact ⟨tracker, rfl, h⟩
  | cons file rest ih =>
      obtain ⟨saved, hsave, hkeeps⟩ := h.saveRecord file
      obtain ⟨after, hrest, hafter⟩ := ih hkeeps
      refine ⟨after, ?_, hafter⟩
      rw [Tracker.saveRecords, hsave]
      exact hrest

theorem flush (h : tracker.Keeps matcher contents tree path)
    (hholds : tree.HoldsCache matcher contents path)
    (hwritable : ∀ content, (tree.writeWithParents path content).1 = .ok ()) :
    ∃ written after, tracker.flush tree = (.ok (), written, after) ∧
      written.HoldsCache matcher contents path := by
  obtain ⟨store, cache, hstore, hpath, hentries, htells⟩ := h.exists_store
  obtain ⟨written, after, notes, hflush, hwritten⟩ :=
    store.exists_flush hentries htells (hpath ▸ hholds) (hpath ▸ hwritable)
  refine ⟨written, { tracker with store := some after }.noteAll notes, ?_, hpath ▸ hwritten⟩
  simp only [Tracker.flush, hstore, hflush]

theorem persist (h : tracker.Keeps matcher contents tree path)
    (hholds : tree.HoldsCache matcher contents path)
    (hwritable : ∀ content, (tree.writeWithParents path content).1 = .ok ()) :
    ∃ written after, tracker.persist tree = (.ok (), written, after) ∧
      written.HoldsCache matcher contents path := by
  obtain ⟨saved, hsave, hkeeps⟩ := h.saveRecords tracker.records.keys
  obtain ⟨written, after, hflush, hwritten⟩ := hkeeps.flush hholds hwritable
  refine ⟨written, after, ?_, hwritten⟩
  rw [Tracker.persist, hsave]
  exact hflush

end Keeps

end Tracker

end Suppression

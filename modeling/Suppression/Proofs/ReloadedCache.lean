import Suppression.Proofs.AlikeTrackers
import Suppression.Proofs.Persisting
import Suppression.Proofs.StorableRecord

namespace Suppression

open scoped List

namespace Entries

variable {α : Type} {entries other : Entries α}

theorem get?_of_mem (h : entries.keys.Nodup) {key : Wide} {value : α}
    (hmem : (key, value) ∈ entries) : entries.get? key = some value := by
  induction entries with
  | nil => simp at hmem
  | cons entry rest ih =>
      obtain ⟨k, v⟩ := entry
      obtain ⟨hnew, hrest⟩ := List.nodup_cons.mp h
      rcases List.mem_cons.mp hmem with heq | hmem
      · obtain ⟨rfl, rfl⟩ := Prod.mk.inj heq
        simp [get?]
      · have hne : k ≠ key := by
          rintro rfl
          exact hnew (List.mem_map.mpr ⟨(k, value), hmem, rfl⟩)
        simp [get?, hne, ih hrest hmem]

theorem get?_perm (h : entries.keys.Nodup) (hperm : other ~ entries) (key : Wide) :
    other.get? key = entries.get? key := by
  have hother : other.keys.Nodup := (hperm.map Prod.fst).nodup_iff.mpr h
  cases hfound : entries.get? key with
  | some value => exact get?_of_mem hother (hperm.mem_iff.mpr (mem_of_get? hfound))
  | none =>
      cases hlost : other.get? key with
      | none => rfl
      | some value =>
          have hmem := hperm.mem_iff.mp (mem_of_get? hlost)
          simp [get?_of_mem h hmem] at hfound

end Entries

abbrev Cache.IsStorable (cache : Cache) : Prop :=
  cache.Holds Record.IsStorable

theorem Cache.decode?_encode_of_isStorable {cache : Cache} (h : cache.IsStorable) :
    decode? (encode cache) = some (Json.inKeyOrder cache) := by
  have hwritable : cache.IsWritable := by
    refine ⟨h.keys, fun entry hmem => ?_⟩
    obtain ⟨record, hrecord, hentry⟩ := h.entries entry hmem
    exact hentry ▸ hrecord.isWritable
  rw [decode?_encode hwritable, Option.filter_eq_some_iff]
  refine ⟨rfl, List.all_eq_true.mpr fun entry hmem => ?_⟩
  obtain ⟨record, hrecord, hentry⟩ :=
    h.entries entry ((Json.inKeyOrder_perm cache).mem_iff.mp hmem)
  change entry.2.isValid = true
  exact hentry ▸ hrecord.isValid

namespace FileTree

/-- What a cache file holds. A missing file and one that is no cache hold nothing. -/
def cacheAt (tree : FileTree) (path : String) : Except FileError Cache :=
  match tree.readText path with
  | .error e => if e.code? = some .noEntry then .ok [] else .error e
  | .ok text => .ok ((Cache.decode? text).getD [])

/-- The cache file is read as a cache with the same entries. -/
def Serves (tree : FileTree) (path : String) (cache : Cache) : Prop :=
  ∃ read, tree.cacheAt path = .ok read ∧ read ~ cache

variable {tree later : FileTree} {path : String} {cache : Cache}

theorem cacheAt_congr {other : String} (h : later.readText other = tree.readText path) :
    later.cacheAt other = tree.cacheAt path := by
  simp only [cacheAt, h]

theorem cacheAt_of_missing {error : FileError} (h : tree.readText path = .error error)
    (hcode : error.code? = some .noEntry) : tree.cacheAt path = .ok [] := by
  simp [cacheAt, h, hcode]

theorem serves_of_missing {error : FileError} (h : tree.readText path = .error error)
    (hcode : error.code? = some .noEntry) : tree.Serves path [] :=
  ⟨[], cacheAt_of_missing h hcode, .refl []⟩

theorem serves_of_decode? (h : Cache.decode? cache.encode = some (Json.inKeyOrder cache))
    {written : FileTree}
    (hwrite : tree.writeWithParents path (Text.encodeUtf8 cache.encode) = (.ok (), written)) :
    written.Serves path cache := by
  refine ⟨Json.inKeyOrder cache, ?_, Json.inKeyOrder_perm cache⟩
  simp only [cacheAt, readText_of_writeWithParents hwrite, h, Option.getD_some]

theorem serves_of_written (h : cache.IsStorable) {written : FileTree}
    (hwrite : tree.writeWithParents path (Text.encodeUtf8 cache.encode) = (.ok (), written)) :
    written.Serves path cache :=
  serves_of_decode? (Cache.decode?_encode_of_isStorable h) hwrite

end FileTree

namespace Store

variable {store : Store} {tree later : FileTree} {path : String} {file : Wide} {cache : Cache}

theorem readCache_fst (store : Store) (tree : FileTree) :
    (store.readCache tree).1 = tree.cacheAt store.path := by
  unfold FileTree.cacheAt readCache
  cases tree.readText store.path with
  | error e => by_cases hcode : e.code? = some .noEntry <;> simp [hcode]
  | ok text => cases hdecoded : Cache.decode? text <;> simp [hdecoded]

theorem changed_entries (store : Store) (tree : FileTree) :
    (store.entries tree).2.1.changed = store.changed := by
  cases hopened : store.opened with
  | some cache => simp [entries, hopened]
  | none => simp [entries, hopened]

theorem entries_fst_congr (h : later.readText store.path = tree.readText store.path) :
    (store.entries later).1 = (store.entries tree).1 := by
  unfold entries
  split
  · rfl
  · rw [readCache_fst, readCache_fst, FileTree.cacheAt_congr h]

theorem entries_fst_unchanged (store : Store) (tree : FileTree) :
    ({ store with changed := false }.entries tree).1 = (store.entries tree).1 := by
  cases hopened : store.opened with
  | some cache => simp [entries, hopened]
  | none => simp only [entries, hopened, readCache_fst]

/-- The store has a cache of what may be kept. If nothing has been handed over to it since its file
was read or written, the file has the same entries. -/
structure Stocks (path : String) (tree : FileTree) (cache : Cache) (store : Store) : Prop where
  storePath : store.path = path
  entries : (store.entries tree).1 = .ok cache
  storable : cache.IsStorable
  serves : store.changed = false → tree.Serves path cache

theorem exists_stocks {served : Cache} (h : tree.Serves path served)
    (hstorable : served.IsStorable) (verbose : Bool) :
    ∃ cache, Stocks path tree cache { path, verbose } ∧ cache ~ served := by
  obtain ⟨cache, hcache, hperm⟩ := h
  refine ⟨cache, ⟨rfl, ?_, hstorable.of_perm hperm, fun _ => ⟨cache, hcache, .refl cache⟩⟩, hperm⟩
  rw [← hcache]
  exact readCache_fst _ tree

namespace Stocks

theorem opened (h : store.Stocks path tree cache) :
    (store.entries tree).2.1.Stocks path tree cache := by
  refine ⟨(path_entries store tree).trans h.storePath, ?_, h.storable, ?_⟩
  · rw [entries_entries]
    exact h.entries
  · rw [changed_entries]
    exact h.serves

theorem edit (h : store.Stocks path tree cache) (hpath : later.readText path = tree.readText path) :
    store.Stocks path later cache := by
  refine ⟨h.storePath, ?_, h.storable, fun hchanged => ?_⟩
  · rw [entries_fst_congr (h.storePath.symm ▸ hpath), h.entries]
  · rw [FileTree.Serves, FileTree.cacheAt_congr hpath]
    exact h.serves hchanged

theorem save (h : store.Stocks path tree cache) {record : Record} (hrecord : record.IsStorable)
    (file : Wide) :
    Stocks path tree (cache.put file record.entry) { (store.entries tree).2.1 with
      opened := some (.ok (cache.put file record.entry)), changed := true } :=
  ⟨h.opened.storePath, rfl, h.storable.put hrecord file, nofun⟩

theorem written (h : store.Stocks path tree cache) {written : FileTree} (hwrite :
      tree.writeWithParents store.path (Text.encodeUtf8 cache.encode) = (.ok (), written)) :
    Stocks path written cache { (store.entries tree).2.1 with changed := false } := by
  refine ⟨h.opened.storePath, ?_, h.storable, fun _ => ?_⟩
  · rw [entries_fst_unchanged, entries_entries]
    exact h.entries
  · exact FileTree.serves_of_written h.storable (h.storePath ▸ hwrite)

theorem unwritten (h : store.Stocks path tree cache) (hchanged : store.changed = true)
    (written : FileTree) : (store.entries tree).2.1.Stocks path written cache := by
  refine ⟨h.opened.storePath, ?_, h.storable, fun hunchanged => ?_⟩
  · rw [entries_entries]
    exact h.entries
  · rw [changed_entries, hchanged] at hunchanged
    exact absurd hunchanged (by decide)

end Stocks

end Store

theorem Tracker.alike_opened {tree : FileTree} {reader : Reader} (h : reader.Reflects tree)
    (settings : TrackerSettings) {path : String} {cache : Cache}
    (hcache : tree.cacheAt path = .ok cache) (verbose : Bool) :
    Alike tree { settings, store := some { path, verbose } }
      { settings, store := some { path, verbose, opened := some (.ok cache) }, reader } :=
  alike_reading h settings _ _
    (congrArg some ((Store.readCache_fst { path, verbose } tree).trans hcache).symm)

end Suppression

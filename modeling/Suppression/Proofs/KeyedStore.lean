import Suppression.Proofs.HeldCache
import Suppression.Proofs.ReloadedCache

namespace Suppression

open scoped List

namespace Cache.IsKeepable

variable {cache other : Cache}

theorem empty : IsKeepable [] :=
  ⟨List.nodup_nil, by simp⟩

theorem of_perm (h : cache.IsKeepable) (hperm : other ~ cache) : other.IsKeepable :=
  ⟨(hperm.map Prod.fst).nodup_iff.mpr h.keys,
    fun entry hmem => h.entries entry (hperm.mem_iff.mp hmem)⟩

theorem put (h : cache.IsKeepable) {entry : CacheEntry} (hentry : entry.IsKeepable)
    (file : Wide) : IsKeepable (Entries.put cache file entry) := by
  refine ⟨Entries.nodup_keys_put h.keys file entry, ?_⟩
  intro kept hmem
  rcases Entries.mem_put hmem with rfl | hold
  · exact hentry
  · exact h.entries kept hold

end Cache.IsKeepable

theorem FileTree.isKeepable_of_cacheAt {tree : FileTree} {path : String} {cache : Cache}
    (h : tree.cacheAt path = .ok cache)
    (hfinite : ∀ entry ∈ cache, entry.2.snapshot.isFinite = true) : cache.IsKeepable := by
  unfold cacheAt at h
  split at h
  · split at h
    · obtain rfl := Except.ok.inj h
      exact .empty
    · simp at h
  · next text htext =>
      obtain rfl := Except.ok.inj h
      cases hdecoded : Cache.decode? text with
      | none => exact .empty
      | some cache =>
          rw [hdecoded] at hfinite
          exact Cache.isKeepable_of_decode? hdecoded hfinite

namespace Store

/-- What is asked of a store, one thing after the other, and what happens to its files meanwhile:
`saved` is what has been handed over to it, the last first. A write that breaks off may leave
anything behind; apart from that nobody else touches the cache file. -/
inductive Used (path : String) (verbose : Bool) (start : FileTree) :
    List (Wide × CacheEntry) → FileTree → Store → Prop
  | opened : Used path verbose start [] start { path, verbose }
  | edit {saved tree store} (later : FileTree) : Used path verbose start saved tree store →
      later.readText path = tree.readText path → Used path verbose start saved later store
  | load {saved tree store} (file fingerprint : Wide) : Used path verbose start saved tree store →
      Used path verbose start saved tree (store.load tree file fingerprint).2.1
  | save {saved tree store} (file : Wide) {entry : CacheEntry} :
      Used path verbose start saved tree store → entry.IsKeepable →
        Used path verbose start ((file, entry) :: saved) tree (store.save tree file entry).2.1
  | flush {saved tree store} : Used path verbose start saved tree store →
      Used path verbose start saved (store.flush tree).2.1 (store.flush tree).2.2.1
  | broken {saved tree store} (later : FileTree) : Used path verbose start saved tree store →
      store.changed = true → Used path verbose start saved later (store.entries tree).2.1

/-- The entry that was saved last for a file, or else the one that its cache file held at first. -/
def lastEntry (saved : List (Wide × CacheEntry)) (initial : Cache) (file : Wide) :
    Option CacheEntry :=
  (Entries.get? saved file).or (initial.get? file)

/-- The snapshot of that entry, if it was taken from the content with the fingerprint. -/
def lastSnapshot (saved : List (Wide × CacheEntry)) (initial : Cache)
    (file fingerprint : Wide) : Option Snapshot :=
  ((lastEntry saved initial file).filter fun entry => entry.fingerprint = fingerprint).map
    CacheEntry.snapshot

/-- The store has a cache that can be kept, with the last entry for each file. Its cache file has
the same unless something has been saved since it was read or written. -/
structure Answers (path : String) (last : Wide → Option CacheEntry) (tree : FileTree)
    (cache : Cache) (store : Store) : Prop where
  storePath : store.path = path
  entries : (store.entries tree).1 = .ok cache
  keepable : cache.IsKeepable
  last : ∀ file, cache.get? file = last file
  serves : store.changed = false → tree.Serves path cache

namespace Answers

variable {path : String} {last : Wide → Option CacheEntry} {tree later : FileTree} {cache : Cache}
  {store : Store}

theorem start (hcache : tree.cacheAt path = .ok cache) (hkeepable : cache.IsKeepable)
    (verbose : Bool) : Answers path cache.get? tree cache { path, verbose } := by
  refine ⟨rfl, ?_, hkeepable, fun _ => rfl, fun _ => ⟨cache, hcache, .refl cache⟩⟩
  rw [← hcache]
  exact readCache_fst _ tree

theorem opened (h : store.Answers path last tree cache) :
    (store.entries tree).2.1.Answers path last tree cache := by
  refine ⟨(path_entries store tree).trans h.storePath, ?_, h.keepable, h.last, ?_⟩
  · rw [entries_entries]
    exact h.entries
  · rw [changed_entries]
    exact h.serves

theorem edit (h : store.Answers path last tree cache)
    (hpath : later.readText path = tree.readText path) : store.Answers path last later cache := by
  refine ⟨h.storePath, ?_, h.keepable, h.last, fun hchanged => ?_⟩
  · rw [entries_fst_congr (h.storePath.symm ▸ hpath), h.entries]
  · rw [FileTree.Serves, FileTree.cacheAt_congr hpath]
    exact h.serves hchanged

theorem save (h : store.Answers path last tree cache) (file : Wide) {entry : CacheEntry}
    (hentry : entry.IsKeepable) :
    (store.save tree file entry).1 = .ok () ∧
      (store.save tree file entry).2.1.Answers path
        (fun other => if other = file then some entry else last other) tree
        (cache.put file entry) := by
  have hsave : store.save tree file entry = (.ok (), { (store.entries tree).2.1 with
      opened := some (.ok (cache.put file entry)), changed := true },
        (store.entries tree).2.2) := by
    simp only [Store.save, h.entries]
  rw [hsave]
  refine ⟨rfl, h.opened.storePath, rfl, h.keepable.put hentry file, fun other => ?_, by simp⟩
  rw [Entries.get?_put, h.last]

theorem broken (h : store.Answers path last tree cache) (hchanged : store.changed = true)
    (later : FileTree) : (store.entries tree).2.1.Answers path last later cache := by
  refine ⟨h.opened.storePath, ?_, h.keepable, h.last, fun hunchanged => ?_⟩
  · rw [entries_entries]
    exact h.entries
  · rw [changed_entries, hchanged] at hunchanged
    exact absurd hunchanged (by decide)

theorem written (h : store.Answers path last tree cache) {written : FileTree} (hwrite :
      tree.writeWithParents path (Text.encodeUtf8 cache.encode) = (.ok (), written)) :
    Answers path last written cache { (store.entries tree).2.1 with changed := false } := by
  refine ⟨h.opened.storePath, ?_, h.keepable, h.last, fun _ => ?_⟩
  · rw [entries_fst_unchanged, entries_entries]
    exact h.entries
  · exact FileTree.serves_of_decode? h.keepable.decode?_encode hwrite

theorem flush (h : store.Answers path last tree cache) :
    (store.flush tree).2.2.1.Answers path last (store.flush tree).2.1 cache ∧
      ((store.flush tree).1 = .ok () → (store.flush tree).2.1.Serves path cache) := by
  unfold Store.flush
  split
  · next hchanged =>
      simp only [h.entries]
      rcases hrun : tree.writeWithParents (store.entries tree).2.1.path
        (Text.encodeUtf8 cache.encode) with ⟨result, after⟩
      cases result with
      | error e => exact ⟨h.broken hchanged after, by simp⟩
      | ok _ =>
          have hwritten := h.written (h.opened.storePath ▸ hrun)
          exact ⟨hwritten, fun _ => hwritten.serves rfl⟩
  · next hunchanged => exact ⟨h, fun _ => h.serves (by simpa using hunchanged)⟩

theorem load_eq (h : store.Answers path last tree cache) (file fingerprint : Wide) :
    (store.load tree file fingerprint).1 = .ok (((last file).filter fun entry =>
      entry.fingerprint = fingerprint).map CacheEntry.snapshot) := by
  rw [(store.load_eq tree file fingerprint).1, h.entries, ← h.last]
  rfl

theorem reopened (h : store.Answers path last tree cache) (hserves : later.Serves path cache)
    (verbose : Bool) : ∃ read, Answers path last later read { path, verbose } := by
  obtain ⟨read, hread, hperm⟩ := hserves
  have hstart := start hread (h.keepable.of_perm hperm) verbose
  refine ⟨read, rfl, hstart.entries, hstart.keepable, fun file => ?_, hstart.serves⟩
  rw [Entries.get?_perm h.keepable.keys hperm, h.last]

end Answers

namespace Used

variable {path : String} {verbose : Bool} {start tree : FileTree}
  {saved : List (Wide × CacheEntry)} {initial : Cache} {store : Store}

/-- By induction on what has happened: each step keeps what the store has for each file. -/
theorem exists_answers (hcache : start.cacheAt path = .ok initial) (hkeepable : initial.IsKeepable)
    (h : Used path verbose start saved tree store) :
    ∃ cache, store.Answers path (lastEntry saved initial) tree cache := by
  induction h with
  | opened => exact ⟨initial, .start hcache hkeepable verbose⟩
  | edit later _ hpath ih =>
      obtain ⟨cache, hanswers⟩ := ih
      exact ⟨cache, hanswers.edit hpath⟩
  | @load saved tree store file fingerprint _ ih =>
      obtain ⟨cache, hanswers⟩ := ih
      rw [(store.load_eq tree file fingerprint).2]
      exact ⟨cache, hanswers.opened⟩
  | @save saved tree store file entry _ hentry ih =>
      obtain ⟨cache, hanswers⟩ := ih
      have hlast : lastEntry ((file, entry) :: saved) initial =
          fun other => if other = file then some entry else lastEntry saved initial other := by
        funext other
        by_cases hother : other = file
        · simp [lastEntry, Entries.get?, hother]
        · simp [lastEntry, Entries.get?, hother, Ne.symm hother]
      rw [hlast]
      exact ⟨_, (hanswers.save file hentry).2⟩
  | flush _ ih =>
      obtain ⟨cache, hanswers⟩ := ih
      exact ⟨cache, hanswers.flush.1⟩
  | broken later _ hchanged ih =>
      obtain ⟨cache, hanswers⟩ := ih
      exact ⟨cache, hanswers.broken hchanged later⟩

/-- The store has the last snapshot for each file, under its fingerprint only, and it accepts every
snapshot. After a flush that goes well, a store that is opened anew over the files has the same. -/
theorem keyed (hcache : start.cacheAt path = .ok initial)
    (hfinite : ∀ entry ∈ initial, entry.2.snapshot.isFinite = true)
    (h : Used path verbose start saved tree store) :
    (∀ file fingerprint, (store.load tree file fingerprint).1 =
      .ok (lastSnapshot saved initial file fingerprint)) ∧
    (∀ file entry, (store.save tree file entry).1 = .ok ()) ∧
    ∀ written flushed notes, store.flush tree = (.ok (), written, flushed, notes) →
      ∀ loud file fingerprint,
        (Store.load { path, verbose := loud } written file fingerprint).1 =
            (flushed.load written file fingerprint).1 ∧
          (flushed.load written file fingerprint).1 =
            .ok (lastSnapshot saved initial file fingerprint) := by
  obtain ⟨cache, hanswers⟩ :=
    h.exists_answers hcache (FileTree.isKeepable_of_cacheAt hcache hfinite)
  refine ⟨hanswers.load_eq, fun file entry => ?_, ?_⟩
  · simp only [Store.save, hanswers.entries]
  · intro written flushed notes hflush loud file fingerprint
    obtain ⟨hflushed, hserves⟩ := hanswers.flush
    simp only [hflush, forall_const] at hflushed hserves
    obtain ⟨read, hreopened⟩ := hanswers.reopened hserves loud
    rw [hreopened.load_eq, hflushed.load_eq]
    exact ⟨rfl, rfl⟩

/-- What another run has stored survives, beside what is stored in this one. -/
theorem keyed_otherFile :
    let start := FileTree.single "c" (Cache.knownTo "b.py" "1" "")
    let snapshot : Snapshot :=
      { watermark := .ofNat 2, intervals := [.oneLine 1 [{ analyzer := "mypy" }]] }
    let store := (Store.save { path := "c" } start "a.py" { fingerprint := "q", snapshot }).2.1
    ∃ written flushed notes, store.flush start = (.ok (), written, flushed, notes) ∧
      (Store.load { path := "c" } written "b.py" "p").1 =
        .ok (some { watermark := .ofNat 1, intervals := [], intervalsFirst := true }) ∧
      (Store.load { path := "c" } written "a.py" "q").1 = .ok (some snapshot) ∧
      (Store.load { path := "c" } written "a.py" "p").1 = .ok none := by
  intro start snapshot store
  have hread : start.readText "c" = .ok (Cache.knownTo "b.py" "1" "") :=
    FileTree.readText_stored rfl rfl
  let kept : Snapshot := { watermark := .ofNat 1, intervals := [], intervalsFirst := true }
  have hdecoded : Cache.decode? (Cache.knownTo "b.py" "1" "") =
      some ([("b.py", { fingerprint := "p", snapshot := kept })] : Cache) := by decide +kernel
  have hcache : start.cacheAt "c" =
      .ok ([("b.py", { fingerprint := "p", snapshot := kept })] : Cache) := by
    simp only [FileTree.cacheAt, hread, hdecoded, Option.getD_some]
  have hentry : CacheEntry.IsKeepable { fingerprint := "q", snapshot } := by
    refine ⟨by decide +kernel, rfl, Number.isHeld_ofNat (by decide), ?_⟩
    intro interval hmem
    obtain rfl := List.mem_singleton.mp hmem
    have hline : Number.IsHeld 1 := Number.isHeld_ofNat (by decide)
    refine ⟨hline, ?_, ?_, .refl _⟩
    · rintro _ ⟨⟩
      exact hline
    · intro target htarget
      obtain rfl := List.mem_singleton.mp htarget
      exact fun _ => rfl
  have hused : Used "c" false start [("a.py", { fingerprint := "q", snapshot })] start store :=
    .save "a.py" .opened hentry
  obtain ⟨-, -, hfresh⟩ := keyed hcache (List.forall_mem_singleton.mpr rfl) hused
  rcases hflush : store.flush start with ⟨result, written, flushed, notes⟩
  have hresult : (store.flush start).1 = .ok () := by
    have hwrite := @FileTree.writeWithParents_file start rfl (some _) rfl
    have hentries : (Store.readCache { path := "c" } start).1 = _ :=
      (readCache_fst _ _).trans hcache
    simp only [store, Store.save, Store.entries, hentries, Store.flush, hwrite, if_true]
  obtain rfl : result = .ok () := by rwa [hflush] at hresult
  have hload (file fingerprint : Wide) :
      (Store.load { path := "c" } written file fingerprint).1 = .ok (lastSnapshot
        [("a.py", { fingerprint := "q", snapshot })]
        [("b.py", { fingerprint := "p", snapshot := kept })] file fingerprint) := by
    obtain ⟨hsame, hlast⟩ := hfresh written flushed notes hflush false file fingerprint
    exact hsame.trans hlast
  refine ⟨written, flushed, notes, rfl, ?_, ?_, ?_⟩
  · rw [hload]; rfl
  · rw [hload]; rfl
  · rw [hload]; rfl

end Used

end Store

end Suppression

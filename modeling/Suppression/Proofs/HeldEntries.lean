import Suppression.Proofs.ExpectedAnswers
import Suppression.Proofs.MeasuredTracker
import Suppression.Proofs.ReloadedCache

namespace Suppression

/-- The entry as a store would write it down that had been handed it; nothing depends on the order
of the fields otherwise. -/
def CacheEntry.canonical (entry : CacheEntry) : CacheEntry :=
  { fingerprint := entry.fingerprint
    snapshot := { watermark := entry.snapshot.watermark, intervals := entry.snapshot.intervals } }

/-- What is known about a file is of some kind, and unless it has changed it is what is held of the
file. -/
structure Record.IsHeldAs (Q : Record → Prop) (held : Option CacheEntry) (record : Record) :
    Prop where
  kind : Q record
  entry : record.changed = false → held.map CacheEntry.canonical = some record.entry

/-- A kind of records that lasts, and that what is stored of a record is of when it is loaded. -/
structure Record.Endures (matcher : Matcher) (Q : Record → Prop) : Prop extends
    Record.Lasts matcher Q where
  loaded : ∀ record, Q record → ∀ lineCount < 2 ^ 53,
    ¬ Number.ofNat lineCount < record.watermark →
      Q (.ofSnapshot record.fingerprint lineCount record.snapshot)
  saved : ∀ record, Q record → Q { record with changed := false }

namespace Record

variable {matcher : Matcher} {Q : Record → Prop}

theorem Lasts.isHeldAs (h : Lasts matcher Q) (held : Option CacheEntry) :
    Lasts matcher (IsHeldAs Q held) where
  cold _ _ hne hcount := ⟨h.cold _ _ hne hcount, nofun⟩
  watermark _ hrecord := h.watermark _ hrecord.kind
  addInline _ _ _ _ _ hrecord hline hlt hle hnumber hmatch :=
    ⟨h.addInline _ _ _ _ _ hrecord.kind hline hlt hle hnumber hmatch, nofun⟩
  commit _ _ _ _ hrecord hline hlt hle hgathered :=
    ⟨h.commit _ _ _ _ hrecord.kind hline hlt hle hgathered, nofun⟩

theorem endures_isMeasured (matcher : Matcher) : Endures matcher IsMeasured where
  cold _ _ _ hcount := ⟨hcount, 0, rfl⟩
  watermark _ hrecord := hrecord.watermark
  addInline _ _ _ _ _ hrecord _ _ _ _ _ := ⟨hrecord.lineCount_lt, hrecord.watermark⟩
  commit _ _ last _ hrecord _ _ _ _ := ⟨hrecord.lineCount_lt, last, rfl⟩
  loaded _ hrecord _ hcount _ := ⟨hcount, hrecord.watermark⟩
  saved _ hrecord := ⟨hrecord.lineCount_lt, hrecord.watermark⟩

/-- What is known about a file comes from directives of its lines, and their targets are of some
kind. -/
structure IsGathered (P : Target → Prop) (record : Record) : Prop where
  lineCount_lt : record.lineCount < 2 ^ 53
  fingerprint : record.fingerprint ≠ ""
  placed : ∃ line < 2 ^ 53, record.watermark = .ofNat line ∧ record.intervals.Placed line
  targets : record.intervals.Name P

theorem endures_isGathered {P : Target → Prop} (hmatcher : matcher.Names P) :
    Endures matcher (IsGathered P) where
  cold _ _ hne hcount :=
    ⟨hcount, hne, ⟨0, by norm_num, rfl, by simp [cold, Intervals.Placed]⟩,
      by simp [cold, Intervals.Name]⟩
  watermark _ hrecord := hrecord.placed.imp fun _ hplaced => hplaced.2.1
  addInline record line text directive number hrecord hline hlt hle hnumber hmatch := by
    obtain ⟨hcount, hfingerprint, ⟨line', hline', hwatermark, hplaced⟩, htargets⟩ := hrecord
    have hexact : number < 2 ^ 53 := hle.trans_lt hcount
    refine ⟨hcount, hfingerprint, ⟨line', hline', hwatermark, ?_⟩, ?_⟩
    · simp only [Record.addInline, hnumber]
      exact hplaced.addInline (by omega) hexact directive.targets
    · exact htargets.addInline (hmatcher _ _ hmatch) directive.line
  commit record line last directives hrecord hline hlt hle hgathered := by
    obtain ⟨hcount, hfingerprint, ⟨line', hline', hwatermark, hplaced⟩, htargets⟩ := hrecord
    obtain rfl : line = line' := Number.ofNat_inj.mp (hline.symm.trans hwatermark)
    have hexact : last < 2 ^ 53 := hle.trans_lt hcount
    exact ⟨hcount, hfingerprint, ⟨last, hexact, rfl, hgathered.placed hplaced hexact⟩,
      htargets.applyAll (hgathered.names hmatcher)⟩
  loaded _ hrecord _ hcount _ :=
    ⟨hcount, hrecord.fingerprint, hrecord.placed, hrecord.targets⟩
  saved _ hrecord :=
    ⟨hrecord.lineCount_lt, hrecord.fingerprint, hrecord.placed, hrecord.targets⟩

end Record

/-- What is loaded from an entry is of some kind. -/
def CacheEntry.Gives (Q : Record → Prop) (entry : CacheEntry) : Prop :=
  ∀ digest : String, entry.fingerprint = digest → ∀ lineCount < 2 ^ 53,
    ¬ Number.ofNat lineCount < entry.snapshot.watermark →
      Q (.ofSnapshot digest lineCount entry.snapshot)

namespace Reader

/-- No text that has been read has as many as 2^53 lines. -/
def IsBounded (reader : Reader) : Prop :=
  ∀ file source, reader.held.get? file = some source →
    source.fingerprint ≠ "" ∧ source.lines.size < 2 ^ 53

variable {reader : Reader} {tree : FileTree}

theorem isBounded_empty : IsBounded {} := by
  intro file source h
  simp [Entries.get?] at h

theorem IsBounded.release (h : reader.IsBounded) (file : Wide) :
    (reader.release file).IsBounded := by
  intro other source hother
  rw [Reader.release, Entries.get?_remove] at hother
  split at hother
  · simp at hother
  · exact h other source hother

theorem IsBounded.source (h : reader.IsBounded) (htree : tree.Holdable) (file : Wide) :
    (∀ source, (reader.source tree file).1 = .ok source →
      source.fingerprint ≠ "" ∧ source.lines.size < 2 ^ 53) ∧
        (reader.source tree file).2.IsBounded := by
  unfold Reader.source
  cases hheld : reader.held.get? file with
  | some source =>
      refine ⟨?_, h⟩
      rintro _ ⟨⟩
      exact h file source hheld
  | none =>
      cases htext : tree.readText file with
      | error e => exact ⟨nofun, h⟩
      | ok text =>
          have hnew : (Source.ofText text).fingerprint ≠ "" ∧
              (Source.ofText text).lines.size < 2 ^ 53 := by
            rw [Source.size_ofText]
            exact ⟨Text.fingerprint_ne_empty text, Record.Knows.lines_lt (htree.length_lt htext)⟩
          refine ⟨?_, fun other source hother => ?_⟩
          · rintro _ ⟨⟩
            exact hnew
          · rw [Entries.get?_put] at hother
            split at hother
            · obtain rfl := Option.some.inj hother
              exact hnew
            · exact h other source hother

end Reader

namespace Tracker

variable {Q : Record → Prop} {tree later : FileTree} {tracker after : Tracker} {file : Wide}

/-- What the store holds of a file. -/
def heldOf (tracker : Tracker) (tree : FileTree) (file : Wide) : Option CacheEntry :=
  match tracker.stored tree with
  | some (.ok cache) => cache.get? file
  | _ => none

theorem heldOf_congr (h : after.stored later = tracker.stored tree) (file : Wide) :
    after.heldOf later file = tracker.heldOf tree file := by
  rw [heldOf, heldOf, h]

/-- Hands an entry over to the store. -/
def saveEntry (tracker : Tracker) (tree : FileTree) (file : Wide) (entry : CacheEntry) :
    Except FileError Unit × Tracker :=
  match tracker.store with
  | none => (.ok (), tracker)
  | some store =>
      let (result, store, notes) := store.save tree file entry
      (result, { tracker with store := some store }.noteAll notes)

theorem saveEntry_keeps {entry : CacheEntry} {result : Except FileError Unit}
    (h : tracker.saveEntry tree file entry = (result, after)) :
    after.settings = tracker.settings ∧ after.records = tracker.records := by
  unfold saveEntry at h
  split at h
  · obtain rfl := (Prod.mk.inj h).2
    exact ⟨rfl, rfl⟩
  · obtain rfl := (Prod.mk.inj h).2
    exact ⟨settings_noteAll _ _, records_noteAll _ _⟩

/-- What is known about a file does not count as changed any more. -/
def markSaved (tracker : Tracker) (file : Wide) : Tracker :=
  match tracker.records.get? file with
  | none => tracker
  | some record =>
      { tracker with records := tracker.records.put file { record with changed := false } }

theorem markSaved_settings (tracker : Tracker) (file : Wide) :
    (tracker.markSaved file).settings = tracker.settings := by
  unfold markSaved
  split <;> rfl

theorem markSaved_store (tracker : Tracker) (file : Wide) :
    (tracker.markSaved file).store = tracker.store := by
  unfold markSaved
  split <;> rfl

theorem get?_markSaved {record : Record} (h : tracker.records.get? file = some record)
    (other : Wide) : (tracker.markSaved file).records.get? other =
      if other = file then some { record with changed := false }
      else tracker.records.get? other := by
  unfold markSaved
  rw [h]
  exact Entries.get?_put _ _ _ _

theorem saveRecord_eq {store : Store} (hstore : tracker.store = some store) (tree : FileTree)
    (file : Wide) : tracker.saveRecord tree file =
      match tracker.records.get? file with
      | none => (.ok (), tracker)
      | some record =>
          if record.changed then
            match tracker.saveEntry tree file record.entry with
            | (.error e, after) => (.error e, after)
            | (.ok (), after) => (.ok (), after.markSaved file)
          else (.ok (), tracker) := by
  unfold saveRecord saveEntry
  rw [hstore]
  cases hrecord : tracker.records.get? file with
  | none => rfl
  | some record =>
      cases hchanged : record.changed with
      | false => simp [hchanged]
      | true =>
          simp only [hchanged, if_true]
          rcases hsave : store.save tree file record.entry with ⟨result, saved, texts⟩
          cases result with
          | error e => rfl
          | ok _ => simp only [markSaved, records_noteAll, hrecord]

/-- What is known about each file is what the store holds of it, unless it has changed, and all of
it is of some kind. -/
structure Warrants (Q : Record → Prop) (tree : FileTree) (tracker : Tracker) : Prop where
  reader : tracker.reader.IsBounded
  records : ∀ file record, tracker.records.get? file = some record →
    record.IsHeldAs Q (tracker.heldOf tree file)
  stored : ∀ file entry, tracker.heldOf tree file = some entry → entry.Gives Q

theorem warrants_start (settings : TrackerSettings) (store : Option Store)
    (h : ∀ file entry, heldOf { settings, store } tree file = some entry → entry.Gives Q) :
    Warrants Q tree { settings, store } := by
  refine ⟨Reader.isBounded_empty, fun file record hrecord => ?_, h⟩
  simp [Entries.get?] at hrecord

namespace Warrants

theorem of_eq (h : tracker.Warrants Q tree) (hreader : after.reader = tracker.reader)
    (hrecords : after.records = tracker.records)
    (hheld : ∀ file, after.heldOf later file = tracker.heldOf tree file) :
    after.Warrants Q later := by
  refine ⟨hreader ▸ h.reader, fun file record hrecord => ?_, fun file entry hentry => ?_⟩
  · rw [hheld]
    exact h.records file record (hrecords ▸ hrecord)
  · exact h.stored file entry (hheld file ▸ hentry)

theorem remember (h : tracker.Warrants Q tree) {record : Record}
    (hrecord : record.IsHeldAs Q (tracker.heldOf tree file)) :
    Warrants Q tree { tracker with records := tracker.records.put file record } := by
  refine ⟨h.reader, fun other record' hother => ?_, h.stored⟩
  rw [Entries.get?_put] at hother
  split at hother
  · next heq =>
      obtain rfl := Option.some.inj hother
      exact heq ▸ hrecord
  · exact h.records other record' hother

/-- The step lemma of a request. -/
theorem respond (h : tracker.Warrants Q tree) (htree : tree.Holdable) {r : Request}
    (hfile : ∀ asked, r.file? = some asked → asked = file)
    (hgrants : r.Grants (Record.IsHeldAs Q (tracker.heldOf tree file))) :
    r.Expects (Record.IsHeldAs Q (tracker.heldOf tree file)) (Tracker.respond tree r tracker).1 ∧
      (Tracker.respond tree r tracker).2.Warrants Q tree ∧
      ∀ other,
        (Tracker.respond tree r tracker).2.heldOf tree other = tracker.heldOf tree other := by
  cases r with
  | known asked =>
      obtain rfl := hfile asked rfl
      exact ⟨h.records asked, h, fun _ => rfl⟩
  | remember asked record =>
      obtain rfl := hfile asked rfl
      exact ⟨trivial, h.remember hgrants, fun _ => rfl⟩
  | fingerprint asked =>
      obtain ⟨hsource, hreader⟩ := h.reader.source htree asked
      refine ⟨fun digest hdigest => ?_, ⟨hreader, h.records, h.stored⟩, fun _ => rfl⟩
      cases hread : (tracker.reader.source tree asked).1 with
      | error e => simp [Tracker.respond, Reader.fingerprint, hread, Except.map] at hdigest
      | ok source =>
          obtain rfl : source.fingerprint = digest := by
            simpa [Tracker.respond, Reader.fingerprint, hread, Except.map] using hdigest
          exact (hsource source hread).1
  | lineCount asked =>
      obtain ⟨hsource, hreader⟩ := h.reader.source htree asked
      refine ⟨fun count hcount => ?_, ⟨hreader, h.records, h.stored⟩, fun _ => rfl⟩
      cases hread : (tracker.reader.source tree asked).1 with
      | error e => simp [Tracker.respond, Reader.lineCount, hread, Except.map] at hcount
      | ok source =>
          obtain rfl : source.lines.size = count := by
            simpa [Tracker.respond, Reader.lineCount, hread, Except.map] using hcount
          exact (hsource source hread).2
  | readLine asked line =>
      obtain ⟨-, hreader⟩ := h.reader.source htree asked
      exact ⟨trivial, ⟨hreader, h.records, h.stored⟩, fun _ => rfl⟩
  | release asked =>
      exact ⟨trivial, ⟨h.reader.release asked, h.records, h.stored⟩, fun _ => rfl⟩
  | note text => exact ⟨trivial, ⟨h.reader, h.records, h.stored⟩, fun _ => rfl⟩
  | load asked digest =>
      obtain rfl := hfile asked rfl
      obtain ⟨hidle, hloaded⟩ := load_idles tracker tree asked digest
      have hheld (other : Wide) := heldOf_congr hidle.stored other
      refine ⟨fun digest snapshot count hdigest hsnapshot hcount hwithin => ?_,
        h.of_eq (reader_load tracker tree asked digest) hidle.records hheld, hheld⟩
      obtain ⟨cache, entry, hcache, hentry, rfl, rfl⟩ := hloaded snapshot hsnapshot
      have hfound : tracker.heldOf tree asked = some entry := by
        simp only [heldOf, hcache, hentry]
      refine ⟨h.stored asked entry hfound digest hdigest count hcount hwithin, fun _ => ?_⟩
      rw [hfound, Option.map_some, CacheEntry.canonical, hdigest]
      rfl

end Warrants

theorem heldOf_opened {store : Store} (hstore : tracker.store = some store) (texts : List Wide)
    (file : Wide) :
    heldOf ({ tracker with store := some (store.entries tree).2.1 }.noteAll texts) tree file =
      tracker.heldOf tree file := by
  refine heldOf_congr ?_ file
  rw [Tracker.stored, Tracker.stored, store_noteAll, hstore, Option.map_some, Option.map_some,
    Store.entries_entries]

theorem saveEntry_cases {store : Store} (hstore : tracker.store = some store) (tree : FileTree)
    (file : Wide) (entry : CacheEntry) :
    (∃ error texts, (store.entries tree).1 = .error error ∧
      tracker.saveEntry tree file entry = (.error error,
        { tracker with store := some (store.entries tree).2.1 }.noteAll texts)) ∨
    ∃ cache texts, (store.entries tree).1 = .ok cache ∧
      tracker.saveEntry tree file entry = (.ok (), { tracker with
        store := some { (store.entries tree).2.1 with
          opened := some (.ok (cache.put file entry)), changed := true } }.noteAll texts) := by
  unfold saveEntry Store.save
  rw [hstore]
  cases hentries : (store.entries tree).1 with
  | error e => exact Or.inl ⟨e, _, rfl, by simp only [hentries]; rfl⟩
  | ok cache => exact Or.inr ⟨cache, _, rfl, by simp only [hentries]; rfl⟩

theorem heldOf_of_entries {store : Store} (hstore : tracker.store = some store) {cache : Cache}
    (hentries : (store.entries tree).1 = .ok cache) (file : Wide) :
    tracker.heldOf tree file = cache.get? file := by
  rw [heldOf, stored, hstore, Option.map_some, hentries]

/-- The step lemma of handing over: the store holds the entry from then on, if it can be read. -/
theorem Warrants.saveEntry (h : tracker.Warrants Q tree) {store : Store}
    (hstore : tracker.store = some store) {record : Record}
    (hrecord : tracker.records.get? file = some record) (hchanged : record.changed = true)
    {matcher : Matcher} (hkind : Record.Endures matcher Q) {result : Except FileError Unit}
    (hsave : tracker.saveEntry tree file record.entry = (result, after)) :
    after.Warrants Q tree ∧ after.records = tracker.records ∧
      ∀ other, after.heldOf tree other =
        if other = file ∧ result = .ok () then some record.entry
        else tracker.heldOf tree other := by
  rcases saveEntry_cases hstore tree file record.entry with
    ⟨error, texts, -, herror⟩ | ⟨cache, texts, hentries, hok⟩
  · obtain ⟨rfl, rfl⟩ := Prod.mk.inj (hsave.symm.trans herror)
    refine ⟨h.of_eq (reader_noteAll _ texts) (records_noteAll _ texts)
      (heldOf_opened hstore texts), records_noteAll _ texts, fun other => ?_⟩
    simpa using heldOf_opened hstore texts other
  · obtain ⟨rfl, rfl⟩ := Prod.mk.inj (hsave.symm.trans hok)
    have hheld (other : Wide) := heldOf_of_entries hstore hentries other
    have hafter (other : Wide) : heldOf ({ tracker with
          store := some { (store.entries tree).2.1 with
            opened := some (.ok (cache.put file record.entry)), changed := true } }.noteAll texts)
          tree other = if other = file then some record.entry else tracker.heldOf tree other := by
      rw [heldOf_of_entries (store_noteAll _ texts) rfl, Entries.get?_put, hheld]
    refine ⟨⟨?_, fun other known hknown => ?_, fun other entry hentry => ?_⟩,
      records_noteAll _ texts, fun other => by simp [hafter]⟩
    · rw [reader_noteAll]
      exact h.reader
    · rw [records_noteAll] at hknown
      obtain ⟨hkind', hentry⟩ := h.records other known hknown
      rw [hafter]
      split
      · next heq =>
          obtain rfl := Option.some.inj ((heq ▸ hknown).symm.trans hrecord)
          refine ⟨hkind', fun hunchanged => ?_⟩
          rw [hchanged] at hunchanged
          exact absurd hunchanged (by decide)
      · exact ⟨hkind', hentry⟩
    · rw [hafter] at hentry
      split at hentry
      · obtain rfl := Option.some.inj hentry
        rintro _ ⟨⟩
        exact hkind.loaded record (h.records file record hrecord).kind
      · exact h.stored other entry hentry

theorem Warrants.markSaved (h : tracker.Warrants Q tree) {record : Record}
    (hrecord : tracker.records.get? file = some record)
    (hheld : tracker.heldOf tree file = some record.entry) {matcher : Matcher}
    (hkind : Record.Endures matcher Q) : (tracker.markSaved file).Warrants Q tree := by
  unfold Tracker.markSaved
  rw [hrecord]
  refine h.remember ⟨hkind.saved record (h.records file record hrecord).kind, fun _ => ?_⟩
  rw [hheld]
  rfl

theorem Warrants.edit (h : tracker.Warrants Q tree) {store : Store}
    (hstore : tracker.store = some store)
    (hcache : store.opened = none → later.readText store.path = tree.readText store.path) :
    tracker.Warrants Q later ∧ ∀ other, tracker.heldOf later other = tracker.heldOf tree other := by
  have hentries : (store.entries later).1 = (store.entries tree).1 := by
    cases hopened : store.opened with
    | some found => simp [Store.entries, hopened]
    | none => exact Store.entries_fst_congr (hcache hopened)
  have hheld (other : Wide) : tracker.heldOf later other = tracker.heldOf tree other := by
    refine heldOf_congr ?_ other
    rw [Tracker.stored, Tracker.stored, hstore, Option.map_some, Option.map_some, hentries]
  exact ⟨h.of_eq rfl rfl hheld, hheld⟩

end Tracker

end Suppression

import Suppression.Proofs.LineNumber
import Suppression.Tracker

namespace Suppression

def FileTree.source (tree : FileTree) (file : Wide) : Except AccessError Source :=
  match tree.readText file with
  | .error e => .error ⟨file, .file e⟩
  | .ok text => .ok (Source.ofText text)

theorem FileTree.source_of_readText {tree : FileTree} {file : Wide} {text : String}
    (h : tree.readText file = .ok text) : tree.source file = .ok (Source.ofText text) := by
  rw [source, h]

namespace Source

theorem size_ofText (text : String) :
    (ofText text).lines.size = (Text.fileLines text.toList).length := by
  simp [ofText]

theorem line?_ofText (text : String) {above : Nat} {line : List Char}
    (hline : (Text.fileLines text.toList)[above]? = some line) :
    (ofText text).line? (.ofNat (above + 1)) = some (String.ofList line) := by
  have hlt : ¬ Number.ofNat (above + 1) < Number.ofNat 1 := by simp
  have hinteger := Number.isInteger_ofNat (above + 1)
  simp [line?, hinteger, ofText, hline, show ¬ Number.ofNat (above + 1) < 1 from hlt]

end Source

namespace Asking

variable {α β σ : Type} {handle : (r : Request) → σ → r.Answer × σ} {state after : σ}

theorem run_bind_ok {asking : Asking α} {result : α}
    (h : Query.run handle asking.run state = (.ok result, after)) (next : α → Asking β) :
    Query.run handle (asking >>= next).run state = Query.run handle (next result).run after := by
  change Query.run handle (Query.bind asking.run (ExceptT.bindCont next)) state = _
  rw [Query.run_bind, h]
  rfl

theorem run_bind_error {asking : Asking α} {error : QueryError}
    (h : Query.run handle asking.run state = (.error error, after)) (next : α → Asking β) :
    Query.run handle (asking >>= next).run state = (.error error, after) := by
  change Query.run handle (Query.bind asking.run (ExceptT.bindCont next)) state = _
  rw [Query.run_bind, h]
  rfl

end Asking

namespace Reader

def Reflects (reader : Reader) (tree : FileTree) : Prop :=
  ∀ file source, reader.held.get? file = some source → tree.source file = .ok source

theorem reflects_empty (tree : FileTree) : Reflects {} tree := by
  intro file source h
  simp [Entries.get?] at h

namespace Reflects

variable {reader : Reader} {tree : FileTree}

theorem release (h : reader.Reflects tree) (file : Wide) :
    (reader.release file).Reflects tree := by
  intro other source hother
  rw [Reader.release, Entries.get?_remove] at hother
  split at hother
  · simp at hother
  · exact h other source hother

theorem source (h : reader.Reflects tree) (file : Wide) :
    (reader.source tree file).1 = tree.source file ∧
      (reader.source tree file).2.Reflects tree := by
  unfold Reader.source
  cases hheld : reader.held.get? file with
  | some source => exact ⟨(h file source hheld).symm, h⟩
  | none =>
      cases htext : tree.readText file with
      | error e => exact ⟨by rw [FileTree.source, htext], h⟩
      | ok text =>
          have hsource := FileTree.source_of_readText htext
          refine ⟨hsource.symm, ?_⟩
          intro other source hother
          rw [Entries.get?_put] at hother
          split at hother
          · next heq =>
              obtain rfl := Option.some.inj hother
              rwa [heq]
          · exact h other source hother

end Reflects

end Reader

namespace Tracker

/-- What the store of a tracker holds, if there is a store. -/
def stored (tracker : Tracker) (tree : FileTree) : Option (Except FileError Cache) :=
  tracker.store.map fun store => (store.entries tree).1

/-- Nothing has changed but what is known and what has been read of the files. -/
structure Learns (tree : FileTree) (before after : Tracker) : Prop where
  settings : after.settings = before.settings
  stored : after.stored tree = before.stored tree
  storePath : after.store.map Store.path = before.store.map Store.path

/-- Files have been read and notes have been made, and nothing else has been done. -/
structure Idles (tree : FileTree) (before after : Tracker) : Prop extends
    Learns tree before after where
  records : after.records = before.records
  reflects : before.reader.Reflects tree → after.reader.Reflects tree

theorem Learns.refl (tree : FileTree) (tracker : Tracker) : Learns tree tracker tracker :=
  ⟨rfl, rfl, rfl⟩

theorem Learns.trans {tree : FileTree} {first second third : Tracker}
    (h : Learns tree first second) (h' : Learns tree second third) : Learns tree first third :=
  ⟨h'.settings.trans h.settings, h'.stored.trans h.stored, h'.storePath.trans h.storePath⟩

namespace Idles

variable {tree : FileTree} {first second third : Tracker}

theorem refl (tree : FileTree) (tracker : Tracker) : Idles tree tracker tracker :=
  ⟨.refl tree tracker, rfl, id⟩

theorem trans (h : Idles tree first second) (h' : Idles tree second third) :
    Idles tree first third :=
  ⟨h.toLearns.trans h'.toLearns, h'.records.trans h.records, h'.reflects ∘ h.reflects⟩

theorem saw (tree : FileTree) (tracker : Tracker) (event : Event) :
    Idles tree tracker (tracker.saw event) :=
  ⟨⟨rfl, rfl, rfl⟩, rfl, id⟩

theorem noteAll (tree : FileTree) (tracker : Tracker) (texts : List Wide) :
    Idles tree tracker (tracker.noteAll texts) := by
  induction texts generalizing tracker with
  | nil => exact refl tree tracker
  | cons text rest ih => exact (saw tree tracker (.noted text)).trans (ih _)

end Idles

/-- A computation run on a tracker; the files do not change meanwhile. -/
def ask {α : Type} (tracker : Tracker) (tree : FileTree) (asking : Asking α) :
    Except QueryError α × Tracker :=
  Query.run (respond tree) asking.run tracker

theorem isIgnored_eq_ask (tracker : Tracker) (tree : FileTree) (range : Range) (origin : Origin) :
    tracker.isIgnored tree range origin =
      tracker.ask tree (tracker.settings.answer range origin) := rfl

section ask

variable {α β : Type} {tree : FileTree} {tracker after : Tracker}

theorem ask_bind_ok {asking : Asking α} {result : α}
    (h : tracker.ask tree asking = (.ok result, after)) (next : α → Asking β) :
    tracker.ask tree (asking >>= next) = after.ask tree (next result) :=
  Asking.run_bind_ok h next

theorem ask_bind_error {asking : Asking α} {error : QueryError}
    (h : tracker.ask tree asking = (.error error, after)) (next : α → Asking β) :
    tracker.ask tree (asking >>= next) = (.error error, after) :=
  Asking.run_bind_error h next

theorem ask_request (tree : FileTree) (tracker : Tracker) (request : Request) :
    tracker.ask tree (Asking.request request) =
      (.ok (respond tree request tracker).1, (respond tree request tracker).2) := rfl

theorem ask_ofExcept {ε : Type} (tree : FileTree) (tracker : Tracker) (wrap : ε → QueryError)
    (result : Except ε α) :
    tracker.ask tree (Asking.ofExcept wrap result) = (result.mapError wrap, tracker) := rfl

theorem ask_access (tree : FileTree) (tracker : Tracker) (answer : Query (Except AccessError α)) :
    tracker.ask tree (Asking.access answer) =
      ((Query.run (respond tree) answer tracker).1.mapError .access,
        (Query.run (respond tree) answer tracker).2) := by
  have hlift : tracker.ask tree (ExceptT.lift answer : Asking (Except AccessError α)) =
      (.ok (Query.run (respond tree) answer tracker).1,
        (Query.run (respond tree) answer tracker).2) := by
    change Query.run (respond tree) (Query.bind answer _) tracker = _
    rw [Query.run_bind]
    rfl
  unfold Asking.access
  rw [ask_bind_ok hlift, ask_ofExcept]

theorem ask_source (h : tracker.reader.Reflects tree) (file : Wide) :
    Idles tree tracker { tracker with reader := (tracker.reader.source tree file).2 } :=
  ⟨⟨rfl, rfl, rfl⟩, rfl, fun _ => (h.source file).2⟩

theorem ask_fingerprint (h : tracker.reader.Reflects tree) (file : Wide) :
    ∃ after, tracker.ask tree (Asking.access (Query.request (.fingerprint file))) =
        (((tree.source file).map Source.fingerprint).mapError .access, after) ∧
      Idles tree tracker after := by
  refine ⟨_, ?_, ask_source h file⟩
  rw [ask_access, ← (h.source file).1]
  rfl

theorem ask_lineCount (h : tracker.reader.Reflects tree) {file : Wide} {text : String}
    (htext : tree.readText file = .ok text) :
    ∃ after, tracker.ask tree (Asking.access (Query.request (.lineCount file))) =
        (.ok (Text.fileLines text.toList).length, after) ∧ Idles tree tracker after := by
  refine ⟨_, ?_, ask_source h file⟩
  have hsource := (h.source file).1.trans (FileTree.source_of_readText htext)
  rw [ask_access, ← Source.size_ofText]
  change (((tracker.reader.source tree file).1.map _).mapError _, _) = _
  rw [hsource]
  rfl

theorem ask_readLine (h : tracker.reader.Reflects tree) {file : Wide} {text : String}
    (htext : tree.readText file = .ok text) {above : Nat} {line : List Char}
    (hline : (Text.fileLines text.toList)[above]? = some line) :
    ∃ after, tracker.ask tree (Asking.access (Query.request (.readLine file (above + 1)))) =
        (.ok (String.ofList line), after) ∧ Idles tree tracker after := by
  refine ⟨_, ?_, (ask_source h file).trans (.saw tree _ (.read file (above + 1)))⟩
  have hanswer : (tracker.reader.readLine tree file (.ofNat (above + 1))).1 =
      .ok (String.ofList line) := by
    simp only [Reader.readLine, (h.source file).1, FileTree.source_of_readText htext, Except.bind,
      Source.line?_ofText text hline]
  have hreader : (tracker.reader.readLine tree file (.ofNat (above + 1))).2 =
      (tracker.reader.source tree file).2 := rfl
  rw [ask_access, ← hreader]
  change ((tracker.reader.readLine tree file (.ofNat (above + 1))).1.mapError _, _) = _
  rw [hanswer]
  rfl

theorem ask_note (tree : FileTree) (tracker : Tracker) (settings : TrackerSettings)
    (text : Wide) :
    ∃ after, tracker.ask tree (settings.note text) = (.ok (), after) ∧
      Idles tree tracker after := by
  unfold TrackerSettings.note
  split
  · exact ⟨_, rfl, .saw tree tracker (.noted text)⟩
  · exact ⟨_, rfl, .refl tree tracker⟩

end ask

end Tracker

namespace Store

theorem entries_entries (store : Store) (tree later : FileTree) :
    (store.entries tree).2.1.entries later =
      ((store.entries tree).1, (store.entries tree).2.1, []) := by
  cases hopened : store.opened with
  | some cache => simp [entries, hopened]
  | none => simp [entries, hopened]

theorem path_entries (store : Store) (tree : FileTree) :
    (store.entries tree).2.1.path = store.path := by
  cases hopened : store.opened with
  | some cache => simp [entries, hopened]
  | none => simp [entries, hopened]

theorem opened_entries (store : Store) (tree : FileTree) :
    (store.entries tree).2.1.opened = some (store.entries tree).1 := by
  cases hopened : store.opened with
  | some cache => simp [entries, hopened]
  | none => simp [entries, hopened]

theorem entries_of_opened {store : Store} (h : store.opened.isSome = true) (tree : FileTree) :
    (store.entries tree).2.1 = store := by
  obtain ⟨entries, hentries⟩ := Option.isSome_iff_exists.mp h
  simp [Store.entries, hentries]

theorem load_eq (store : Store) (tree : FileTree) (file fingerprint : Wide) :
    (store.load tree file fingerprint).1 = (store.entries tree).1.map (fun cache =>
        ((cache.get? file).filter fun entry => entry.fingerprint = fingerprint).map
          CacheEntry.snapshot) ∧
      (store.load tree file fingerprint).2.1 = (store.entries tree).2.1 := by
  unfold load
  cases hentries : (store.entries tree).1 with
  | error e => simp [hentries, Except.map]
  | ok cache =>
      cases hentry : cache.get? file with
      | none => simp [hentries, hentry, Except.map]
      | some entry =>
          by_cases hfingerprint : entry.fingerprint = fingerprint
          · simp [hentries, hentry, hfingerprint, Except.map, Option.filter]
          · simp [hentries, hentry, hfingerprint, Except.map, Option.filter]

end Store

namespace Tracker

theorem load_idles (tracker : Tracker) (tree : FileTree) (file fingerprint : Wide) :
    Idles tree tracker (tracker.load tree file fingerprint).2 ∧
      ∀ snapshot, (tracker.load tree file fingerprint).1 = .ok (some snapshot) →
        ∃ cache entry, tracker.stored tree = some (.ok cache) ∧ cache.get? file = some entry ∧
          entry.fingerprint = fingerprint ∧ entry.snapshot = snapshot := by
  cases hstore : tracker.store with
  | none => simp [load, hstore, Idles.refl]
  | some store =>
      obtain ⟨hanswer, hafter⟩ := store.load_eq tree file fingerprint
      have hload : tracker.load tree file fingerprint =
          ((store.load tree file fingerprint).1,
            { tracker with store := some (store.entries tree).2.1 }.noteAll
              (store.load tree file fingerprint).2.2) := by
        rw [← hafter]
        simp only [load, hstore]
      rw [hload]
      have hopened : Idles tree tracker { tracker with store := some (store.entries tree).2.1 } :=
        ⟨⟨rfl, by simp [stored, hstore, Store.entries_entries],
          by simp [hstore, Store.path_entries]⟩, rfl, id⟩
      constructor
      · exact hopened.trans (.noteAll tree _ _)
      · intro snapshot hsnapshot
        rw [hanswer] at hsnapshot
        cases hentries : (store.entries tree).1 with
        | error e => simp [hentries, Except.map] at hsnapshot
        | ok cache =>
            simp only [hentries, Except.map, Except.ok.injEq, Option.map_eq_some_iff,
              Option.filter_eq_some_iff, decide_eq_true_eq] at hsnapshot
            obtain ⟨entry, ⟨hentry, hfingerprint⟩, rfl⟩ := hsnapshot
            exact ⟨cache, entry, by rw [stored, hstore, Option.map_some, hentries], hentry,
              hfingerprint, rfl⟩

end Tracker

end Suppression

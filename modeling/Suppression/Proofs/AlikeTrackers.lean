import Suppression.Diagnostic.Partition
import Suppression.Proofs.LazyScanning

namespace Suppression

theorem Query.run_related {α σ τ : Type} {handle : (r : Request) → σ → r.Answer × σ}
    {handle' : (r : Request) → τ → r.Answer × τ} {R : σ → τ → Prop}
    (h : ∀ r s t, R s t → (handle r s).1 = (handle' r t).1 ∧ R (handle r s).2 (handle' r t).2)
    (query : Query α) {s : σ} {t : τ} (hst : R s t) :
    (run handle query s).1 = (run handle' query t).1 ∧
      R (run handle query s).2 (run handle' query t).2 := by
  induction query generalizing s t with
  | done result => exact ⟨rfl, hst⟩
  | ask r next ih =>
      obtain ⟨hanswer, hafter⟩ := h r s t hst
      simp only [run, hanswer]
      exact ih _ hafter

namespace Tracker

/-- What the store holds; without a store that is nothing. -/
def kept (tracker : Tracker) (tree : FileTree) : Except FileError Cache :=
  (tracker.stored tree).getD (.ok [])

/-- Two trackers know the same, their stores hold the same, and what they hold of files is what the
files hold. -/
structure Alike (tree : FileTree) (tracker other : Tracker) : Prop where
  settings : other.settings = tracker.settings
  records : other.records = tracker.records
  kept : other.kept tree = tracker.kept tree
  reflects : tracker.reader.Reflects tree
  reflects_other : other.reader.Reflects tree

theorem load_fst (tracker : Tracker) (tree : FileTree) (file fingerprint : Wide) :
    (tracker.load tree file fingerprint).1 = (tracker.kept tree).map fun cache =>
      ((cache.get? file).filter fun entry => entry.fingerprint = fingerprint).map
        CacheEntry.snapshot := by
  cases hstore : tracker.store with
  | none => simp [load, kept, stored, hstore, Except.map, Entries.get?]
  | some store =>
      simp only [load, kept, stored, hstore, (store.load_eq tree file fingerprint).1]
      rfl

namespace Alike

variable {tree : FileTree} {tracker other after after' : Tracker}

theorem idles (h : Alike tree tracker other) (hidle : Idles tree tracker after)
    (hidle' : Idles tree other after') : Alike tree after after' := by
  refine ⟨?_, ?_, ?_, hidle.reflects h.reflects, hidle'.reflects h.reflects_other⟩
  · rw [hidle.settings, hidle'.settings, h.settings]
  · rw [hidle.records, hidle'.records, h.records]
  · rw [Tracker.kept, Tracker.kept, hidle.stored, hidle'.stored]
    exact h.kept

theorem respond (h : Alike tree tracker other) (request : Request) :
    (Tracker.respond tree request tracker).1 = (Tracker.respond tree request other).1 ∧
      Alike tree (Tracker.respond tree request tracker).2
        (Tracker.respond tree request other).2 := by
  -- A request for something in a file is answered from its source.
  have hsource (file : Wide) : (tracker.reader.source tree file).1 =
      (other.reader.source tree file).1 :=
    (h.reflects.source file).1.trans (h.reflects_other.source file).1.symm
  have hasked (file : Wide) := h.idles (ask_source h.reflects file)
    (ask_source h.reflects_other file)
  cases request with
  | known file => exact ⟨by simp only [Tracker.respond, h.records], h⟩
  | remember file record =>
      refine ⟨rfl, h.settings, ?_, h.kept, h.reflects, h.reflects_other⟩
      simp only [Tracker.respond, h.records]
  | fingerprint file =>
      refine ⟨?_, hasked file⟩
      simp only [Tracker.respond, Reader.fingerprint, hsource]
  | lineCount file =>
      refine ⟨?_, hasked file⟩
      simp only [Tracker.respond, Reader.lineCount, hsource]
  | readLine file line =>
      refine ⟨?_, (hasked file).idles (.saw tree _ (.read file line))
        (.saw tree _ (.read file line))⟩
      simp only [Tracker.respond, Reader.readLine, hsource]
  | release file =>
      exact ⟨rfl, h.settings, h.records, h.kept, h.reflects.release file,
        h.reflects_other.release file⟩
  | load file fingerprint =>
      refine ⟨?_, h.idles (load_idles tracker tree file fingerprint).1
        (load_idles other tree file fingerprint).1⟩
      simp only [Tracker.respond, load_fst, h.kept]
  | note text => exact ⟨rfl, h.idles (.saw tree _ (.noted text)) (.saw tree _ (.noted text))⟩

theorem isIgnored (h : Alike tree tracker other) (range : Range) (origin : Origin) :
    (tracker.isIgnored tree range origin).1 = (other.isIgnored tree range origin).1 ∧
      Alike tree (tracker.isIgnored tree range origin).2
        (other.isIgnored tree range origin).2 := by
  unfold Tracker.isIgnored
  rw [h.settings]
  exact Query.run_related (fun request _ _ halike => halike.respond request) _ h

theorem askAll (h : Alike tree tracker other) (questions : List Question) :
    (tracker.askAll tree questions).1 = (other.askAll tree questions).1 := by
  induction questions generalizing tracker other with
  | nil => rfl
  | cons question rest ih =>
      obtain ⟨hanswer, hafter⟩ := h.isIgnored question.range question.origin
      simp only [Tracker.askAll, hanswer, ih hafter]

end Alike

end Tracker

namespace Sorting

/-- Two sortings have noticed the same, over trackers that are alike. -/
structure Alike (tree : FileTree) (sorting other : Sorting) : Prop where
  tracker : Tracker.Alike tree sorting.tracker other.tracker
  verbose : other.verbose = sorting.verbose
  failedFiles : other.failedFiles = sorting.failedFiles

namespace Alike

variable {tree : FileTree} {sorting other : Sorting}

theorem note (h : Alike tree sorting other) (text : Wide) :
    Alike tree (sorting.note text) (other.note text) := by
  unfold Sorting.note
  rw [h.verbose]
  split
  · refine ⟨h.tracker.idles ?_ ?_, rfl, h.failedFiles⟩
    · exact .saw tree _ (.noted text)
    · exact .saw tree _ (.noted text)
  · exact h

theorem fail (h : Alike tree sorting other) (e : AccessError) :
    Alike tree (sorting.fail e) (other.fail e) := by
  unfold Sorting.fail
  rw [h.failedFiles]
  split
  · exact h
  · have hnote := h.note ("Reporting diagnostics in " ++ e.file ++ " unfiltered: " ++ e.message)
    exact ⟨hnote.tracker, hnote.verbose, rfl⟩

theorem decide (h : Alike tree sorting other) (d : Diagnostic) :
    (sorting.decide tree d).1 = (other.decide tree d).1 ∧
      Alike tree (sorting.decide tree d).2 (other.decide tree d).2 := by
  unfold Sorting.decide
  cases d.range with
  | error e =>
      cases e with
      | noText => exact ⟨rfl, h⟩
      | range e => exact ⟨rfl, h.note _⟩
  | ok range =>
      obtain ⟨hanswer, hafter⟩ := h.tracker.isIgnored range d.origin
      have hasked : Alike tree { sorting with tracker := (sorting.tracker.isIgnored tree range
          d.origin).2 } { other with tracker := (other.tracker.isIgnored tree range d.origin).2 } :=
        ⟨hafter, h.verbose, h.failedFiles⟩
      simp only [hanswer]
      cases (other.tracker.isIgnored tree range d.origin).1 with
      | ok ignored => exact ⟨rfl, hasked⟩
      | error e =>
          cases e with
          | access e => exact ⟨rfl, hasked.fail e⟩
          | range e => exact ⟨rfl, hasked⟩
          | grammar text => exact ⟨rfl, hasked⟩

theorem decideAll (h : Alike tree sorting other) (diagnostics : List Diagnostic) :
    (sorting.decideAll tree diagnostics).1 = (other.decideAll tree diagnostics).1 ∧
      Alike tree (sorting.decideAll tree diagnostics).2
        (other.decideAll tree diagnostics).2 := by
  induction diagnostics generalizing sorting other with
  | nil => exact ⟨rfl, h⟩
  | cons d rest ih =>
      obtain ⟨hanswer, hafter⟩ := h.decide d
      obtain ⟨hanswers, hrest⟩ := ih hafter
      exact ⟨by simp only [Sorting.decideAll, hanswer, hanswers], hrest⟩

end Alike

end Sorting

theorem Tracker.Alike.partition {tree : FileTree} {tracker other : Tracker}
    (h : Alike tree tracker other) (diagnostics : List Diagnostic) (verbose : Bool) :
    (Diagnostic.partition diagnostics tracker tree verbose).1 =
      (Diagnostic.partition diagnostics other tree verbose).1 := by
  have hsortings : Sorting.Alike tree { tracker, verbose } { tracker := other, verbose } :=
    ⟨h, rfl, rfl⟩
  obtain ⟨hanswers, hafter⟩ := hsortings.decideAll diagnostics
  simp only [Diagnostic.partition, hanswers, hafter.failedFiles]

theorem Reader.Reflects.hold {reader : Reader} {tree : FileTree} (h : reader.Reflects tree)
    {file : Wide} {text : String} (htext : tree.readText file = .ok text) :
    Reflects { held := (file, Source.ofText text) :: reader.held } tree := by
  intro other source hother
  simp only [Entries.get?] at hother
  split at hother
  · next heq =>
      obtain rfl := Option.some.inj hother
      rw [← heq]
      exact FileTree.source_of_readText htext
  · exact h other source hother

theorem Tracker.alike_reading {tree : FileTree} {reader : Reader} (h : reader.Reflects tree)
    (settings : TrackerSettings) (store opened : Option Store)
    (hstore : opened.map (fun store => (store.entries tree).1) =
      store.map fun store => (store.entries tree).1) :
    Alike tree { settings, store } { settings, store := opened, reader } := by
  refine ⟨rfl, rfl, ?_, Reader.reflects_empty tree, h⟩
  simp only [kept, stored, hstore]

theorem Tracker.alike_read {tree : FileTree} {file : Wide} {text : String}
    (htext : tree.readText file = .ok text) (settings : TrackerSettings)
    (store opened : Option Store) (hstore : opened.map (fun store => (store.entries tree).1) =
      store.map fun store => (store.entries tree).1) :
    Alike tree { settings, store }
      { settings, store := opened, reader := { held := [(file, Source.ofText text)] } } :=
  alike_reading ((Reader.reflects_empty tree).hold htext) settings store opened hstore

end Suppression

import Suppression.Proofs.AgreeingQueries
import Suppression.Proofs.AlikeTrackers

namespace Suppression

namespace Reader

variable {reader : Reader} {tree : FileTree}

theorem source_fst (reader : Reader) (tree : FileTree) (file : Wide) :
    (reader.source tree file).1 = (reader.held.get? file).elim (tree.source file) .ok := by
  cases hheld : reader.held.get? file with
  | some source => simp [Reader.source, hheld]
  | none => cases htext : tree.readText file <;> simp [Reader.source, FileTree.source, hheld, htext]

theorem source_source (reader : Reader) (tree : FileTree) (asked file : Wide) :
    ((reader.source tree asked).2.source tree file).1 = (reader.source tree file).1 := by
  cases hheld : reader.held.get? asked with
  | some source => simp [Reader.source, hheld]
  | none =>
      cases htext : tree.readText asked with
      | error e => simp [Reader.source, hheld, htext]
      | ok text =>
          have hafter : (reader.source tree asked).2.held =
              reader.held.put asked (Source.ofText text) := by simp [Reader.source, hheld, htext]
          rw [source_fst, source_fst, hafter, Entries.get?_put]
          split
          · next heq =>
              rw [heq, hheld]
              exact (FileTree.source_of_readText htext).symm
          · rfl

theorem source_release (reader : Reader) (tree : FileTree) (released file : Wide) :
    ((reader.release released).source tree file).1 =
      if file = released then tree.source file else (reader.source tree file).1 := by
  rw [source_fst, source_fst, release, Entries.get?_remove]
  split <;> rfl

end Reader

/-- The line that a request asks for. -/
def Request.reads : Request → List (Wide × Nat)
  | readLine file line => [(file, line)]
  | _ => []

namespace Tracker

/-- The lines that have been asked for, in the order in which they were. -/
def reads (tracker : Tracker) : List (Wide × Nat) :=
  tracker.log.toList.filterMap fun event =>
    match event with
    | .read file line => some (file, line)
    | _ => none

theorem reads_saw_noted (tracker : Tracker) (text : Wide) :
    (tracker.saw (.noted text)).reads = tracker.reads := by
  simp [reads, saw]

theorem reads_noteAll (tracker : Tracker) (texts : List Wide) :
    (tracker.noteAll texts).reads = tracker.reads := by
  induction texts generalizing tracker with
  | nil => rfl
  | cons text rest ih => exact (ih _).trans (reads_saw_noted tracker text)

theorem reader_noteAll (tracker : Tracker) (texts : List Wide) :
    (tracker.noteAll texts).reader = tracker.reader := by
  induction texts generalizing tracker with
  | nil => rfl
  | cons text rest ih => exact ih _

theorem reads_load (tracker : Tracker) (tree : FileTree) (file fingerprint : Wide) :
    (tracker.load tree file fingerprint).2.reads = tracker.reads := by
  unfold load
  split
  · rfl
  · exact reads_noteAll _ _

theorem reader_load (tracker : Tracker) (tree : FileTree) (file fingerprint : Wide) :
    (tracker.load tree file fingerprint).2.reader = tracker.reader := by
  unfold load
  split
  · rfl
  · exact reader_noteAll _ _

variable {tree : FileTree} {tracker other : Tracker} {file : Wide}

theorem reads_respond (tree : FileTree) (r : Request) (tracker : Tracker) :
    (respond tree r tracker).2.reads = tracker.reads ++ r.reads := by
  cases r with
  | load file fingerprint => exact (reads_load _ _ _ _).trans (List.append_nil _).symm
  | readLine file line => simp [respond, reads, saw, Request.reads]
  | note text => exact (reads_saw_noted _ _).trans (List.append_nil _).symm
  | release file => simp [respond, reads, saw, Request.reads]
  | _ => exact (List.append_nil _).symm

theorem kept_respond (tree : FileTree) (r : Request) (tracker : Tracker) :
    (respond tree r tracker).2.kept tree = tracker.kept tree := by
  cases r with
  | load file fingerprint =>
      rw [kept, kept, respond, (load_idles tracker tree file fingerprint).1.stored]
  | _ => rfl

theorem settings_respond (tree : FileTree) (r : Request) (tracker : Tracker) :
    (respond tree r tracker).2.settings = tracker.settings := by
  cases r with
  | load file fingerprint => exact (load_idles tracker tree file fingerprint).1.settings
  | _ => rfl

theorem records_respond (r : Request) (hr : ∀ file record, r ≠ .remember file record) :
    (respond tree r tracker).2.records = tracker.records := by
  cases r with
  | load file fingerprint => exact (load_idles tracker tree file fingerprint).1.records
  | remember file record => exact absurd rfl (hr file record)
  | _ => rfl

theorem load_fst_congr (h : (other.kept tree).map (fun cache => cache.get? file) =
    (tracker.kept tree).map fun cache => cache.get? file) (fingerprint : Wide) :
    (other.load tree file fingerprint).1 = (tracker.load tree file fingerprint).1 := by
  rw [load_fst, load_fst]
  cases hother : other.kept tree <;> cases htracker : tracker.kept tree <;>
    simp_all [Except.map]

/-- Two trackers are alike in all that concerns a file: what they know of it, what their stores hold
for it and what their readers have of it. -/
structure AlikeOn (tree : FileTree) (file : Wide) (tracker other : Tracker) : Prop where
  matcher : other.settings.matcher = tracker.settings.matcher
  record : other.records.get? file = tracker.records.get? file
  kept : (other.kept tree).map (fun cache => cache.get? file) =
    (tracker.kept tree).map fun cache => cache.get? file
  source : (other.reader.source tree file).1 = (tracker.reader.source tree file).1

theorem AlikeOn.refl (tree : FileTree) (file : Wide) (tracker : Tracker) :
    AlikeOn tree file tracker tracker :=
  ⟨rfl, rfl, rfl, rfl⟩

theorem AlikeOn.symm (h : AlikeOn tree file tracker other) : AlikeOn tree file other tracker :=
  ⟨h.matcher.symm, h.record.symm, h.kept.symm, h.source.symm⟩

theorem AlikeOn.trans {third : Tracker} (h : AlikeOn tree file tracker other)
    (h' : AlikeOn tree file other third) : AlikeOn tree file tracker third :=
  ⟨h'.matcher.trans h.matcher, h'.record.trans h.record, h'.kept.trans h.kept,
    h'.source.trans h.source⟩

theorem AlikeOn.left (h : AlikeOn tree file tracker other) (event : Event) :
    AlikeOn tree file (tracker.saw event) other :=
  ⟨h.matcher, h.record, h.kept, h.source⟩

theorem AlikeOn.right (h : AlikeOn tree file tracker other) (event : Event) :
    AlikeOn tree file tracker (other.saw event) :=
  ⟨h.matcher, h.record, h.kept, h.source⟩

/-- The step lemma of a question: a request about the file is answered alike. -/
theorem AlikeOn.respond (h : AlikeOn tree file tracker other) {r : Request}
    (hr : r.IsAbout file) :
    (Tracker.respond tree r tracker).1 = (Tracker.respond tree r other).1 ∧
      AlikeOn tree file (Tracker.respond tree r tracker).2 (Tracker.respond tree r other).2 := by
  have hkept : ((Tracker.respond tree r other).2.kept tree).map (fun cache => cache.get? file) =
      ((Tracker.respond tree r tracker).2.kept tree).map fun cache => cache.get? file := by
    rw [kept_respond, kept_respond]
    exact h.kept
  have hmatcher : (Tracker.respond tree r other).2.settings.matcher =
      (Tracker.respond tree r tracker).2.settings.matcher := by
    rw [settings_respond, settings_respond]
    exact h.matcher
  -- What a request for something in the file leaves of the sources.
  have hread : ((other.reader.source tree file).2.source tree file).1 =
      ((tracker.reader.source tree file).2.source tree file).1 := by
    rw [Reader.source_source, Reader.source_source]
    exact h.source
  cases r with
  | known asked =>
      obtain rfl : asked = file := Option.some.inj hr
      exact ⟨h.record.symm, hmatcher, h.record, hkept, h.source⟩
  | remember asked record =>
      obtain rfl : asked = file := Option.some.inj hr
      refine ⟨rfl, hmatcher, ?_, hkept, h.source⟩
      simp [Tracker.respond, Entries.get?_put]
  | fingerprint asked =>
      obtain rfl : asked = file := Option.some.inj hr
      refine ⟨?_, hmatcher, h.record, hkept, hread⟩
      simp only [Tracker.respond, Reader.fingerprint, h.source]
  | lineCount asked =>
      obtain rfl : asked = file := Option.some.inj hr
      refine ⟨?_, hmatcher, h.record, hkept, hread⟩
      simp only [Tracker.respond, Reader.lineCount, h.source]
  | readLine asked line =>
      obtain rfl : asked = file := Option.some.inj hr
      refine ⟨?_, hmatcher, h.record, hkept, hread⟩
      simp only [Tracker.respond, Reader.readLine, h.source]
  | release asked =>
      obtain rfl : asked = file := Option.some.inj hr
      refine ⟨rfl, hmatcher, h.record, hkept, ?_⟩
      simp only [Tracker.respond, Tracker.saw, Reader.source_release, if_true]
  | load asked fingerprint =>
      obtain rfl : asked = file := Option.some.inj hr
      refine ⟨?_, hmatcher, ?_, hkept, ?_⟩
      · exact (load_fst_congr h.kept fingerprint).symm
      · simp only [Tracker.respond, (load_idles _ tree _ _).1.records, h.record]
      · simp only [Tracker.respond, reader_load, h.source]
  | note text => simp [Request.IsAbout, Request.file?] at hr

theorem respond_elsewhere {r : Request} (hr : ∀ asked, r.file? = some asked → file ≠ asked)
    (tracker : Tracker) : AlikeOn tree file tracker (Tracker.respond tree r tracker).2 := by
  refine ⟨by rw [settings_respond], ?_, by rw [kept_respond], ?_⟩
  · cases r with
    | remember asked record =>
        simp [Tracker.respond, Entries.get?_put, hr asked rfl]
    | load asked fingerprint =>
        simp only [Tracker.respond, (load_idles _ tree _ _).1.records]
    | _ => rfl
  · cases r with
    | fingerprint asked => exact Reader.source_source _ _ _ _
    | lineCount asked => exact Reader.source_source _ _ _ _
    | readLine asked line => exact Reader.source_source _ _ _ _
    | release asked =>
        simp only [Tracker.respond, saw, Reader.source_release, hr asked rfl, if_false]
    | load asked fingerprint => simp only [Tracker.respond, reader_load]
    | _ => rfl

end Tracker

theorem Query.run_ask {α σ : Type} (handle : (r : Request) → σ → r.Answer × σ) (r : Request)
    (next : r.Answer → Query α) (state : σ) :
    run handle (.ask r next) state = run handle (next (handle r state).1) (handle r state).2 := rfl

namespace Query.Agree

variable {α : Type} {p : Request → Prop} {query query' : Query α} {tree : FileTree}
  {tracker other : Tracker} {file : Wide}

/-- The run lemma of a question: computations that ask for the same, about one file, come to the
same on trackers that are alike in what concerns it. -/
theorem run_alike (h : Agree p query query') (hp : ∀ r, p r → r.IsAbout file)
    (halike : Tracker.AlikeOn tree file tracker other) :
    (run (Tracker.respond tree) query tracker).1 = (run (Tracker.respond tree) query' other).1 ∧
      Tracker.AlikeOn tree file (run (Tracker.respond tree) query tracker).2
        (run (Tracker.respond tree) query' other).2 ∧
      ∃ news, (run (Tracker.respond tree) query tracker).2.reads = tracker.reads ++ news ∧
        (run (Tracker.respond tree) query' other).2.reads = other.reads ++ news := by
  induction h generalizing tracker other with
  | done result => exact ⟨rfl, halike, [], (List.append_nil _).symm, (List.append_nil _).symm⟩
  | @ask r next next' hr _ ih =>
      obtain ⟨hanswer, hafter⟩ := halike.respond (hp r hr)
      obtain ⟨hresult, hrest, news, hnews, hnews'⟩ := ih (Tracker.respond tree r tracker).1 hafter
      rw [run_ask, run_ask, ← hanswer]
      refine ⟨hresult, hrest, r.reads ++ news, ?_, ?_⟩
      · rw [hnews, Tracker.reads_respond, List.append_assoc]
      · rw [hnews', Tracker.reads_respond, List.append_assoc]
  | @noteLeft text next query _ ih =>
      obtain ⟨hresult, hrest, news, hnews, hnews'⟩ :=
        ih (halike.left (.noted text))
      exact ⟨hresult, hrest, news, Tracker.reads_saw_noted tracker text ▸ hnews, hnews'⟩
  | @noteRight text next query _ ih =>
      obtain ⟨hresult, hrest, news, hnews, hnews'⟩ :=
        ih (halike.right (.noted text))
      exact ⟨hresult, hrest, news, hnews, Tracker.reads_saw_noted other text ▸ hnews'⟩

end Query.Agree

namespace Query.Uses

variable {α : Type} {p : Request → Prop} {query : Query α} {tree : FileTree} {file : Wide}

theorem reads_run (h : query.Uses p) (tree : FileTree) (tracker : Tracker) :
    ∃ news, (run (Tracker.respond tree) query tracker).2.reads = tracker.reads ++ news ∧
      ∀ read ∈ news, p (.readLine read.1 read.2) := by
  induction query generalizing tracker with
  | done result => exact ⟨[], (List.append_nil _).symm, by simp⟩
  | ask r next ih =>
      obtain ⟨news, hnews, hall⟩ := ih (Tracker.respond tree r tracker).1
        (h.2 _) (Tracker.respond tree r tracker).2
      refine ⟨r.reads ++ news, ?_, ?_⟩
      · rw [run_ask, hnews, Tracker.reads_respond, List.append_assoc]
      · intro read hmem
        rcases List.mem_append.mp hmem with hown | hlater
        · cases r with
          | readLine asked line =>
              obtain rfl := List.mem_singleton.mp hown
              exact h.1 _ rfl
          | _ => simp [Request.reads] at hown
        · exact hall read hlater

theorem run_elsewhere {asked : Wide} (h : query.Uses (Request.IsAbout asked))
    (hne : file ≠ asked) (tracker : Tracker) :
    Tracker.AlikeOn tree file tracker (run (Tracker.respond tree) query tracker).2 := by
  refine h.run_keeps (fun r state hr halike => ?_) (Tracker.AlikeOn.refl tree file tracker)
  refine halike.trans (Tracker.respond_elsewhere (fun other hother => ?_) state)
  obtain rfl : other = asked := Option.some.inj (hother.symm.trans (hr other hother))
  exact hne

end Query.Uses

namespace Tracker

variable {tree : FileTree} {tracker other : Tracker}

theorem AlikeOn.isIgnored {range : Range} (h : AlikeOn tree range.file tracker other)
    (origin : Origin) :
    (tracker.isIgnored tree range origin).1 = (other.isIgnored tree range origin).1 ∧
      AlikeOn tree range.file (tracker.isIgnored tree range origin).2
        (other.isIgnored tree range origin).2 ∧
      ∃ news, (tracker.isIgnored tree range origin).2.reads = tracker.reads ++ news ∧
        (other.isIgnored tree range origin).2.reads = other.reads ++ news :=
  (TrackerSettings.answer_agree h.matcher range origin).run_alike (fun _ => id) h

theorem uses_answer (settings : TrackerSettings) (range : Range) (origin : Origin) :
    (settings.answer range origin).run.Uses (Request.IsAbout range.file) :=
  (@TrackerSettings.answer_agree settings settings rfl range origin).uses

theorem isIgnored_elsewhere {range : Range} {file : Wide} (hne : file ≠ range.file)
    (tracker : Tracker) (origin : Origin) :
    AlikeOn tree file tracker (tracker.isIgnored tree range origin).2 :=
  (uses_answer tracker.settings range origin).run_elsewhere hne tracker

theorem reads_isIgnored (tracker : Tracker) (tree : FileTree) (range : Range) (origin : Origin) :
    ∃ news, (tracker.isIgnored tree range origin).2.reads = tracker.reads ++ news ∧
      ∀ read ∈ news, read.1 = range.file := by
  obtain ⟨news, hnews, hall⟩ := (uses_answer tracker.settings range origin).reads_run tree tracker
  exact ⟨news, hnews, fun read hmem => Option.some.inj (hall read hmem)⟩

end Tracker

end Suppression

import Suppression.Proofs.MeasuredTracker

/-!
Questions over files that may fail to be read at any request. An `Accessor` stands in the place of
the files; with the files themselves it is what a tracker does (`Accessor.isIgnored_files`). A
question that fails changes nothing, wherever it fails, if its file is known already or cannot be
opened. The first question about a file that can be opened leaves behind what it made out before its
search (`Accessor.Reached.unchanged_of_error`).
-/

namespace Suppression

/-- What answers for files. It has a state of its own, and may fail whenever it is asked. -/
structure Accessor (σ : Type) where
  fingerprint : Wide → σ → Except AccessError String × σ
  lineCount : Wide → σ → Except AccessError Nat × σ
  readLine : Wide → Nat → σ → Except AccessError String × σ
  release : Wide → σ → σ

namespace Accessor

variable {σ : Type} {accessor : Accessor σ} {tree : FileTree} {state : σ} {tracker : Tracker}
  {file : Wide} {range : Range} {origin : Origin}

/-- Answers one request, for files from an accessor and for all else from a tracker. -/
def respond (accessor : Accessor σ) (tree : FileTree) :
    (r : Request) → σ × Tracker → r.Answer × σ × Tracker
  | .known file, (state, tracker) => (tracker.records.get? file, state, tracker)
  | .remember file record, (state, tracker) =>
      ((), state, { tracker with records := tracker.records.put file record })
  | .fingerprint file, (state, tracker) =>
      let (answer, state) := accessor.fingerprint file state
      (answer, state, tracker)
  | .lineCount file, (state, tracker) =>
      let (answer, state) := accessor.lineCount file state
      (answer, state, tracker)
  | .readLine file line, (state, tracker) =>
      let (answer, state) := accessor.readLine file line state
      (answer, state, tracker.saw (.read file line))
  | .release file, (state, tracker) =>
      ((), accessor.release file state, tracker.saw (.released file))
  | .load file fingerprint, (state, tracker) =>
      let (answer, tracker) := tracker.load tree file fingerprint
      (answer, state, tracker)
  | .note text, (state, tracker) => ((), state, tracker.saw (.noted text))

def isIgnored (accessor : Accessor σ) (tree : FileTree) (range : Range) (origin : Origin)
    (held : σ × Tracker) : Except QueryError Bool × σ × Tracker :=
  Query.run (accessor.respond tree) (held.2.settings.answer range origin).run held

def files (tree : FileTree) : Accessor Reader where
  fingerprint file reader := reader.fingerprint tree file
  lineCount file reader := reader.lineCount tree file
  readLine file line reader := reader.readLine tree file (.ofNat line)
  release file reader := reader.release file

theorem noteAll_reader (tracker : Tracker) (reader : Reader) (texts : List Wide) :
    { tracker with reader }.noteAll texts = { tracker.noteAll texts with reader } := by
  induction texts generalizing tracker with
  | nil => rfl
  | cons text rest ih => exact ih (tracker.saw (.noted text))

theorem respond_files (r : Request) (reader : Reader) (tracker : Tracker) :
    ((files tree).respond tree r (reader, tracker)).1 =
        (Tracker.respond tree r { tracker with reader }).1 ∧
      { ((files tree).respond tree r (reader, tracker)).2.2 with
          reader := ((files tree).respond tree r (reader, tracker)).2.1 } =
        (Tracker.respond tree r { tracker with reader }).2 := by
  cases r with
  | load file fingerprint =>
      obtain ⟨settings, before, store, records, log⟩ := tracker
      cases store with
      | none => exact ⟨rfl, rfl⟩
      | some store => exact ⟨rfl, (noteAll_reader _ reader _).symm⟩
  | _ => exact ⟨rfl, rfl⟩

theorem isIgnored_files (tracker : Tracker) (tree : FileTree) (range : Range) (origin : Origin) :
    ((files tree).isIgnored tree range origin (tracker.reader, tracker)).1 =
        (tracker.isIgnored tree range origin).1 ∧
      { ((files tree).isIgnored tree range origin (tracker.reader, tracker)).2.2 with
          reader := ((files tree).isIgnored tree range origin (tracker.reader, tracker)).2.1 } =
        (tracker.isIgnored tree range origin).2 := by
  refine @Query.run_related _ _ _ _ _ (fun held other => { held.2 with reader := held.1 } = other)
    ?_ (tracker.settings.answer range origin).run (tracker.reader, tracker) tracker rfl
  rintro r ⟨reader, held⟩ _ rfl
  exact respond_files r reader held

def content (accessor : Accessor σ) (file : Wide) (state : σ) :
    Except AccessError (String × Nat) × σ :=
  match accessor.fingerprint file state with
  | (.error e, state) => (.error e, state)
  | (.ok fingerprint, state) =>
      match accessor.lineCount file state with
      | (.error e, state) => (.error e, state)
      | (.ok lineCount, state) => (.ok (fingerprint, lineCount), state)

def CountsLines (accessor : Accessor σ) : Prop :=
  ∀ file state count, (accessor.lineCount file state).1 = .ok count → count < 2 ^ 53

theorem CountsLines.lt_of_content (h : accessor.CountsLines) {fingerprint : String}
    {lineCount : Nat} (hcontent : (accessor.content file state).1 = .ok (fingerprint, lineCount)) :
    lineCount < 2 ^ 53 := by
  unfold content at hcontent
  split at hcontent
  · simp at hcontent
  · next after _ =>
      split at hcontent
      · simp at hcontent
      · next count later hcount =>
          obtain ⟨rfl, rfl⟩ := Prod.mk.inj (Except.ok.inj hcontent)
          exact h file after count (by rw [hcount])

/-- How one comes by what is known about a file, and what there is then. -/
inductive Resolved (accessor : Accessor σ) (tree : FileTree) (file : Wide) (state : σ)
    (tracker : Tracker) : Except QueryError Record → Tracker → Prop
  | known {record : Record} : tracker.records.get? file = some record →
      Resolved accessor tree file state tracker (.ok record) tracker
  | unreadable {error : AccessError} : tracker.records.get? file = none →
      (accessor.content file state).1 = .error error →
        Resolved accessor tree file state tracker (.error (.access error)) tracker
  | first {fingerprint : String} {lineCount : Nat} {texts : List Wide} :
      tracker.records.get? file = none →
      (accessor.content file state).1 = .ok (fingerprint, lineCount) →
        Resolved accessor tree file state tracker
          (.ok (.first fingerprint lineCount (tracker.load tree file fingerprint).1))
          { (tracker.load tree file fingerprint).2.noteAll texts with
            records := tracker.records.put file
              (.first fingerprint lineCount (tracker.load tree file fingerprint).1) }

theorem noted_respond (texts : List Wide) :
    Asking.noted (accessor.respond tree) (state, tracker) texts =
      (state, tracker.noteAll texts) := by
  induction texts generalizing tracker with
  | nil => rfl
  | cons text rest ih => exact ih

theorem resolved_resolve (accessor : Accessor σ) (tree : FileTree) (settings : TrackerSettings)
    (file : Wide) (state : σ) (tracker : Tracker) :
    Resolved accessor tree file state tracker
      (Query.run (accessor.respond tree) (settings.resolve file).run (state, tracker)).1
      (Query.run (accessor.respond tree) (settings.resolve file).run (state, tracker)).2.2 := by
  cases hrecord : tracker.records.get? file with
  | some record =>
      have hknown : accessor.respond tree (.known file) (state, tracker) =
          (some record, state, tracker) := congrArg (·, state, tracker) hrecord
      rw [Asking.run_resolve_known hknown]
      exact .known hrecord
  | none =>
      have hknown : accessor.respond tree (.known file) (state, tracker) =
          (none, state, tracker) := congrArg (·, state, tracker) hrecord
      rcases hfingerprint : accessor.fingerprint file state with ⟨fingerprint?, fingered⟩
      cases fingerprint? with
      | error e =>
          have hfailed : accessor.respond tree (.fingerprint file) (state, tracker) =
              (.error e, fingered, tracker) := by rw [respond, hfingerprint]
          rw [Asking.run_resolve_unread hknown hfailed]
          exact .unreadable hrecord (by rw [content, hfingerprint])
      | ok fingerprint =>
          have hdone : accessor.respond tree (.fingerprint file) (state, tracker) =
              (.ok fingerprint, fingered, tracker) := by rw [respond, hfingerprint]
          rcases hcount : accessor.lineCount file fingered with ⟨lineCount?, counted⟩
          cases lineCount? with
          | error e =>
              have hfailed : accessor.respond tree (.lineCount file) (fingered, tracker) =
                  (.error e, counted, tracker) := by rw [respond, hcount]
              rw [Asking.run_resolve_uncounted hknown hdone hfailed]
              exact .unreadable hrecord (by simp only [content, hfingerprint, hcount])
          | ok lineCount =>
              have hdone' : accessor.respond tree (.lineCount file) (fingered, tracker) =
                  (.ok lineCount, counted, tracker) := by rw [respond, hcount]
              obtain ⟨texts, hrun⟩ := @Asking.run_resolve_first _ _ _ _ _ _ _ _ _ _ settings _
                hknown hdone hdone' (show accessor.respond tree (.load file fingerprint)
                  (counted, tracker) = ((tracker.load tree file fingerprint).1, counted,
                    (tracker.load tree file fingerprint).2) from rfl)
              have hrecords : ((tracker.load tree file fingerprint).2.noteAll texts).records =
                  tracker.records := by
                rw [Tracker.records_noteAll, (Tracker.load_idles tracker tree file _).1.records]
              rw [hrun, noted_respond]
              simp only [respond, hrecords]
              exact .first hrecord (by simp only [content, hfingerprint, hcount])

theorem respond_of_isIdle {r : Request} (hr : r.IsIdle) (held : σ × Tracker) :
    (accessor.respond tree r held).2.2.records = held.2.records ∧
      (accessor.respond tree r held).2.2.store = held.2.store := by
  cases r with
  | remember file record => exact absurd hr id
  | load file fingerprint => exact absurd hr id
  | release file => exact absurd hr id
  | _ => exact ⟨rfl, rfl⟩

theorem respond_of_isMeasured {r : Request} (hr : r.IsMeasured) {held : σ × Tracker}
    (h : held.2.IsMeasured) : (accessor.respond tree r held).2.2.IsMeasured := by
  cases r with
  | remember file record => exact h.remember hr file
  | load file fingerprint => exact absurd hr id
  | _ => exact h.of_eq rfl rfl

theorem Resolved.isMeasured {result : Except QueryError Record} {after : Tracker}
    (h : Resolved accessor tree file state tracker result after) (hcounts : accessor.CountsLines)
    (hmeasured : tracker.IsMeasured) :
    after.IsMeasured ∧ ∀ record, result = .ok record → record.IsMeasured := by
  cases h with
  | known hrecord =>
      refine ⟨hmeasured, fun record heq => ?_⟩
      obtain rfl := Except.ok.inj heq
      exact hmeasured.records file _ hrecord
  | unreadable _ _ => exact ⟨hmeasured, fun record heq => nomatch heq⟩
  | @first fingerprint lineCount texts hrecord hcontent =>
      obtain ⟨hloaded, hmarked⟩ := hmeasured.load tree file fingerprint
      have hfirst := @Record.isMeasured_first fingerprint _ _ (hcounts.lt_of_content hcontent)
        hmarked
      have hrecords := (Tracker.load_idles tracker tree file fingerprint).1.records
      refine ⟨?_, fun record heq => Except.ok.inj heq ▸ hfirst⟩
      have hremembered := (hloaded.noteAll texts).remember hfirst file
      rwa [Tracker.records_noteAll, hrecords] at hremembered

theorem isIgnored_eq (accessor : Accessor σ) (tree : FileTree) (range : Range) (origin : Origin)
    (held : σ × Tracker) :
    accessor.isIgnored tree range origin held = Query.run (accessor.respond tree)
      (held.2.settings.resolve range.file >>= held.2.settings.answerFrom range origin).run held :=
  rfl

theorem isMeasured_isIgnored (hcounts : accessor.CountsLines) (h : tracker.IsMeasured)
    (tree : FileTree) (range : Range) (origin : Origin) (state : σ) :
    (accessor.isIgnored tree range origin (state, tracker)).2.2.IsMeasured := by
  obtain ⟨hafter, hrecord⟩ := (resolved_resolve accessor tree tracker.settings range.file state
    tracker).isMeasured hcounts h
  rw [isIgnored_eq]
  rcases hrun : Query.run (accessor.respond tree) (tracker.settings.resolve range.file).run
    (state, tracker) with ⟨result, held⟩
  rw [hrun] at hafter hrecord
  cases result with
  | error e =>
      rw [Asking.run_bind_error hrun]
      exact hafter
  | ok record =>
      rw [Asking.run_bind_ok hrun]
      have hcautious := TrackerSettings.answerFrom_cautious tracker.settings (hrecord record rfl)
        range origin
      exact @Query.Yields.run _ _ _ _ _ (fun held => held.2.IsMeasured) _ hcautious.yields
        (fun r held hr hheld => respond_of_isMeasured hr hheld) held hafter

/-- The states that a tracker over an accessor comes to. Between the questions, what the accessor
answers from may change, and so may the files with the cache file among them. -/
inductive Reached (accessor : Accessor σ) : σ × Tracker → Prop
  | start (state : σ) (settings : TrackerSettings) {store : Option Store} :
      (∀ store' ∈ store, store'.opened = none) →
        Reached accessor (state, { settings, store })
  | ask {held : σ × Tracker} (tree : FileTree) (range : Range) (origin : Origin) :
      Reached accessor held → Reached accessor (accessor.isIgnored tree range origin held).2
  | persist {state : σ} {tracker : Tracker} (tree : FileTree) :
      Reached accessor (state, tracker) → Reached accessor (state, (tracker.persist tree).2.2)
  | change {state : σ} {tracker : Tracker} (later : σ) :
      Reached accessor (state, tracker) → Reached accessor (later, tracker)

theorem Reached.isMeasured {held : σ × Tracker} (h : accessor.Reached held)
    (hcounts : accessor.CountsLines) : held.2.IsMeasured := by
  induction h with
  | start state settings hstore => exact Tracker.isMeasured_start settings hstore
  | ask tree range origin _ ih => exact isMeasured_isIgnored hcounts ih tree range origin _
  | persist tree _ ih => exact ih.persist tree
  | change later _ ih => exact ih

theorem run_answerFrom_of_error {record : Record} {settings : TrackerSettings}
    (hrecord : record.IsMeasured) {held after : σ × Tracker} {error : QueryError}
    (herror : Query.run (accessor.respond tree) (settings.answerFrom range origin record).run held =
      (.error error, after)) :
    after.2.records = held.2.records ∧ after.2.store = held.2.store := by
  have hcautious := TrackerSettings.answerFrom_cautious settings hrecord range origin
  rcases @Query.Cautious.run _ _ _ (accessor.respond tree)
    (fun later => later.2.records = held.2.records ∧ later.2.store = held.2.store) _ hcautious
    (fun r later hr hlater => by
      obtain ⟨hrecords, hstore⟩ := @respond_of_isIdle _ accessor tree _ hr later
      exact ⟨hrecords.trans hlater.1, hstore.trans hlater.2⟩) held ⟨rfl, rfl⟩ with
    ⟨value, hvalue⟩ | hsame
  · rw [herror] at hvalue
    exact nomatch hvalue
  · rwa [herror] at hsame

/-- Whatever fails, a question that fails leaves no trace if something is known about its file
already, or if the file cannot be opened: the same is known of every file, and persisting comes to
the same and writes the same. The first question about a file that can be opened leaves behind what
it made out from the content and the store, and nothing of its search. -/
theorem Reached.unchanged_of_error (h : accessor.Reached (state, tracker))
    (hcounts : accessor.CountsLines) {error : QueryError} {after : σ × Tracker}
    (herror : accessor.isIgnored tree range origin (state, tracker) = (.error error, after)) :
    ((tracker.snapshotOf? range.file ≠ none ∨
          ∃ unreadable, (accessor.content range.file state).1 = .error unreadable) →
        (∀ file, after.2.snapshotOf? file = tracker.snapshotOf? file) ∧
          ∀ later, (after.2.persist later).1 = (tracker.persist later).1 ∧
            (after.2.persist later).2.1 = (tracker.persist later).2.1) ∧
      ∀ fingerprint lineCount, tracker.snapshotOf? range.file = none →
        (accessor.content range.file state).1 = .ok (fingerprint, lineCount) →
          after.2.snapshotOf? range.file = some (Record.first fingerprint lineCount
            (tracker.load tree range.file fingerprint).1).snapshot ∧
          ∀ file, file ≠ range.file → after.2.snapshotOf? file = tracker.snapshotOf? file := by
  have hunchanged {other : Tracker} (hrecords : other.records = tracker.records)
      (hstore : other.store = tracker.store) :
      (∀ file, other.snapshotOf? file = tracker.snapshotOf? file) ∧
        ∀ later, (other.persist later).1 = (tracker.persist later).1 ∧
          (other.persist later).2.1 = (tracker.persist later).2.1 :=
    ⟨fun file => by rw [Tracker.snapshotOf?, Tracker.snapshotOf?, hrecords],
      Tracker.persist_congr hrecords hstore⟩
  have hnone : tracker.snapshotOf? range.file = none ↔ tracker.records.get? range.file = none :=
    Option.map_eq_none_iff
  -- A question comes by what is known about its file first, and this step alone may leave a trace.
  rw [isIgnored_eq] at herror
  have hresolved := resolved_resolve accessor tree tracker.settings range.file state tracker
  obtain ⟨-, hrecord⟩ := hresolved.isMeasured hcounts (h.isMeasured hcounts)
  rcases hrun : Query.run (accessor.respond tree) (tracker.settings.resolve range.file).run
    (state, tracker) with ⟨result, held⟩
  rw [hrun] at hresolved hrecord
  obtain ⟨mid, resolved⟩ := held
  change Resolved accessor tree range.file state tracker result resolved at hresolved
  cases hresolved with
  | known hknown =>
      rw [Asking.run_bind_ok hrun] at herror
      obtain ⟨hrecords, hstore⟩ := run_answerFrom_of_error (hrecord _ rfl) herror
      refine ⟨fun _ => hunchanged hrecords hstore, fun _ _ hunknown => ?_⟩
      rw [hnone, hknown] at hunknown
      simp at hunknown
  | unreadable hunknown hcontent =>
      rw [Asking.run_bind_error hrun] at herror
      obtain ⟨-, rfl⟩ := Prod.mk.inj herror
      refine ⟨fun _ => hunchanged rfl rfl, fun _ _ _ hread => ?_⟩
      simp [hcontent] at hread
  | first hunknown hcontent =>
      rw [Asking.run_bind_ok hrun] at herror
      obtain ⟨hrecords, -⟩ := run_answerFrom_of_error (hrecord _ rfl) herror
      constructor
      · rintro (hknown | ⟨unreadable, hread⟩)
        · exact absurd (hnone.mpr hunknown) hknown
        · simp [hcontent] at hread
      · intro fingerprint lineCount _ hread
        obtain ⟨rfl, rfl⟩ := Prod.mk.inj (Except.ok.inj (hcontent.symm.trans hread))
        constructor
        · simp [Tracker.snapshotOf?, hrecords, Entries.get?_put]
        · intro file hne
          simp [Tracker.snapshotOf?, hrecords, Entries.get?_put, hne]

/-- A file of empty lines, one of which cannot be read. -/
def withBrokenLine (lineCount broken : Nat) : Accessor Unit where
  fingerprint _ _ := (.ok "content", ())
  lineCount _ _ := (.ok lineCount, ())
  readLine file line _ :=
    (if line = broken then .error ⟨file, .other "unreadable"⟩ else .ok "", ())
  release _ _ := ()

theorem unchanged_of_error_brokenLine :
    let accessor := withBrokenLine 3 2
    let tree := FileTree.single "a.py" ""
    let onLine (line : Number) : Range := { file := "a.py", span := some ⟨⟨line, 0⟩, ⟨line, 0⟩⟩ }
    let held := (accessor.isIgnored tree (onLine 1) { analyzer := "mypy" } ((), {})).2
    let failed := accessor.isIgnored tree (onLine 3) { analyzer := "mypy" } held
    failed.1 = .error (.access ⟨"a.py", .other "unreadable"⟩) ∧
      held.2.snapshotOf? "a.py" = some { watermark := 1, intervals := [] } ∧
      ∀ file, failed.2.2.snapshotOf? file = held.2.snapshotOf? file := by
  intro accessor tree onLine held failed
  have hcounts : accessor.CountsLines := by
    intro file state count h
    obtain rfl : 3 = count := Except.ok.inj h
    decide
  have hheld : accessor.Reached (held.1, held.2) := .ask tree _ _ (.start () {} (by simp))
  have herror : failed.1 = .error (.access ⟨"a.py", .other "unreadable"⟩) := by decide +kernel
  have hknown : held.2.snapshotOf? "a.py" = some { watermark := 1, intervals := [] } := by
    decide +kernel
  refine ⟨herror, hknown, ?_⟩
  have hchecked := hheld.unchanged_of_error hcounts (Prod.ext herror rfl)
  exact (hchecked.1 (Or.inl (by rw [hknown]; simp))).1

end Accessor

namespace Tracker

/-- The first question about a file leaves a trace when its grammar fails. -/
theorem changed_of_failing_grammar :
    let tree := FileTree.single "a.py" "# ignore mypy\n"
    let tracker : Tracker := { settings := {
      matcher := .ofGrammar fun text => .error ("no grammar for" ++ text) } }
    let failed := tracker.isIgnored tree { file := "a.py", span := some ⟨⟨1, 0⟩, ⟨1, 0⟩⟩ }
      { analyzer := "mypy" }
    failed.1 = .error (.grammar "no grammar for mypy") ∧ tracker.snapshotOf? "a.py" = none ∧
      failed.2.snapshotOf? "a.py" = some { watermark := 0, intervals := [] } := by
  intro tree tracker failed
  have halike := alike_read (FileTree.readText_single_script "# ignore mypy\n") tracker.settings
    none none rfl
  obtain ⟨hresult, hafter⟩ := halike.isIgnored
    { file := "a.py", span := some ⟨⟨1, 0⟩, ⟨1, 0⟩⟩ } { analyzer := "mypy" }
  refine ⟨hresult.trans (by decide +kernel), rfl, ?_⟩
  rw [snapshotOf?, ← hafter.records]
  decide +kernel

end Tracker

end Suppression

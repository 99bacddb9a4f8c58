import Suppression.Proofs.OneFile

namespace Suppression

/-- The part of what is stored for a file that is used: it must not run past the end of the file. -/
def usable? (lineCount : Nat) : Except FileError (Option Snapshot) → Option Snapshot
  | .ok (some snapshot) => if .ofNat lineCount < snapshot.watermark then none else some snapshot
  | _ => none

theorem of_usable? {lineCount : Nat} {stored : Except FileError (Option Snapshot)}
    {snapshot : Snapshot} (h : usable? lineCount stored = some snapshot) :
    stored = .ok (some snapshot) ∧ ¬ Number.ofNat lineCount < snapshot.watermark := by
  unfold usable? at h
  split at h
  · next found =>
      split at h
      · simp at h
      · next hpast =>
          obtain rfl := Option.some.inj h
          exact ⟨rfl, hpast⟩
  · simp at h

/-- What is known of a file at first. -/
def Record.first (fingerprint : String) (lineCount : Nat)
    (stored : Except FileError (Option Snapshot)) : Record :=
  match usable? lineCount stored with
  | some snapshot => .ofSnapshot fingerprint lineCount snapshot
  | none => .cold fingerprint lineCount

namespace Asking

variable {α β σ : Type} {handle : (r : Request) → σ → r.Answer × σ} {state after : σ}

def noted (handle : (r : Request) → σ → r.Answer × σ) (state : σ) (texts : List Wide) : σ :=
  texts.foldl (fun state text => (handle (.note text) state).2) state

theorem run_note (handle : (r : Request) → σ → r.Answer × σ) (state : σ)
    (settings : TrackerSettings) (text : Wide) :
    ∃ texts, Query.run handle (settings.note text).run state =
      (.ok (), noted handle state texts) := by
  unfold TrackerSettings.note
  split
  · exact ⟨[text], rfl⟩
  · exact ⟨[], rfl⟩

theorem run_seed {file : Wide} {fingerprint : String} {stored : Except FileError (Option Snapshot)}
    (h : handle (.load file fingerprint) state = (stored, after)) (settings : TrackerSettings)
    (lineCount : Nat) :
    ∃ texts, Query.run handle (settings.seed file fingerprint lineCount).run state =
      (.ok (usable? lineCount stored), noted handle after texts) := by
  have hload : Query.run handle (Asking.request (.load file fingerprint)).run state =
      (.ok stored, after) := by
    change (Except.ok (handle (.load file fingerprint) state).1,
      (handle (.load file fingerprint) state).2) = _
    rw [h]
  -- Whatever is stored, at most a note follows.
  have hnoted (text : Wide) (seed? : Option Snapshot) :
      ∃ texts, Query.run handle (settings.note text >>= fun _ => pure seed? :
        Asking (Option Snapshot)).run after = (.ok seed?, noted handle after texts) := by
    obtain ⟨texts, htexts⟩ := run_note handle after settings text
    exact ⟨texts, run_bind_ok htexts _⟩
  unfold TrackerSettings.seed
  rw [run_bind_ok hload]
  cases stored with
  | error e => exact hnoted _ none
  | ok snapshot? =>
      cases snapshot? with
      | none => exact ⟨[], rfl⟩
      | some snapshot =>
          by_cases hpast : Number.ofNat lineCount < snapshot.watermark
          · simp only [usable?, hpast, if_true]
            exact hnoted _ none
          · simp only [usable?, hpast, if_false]
            exact hnoted _ (some snapshot)

section resolve

variable {file : Wide} {fingerprint : String} {lineCount : Nat} {known fingered counted loaded : σ}
  {settings : TrackerSettings}

theorem run_known {record? : Option Record} (h : handle (.known file) state = (record?, known)) :
    Query.run handle (Asking.request (.known file)).run state = (.ok record?, known) := by
  change (Except.ok (handle (.known file) state).1, (handle (.known file) state).2) = _
  rw [h]

theorem run_access {r : Request} {wrap : r.Answer → Except AccessError α} {answer : r.Answer}
    (h : handle r state = (answer, after)) :
    Query.run handle (Asking.access (.ask r fun answer => .done (wrap answer))).run state =
      ((wrap answer).mapError .access, after) := by
  change (((wrap (handle r state).1).mapError _), (handle r state).2) = _
  rw [h]

theorem run_resolve_known {record : Record}
    (hknown : handle (.known file) state = (some record, known)) :
    Query.run handle (settings.resolve file).run state = (.ok record, known) := by
  unfold TrackerSettings.resolve
  rw [run_bind_ok (run_known hknown)]
  rfl

theorem run_resolve_unread {error : AccessError}
    (hknown : handle (.known file) state = (none, known))
    (hfingerprint : handle (.fingerprint file) known = (.error error, fingered)) :
    Query.run handle (settings.resolve file).run state = (.error (.access error), fingered) := by
  unfold TrackerSettings.resolve
  rw [run_bind_ok (run_known hknown)]
  exact run_bind_error (run_access hfingerprint) _

theorem run_resolve_uncounted {error : AccessError}
    (hknown : handle (.known file) state = (none, known))
    (hfingerprint : handle (.fingerprint file) known = (.ok fingerprint, fingered))
    (hcount : handle (.lineCount file) fingered = (.error error, counted)) :
    Query.run handle (settings.resolve file).run state = (.error (.access error), counted) := by
  unfold TrackerSettings.resolve
  rw [run_bind_ok (run_known hknown)]
  refine (run_bind_ok (run_access hfingerprint) _).trans ?_
  exact run_bind_error (run_access hcount) _

theorem run_resolve_first {stored : Except FileError (Option Snapshot)}
    (hknown : handle (.known file) state = (none, known))
    (hfingerprint : handle (.fingerprint file) known = (.ok fingerprint, fingered))
    (hcount : handle (.lineCount file) fingered = (.ok lineCount, counted))
    (hload : handle (.load file fingerprint) counted = (stored, loaded)) :
    ∃ texts, Query.run handle (settings.resolve file).run state =
      (.ok (.first fingerprint lineCount stored),
        (handle (.remember file (.first fingerprint lineCount stored))
          (noted handle loaded texts)).2) := by
  obtain ⟨texts, hseed⟩ := run_seed hload settings lineCount
  refine ⟨texts, ?_⟩
  unfold TrackerSettings.resolve
  rw [run_bind_ok (run_known hknown)]
  refine (run_bind_ok (run_access hfingerprint) _).trans ?_
  refine (run_bind_ok (run_access hcount) _).trans ?_
  refine (run_bind_ok hseed _).trans ?_
  unfold Record.first
  cases usable? lineCount stored <;> rfl

end resolve

end Asking

namespace Tracker

variable {tree : FileTree} {tracker other after after' : Tracker} {file : Wide}

/-- What is known of a file, or what the first question about it would make out. -/
def resolved (tracker : Tracker) (tree : FileTree) (file : Wide) : Except AccessError Record :=
  match tracker.records.get? file with
  | some record => .ok record
  | none => (tracker.reader.source tree file).1.map fun source =>
      .first source.fingerprint source.lines.size (tracker.load tree file source.fingerprint).1

theorem resolved_of_get? {record : Record} (h : tracker.records.get? file = some record)
    (tree : FileTree) : tracker.resolved tree file = .ok record := by
  simp only [resolved, h]

theorem resolved_of_source {source : Source} (hrecord : tracker.records.get? file = none)
    (hsource : (tracker.reader.source tree file).1 = .ok source) : tracker.resolved tree file =
      .ok (.first source.fingerprint source.lines.size
        (tracker.load tree file source.fingerprint).1) := by
  simp only [resolved, hrecord, hsource, Except.map]

theorem resolved_fresh {text : String} (htext : tree.readText file = .ok text)
    (settings : TrackerSettings) :
    resolved { settings } tree file =
      .ok (.cold (Text.fingerprint text) (Text.fileLines text.toList).length) := by
  have hsource := ((Reader.reflects_empty tree).source file).1.trans
    (FileTree.source_of_readText htext)
  rw [resolved_of_source rfl hsource, Source.size_ofText]
  rfl

theorem get?_of_resolved_error {error : AccessError}
    (h : tracker.resolved tree file = .error error) : tracker.records.get? file = none := by
  cases hknown : tracker.records.get? file with
  | none => rfl
  | some record => simp [resolved_of_get? hknown] at h

/-- Nothing has been done but to open the store, to take in sources and to make notes. -/
structure Rests (tree : FileTree) (before after : Tracker) : Prop where
  settings : after.settings = before.settings
  records : after.records = before.records
  kept : after.kept tree = before.kept tree
  source : ∀ file, (after.reader.source tree file).1 = (before.reader.source tree file).1
  reads : after.reads = before.reads

namespace Rests

theorem refl (tree : FileTree) (tracker : Tracker) : Rests tree tracker tracker :=
  ⟨rfl, rfl, rfl, fun _ => rfl, rfl⟩

theorem trans {third : Tracker} (h : Rests tree tracker other) (h' : Rests tree other third) :
    Rests tree tracker third :=
  ⟨h'.settings.trans h.settings, h'.records.trans h.records, h'.kept.trans h.kept,
    fun file => (h'.source file).trans (h.source file), h'.reads.trans h.reads⟩

theorem asked (tracker : Tracker) (tree : FileTree) (file : Wide) :
    Rests tree tracker { tracker with reader := (tracker.reader.source tree file).2 } :=
  ⟨rfl, rfl, rfl, Reader.source_source tracker.reader tree file, rfl⟩

theorem load (tracker : Tracker) (tree : FileTree) (file fingerprint : Wide) :
    Rests tree tracker (tracker.load tree file fingerprint).2 := by
  have hidle := (load_idles tracker tree file fingerprint).1
  refine ⟨hidle.settings, hidle.records, ?_, fun _ => ?_, reads_load tracker tree file fingerprint⟩
  · rw [Tracker.kept, Tracker.kept, hidle.stored]
  · rw [reader_load]

theorem noteAll (tree : FileTree) (tracker : Tracker) (texts : List Wide) :
    Rests tree tracker (tracker.noteAll texts) := by
  have hidle := Idles.noteAll tree tracker texts
  refine ⟨hidle.settings, hidle.records, ?_, fun _ => ?_, reads_noteAll tracker texts⟩
  · rw [Tracker.kept, Tracker.kept, hidle.stored]
  · rw [reader_noteAll]

theorem remember (h : Rests tree tracker other) (file : Wide) (record : Record) :
    Rests tree { tracker with records := tracker.records.put file record }
      { other with records := other.records.put file record } :=
  ⟨h.settings, by simp only [h.records], h.kept, h.source, h.reads⟩

theorem reflects (h : Rests tree tracker other) (hreflects : tracker.reader.Reflects tree) :
    other.reader.Reflects tree := by
  intro file source hheld
  have hsource : (other.reader.source tree file).1 = .ok source := by
    simp only [Reader.source, hheld]
  rw [← (hreflects.source file).1, ← h.source file, hsource]

theorem alikeOn (h : Rests tree tracker other) (file : Wide) :
    AlikeOn tree file tracker other :=
  ⟨by rw [h.settings], by rw [h.records], by rw [h.kept], h.source file⟩

end Rests

def resolve (tracker : Tracker) (tree : FileTree) (file : Wide) : Tracker :=
  match tracker.resolved tree file with
  | .ok record => { tracker with records := tracker.records.put file record }
  | .error _ => tracker

theorem run_resolve_first {source : Source} (settings : TrackerSettings)
    (hrecord : tracker.records.get? file = none)
    (hsource : (tracker.reader.source tree file).1 = .ok source) :
    ∃ after, Query.run (respond tree) (settings.resolve file).run tracker =
        ((tracker.resolved tree file).mapError .access, after) ∧
      Rests tree (tracker.resolve tree file) after := by
  have hasked := Rests.asked tracker tree file
  obtain ⟨fingered, hfingered⟩ : ∃ fingered : Tracker,
      fingered = { tracker with reader := (tracker.reader.source tree file).2 } := ⟨_, rfl⟩
  rw [← hfingered] at hasked
  have hagain := (hasked.source file).trans hsource
  have hcounted := hasked.trans (Rests.asked fingered tree file)
  obtain ⟨counted, hcounted'⟩ : ∃ counted : Tracker,
      counted = { fingered with reader := (fingered.reader.source tree file).2 } := ⟨_, rfl⟩
  rw [← hcounted'] at hcounted
  have hknown : respond tree (.known file) tracker = (none, tracker) :=
    congrArg (·, tracker) hrecord
  have hfingerprint : respond tree (.fingerprint file) tracker =
      (.ok source.fingerprint, fingered) := by
    rw [hfingered]
    simp only [respond, Reader.fingerprint, hsource, Except.map]
  have hcount : respond tree (.lineCount file) fingered = (.ok source.lines.size, counted) := by
    rw [hcounted']
    simp only [respond, Reader.lineCount, hagain, Except.map]
  have hstored : (counted.load tree file source.fingerprint).1 =
      (tracker.load tree file source.fingerprint).1 := by
    rw [load_fst, load_fst, hcounted.kept]
  rcases hload : counted.load tree file source.fingerprint with ⟨stored, loaded⟩
  have hloaded := hcounted.trans (Rests.load counted tree file source.fingerprint)
  rw [hload] at hstored hloaded
  have hresolved : tracker.resolved tree file =
      .ok (.first source.fingerprint source.lines.size stored) := by
    rw [resolved_of_source hrecord hsource, ← hstored]
  obtain ⟨texts, hrun⟩ := @Asking.run_resolve_first _ _ _ _ _ _ _ _ _ _ settings _ hknown
    hfingerprint hcount hload
  simp only [resolve, hresolved]
  exact ⟨_, hrun, (hloaded.trans (.noteAll tree loaded texts)).remember file _⟩

theorem run_resolve (tracker : Tracker) (tree : FileTree) (settings : TrackerSettings)
    (file : Wide) :
    ∃ after, Query.run (respond tree) (settings.resolve file).run tracker =
        ((tracker.resolved tree file).mapError .access, after) ∧
      Rests tree (tracker.resolve tree file) after := by
  cases hrecord : tracker.records.get? file with
  | some record =>
      have hknown : respond tree (.known file) tracker = (some record, tracker) :=
        congrArg (·, tracker) hrecord
      simp only [resolve, resolved_of_get? hrecord, Entries.put_of_get? hrecord]
      exact ⟨tracker, Asking.run_resolve_known hknown, .refl tree tracker⟩
  | none =>
      cases hsource : (tracker.reader.source tree file).1 with
      | ok source => exact run_resolve_first settings hrecord hsource
      | error e =>
          have hknown : respond tree (.known file) tracker = (none, tracker) :=
            congrArg (·, tracker) hrecord
          have hfingerprint : respond tree (.fingerprint file) tracker =
              (.error e, { tracker with reader := (tracker.reader.source tree file).2 }) := by
            simp only [respond, Reader.fingerprint, hsource, Except.map]
          have hresolved : tracker.resolved tree file = .error e := by
            simp only [resolved, hrecord, hsource, Except.map]
          simp only [resolve, hresolved]
          exact ⟨_, Asking.run_resolve_unread hknown hfingerprint, .asked tracker tree file⟩

theorem Carries.of_resolved {P : Wide → String → Record → Prop} (h : tracker.Carries P tree)
    (hcold : ∀ file text, P file text
      (.cold (Text.fingerprint text) (Text.fileLines text.toList).length)) {record : Record}
    (hresolved : tracker.resolved tree file = .ok record) :
    ∃ text, tree.readText file = .ok text ∧ P file text record := by
  unfold resolved at hresolved
  split at hresolved
  · next found hfound =>
      obtain rfl := Except.ok.inj hresolved
      exact h.records file found hfound
  · rw [(h.reflects.source file).1, FileTree.source] at hresolved
    cases htext : tree.readText file with
    | error e => simp [htext, Except.map] at hresolved
    | ok text =>
        obtain ⟨-, hstored⟩ := load_idles tracker tree file (Text.fingerprint text)
        simp only [htext, Except.map, Source.size_ofText, Except.ok.injEq] at hresolved
        refine ⟨text, rfl, ?_⟩
        rw [← hresolved]
        unfold Record.first
        cases husable : usable? (Text.fileLines text.toList).length
          (tracker.load tree file (Source.ofText text).fingerprint).1 with
        | none => exact hcold file text
        | some snapshot =>
            obtain ⟨hload, hpast⟩ := of_usable? husable
            obtain ⟨cache, entry, hcache, hentry, hsame, rfl⟩ := hstored snapshot hload
            exact h.stored cache file entry text hcache hentry htext hsame hpast

end Tracker

end Suppression

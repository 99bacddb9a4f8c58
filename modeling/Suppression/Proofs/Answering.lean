import Suppression.Proofs.KeyedEntries
import Suppression.Proofs.KnownRecord
import Suppression.Proofs.Search

/-!
What one question does to a tracker. `Answered` lists how a question about a file ends and what is
known of the file afterwards, and `Carries.isIgnored_cases` says that every question ends in one of
these ways, or fails because its file cannot be read, whatever else is known and stored about files
(`Carries`). That what is known and what is stored is true of the files (`Sound`) is kept by every
question.
-/

namespace Suppression

/-- What is known about files and what is stored for their contents is true of them. -/
structure Tracker.Sound (tree : FileTree) (tracker : Tracker) : Prop where
  reflects : tracker.reader.Reflects tree
  records : ∀ file record, tracker.records.get? file = some record →
    ∃ text, tree.readText file = .ok text ∧ record.Knows tracker.settings.matcher text
  stored : ∀ cache file entry text, tracker.stored tree = some (.ok cache) →
    cache.get? file = some entry → tree.readText file = .ok text →
      entry.fingerprint = Text.fingerprint text →
        ∃ record : Record, record.Knows tracker.settings.matcher text ∧ record.entry = entry

/-- What is known about a file counts its lines, and does not run past the last one. -/
structure Record.Fits (text : String) (record : Record) : Prop where
  lineCount : record.lineCount = (Text.fileLines text.toList).length
  watermark : ∃ line ≤ record.lineCount, record.watermark = .ofNat line

theorem Record.fits_cold (text : String) :
    Fits text (.cold (Text.fingerprint text) (Text.fileLines text.toList).length) :=
  ⟨rfl, 0, Nat.zero_le _, rfl⟩

theorem Record.Knows.fits {matcher : Matcher} {text : String} {record : Record}
    (h : record.Knows matcher text) : record.Fits text := by
  obtain ⟨line, hline, hwatermark, -⟩ := h.watermark
  exact ⟨h.lineCount, line, hline, hwatermark⟩

/-- What is known about files has a property, and so has what is stored for their contents as far as
it can be used. -/
structure Tracker.Carries (P : Wide → String → Record → Prop) (tree : FileTree)
    (tracker : Tracker) : Prop where
  reflects : tracker.reader.Reflects tree
  records : ∀ file record, tracker.records.get? file = some record →
    ∃ text, tree.readText file = .ok text ∧ P file text record
  stored : ∀ cache file entry text, tracker.stored tree = some (.ok cache) →
    cache.get? file = some entry → tree.readText file = .ok text →
      entry.fingerprint = Text.fingerprint text →
        ¬ Number.ofNat (Text.fileLines text.toList).length < entry.snapshot.watermark →
          P file text (Record.ofSnapshot (Text.fingerprint text)
            (Text.fileLines text.toList).length entry.snapshot)

theorem Tracker.Sound.carries {tree : FileTree} {tracker : Tracker} (h : tracker.Sound tree) :
    tracker.Carries (fun _ text record => record.Knows tracker.settings.matcher text) tree := by
  refine ⟨h.reflects, h.records, ?_⟩
  intro cache file entry text hcache hentry htext hsame _
  obtain ⟨record, hknows, rfl⟩ := h.stored cache file entry text hcache hentry htext hsame
  exact hknows.ofSnapshot

/-- How a question about a file with some lines ends, and what is known about the file then. The
file is known up to a line at first. -/
inductive Answered (matcher : Matcher) (lines : List (List Char)) (record : Record) (line : Nat)
    (range : Range) (origin : Origin) : Except QueryError Bool → Record → Prop
  | covered {span : Span} : range.span = some span → record.cover range origin = .ok true →
      Answered matcher lines record line range origin (.ok true) record
  | faulty {span : Span} {error : RangeError} : range.span = some span →
      record.cover range origin = .error error →
        Answered matcher lines record line range origin (.error (.range error)) record
  | looked {span : Span} : range.span = some span → record.cover range origin = .ok false →
      TrackerSettings.lastLine span record.lineCount ≤ line →
        Answered matcher lines record line range origin (.ok false) record
  | inline {span : Span} {directive : LineDirective} : range.span = some span →
      Searched matcher lines (some span) origin line
        (TrackerSettings.lastLine span record.lineCount) [] (.ok (.inline directive)) →
          Answered matcher lines record line range origin (.ok true) (record.addInline directive)
  | committed {span : Span} {directives : List LineDirective} : range.span = some span →
      line < TrackerSettings.lastLine span record.lineCount →
      Searched matcher lines (some span) origin line
        (TrackerSettings.lastLine span record.lineCount) [] (.ok (.complete directives)) →
          Answered matcher lines record line range origin
            (((record.commit (TrackerSettings.lastLine span record.lineCount) directives).cover
              range origin).mapError .range)
            (record.commit (TrackerSettings.lastLine span record.lineCount) directives)
  | failed {last : Nat} {error : QueryError} :
      Searched matcher lines range.span origin line last [] (.error error) →
        Answered matcher lines record line range origin (.error error) record
  | mentioned : range.span = none → record.mention origin = true ∨ record.isComplete = true →
      Answered matcher lines record line range origin (.ok (record.mention origin)) record
  | scanned {directives : List LineDirective} : range.span = none →
      Searched matcher lines none origin line record.lineCount [] (.ok (.complete directives)) →
        Answered matcher lines record line range origin
          (.ok ((record.commit record.lineCount directives).mention origin))
          (record.commit record.lineCount directives)

theorem Answered.fits {matcher : Matcher} {text : String} {record known : Record} {line : Nat}
    {range : Range} {origin : Origin} {result : Except QueryError Bool}
    (h : Answered matcher (Text.fileLines text.toList) record line range origin result known)
    (hrecord : record.Fits text) : known.Fits text := by
  have hcommit {last : Nat} (hlast : last ≤ record.lineCount) (directives : List LineDirective) :
      (record.commit last directives).Fits text :=
    ⟨hrecord.lineCount, last, hlast, rfl⟩
  cases h with
  | covered _ _ => exact hrecord
  | faulty _ _ => exact hrecord
  | looked _ _ _ => exact hrecord
  | failed _ => exact hrecord
  | mentioned _ _ => exact hrecord
  | inline _ _ => exact ⟨hrecord.lineCount, hrecord.watermark⟩
  | committed _ _ _ => exact hcommit (TrackerSettings.lastLine_le _ _) _
  | scanned _ _ => exact hcommit le_rfl _

namespace Tracker

variable {P : Wide → String → Record → Prop} {tree : FileTree} {tracker after : Tracker}

theorem Idles.remember (h : Idles tree tracker after) (records : Entries Record) :
    Idles tree { tracker with records } { after with records } :=
  ⟨⟨h.settings, h.stored, h.storePath⟩, rfl, h.reflects⟩

namespace Sound

theorem idles (h : tracker.Sound tree) (hidle : Idles tree tracker after) : after.Sound tree := by
  refine ⟨hidle.reflects h.reflects, ?_, ?_⟩
  · rw [hidle.settings, hidle.records]
    exact h.records
  · rw [hidle.settings, hidle.stored]
    exact h.stored

theorem remember (h : tracker.Sound tree) {file : Wide} {text : String}
    (htext : tree.readText file = .ok text) {record : Record}
    (hknows : record.Knows tracker.settings.matcher text) :
    Sound tree { tracker with records := tracker.records.put file record } := by
  refine ⟨h.reflects, ?_, h.stored⟩
  intro other record' hother
  rw [Entries.get?_put] at hother
  split at hother
  · next heq =>
      obtain rfl := Option.some.inj hother
      exact ⟨text, heq ▸ htext, hknows⟩
  · exact h.records other record' hother

end Sound

namespace Carries

theorem idles (h : tracker.Carries P tree) (hidle : Idles tree tracker after) :
    after.Carries P tree := by
  refine ⟨hidle.reflects h.reflects, ?_, ?_⟩
  · rw [hidle.records]
    exact h.records
  · rw [hidle.stored]
    exact h.stored

theorem remember (h : tracker.Carries P tree) {file : Wide} {text : String}
    (htext : tree.readText file = .ok text) {record : Record} (hrecord : P file text record) :
    Carries P tree { tracker with records := tracker.records.put file record } := by
  refine ⟨h.reflects, ?_, h.stored⟩
  intro other record' hother
  rw [Entries.get?_put] at hother
  split at hother
  · next heq =>
      obtain rfl := Option.some.inj hother
      rw [heq]
      exact ⟨text, htext, hrecord⟩
  · exact h.records other record' hother

end Carries

/-- What is used of the store was stored for the content with this fingerprint, and does not run
past the end of the file. -/
theorem ask_seed (tree : FileTree) (tracker : Tracker) (settings : TrackerSettings)
    (file : Wide) (fingerprint : String) (lineCount : Nat) :
    ∃ seed? after, tracker.ask tree (settings.seed file fingerprint lineCount) =
        (.ok seed?, after) ∧ Idles tree tracker after ∧
      ∀ snapshot, seed? = some snapshot →
        (∃ cache entry, tracker.stored tree = some (.ok cache) ∧ cache.get? file = some entry ∧
          entry.fingerprint = fingerprint ∧ entry.snapshot = snapshot) ∧
        ¬ Number.ofNat lineCount < snapshot.watermark := by
  obtain ⟨hidle, hstored⟩ := load_idles tracker tree file fingerprint
  rcases hload : tracker.load tree file fingerprint with ⟨answer, mid⟩
  rw [hload] at hidle hstored
  have hrequest : tracker.ask tree (Asking.request (.load file fingerprint)) =
      (.ok answer, mid) := by
    change (Except.ok (tracker.load tree file fingerprint).1,
      (tracker.load tree file fingerprint).2) = _
    rw [hload]
  -- Whatever is answered, at most a note follows.
  have hnoted (text : Wide) (seed? : Option Snapshot) :
      ∃ after, mid.ask tree (settings.note text >>= fun _ => pure seed?) = (.ok seed?, after) ∧
        Idles tree tracker after := by
    obtain ⟨after, hnote, hidle'⟩ := ask_note tree mid settings text
    exact ⟨after, by rw [ask_bind_ok hnote]; rfl, hidle.trans hidle'⟩
  unfold TrackerSettings.seed
  rw [ask_bind_ok hrequest]
  cases answer with
  | error e =>
      obtain ⟨after, hafter, hidle'⟩ := hnoted _ none
      exact ⟨none, after, hafter, hidle', by simp⟩
  | ok snapshot? =>
      cases snapshot? with
      | none => exact ⟨none, mid, rfl, hidle, by simp⟩
      | some snapshot =>
          by_cases hpast : Number.ofNat lineCount < snapshot.watermark
          · simp only [hpast, if_true]
            obtain ⟨after, hafter, hidle'⟩ := hnoted _ none
            exact ⟨none, after, hafter, hidle', by simp⟩
          · simp only [hpast, if_false]
            obtain ⟨after, hafter, hidle'⟩ := hnoted _ (some snapshot)
            refine ⟨some snapshot, after, hafter, hidle', ?_⟩
            intro _ heq
            obtain rfl := Option.some.inj heq
            exact ⟨hstored _ rfl, hpast⟩

theorem Carries.ask_resolve (h : tracker.Carries P tree)
    (hcold : ∀ file text, P file text
      (.cold (Text.fingerprint text) (Text.fileLines text.toList).length)) (file : Wide) :
    (∃ error after, tracker.records.get? file = none ∧ tree.source file = .error error ∧
        Idles tree tracker after ∧
        tracker.ask tree (tracker.settings.resolve file) = (.error (.access error), after)) ∨
      ∃ text record after, tree.readText file = .ok text ∧ P file text record ∧
        Idles tree { tracker with records := tracker.records.put file record } after ∧
        tracker.ask tree (tracker.settings.resolve file) = (.ok record, after) := by
  have hrequest : tracker.ask tree (Asking.request (.known file)) =
      (.ok (tracker.records.get? file), tracker) := rfl
  unfold TrackerSettings.resolve
  rw [ask_bind_ok hrequest]
  cases hknown : tracker.records.get? file with
  | some record =>
      obtain ⟨text, htext, hrecord⟩ := h.records file record hknown
      refine Or.inr ⟨text, record, tracker, htext, hrecord, ?_, rfl⟩
      rw [Entries.put_of_get? hknown]
      exact .refl tree tracker
  | none =>
      obtain ⟨opened, hfingerprint, hidle⟩ := ask_fingerprint h.reflects file
      cases htext : tree.readText file with
      | error e =>
          have hsource : tree.source file = .error ⟨file, .file e⟩ := by
            rw [FileTree.source, htext]
          rw [hsource] at hfingerprint
          exact Or.inl ⟨_, opened, rfl, hsource, hidle, ask_bind_error hfingerprint _⟩
      | ok text =>
          have hsource := FileTree.source_of_readText htext
          obtain ⟨counted, hcount, hidle'⟩ := ask_lineCount (hidle.reflects h.reflects) htext
          obtain ⟨seed?, seeded, hseed, hidle'', hstored⟩ := ask_seed tree counted tracker.settings
            file (Text.fingerprint text) (Text.fileLines text.toList).length
          rw [hsource] at hfingerprint
          have hopened : tracker.ask tree (Asking.access (Query.request (.fingerprint file))) =
              (.ok (Text.fingerprint text), opened) := hfingerprint
          have hall := (hidle.trans hidle').trans hidle''
          have hremember (record : Record) :
              Idles tree { tracker with records := tracker.records.put file record }
                { seeded with records := seeded.records.put file record } := by
            rw [hall.records]
            exact hall.remember _
          simp only
          rw [ask_bind_ok hopened, ask_bind_ok hcount, ask_bind_ok hseed]
          cases seed? with
          | none => exact Or.inr ⟨text, _, _, rfl, hcold file text, hremember _, rfl⟩
          | some snapshot =>
              obtain ⟨⟨cache, entry, hcache, hentry, hsame, rfl⟩, hpast⟩ := hstored snapshot rfl
              rw [(hidle.trans hidle').stored] at hcache
              exact Or.inr ⟨text, _, _, rfl,
                h.stored cache file entry text hcache hentry htext hsame hpast, hremember _, rfl⟩

section answer

variable {file : Wide} {text : String} {record : Record} {line : Nat} {range : Range}

theorem ask_remember (hidle : Idles tree tracker after) (file : Wide) (record : Record) :
    ∃ next, after.ask tree (Asking.request (.remember file record)) = (.ok (), next) ∧
      Idles tree { tracker with records := tracker.records.put file record } next := by
  refine ⟨_, ask_request tree after _, ?_⟩
  rw [← hidle.records]
  exact hidle.remember _

theorem idles_put (tree : FileTree) (hknown : tracker.records.get? file = some record) :
    Idles tree { tracker with records := tracker.records.put file record } tracker := by
  rw [Entries.put_of_get? hknown]
  exact .refl tree tracker

theorem ask_answerLines (h : tracker.reader.Reflects tree)
    (htext : tree.readText range.file = .ok text)
    (hknown : tracker.records.get? range.file = some record)
    (hcount : record.lineCount = (Text.fileLines text.toList).length)
    (hwatermark : record.watermark = .ofNat line) {span : Span} (hspan : range.span = some span)
    (settings : TrackerSettings) (origin : Origin) :
    ∃ result known after,
      Answered settings.matcher (Text.fileLines text.toList) record line range origin result
        known ∧
      Idles tree { tracker with records := tracker.records.put range.file known } after ∧
      tracker.ask tree (settings.answerLines record range span origin) =
        (result.map fun ignored => (ignored, known), after) := by
  have hsame := idles_put tree hknown
  unfold TrackerSettings.answerLines
  cases hcover : record.cover range origin with
  | error e =>
      exact ⟨_, record, tracker, .faulty hspan hcover, hsame,
        ask_bind_error (ask_ofExcept tree tracker _ _) _⟩
  | ok covered =>
      rw [ask_bind_ok (ask_ofExcept tree tracker _ _), hwatermark]
      cases covered with
      | true => exact ⟨_, record, tracker, .covered hspan hcover, hsame, rfl⟩
      | false =>
          by_cases hlooked : Number.ofNat (TrackerSettings.lastLine span record.lineCount) ≤
              .ofNat line
          · simp only [Bool.false_eq_true, if_false, hlooked, if_true]
            rw [Number.ofNat_le_ofNat] at hlooked
            exact ⟨_, record, tracker, .looked hspan hcover hlooked, hsame, rfl⟩
          · simp only [Bool.false_eq_true, hlooked, if_false]
            rw [Number.ofNat_le_ofNat, Nat.not_le] at hlooked
            -- What is known does not tell; the lines beyond the watermark have to be searched.
            have hlast : TrackerSettings.lastLine span record.lineCount ≤
                (Text.fileLines text.toList).length := hcount ▸ TrackerSettings.lastLine_le span _
            obtain ⟨found, searched, hidle, hsearch, hsearched⟩ :=
              ask_searchFrom h htext settings (some span) origin line hlast
            cases found with
            | error e =>
                refine ⟨_, record, searched, .failed (hspan ▸ hsearched), hsame.trans hidle, ?_⟩
                exact ask_bind_error hsearch _
            | ok found =>
                rw [ask_bind_ok hsearch]
                cases found with
                | inline directive =>
                    obtain ⟨added, hadded, hidle'⟩ :=
                      ask_remember hidle range.file (record.addInline directive)
                    obtain ⟨after, hnote, hidle''⟩ := ask_note tree added settings
                      ("Ignored " ++ range.format ++ " by inline directive")
                    refine ⟨_, _, after, .inline hspan hsearched, hidle'.trans hidle'', ?_⟩
                    simp only
                    rw [ask_bind_ok hadded, ask_bind_ok hnote]
                    rfl
                | complete directives =>
                    obtain ⟨added, hadded, hidle'⟩ := ask_remember hidle range.file
                      (record.commit (TrackerSettings.lastLine span record.lineCount) directives)
                    refine ⟨_, _, added, .committed hspan hlooked hsearched, hidle', ?_⟩
                    simp only
                    rw [ask_bind_ok hadded]
                    cases (record.commit (TrackerSettings.lastLine span record.lineCount)
                        directives).cover range origin with
                    | error e => exact ask_bind_error (ask_ofExcept tree added _ _) _
                    | ok covered =>
                        rw [ask_bind_ok (ask_ofExcept tree added _ _)]
                        rfl

theorem ask_answerFile (h : tracker.reader.Reflects tree)
    (htext : tree.readText range.file = .ok text)
    (hknown : tracker.records.get? range.file = some record)
    (hcount : record.lineCount = (Text.fileLines text.toList).length)
    (hwatermark : record.watermark = .ofNat line) (hspan : range.span = none)
    (settings : TrackerSettings) (origin : Origin) :
    ∃ result known after,
      Answered settings.matcher (Text.fileLines text.toList) record line range origin result
        known ∧
      Idles tree { tracker with records := tracker.records.put range.file known } after ∧
      tracker.ask tree (settings.answerFile record range.file origin) =
        (result.map fun ignored => (ignored, known), after) := by
  have hsame := idles_put tree hknown
  unfold TrackerSettings.answerFile
  by_cases hmentioned : (record.mention origin || record.isComplete) = true
  · simp only [hmentioned, if_true]
    rw [Bool.or_eq_true] at hmentioned
    exact ⟨_, record, tracker, .mentioned hspan hmentioned, hsame, rfl⟩
  · simp only [hmentioned]
    rw [hwatermark]
    obtain ⟨found, searched, hidle, hsearch, hsearched⟩ :=
      ask_searchFrom h htext settings none origin line hcount.le
    cases found with
    | error e =>
        refine ⟨_, record, searched, .failed (hspan ▸ hsearched), hsame.trans hidle, ?_⟩
        exact ask_bind_error hsearch _
    | ok found =>
        simp only [Bool.false_eq_true, if_false]
        rw [ask_bind_ok hsearch]
        cases found with
        | inline directive =>
            cases hsearched with
            | inline _ _ _ hends => simp [TrackerSettings.endsSearch] at hends
        | complete directives =>
            obtain ⟨added, hadded, hidle'⟩ := ask_remember hidle range.file
              (record.commit record.lineCount directives)
            refine ⟨_, _, added, .scanned hspan (hcount ▸ hsearched), hidle', ?_⟩
            simp only
            rw [ask_bind_ok hadded]
            rfl

theorem ask_finish {asking : Asking (Bool × Record)} {result : Except QueryError Bool}
    {known : Record} {answered : Tracker}
    (h : tracker.ask tree asking = (result.map fun ignored => (ignored, known), answered))
    (file : Wide) :
    ∃ after, Idles tree answered after ∧ tracker.ask tree (asking >>= fun (ignored, record) => do
      if record.isComplete then Asking.request (.release file)
      return ignored) = (result, after) := by
  cases result with
  | error e => exact ⟨answered, .refl tree answered, ask_bind_error h _⟩
  | ok ignored =>
      rw [ask_bind_ok h]
      by_cases hcomplete : known.isComplete = true
      · simp only [hcomplete, if_true]
        refine ⟨_, ?_, ask_bind_ok (ask_request tree answered (.release file)) _⟩
        exact ⟨⟨rfl, rfl, rfl⟩, rfl, fun hreflects => hreflects.release file⟩
      · simp only [hcomplete]
        exact ⟨answered, .refl tree answered, rfl⟩

/-- Every question ends in one of the listed ways, unless the file cannot be read. -/
theorem Carries.isIgnored_cases (h : tracker.Carries P tree)
    (hcold : ∀ file text, P file text
      (.cold (Text.fingerprint text) (Text.fileLines text.toList).length))
    (hfits : ∀ file text record, P file text record → record.Fits text) (range : Range)
    (origin : Origin) :
    (∃ error after, tracker.records.get? range.file = none ∧
        tree.source range.file = .error error ∧ Idles tree tracker after ∧
        tracker.isIgnored tree range origin = (.error (.access error), after)) ∨
      ∃ text record line result known after, tree.readText range.file = .ok text ∧
        P range.file text record ∧ record.watermark = .ofNat line ∧ line ≤ record.lineCount ∧
        Answered tracker.settings.matcher (Text.fileLines text.toList) record line range origin
          result known ∧
        Idles tree { tracker with records := tracker.records.put range.file known } after ∧
        tracker.isIgnored tree range origin = (result, after) := by
  rw [isIgnored_eq_ask]
  unfold TrackerSettings.answer
  rcases h.ask_resolve hcold range.file with
    ⟨error, after, hnone, hsource, hidle, hresolve⟩ |
    ⟨text, record, resolved, htext, hrecord, hidle, hresolve⟩
  · exact Or.inl ⟨error, after, hnone, hsource, hidle, ask_bind_error hresolve _⟩
  · obtain ⟨hcount, line, hline, hwatermark⟩ := hfits _ _ _ hrecord
    have hreflects : resolved.reader.Reflects tree := hidle.reflects h.reflects
    have hknown : resolved.records.get? range.file = some record := by
      rw [hidle.records, Entries.get?_put, if_pos rfl]
    rw [ask_bind_ok hresolve]
    have hremembered {known : Record} {answered : Tracker} (hidle' : Idles tree
        { resolved with records := resolved.records.put range.file known } answered) :
        Idles tree { tracker with records := tracker.records.put range.file known } answered := by
      have hput := (hidle.remember (resolved.records.put range.file known)).trans hidle'
      rw [hidle.records, Entries.put_put] at hput
      exact hput
    cases hspan : range.span with
    | some span =>
        obtain ⟨result, known, answered, hanswered, hidle', hask⟩ := ask_answerLines hreflects
          htext hknown hcount hwatermark hspan tracker.settings origin
        obtain ⟨after, hidle'', hfinish⟩ := ask_finish hask range.file
        exact Or.inr ⟨text, record, line, result, known, after, htext, hrecord, hwatermark, hline,
          hanswered, (hremembered hidle').trans hidle'', hfinish⟩
    | none =>
        obtain ⟨result, known, answered, hanswered, hidle', hask⟩ := ask_answerFile hreflects
          htext hknown hcount hwatermark hspan tracker.settings origin
        obtain ⟨after, hidle'', hfinish⟩ := ask_finish hask range.file
        exact Or.inr ⟨text, record, line, result, known, after, htext, hrecord, hwatermark, hline,
          hanswered, (hremembered hidle').trans hidle'', hfinish⟩

theorem Sound.isIgnored_cases (h : tracker.Sound tree) (range : Range) (origin : Origin) :
    (∃ error after, tracker.records.get? range.file = none ∧
        tree.source range.file = .error error ∧ Idles tree tracker after ∧
        tracker.isIgnored tree range origin = (.error (.access error), after)) ∨
      ∃ text record line result known after, tree.readText range.file = .ok text ∧
        record.Knows tracker.settings.matcher text ∧ record.watermark = .ofNat line ∧
        line ≤ record.lineCount ∧
        Answered tracker.settings.matcher (Text.fileLines text.toList) record line range origin
          result known ∧
        Idles tree { tracker with records := tracker.records.put range.file known } after ∧
        tracker.isIgnored tree range origin = (result, after) :=
  h.carries.isIgnored_cases (fun _ => .cold _) (fun _ _ _ hknows => hknows.fits) range origin

end answer

end Tracker

end Suppression

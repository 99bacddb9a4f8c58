import Suppression.Proofs.CountedRecord
import Suppression.Proofs.DecisionOrder
import Suppression.Proofs.HeldCache

namespace Suppression

theorem Interval.counts_of_isValid {interval : Interval} (h : interval.isValid = true)
    (hfinite : interval.isFinite = true) : interval.Counts := by
  simp only [isValid, isFinite, Bool.and_eq_true, decide_eq_true_eq] at h hfinite
  obtain ⟨⟨⟨hwhole, hone⟩, -⟩, hend⟩ := h
  constructor
  · exact Number.exists_ofNat_of_hasNoFraction hwhole hfinite.1 hone
  · intro last hlast
    simp only [hlast, Bool.and_eq_true, decide_eq_true_eq] at hend hfinite
    obtain ⟨count, -, hcount⟩ :=
      Number.exists_ofNat_of_hasNoFraction hend.1.1 hfinite.2 hend.1.2
    exact ⟨count, hcount⟩

def Snapshot.IsMarked (snapshot : Snapshot) : Prop :=
  snapshot.watermark.hasNoFraction = true ∧ 0 ≤ snapshot.watermark

theorem Snapshot.isMarked_of_isValid {snapshot : Snapshot} (h : snapshot.isValid = true) :
    snapshot.IsMarked := by
  simp only [isValid, Bool.and_eq_true, decide_eq_true_eq] at h
  exact h.1

theorem Snapshot.IsMarked.exists_watermark {snapshot : Snapshot} (h : snapshot.IsMarked)
    {lineCount : Nat} (hpast : ¬ Number.ofNat lineCount < snapshot.watermark) :
    ∃ line ≤ lineCount, snapshot.watermark = .ofNat line := by
  obtain ⟨hwhole, hzero⟩ := h
  have hfinite : snapshot.watermark.isFinite = true := by
    -- An infinite watermark is a whole number for the cache, but it is past the end of every file.
    cases hwatermark : snapshot.watermark with
    | finite value => rfl
    | nan => simp [hwatermark, Number.hasNoFraction] at hwhole
    | infinite negative =>
        cases negative with
        | false =>
            rw [hwatermark] at hpast
            exact absurd rfl hpast
        | true =>
            rw [hwatermark] at hzero
            exact absurd hzero (by decide)
  obtain ⟨line, -, hline⟩ := Number.exists_ofNat_of_hasNoFraction hwhole hfinite hzero
  rw [hline, Number.ofNat_lt_ofNat, not_lt] at hpast
  exact ⟨line, hpast, hline⟩

/-- Where the cache keeps something for the content that a file has, no line of it is infinite. -/
def FileTree.CachesFinite (tree : FileTree) (path : String) (file : Wide) : Prop :=
  ∀ cacheText cache text entry, tree.readText path = .ok cacheText →
    Cache.decode? cacheText = some cache → tree.readText file = .ok text →
      cache.get? file = some entry → entry.fingerprint = Text.fingerprint text →
        ∀ interval ∈ entry.snapshot.intervals, interval.isFinite = true

/-- What is known about a file fits its content, and the lines of its intervals are counts, unless
the cache has it otherwise. -/
def Record.Usable (tree : FileTree) (path : String) (file : Wide) (text : String)
    (record : Record) : Prop :=
  record.Fits text ∧ (tree.CachesFinite path file → record.Counts)

theorem Record.usable_cold (tree : FileTree) (path : String) (file : Wide) (text : String) :
    Record.Usable tree path file text
      (.cold (Text.fingerprint text) (Text.fileLines text.toList).length) := by
  constructor
  · exact fits_cold text
  · intro _
    constructor
    · exact ⟨0, rfl⟩
    · intro interval hmem
      simp [Record.cold] at hmem

theorem Cache.isValid_of_get? {cacheText : String} {cache : Cache} {file : Wide}
    {entry : CacheEntry} (h : decode? cacheText = some cache)
    (hentry : cache.get? file = some entry) : entry.isValid = true := by
  obtain ⟨-, hall⟩ := Option.filter_eq_some_iff.mp h
  exact List.all_eq_true.mp hall _ (Entries.mem_of_get? hentry)

theorem Store.exists_text_of_readCache {store : Store} {tree : FileTree} {cache : Cache}
    {file : Wide} {entry : CacheEntry} (h : (store.readCache tree).1 = .ok cache)
    (hentry : cache.get? file = some entry) :
    ∃ text, tree.readText store.path = .ok text ∧ Cache.decode? text = some cache := by
  have hempty : ∀ {cache : Cache}, cache = [] → cache.get? file ≠ some entry := by
    rintro _ rfl
    simp [Entries.get?]
  unfold readCache at h
  split at h
  · split at h
    · exact absurd hentry (hempty (Except.ok.inj h).symm)
    · simp at h
  · next text htext =>
      split at h
      · next found hfound =>
          obtain rfl := Except.ok.inj h
          exact ⟨text, htext, hfound⟩
      · exact absurd hentry (hempty (Except.ok.inj h).symm)

namespace Answered

variable {matcher : Matcher} {text : String} {record known : Record} {line : Nat} {range : Range}
  {origin : Origin} {result : Except QueryError Bool}

theorem usable {tree : FileTree} {path : String} {file : Wide}
    (h : Answered matcher (Text.fileLines text.toList) record line range origin result known)
    (hrecord : record.Usable tree path file text) (hline : line ≤ record.lineCount)
    (hheld : text.length < 2 ^ 53) : known.Usable tree path file text := by
  constructor
  · exact h.fits hrecord.1
  · intro hfinite
    exact h.counts (hrecord.2 hfinite) (hrecord.1.lineCount ▸ hline) (Record.Knows.lines_lt hheld)

end Answered

namespace Tracker

variable {tree : FileTree} {tracker : Tracker} {path : String} {range : Range}

/-- What is known and what is stored can be used, whatever the cache holds. -/
abbrev Usable (tree : FileTree) (path : String) (tracker : Tracker) : Prop :=
  tracker.Carries (Record.Usable tree path) tree

theorem usable_fresh (tree : FileTree) (settings : TrackerSettings) (path : String)
    (verbose : Bool) :
    Usable tree path { settings, store := some { path, verbose } } := by
  refine ⟨Reader.reflects_empty tree, ?_, ?_⟩
  · intro file record h
    simp [Entries.get?] at h
  · intro cache file entry text hcache hentry htext hsame hpast
    obtain ⟨cacheText, hcacheText, hdecoded⟩ :=
      Store.exists_text_of_readCache (Option.some.inj hcache) hentry
    have hvalid := Cache.isValid_of_get? hdecoded hentry
    simp only [CacheEntry.isValid, Bool.and_eq_true] at hvalid
    obtain ⟨line, hline, hwatermark⟩ :=
      (Snapshot.isMarked_of_isValid hvalid.2).exists_watermark hpast
    constructor
    · exact ⟨rfl, line, hline, hwatermark⟩
    · intro hfinite
      constructor
      · exact ⟨line, hwatermark⟩
      · intro interval hmem
        have hall := hvalid.2
        simp only [Snapshot.isValid, Bool.and_eq_true, List.all_eq_true] at hall
        exact Interval.counts_of_isValid (hall.2 interval hmem)
          (hfinite cacheText cache text entry hcacheText hdecoded htext hentry hsame interval hmem)

/-- A question leaves what is known so that it can be used, and is answered unless the cache keeps
infinite lines for its file. -/
theorem Usable.isIgnored (h : tracker.Usable tree path) (htree : tree.Holdable)
    (hmatcher : tracker.settings.matcher = .standard) (range : Range) (origin : Origin) :
    (tracker.isIgnored tree range origin).2.Usable tree path ∧
      Learns tree tracker (tracker.isIgnored tree range origin).2 ∧
      (tree.CachesFinite path range.file →
        (∃ ignored, (tracker.isIgnored tree range origin).1 = .ok ignored) ∨
          ∃ error, (tracker.isIgnored tree range origin).1 = .error (.access error) ∧
            tree.source range.file = .error error) := by
  rcases h.isIgnored_cases (Record.usable_cold tree path) (fun _ _ _ husable => husable.1) range
    origin with
    ⟨error, after, -, hsource, hidle, hrun⟩ |
    ⟨text, record, line, result, known, after, htext, husable, -, hline, hanswered, hidle, hrun⟩
  · rw [hrun]
    exact ⟨h.idles hidle, hidle.toLearns, fun _ => Or.inr ⟨error, rfl, hsource⟩⟩
  · rw [hrun]
    have hheld := htree.length_lt htext
    refine ⟨?_, ⟨hidle.settings, hidle.stored, hidle.storePath⟩, ?_⟩
    · exact (h.remember htext (hanswered.usable husable hline hheld)).idles hidle
    · intro hfinite
      rw [hmatcher] at hanswered
      obtain ⟨directives, hdirectives⟩ :=
        Matcher.exists_standard_inLinesFrom 1 (Text.fileLines text.toList)
      left
      exact hanswered.exists_ok (husable.2 hfinite) (husable.1.lineCount ▸ hline)
        (Record.Knows.lines_lt hheld) hdirectives

theorem Usable.askAll (h : tracker.Usable tree path) (htree : tree.Holdable)
    (hmatcher : tracker.settings.matcher = .standard) (questions : List Question) :
    (tracker.askAll tree questions).2.Usable tree path ∧
      Learns tree tracker (tracker.askAll tree questions).2 := by
  induction questions generalizing tracker with
  | nil => exact ⟨h, .refl tree tracker⟩
  | cons question rest ih =>
      obtain ⟨husable, hlearns, -⟩ := h.isIgnored htree hmatcher question.range question.origin
      obtain ⟨husable', hlearns'⟩ := ih husable (hlearns.settings ▸ hmatcher)
      exact ⟨husable', hlearns.trans hlearns'⟩

end Tracker

namespace Sorting

variable {tree : FileTree} {sorting : Sorting} {path : String}

theorem exists_decideAll_usable (h : sorting.tracker.Usable tree path) (htree : tree.Holdable)
    (hmatcher : sorting.tracker.settings.matcher = .standard) {diagnostics : List Diagnostic}
    (hdiagnostics : ∀ d ∈ diagnostics, (∃ range, d.range = .ok range) ∧
      tree.CachesFinite path d.file) :
    ∃ decisions : List Bool, (sorting.decideAll tree diagnostics).1 = decisions.map .ok := by
  induction diagnostics generalizing sorting with
  | nil => exact ⟨[], rfl⟩
  | cons d rest ih =>
      obtain ⟨⟨⟨range, hrange⟩, hfinite⟩, hrest⟩ := List.forall_mem_cons.mp hdiagnostics
      obtain ⟨hafter, hlearns, hanswered⟩ := h.isIgnored htree hmatcher range d.origin
      rw [(Diagnostic.accepted_of_range hrange).1] at hanswered
      rcases hask : sorting.tracker.isIgnored tree range d.origin with ⟨answer, asked⟩
      rw [hask] at hafter hlearns hanswered
      obtain ⟨after, hidle, hafter', hanswer, hunreadable⟩ := exists_decide hrange hask
      obtain ⟨ignored, hdecide⟩ : ∃ ignored, (sorting.decide tree d).1 = .ok ignored := by
        rcases hanswered hfinite with ⟨ignored, heq⟩ | ⟨error, heq, -⟩
        · exact ⟨ignored, hanswer ignored heq⟩
        · exact ⟨false, hunreadable error heq⟩
      obtain ⟨decisions, hdecisions⟩ := @ih after (hafter.idles hidle)
        (by rw [hidle.settings, hlearns.settings, hmatcher]) hrest
      refine ⟨ignored :: decisions, ?_⟩
      simp only [decideAll, List.map_cons, hdecide, hafter', hdecisions]

end Sorting

namespace Tracker

/-- Whatever stands in the place of the cache file, questions about files that can be read are
answered, and findings are parted, unless the cache keeps an infinite line for the content of such a
file. A text that is no cache makes no difference to any answer. -/
theorem isIgnored_of_any_cache {tree : FileTree} (htree : tree.Holdable) (path : String)
    (verbose verboseStore : Bool) :
    let tracker : Tracker :=
      { settings := { verbose }, store := some { path, verbose := verboseStore } }
    (∀ (questions : List Question) (range : Range) (origin : Origin) (text : String),
        tree.readText range.file = .ok text → tree.CachesFinite path range.file →
          ∃ ignored, ((tracker.askAll tree questions).2.isIgnored tree range origin).1 =
            .ok ignored) ∧
      (∀ (input : String) (diagnostics : List Diagnostic),
        Diagnostic.ofText input = .ok diagnostics →
          (∀ d ∈ diagnostics, tree.CachesFinite path d.file) →
            ∃ parted, (Diagnostic.partition diagnostics tracker tree verbose).1 = .ok parted) ∧
      ∀ cacheText, tree.readText path = .ok cacheText → Cache.decode? cacheText = none →
        ∀ questions, (tracker.askAll tree questions).1 =
          (askAll { settings := { verbose } } tree questions).1 := by
  intro tracker
  have hfresh : tracker.Usable tree path := usable_fresh tree { verbose } path verboseStore
  refine ⟨?_, ?_, ?_⟩
  · intro questions range origin text htext hfinite
    obtain ⟨husable, hlearns⟩ := hfresh.askAll htree rfl questions
    have hmatcher : (tracker.askAll tree questions).2.settings.matcher = .standard := by
      rw [hlearns.settings]
    obtain ⟨-, -, hanswered⟩ := husable.isIgnored htree hmatcher range origin
    rcases hanswered hfinite with hanswer | ⟨error, -, hsource⟩
    · exact hanswer
    · rw [FileTree.source_of_readText htext] at hsource
      simp at hsource
  · intro input diagnostics hread hfinite
    have hdiagnostics : ∀ d ∈ diagnostics, (∃ range, d.range = .ok range) ∧
        tree.CachesFinite path d.file :=
      fun d hd => ⟨Diagnostic.exists_range_of_ofText hread d hd, hfinite d hd⟩
    obtain ⟨decisions, hdecisions⟩ :=
      @Sorting.exists_decideAll_usable tree { tracker, verbose } path hfresh htree rfl diagnostics
        hdiagnostics
    simp only [Diagnostic.partition, hdecisions, Diagnostic.decisions_map_ok]
    exact ⟨_, rfl⟩
  · intro cacheText hcacheText hdecoded questions
    have halike : Alike tree tracker { settings := { verbose } } := by
      refine ⟨rfl, rfl, ?_, Reader.reflects_empty tree, Reader.reflects_empty tree⟩
      simp [tracker, kept, stored, Store.entries, Store.readCache, hcacheText, hdecoded]
    exact halike.askAll questions

end Tracker

/-- A file system with a file and a cache file in its working directory. -/
def FileTree.withCache (text cacheText : String) : FileTree :=
  { nodes := [(["a.py"], .file (Text.encodeUtf8 text)), (["c"], .file (Text.encodeUtf8 cacheText))]
    working := [] }

theorem FileTree.readText_withCache (text cacheText : String) :
    (withCache text cacheText).readText "a.py" = .ok text ∧
      (withCache text cacheText).readText "c" = .ok cacheText :=
  ⟨readText_script rfl rfl, readText_stored rfl rfl⟩

/-- A cache that keeps one open interval for a file of one line. -/
def Cache.openFrom (startLine : String) : String :=
  "\x7b\"version\":1,\"files\":\x7b\"a.py\":\x7b\"fingerprint\":" ++
    "\"73cb3858a687a8494ca3323053016282f3dad39d42cf62ca4e79dda2aac7d9ac\"," ++
    "\"snapshot\":\x7b\"watermark\":1,\"intervals\":[\x7b\"origin\":\"Start\"," ++
    "\"startLine\":" ++ startLine ++ ",\"endLine\":\"open\",\"targets\":[]\x7d]\x7d\x7d\x7d\x7d"

namespace Tracker

theorem isIgnored_of_any_cache_openRegion :
    let tree := FileTree.withCache "x\n" (Cache.openFrom "1e300")
    let tracker : Tracker := { settings := {}, store := some { path := "c" } }
    ∃ ignored, (tracker.isIgnored tree { file := "a.py", span := some ⟨⟨1, 0⟩, ⟨1, 0⟩⟩ }
      { analyzer := "mypy" }).1 = .ok ignored := by
  intro tree tracker
  obtain ⟨htext, hcache⟩ := FileTree.readText_withCache "x\n" (Cache.openFrom "1e300")
  have htree : tree.Holdable := by
    intro place content hmem
    simp only [tree, FileTree.withCache, List.mem_cons, Prod.mk.injEq, Node.file.injEq,
      List.not_mem_nil, or_false] at hmem
    rcases hmem with ⟨-, rfl⟩ | ⟨-, rfl⟩
    · decide +kernel
    · decide +kernel
  have hall : ∀ cache, Cache.decode? (Cache.openFrom "1e300") = some cache →
      ∀ entry ∈ cache, ∀ interval ∈ entry.2.snapshot.intervals, interval.isFinite = true := by
    have hcheck : (Cache.decode? (Cache.openFrom "1e300")).all (fun cache => cache.all fun entry =>
        entry.2.snapshot.intervals.all Interval.isFinite) = true := by decide +kernel
    intro cache hdecoded
    simpa [hdecoded] using hcheck
  have hfinite : tree.CachesFinite "c" "a.py" := by
    intro cacheText cache text entry hcacheText hdecoded _ hentry _
    obtain rfl := Except.ok.inj (hcache.symm.trans hcacheText)
    exact hall cache hdecoded _ (Entries.mem_of_get? hentry)
  exact (isIgnored_of_any_cache htree "c" false false).1 [] _ _ "x\n" htext hfinite

/-- A cache whose interval starts on an infinite line is no corrupt one, and breaks a question. -/
theorem isIgnored_infinite_line :
    let tree := FileTree.withCache "x\n" (Cache.openFrom "1e400")
    let tracker : Tracker := { settings := {}, store := some { path := "c" } }
    (Cache.decode? (Cache.openFrom "1e400")).isSome = true ∧
      (tracker.isIgnored tree { file := "a.py", span := some ⟨⟨1, 0⟩, ⟨1, 0⟩⟩ }
        { analyzer := "mypy" }).1 = .error (.range (.line .start "Infinity")) := by
  intro tree tracker
  obtain ⟨htext, hcache⟩ := FileTree.readText_withCache "x\n" (Cache.openFrom "1e400")
  have hopened : (Cache.decode? (Cache.openFrom "1e400")).map (fun cache =>
      (isIgnored
        { settings := {}
          store := some { path := "c", opened := some (.ok cache) }
          reader := { held := [("a.py", Source.ofText "x\n")] } }
        tree { file := "a.py", span := some ⟨⟨1, 0⟩, ⟨1, 0⟩⟩ } { analyzer := "mypy" }).1) =
      some (.error (.range (.line .start "Infinity"))) := by decide +kernel
  obtain ⟨cache, hdecoded, hbroken⟩ := Option.map_eq_some_iff.mp hopened
  have halike := alike_read htext {} (some { path := "c" })
    (some { path := "c", opened := some (.ok cache) })
    (by simp [Store.entries, Store.readCache, hcache, hdecoded])
  constructor
  · rw [hdecoded]
    rfl
  · exact (halike.isIgnored _ _).1.trans hbroken

end Tracker

end Suppression

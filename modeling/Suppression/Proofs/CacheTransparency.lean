import Suppression.Proofs.Deciding
import Suppression.Proofs.FileContents
import Suppression.Proofs.KeptCache
import Suppression.Proofs.ReloadedCache
import Suppression.Run.Filter

/-!
Runs that share a cache. Whatever runs have been made over it and however the files have been edited
in between, its file holds what is true of contents that once were there
(`CacheHistory.holdsCache`), and so a run with the cache prints what a run without one prints, and
ends with the same exit code (`CacheHistory.filter_eq`).
-/

namespace Suppression

/-- A run with a cache finds texts among the contents only, and can write its cache. -/
structure FileTree.IsReady (contents : Set String) (path : String) (tree : FileTree) : Prop where
  texts : ∀ file text, tree.readText file = .ok text → text ∈ contents
  writable : ∀ content, (tree.writeWithParents path content).1 = .ok ()

theorem FileTree.IsReady.path_ne {contents : Set String} {path : String} {tree : FileTree}
    (h : tree.IsReady contents path) : path ≠ "" := by
  rintro rfl
  have hwrite := h.writable []
  rcases hrun : tree.writeWithParents "" [] with ⟨result, after⟩
  obtain rfl : result = .ok () := by rwa [hrun] at hwrite
  have hread := FileTree.read_of_writeWithParents hrun
  simp only [read, find, checkLength, if_true, bind, Except.bind] at hread
  split at hread <;> simp at hread

theorem FileTree.HoldsTexts.isReady {contents : Set String} {tree : FileTree}
    (h : tree.HoldsTexts contents) (hworking : tree.working = []) (content? : Option (List UInt8))
    (hnode : tree.nodes.lookup ["c"] = content?.map Node.file) : tree.IsReady contents "c" := by
  refine ⟨fun _ _ => h.mem, fun content => ?_⟩
  rw [writeWithParents_file hworking content? hnode]

/-- The files after some runs with one cache. At first there is no cache; between the runs, files
come and go and change, and nobody but the runs changes the cache. -/
inductive CacheHistory (contents : Set String) (path : String) : FileTree → Prop
  | start {tree : FileTree} {error : FileError} : tree.readText path = .error error →
      error.code? = some .noEntry → CacheHistory contents path tree
  | edit {tree after : FileTree} : CacheHistory contents path tree →
      after.readText path = tree.readText path → CacheHistory contents path after
  | run {tree : FileTree} (input : FilterInput) (verbose : Bool) :
      CacheHistory contents path tree → tree.IsReady contents path →
        CacheHistory contents path (Run.filter tree input verbose (some path)).course.tree

namespace Tracker

variable {tree : FileTree} {tracker : Tracker}

theorem saveRecords_of_store_none (h : tracker.store = none) (tree : FileTree)
    (files : List Wide) : tracker.saveRecords tree files = (.ok (), tracker) := by
  induction files with
  | nil => rfl
  | cons file rest ih => simp only [saveRecords, saveRecord, h, ih]

theorem persist_of_store_none (h : tracker.store = none) (tree : FileTree) :
    tracker.persist tree = (.ok (), tree, tracker) := by
  simp only [persist, saveRecords_of_store_none h, flush, h]

end Tracker

namespace Run

def kept (diagnostics : List Diagnostic) (answers : List (Except DecisionError Bool)) :
    Except DecisionError (List Diagnostic) :=
  (Diagnostic.decisions answers).map fun decisions =>
    Diagnostic.withDecision false diagnostics decisions

/-- How a run with its findings ends, from the findings that are printed. -/
def exitOf : Except DecisionError (List Diagnostic) → Except RunError Nat
  | .error .noText => .error .noText
  | .error (.query e) => .error (.query e)
  | .ok kept => .ok (if kept.isEmpty then 0 else 1)

def resultsOf : Except DecisionError (List Diagnostic) → List Wide
  | .error _ => []
  | .ok kept => kept.filterMap Diagnostic.format?

variable {tree written : FileTree} {input : FilterInput} {verbose : Bool} {cache : Option String}
  {diagnostics : List Diagnostic} {answers : List (Except DecisionError Bool)}

theorem filter_outcome (hinput : input.diagnostics tree = .ok diagnostics) {sorting : Sorting}
    (hdecide : Sorting.decideAll { tracker := tracker verbose cache, verbose } tree diagnostics =
      (answers, sorting))
    {after : Tracker}
    (hpersist : { sorting.tracker with log := #[] }.persist tree = (.ok (), written, after)) :
    (filter tree input verbose cache).exit = exitOf (kept diagnostics answers) ∧
      (filter tree input verbose cache).course.results = resultsOf (kept diagnostics answers) ∧
      (filter tree input verbose cache).course.tree =
        match kept diagnostics answers with
        | .ok _ => written
        | .error _ => tree := by
  simp only [filter, hinput, Diagnostic.partition, hdecide, kept]
  cases Diagnostic.decisions answers with
  | error e =>
      cases e with
      | noText => exact ⟨rfl, rfl, rfl⟩
      | query e => exact ⟨rfl, rfl, rfl⟩
  | ok decisions =>
      simp only [Except.map, hpersist]
      refine ⟨rfl, ?_, rfl⟩
      cases verbose <;> rfl

theorem filter_plain (hinput : input.diagnostics tree = .ok diagnostics)
    (hheld : ∀ d ∈ diagnostics, ∀ text, tree.readText d.file = .ok text → text.length < 2 ^ 53)
    (hexact : ∀ d ∈ diagnostics, d.IsExact) :
    (filter tree input verbose none).exit =
        exitOf (kept diagnostics (diagnostics.map (Diagnostic.verdict tree))) ∧
      (filter tree input verbose none).course.results =
        resultsOf (kept diagnostics (diagnostics.map (Diagnostic.verdict tree))) := by
  have hsound : (tracker verbose none).Sound tree := Tracker.sound_fresh tree { verbose }
  obtain ⟨-, hlearns, hverdicts⟩ :=
    @Sorting.decideAll_spec tree { tracker := tracker verbose none, verbose } hsound rfl
      diagnostics hheld
  rcases hdecide : Sorting.decideAll { tracker := tracker verbose none, verbose } tree diagnostics
    with ⟨answers, sorting⟩
  rw [hdecide] at hlearns hverdicts
  have hstore : sorting.tracker.store = none := Option.map_eq_none_iff.mp hlearns.storePath
  have hpersist : { sorting.tracker with log := #[] }.persist tree =
      (.ok (), tree, { sorting.tracker with log := #[] }) :=
    @Tracker.persist_of_store_none { sorting.tracker with log := #[] } hstore tree
  obtain ⟨hexit, hresults, -⟩ := filter_outcome hinput hdecide hpersist
  obtain rfl : answers = _ := hverdicts hexact
  exact ⟨hexit, hresults⟩

variable {contents : Set String} {path : String}

theorem tracker_sound (hcontents : Text.ToldApart contents)
    (hholds : tree.HoldsCache .standard contents path) (hready : tree.IsReady contents path)
    (verbose : Bool) :
    (tracker verbose (some path)).Sound tree ∧
      (tracker verbose (some path)).Keeps .standard contents tree path := by
  have hstart : tracker verbose (some path) =
      { settings := { verbose }, store := some { path, verbose } } := by
    simp [tracker, Option.filter, hready.path_ne]
  obtain ⟨cache, hread, htells⟩ := @Store.exists_readCache _ _ tree hcontents
    Matcher.standard_namesWritable { path, verbose } hholds
  have hstored : Tracker.stored { settings := { verbose }, store := some { path, verbose } } tree =
      some (.ok cache) := congrArg some hread
  rw [hstart]
  constructor
  · refine ⟨Reader.reflects_empty tree, fun file record h => by simp [Entries.get?] at h, ?_⟩
    intro stored file entry text hcache hentry htext hfingerprint
    rw [hstored] at hcache
    obtain rfl := Except.ok.inj (Option.some.inj hcache)
    exact htells.exists_knows hcontents hentry (hready.texts file text htext) hfingerprint
  · exact ⟨fun file record h => by simp [Entries.get?] at h, rfl, cache, hstored, htells⟩

/-- A run with a cache comes to what one without a cache comes to, and leaves behind a cache that
is true. -/
theorem filter_cached (hcontents : Text.ToldApart contents)
    (hholds : tree.HoldsCache .standard contents path) (hready : tree.IsReady contents path)
    (hinput : input.diagnostics tree = .ok diagnostics) :
    (filter tree input verbose (some path)).course.tree.HoldsCache .standard contents path ∧
      ((∀ d ∈ diagnostics, d.IsExact) →
        (filter tree input verbose (some path)).exit =
            exitOf (kept diagnostics (diagnostics.map (Diagnostic.verdict tree))) ∧
          (filter tree input verbose (some path)).course.results =
            resultsOf (kept diagnostics (diagnostics.map (Diagnostic.verdict tree)))) := by
  obtain ⟨hsound, hkeeps⟩ := tracker_sound hcontents hholds hready verbose
  obtain ⟨hafter, hlearns, hverdicts⟩ :=
    @Sorting.decideAll_spec tree { tracker := tracker verbose (some path), verbose } hsound rfl
      diagnostics fun d _ text htext => hcontents.length_lt text (hready.texts d.file text htext)
  rcases hdecide : Sorting.decideAll { tracker := tracker verbose (some path), verbose } tree
    diagnostics with ⟨answers, sorting⟩
  rw [hdecide] at hafter hlearns hverdicts
  have hlast : Tracker.Keeps .standard contents tree path { sorting.tracker with log := #[] } := by
    refine ⟨fun file record hrecord => ?_, hlearns.storePath ▸ hkeeps.storePath,
      hlearns.stored ▸ hkeeps.stored⟩
    obtain ⟨text, htext, hknows⟩ := hafter.records file record hrecord
    have hmatcher : sorting.tracker.settings.matcher = .standard :=
      congrArg TrackerSettings.matcher hlearns.settings
    exact ⟨text, hready.texts file text htext, hmatcher ▸ hknows⟩
  obtain ⟨written, after, hpersist, hwritten⟩ := hlast.persist hholds hready.writable
  obtain ⟨hexit, hresults, htree⟩ := filter_outcome hinput hdecide hpersist
  refine ⟨?_, fun hexact => ?_⟩
  · rw [htree]
    split
    · exact hwritten
    · exact hholds
  · obtain rfl : answers = _ := hverdicts hexact
    exact ⟨hexit, hresults⟩

theorem filter_plain_alike (hinput : input.diagnostics tree = .ok diagnostics)
    (hheld : ∀ d ∈ diagnostics, ∀ text, tree.readText d.file = .ok text → text.length < 2 ^ 53)
    (hexact : ∀ d ∈ diagnostics, d.IsExact) {other : Tracker}
    (halike : Tracker.Alike tree (tracker verbose none) other) :
    (filter tree input verbose none).course.results = resultsOf (kept diagnostics
      (Sorting.decideAll { tracker := other, verbose } tree diagnostics).1) := by
  have hsorting : Sorting.Alike tree { tracker := tracker verbose none, verbose }
      { tracker := other, verbose } := ⟨halike, rfl, rfl⟩
  have hsound : (tracker verbose none).Sound tree := Tracker.sound_fresh tree { verbose }
  obtain ⟨-, -, hverdicts⟩ := @Sorting.decideAll_spec tree
    { tracker := tracker verbose none, verbose } hsound rfl diagnostics hheld
  rw [(filter_plain hinput hheld hexact).2, ← hverdicts hexact, (hsorting.decideAll diagnostics).1]

/-- A run with a cache that has found something out about one file only stores that and nothing
else. -/
theorem filter_stores_one (hcontents : Text.ToldApart contents)
    (hholds : tree.HoldsCache .standard contents path) (hready : tree.IsReady contents path)
    (hinput : input.diagnostics tree = .ok diagnostics) {held : Cache}
    (hheld : tree.cacheAt path = .ok held) {other : Tracker}
    (halike : Tracker.Alike tree (tracker verbose (some path)) other) {file : Wide}
    {record : Record} (hrecords : (Sorting.decideAll { tracker := other, verbose } tree
      diagnostics).2.tracker.records = [(file, record)]) (hchanged : record.changed = true)
    {found : List Diagnostic} (hkept : kept diagnostics
      (Sorting.decideAll { tracker := other, verbose } tree diagnostics).1 = .ok found)
    (hwrite : tree.writeWithParents path
      (Text.encodeUtf8 (Cache.encode (held.put file record.entry))) = (.ok (), written)) :
    (filter tree input verbose (some path)).course.tree = written := by
  have hsorting : Sorting.Alike tree { tracker := tracker verbose (some path), verbose }
      { tracker := other, verbose } := ⟨halike, rfl, rfl⟩
  obtain ⟨hanswers, hafter⟩ := hsorting.decideAll diagnostics
  obtain ⟨hsound, hkeeps⟩ := tracker_sound hcontents hholds hready verbose
  obtain ⟨-, hlearns, -⟩ :=
    @Sorting.decideAll_spec tree { tracker := tracker verbose (some path), verbose } hsound rfl
      diagnostics fun d _ text htext => hcontents.length_lt text (hready.texts d.file text htext)
  rcases hdecide : Sorting.decideAll { tracker := tracker verbose (some path), verbose } tree
    diagnostics with ⟨answers, sorting⟩
  rw [hdecide] at hanswers hafter hlearns
  obtain ⟨store, hstore, hpath⟩ :=
    Option.map_eq_some_iff.mp (hlearns.storePath.trans hkeeps.storePath)
  have hentries : (store.entries tree).1 = .ok held := by
    have hstored : (tracker verbose (some path)).stored tree = some (.ok held) := by
      simp [tracker, Option.filter, hready.path_ne, Tracker.stored, Store.entries,
        Store.readCache_fst, hheld]
    have hlast := hlearns.stored.trans hstored
    rw [Tracker.stored, hstore] at hlast
    exact Option.some.inj hlast
  obtain ⟨saved, hpersist⟩ := @Tracker.persist_one tree { sorting.tracker with log := #[] } file
    store record held hstore (hafter.tracker.records.symm.trans hrecords) hchanged hentries written
      (hpath ▸ hwrite)
  obtain ⟨-, -, htree⟩ := filter_outcome hinput hdecide hpersist
  obtain rfl : answers = _ := hanswers
  rw [htree, hkept]

/-- What a run starts from, when its file has been taken in already, and its cache too. -/
def reading (text : String) (cache : Option Cache) : Sorting :=
  { tracker :=
      { settings := {}
        store := cache.map fun cache => { path := "c", opened := some (.ok cache) }
        reader := { held := [("a.py", Source.ofText text)] } }
    verbose := false }

theorem filter_single {text : String} (hheld : text.length < 2 ^ 53)
    (hinput : input.diagnostics (.single "a.py" text) = .ok diagnostics)
    (hexact : ∀ d ∈ diagnostics, d.IsExact) :
    (filter (.single "a.py" text) input false none).course.results =
      resultsOf (kept diagnostics
        ((reading text none).decideAll (.single "a.py" text) diagnostics).1) := by
  refine filter_plain_alike hinput (fun d _ found hfound => ?_) hexact
    (Tracker.alike_read (FileTree.readText_single_script text) {} none none rfl)
  rwa [FileTree.eq_of_readText_single hfound]

theorem filter_single_stores (hcontents : Text.ToldApart contents) {text : String}
    (htext : text ∈ contents)
    (hinput : input.diagnostics (.single "a.py" text) = .ok diagnostics) {found : List Diagnostic}
    (hkept : kept diagnostics
      ((reading text (some [])).decideAll (.single "a.py" text) diagnostics).1 = .ok found)
    {record : Record}
    (hrecords : ((reading text (some [])).decideAll (.single "a.py" text)
      diagnostics).2.tracker.records = ([("a.py", record)] : Entries Record))
    (hchanged : record.changed = true) :
    (filter (.single "a.py" text) input false (some "c")).course.tree =
      FileTree.putNode (.single "a.py" text) ["c"]
        (.file (Text.encodeUtf8 (Cache.encode [("a.py", record.entry)]))) := by
  have hread := FileTree.readText_single_script text
  have hmissing := FileTree.readText_single_other text
  have hcache := FileTree.cacheAt_of_missing hmissing rfl
  exact filter_stores_one hcontents (.missing hmissing rfl)
    ((FileTree.holdsTexts_single htext "a.py").isReady rfl none rfl) hinput hcache
    (Tracker.alike_opened ((Reader.reflects_empty _).hold hread) {} hcache false) hrecords hchanged
    hkept (FileTree.writeWithParents_single_other text _)

theorem filter_of_diagnostics_error {e : RunError} (hinput : input.diagnostics tree = .error e) :
    filter tree input verbose cache = { exit := .error e, course := { tree } } := by
  simp only [filter, hinput]

end Run

theorem CacheHistory.holdsCache {contents : Set String} {path : String} {tree : FileTree}
    (h : CacheHistory contents path tree) (hcontents : Text.ToldApart contents) :
    tree.HoldsCache .standard contents path := by
  induction h with
  | start hread hcode => exact .missing hread hcode
  | edit _ hsame ih =>
      cases ih with
      | missing hread hcode => exact .missing (hsame.trans hread) hcode
      | written htells hread => exact .written htells (hsame.trans hread)
  | @run tree input verbose _ hready ih =>
      cases hinput : input.diagnostics tree with
      | error e =>
          rw [Run.filter_of_diagnostics_error hinput]
          exact ih
      | ok diagnostics => exact (Run.filter_cached hcontents ih hready hinput).1

/-- The findings and the files that they are about are the same in both. -/
structure FilterInput.Agrees (input : FilterInput) (tree other : FileTree) : Prop where
  diagnostics : input.diagnostics other = input.diagnostics tree
  texts : ∀ diagnostics, input.diagnostics tree = .ok diagnostics → ∀ d ∈ diagnostics,
    other.readText d.file = tree.readText d.file

theorem FilterInput.diagnostics_text (text : String) (tree other : FileTree) :
    FilterInput.diagnostics { text := some text } tree =
      FilterInput.diagnostics { text := some text } other :=
  rfl

theorem FilterInput.agrees_of_file {input : FilterInput} {tree other : FileTree}
    {diagnostics : List Diagnostic} (hinput : input.diagnostics tree = .ok diagnostics)
    (hother : input.diagnostics other = .ok diagnostics) {file : Wide}
    (hfile : ∀ d ∈ diagnostics, d.file = file)
    (hsame : other.readText file = tree.readText file) : input.Agrees tree other := by
  refine ⟨hother.trans hinput.symm, fun found hfound d hd => ?_⟩
  obtain rfl := Except.ok.inj (hfound.symm.trans hinput)
  rw [hfile d hd, hsame]

theorem Diagnostic.verdict_congr {tree other : FileTree} {d : Diagnostic}
    (h : other.readText d.file = tree.readText d.file) : d.verdict other = d.verdict tree := by
  rw [verdict, verdict, h]

/-- A run with the cache of earlier runs prints what a run without a cache prints over the same
files, and ends in the same way. -/
theorem CacheHistory.filter_eq {contents : Set String} {path : String} {tree : FileTree}
    (h : CacheHistory contents path tree) (hcontents : Text.ToldApart contents)
    (hready : tree.IsReady contents path) {input : FilterInput} {plain : FileTree}
    (hplain : input.Agrees tree plain)
    (hexact : ∀ diagnostics, input.diagnostics tree = .ok diagnostics →
      ∀ d ∈ diagnostics, d.IsExact) (verbose : Bool) :
    (Run.filter tree input verbose (some path)).course.results =
        (Run.filter plain input verbose none).course.results ∧
      (Run.filter tree input verbose (some path)).exit =
        (Run.filter plain input verbose none).exit := by
  cases hinput : input.diagnostics tree with
  | error e =>
      rw [Run.filter_of_diagnostics_error hinput,
        Run.filter_of_diagnostics_error (hplain.diagnostics.trans hinput)]
      exact ⟨rfl, rfl⟩
  | ok diagnostics =>
      have htexts := hplain.texts diagnostics hinput
      have hexact := hexact diagnostics hinput
      have hheld : ∀ d ∈ diagnostics, ∀ text, tree.readText d.file = .ok text →
          text.length < 2 ^ 53 :=
        fun d _ text htext => hcontents.length_lt text (hready.texts d.file text htext)
      have hverdicts : diagnostics.map (Diagnostic.verdict plain) =
          diagnostics.map (Diagnostic.verdict tree) :=
        List.map_congr_left fun d hd => Diagnostic.verdict_congr (htexts d hd)
      obtain ⟨hexit, hresults⟩ := @Run.filter_plain plain input verbose diagnostics
        (hplain.diagnostics.trans hinput) (fun d hd => htexts d hd ▸ hheld d hd) hexact
      rw [hexit, hresults, hverdicts]
      exact ((Run.filter_cached hcontents (h.holdsCache hcontents) hready hinput).2 hexact).symm

namespace CacheHistory

theorem edited {contents : Set String} {before after stored : String} (hbefore : before ∈ contents)
    (hafter : after ∈ contents) (hstored : stored ∈ contents) {input : FilterInput} {verbose : Bool}
    {kept : FileTree}
    (hkept : (Run.filter (.single "a.py" before) input verbose (some "c")).course.tree = kept)
    (hfirst : kept = FileTree.putNode (.single "a.py" before) ["c"]
      (.file (Text.encodeUtf8 stored))) :
    let tree := kept.putNode ["a.py"] (.file (Text.encodeUtf8 after))
    CacheHistory contents "c" tree ∧ tree.IsReady contents "c" ∧
      tree.readText "c" = .ok stored ∧ tree.readText "a.py" = .ok after := by
  intro tree
  have htexts := FileTree.holdsTexts_single hbefore "a.py"
  have hmissing := FileTree.readText_single_other before
  have hrun : CacheHistory contents "c" kept :=
    hkept ▸ .run input verbose (.start hmissing rfl) (htexts.isReady rfl none rfl)
  subst hfirst
  have hcache : tree.readText "c" = .ok stored := FileTree.readText_stored rfl rfl
  refine ⟨.edit hrun (hcache.trans ?_), ?_, hcache, FileTree.readText_script rfl rfl⟩
  · exact (FileTree.readText_stored rfl rfl).symm
  · exact ((htexts.putNode hstored ["c"]).putNode hafter ["a.py"]).isReady rfl (some _) rfl

/-- A first run with a cache finds no directive. After the file has got one, what the cache has of
it is not used any more, and of two findings one is printed. -/
theorem filter_eq_editedFile :
    let before := "x = 1\n"
    let after := "# ignore mypy\n"
    let finding (analyzer : String) := "\x7b\"file\":\"a.py\",\"analyzer\":\"" ++ analyzer ++
      "\",\"message\":\"m\",\"line\":1\x7d"
    let input : FilterInput :=
      { text := some ("[" ++ finding "mypy" ++ "," ++ finding "pylint" ++ "]") }
    let snapshot : Snapshot := { watermark := .ofNat 1, intervals := [] }
    let stored := Cache.encode [("a.py", { fingerprint := Text.fingerprint before, snapshot })]
    let contents : Set String := {text | text ∈ [before, after, stored]}
    let first := Run.filter (.single "a.py" before) input false (some "c")
    let tree := first.course.tree.putNode ["a.py"] (.file (Text.encodeUtf8 after))
    let plain := FileTree.single "a.py" after
    CacheHistory contents "c" tree ∧ Text.ToldApart contents ∧ tree.IsReady contents "c" ∧
      tree.readText "c" = .ok stored ∧ input.Agrees tree plain ∧
      (∀ diagnostics, input.diagnostics tree = .ok diagnostics → ∀ d ∈ diagnostics, d.IsExact) ∧
      (Run.filter tree input false (some "c")).course.results =
        (Run.filter plain input false none).course.results ∧
      (Run.filter tree input false (some "c")).exit = (Run.filter plain input false none).exit ∧
      (Run.filter plain input false none).course.results =
        ["[lazy-ignore] a.py:1:0 -> pylint: m"] := by
  intro before after finding input snapshot stored contents first tree plain
  have hbefore : before ∈ contents := List.mem_cons_self
  have hafter : after ∈ contents := List.mem_cons_of_mem _ List.mem_cons_self
  have hstored : stored ∈ contents :=
    List.mem_cons_of_mem _ (List.mem_cons_of_mem _ List.mem_cons_self)
  have hcontents : Text.ToldApart contents :=
    Text.toldApart_of_nodup (by decide +kernel) (by decide +kernel)
  let record : Record :=
    { fingerprint := Text.fingerprint before, lineCount := 1, watermark := .ofNat 1,
      intervals := [], changed := true }
  obtain ⟨diagnostics, hplain, hplaces, hanswers, hrecords, hresults⟩ :
      ∃ diagnostics, input.diagnostics plain = .ok diagnostics ∧
        (∀ d ∈ diagnostics, d.file = "a.py" ∧ d.IsExact) ∧
        ((Run.reading before (some [])).decideAll (.single "a.py" before) diagnostics).1 =
          [.ok false, .ok false] ∧
        ((Run.reading before (some [])).decideAll (.single "a.py" before)
          diagnostics).2.tracker.records = ([("a.py", record)] : Entries Record) ∧
        Run.resultsOf (Run.kept diagnostics
          ((Run.reading after none).decideAll plain diagnostics).1) =
            ["[lazy-ignore] a.py:1:0 -> pylint: m"] := by decide +kernel
  have hinput (tree : FileTree) : input.diagnostics tree = .ok diagnostics :=
    (FilterInput.diagnostics_text _ tree plain).trans hplain
  clear_value input
  have hfirst := Run.filter_single_stores hcontents hbefore (hinput _)
    (congrArg (Run.kept diagnostics) hanswers) hrecords rfl
  obtain ⟨hhistory, hagain, hstill, hedited⟩ := edited hbefore hafter hstored rfl hfirst
  have hafterwards := FileTree.readText_single_script after
  have hagrees : input.Agrees tree plain :=
    FilterInput.agrees_of_file (hinput tree) hplain (fun d hd => (hplaces d hd).1)
      (hafterwards.trans hedited.symm)
  have hexact : ∀ found, input.diagnostics tree = .ok found → ∀ d ∈ found, d.IsExact := by
    intro found hfound d hd
    obtain rfl := Except.ok.inj (hfound.symm.trans (hinput tree))
    exact (hplaces d hd).2
  obtain ⟨hsame, hexit⟩ := hhistory.filter_eq hcontents hagain hagrees hexact false
  refine ⟨hhistory, hcontents, hagain, hstill, hagrees, hexact, hsame, hexit, ?_⟩
  rw [Run.filter_single (hcontents.length_lt after hafter) hplain fun d hd => (hplaces d hd).2]
  exact hresults

end CacheHistory

end Suppression

import Suppression.Proofs.LineSweep
import Suppression.Proofs.Resolving
import Suppression.Run.Scan

/-!
The lines that a scan sees and those that questions see. A scan cuts a text at every terminator, and
readers leave out an empty rest after the last one (`Text.Cuts`); no directive stands there, so the
scan collects the directives of the lines that can be read (`Matcher.Collects`). A search upwards
through all of these lines takes the same directives in (`FileTree.directives_spec`).
-/

namespace Suppression

namespace Text

/-- The pieces put together are the text, and each one goes as far as the next terminator: after the
last terminator there is a piece only if text is left. -/
structure Cuts (text : List Char) (pieces : List Piece) : Prop where
  join : join pieces = text
  newline : ∀ piece ∈ pieces, '\n' ∉ piece.line
  carriage : ∀ piece ∈ pieces, piece.ending = .lf → piece.line.getLast? ≠ some '\r'
  ended : ∀ piece ∈ pieces.dropLast, piece.ending ≠ .none
  rest : ∀ piece ∈ pieces, piece.ending = .none → piece.line ≠ []

theorem join_append (pieces others : List Piece) :
    join (pieces ++ others) = join pieces ++ join others :=
  List.flatMap_append

theorem exists_pieces_eq (text : List Char) :
    ∃ ended last, pieces text = ended ++ [⟨last, .none⟩] ∧
      ∀ piece ∈ ended, piece.ending ≠ .none := by
  induction text with
  | nil => exact ⟨[], [], rfl, by simp⟩
  | cons c rest ih =>
      obtain ⟨ended, last, heq, hended⟩ := ih
      change ∃ ended last, Piece.cons c (pieces rest) = _ ∧ _
      rw [heq]
      unfold Piece.cons
      split_ifs with hnewline
      · refine ⟨⟨[], .lf⟩ :: ended, last, rfl, ?_⟩
        exact List.forall_mem_cons.mpr ⟨by decide, hended⟩
      · cases ended with
        | nil => exact ⟨[], c :: last, by simp, by simp⟩
        | cons first ended =>
            obtain ⟨hfirst, hlater⟩ := List.forall_mem_cons.mp hended
            rw [List.cons_append]
            by_cases hreturn : c = '\r' ∧ first.line = [] ∧ first.ending = .lf
            · refine ⟨⟨[], .crlf⟩ :: ended, last, by simp [hreturn], ?_⟩
              exact List.forall_mem_cons.mpr ⟨by decide, hlater⟩
            · refine ⟨⟨c :: first.line, first.ending⟩ :: ended, last, by simp [hreturn], ?_⟩
              exact List.forall_mem_cons.mpr ⟨hfirst, hlater⟩

theorem carriage_of_mem_cons {c : Char} {pieces : List Piece}
    (h : ∀ piece ∈ pieces, piece.ending = .lf → piece.line.getLast? ≠ some '\r') :
    ∀ piece ∈ Piece.cons c pieces, piece.ending = .lf → piece.line.getLast? ≠ some '\r' := by
  unfold Piece.cons
  split_ifs with hnewline
  · exact List.forall_mem_cons.mpr ⟨by simp, h⟩
  · cases pieces with
    | nil => simp
    | cons first rest =>
        obtain ⟨hfirst, hrest⟩ := List.forall_mem_cons.mp h
        by_cases hreturn : c = '\r' ∧ first.line = [] ∧ first.ending = .lf
        · simpa [hreturn] using hrest
        · simp only [hreturn, if_false]
          intro piece hmem hlf
          rcases List.mem_cons.mp hmem with rfl | hlater
          · cases hline : first.line with
            | nil =>
                intro hlast
                exact hreturn ⟨by simpa [hline] using hlast, hline, hlf⟩
            | cons d line =>
                have hlast := hfirst hlf
                rw [hline] at hlast
                simpa [hline] using hlast
          · exact hrest piece hlater hlf

theorem carriage_of_mem_pieces (text : List Char) :
    ∀ piece ∈ pieces text, piece.ending = .lf → piece.line.getLast? ≠ some '\r' := by
  induction text with
  | nil => simp [pieces]
  | cons c rest ih => exact carriage_of_mem_cons ih

theorem exists_filePieces_eq (text : List Char) :
    ∃ ended last, (∀ piece ∈ ended, piece.ending ≠ .none) ∧
      pieces text = ended ++ [⟨last, .none⟩] ∧
      filePieces text = ended ++ if last = [] then [] else [⟨last, .none⟩] := by
  obtain ⟨ended, last, heq, hended⟩ := exists_pieces_eq text
  refine ⟨ended, last, hended, heq, ?_⟩
  have hkept : (ended.filter fun piece => !(piece.line.isEmpty && piece.ending = .none)) = ended :=
    List.filter_eq_self.mpr fun piece hmem => by simp [hended piece hmem]
  rw [filePieces, heq, List.filter_append, hkept]
  by_cases hlast : last = []
  · simp [hlast]
  · simp [hlast]

theorem cuts_filePieces (text : List Char) : Cuts text (filePieces text) := by
  obtain ⟨ended, last, hended, hpieces, hfile⟩ := exists_filePieces_eq text
  have hmem : ∀ piece ∈ filePieces text, piece ∈ pieces text := fun _ => List.mem_of_mem_filter
  refine ⟨?_, ?_, ?_, ?_, ?_⟩
  · calc
      join (filePieces text) = join ended ++ last := by
        rw [hfile, join_append]
        split_ifs with hlast
        · simp [join, hlast]
        · simp [join, Piece.chars, Ending.chars]
      _ = join (pieces text) := by
        rw [hpieces, join_append]
        simp [join, Piece.chars, Ending.chars]
      _ = text := join_pieces text
  · exact fun piece h => newline_not_mem_line text piece (hmem piece h)
  · exact fun piece h => carriage_of_mem_pieces text piece (hmem piece h)
  · intro piece h
    apply hended
    rw [hfile] at h
    split_ifs at h
    · exact List.mem_of_mem_dropLast (by simpa using h)
    · rwa [List.dropLast_concat] at h
  · intro piece h hnone
    have hkept := List.of_mem_filter h
    intro hempty
    simp [hnone, hempty] at hkept

theorem splitLines_eq (text : List Char) :
    splitLines text = fileLines text ∨ splitLines text = fileLines text ++ [[]] := by
  obtain ⟨ended, last, -, hpieces, hfile⟩ := exists_filePieces_eq text
  rw [splitLines, fileLines, hpieces, hfile]
  by_cases hlast : last = []
  · right
    simp [hlast]
  · left
    simp [hlast]

end Text

namespace Matcher

variable {matcher : Matcher} {lines : List (List Char)} {directives : List LineDirective}
  {number : Nat}

/-- The directives of all lines, each with the number of its line, from the first line on. -/
structure Collects (matcher : Matcher) (lines : List (List Char))
    (directives : List LineDirective) : Prop where
  ordered : directives.Pairwise fun directive later => directive.line < later.line
  mem_iff : ∀ found, found ∈ directives ↔
    ∃ number directive, 1 ≤ number ∧ matcher.Finds lines number directive ∧
      found = directive.onLine number

theorem pairwise_inLinesFrom (h : matcher.inLinesFrom number lines = .ok directives) :
    directives.Pairwise fun directive later => directive.line < later.line := by
  induction lines generalizing number directives with
  | nil =>
      obtain rfl : directives = [] := by simpa [inLinesFrom, eq_comm] using h
      exact .nil
  | cons line rest ih =>
      obtain ⟨directive?, others, -, hothers, rfl⟩ := inLinesFrom_cons.mp h
      cases directive? with
      | none => exact ih hothers
      | some directive =>
          apply List.Pairwise.cons _ (ih hothers)
          intro later hmem
          obtain ⟨below, hbelow, -, hline⟩ := exists_number_of_mem hothers hmem
          rw [hline]
          exact Number.ofNat_lt_ofNat.mpr hbelow

theorem mem_inLinesFrom_iff (h : matcher.inLinesFrom number lines = .ok directives)
    {found : LineDirective} :
    found ∈ directives ↔ ∃ index directive, matcher.Finds lines (index + 1) directive ∧
      found = directive.onLine (number + index) := by
  induction lines generalizing number directives with
  | nil =>
      obtain rfl : directives = [] := by simpa [inLinesFrom, eq_comm] using h
      simp [Finds]
  | cons line rest ih =>
      obtain ⟨directive?, others, hfirst, hothers, rfl⟩ := inLinesFrom_cons.mp h
      rw [List.mem_append, ih hothers]
      constructor
      · rintro (hown | ⟨index, directive, ⟨text, htext, hmatch⟩, rfl⟩)
        · obtain ⟨directive, rfl, rfl⟩ := Option.map_eq_some_iff.mp (Option.mem_toList.mp hown)
          exact ⟨0, directive, ⟨line, rfl, hfirst⟩, rfl⟩
        · exact ⟨index + 1, directive, ⟨text, htext, hmatch⟩, by rw [Nat.add_right_comm]; rfl⟩
      · rintro ⟨index, directive, ⟨text, htext, hmatch⟩, rfl⟩
        cases index with
        | zero =>
            obtain rfl : line = text := Option.some.inj htext
            obtain rfl : directive? = some directive := Except.ok.inj (hfirst.symm.trans hmatch)
            exact Or.inl (by simp)
        | succ index =>
            refine Or.inr ⟨index, directive, ⟨text, htext, hmatch⟩, ?_⟩
            rw [Nat.add_right_comm]
            rfl

theorem collects_of_inLinesFrom (h : matcher.inLinesFrom 1 lines = .ok directives) :
    matcher.Collects lines directives := by
  refine ⟨pairwise_inLinesFrom h, fun found => ?_⟩
  rw [mem_inLinesFrom_iff h]
  constructor
  · rintro ⟨index, directive, hfinds, rfl⟩
    exact ⟨index + 1, directive, Nat.le_add_left 1 index, hfinds, by rw [Nat.add_comm]⟩
  · rintro ⟨number, directive, hnumber, hfinds, rfl⟩
    obtain ⟨index, rfl⟩ := Nat.exists_eq_add_of_le' hnumber
    exact ⟨index, directive, hfinds, by rw [Nat.add_comm]⟩

theorem inText_of_inLinesFrom {grammar : Grammar} {text : String}
    (h : (ofGrammar grammar).inLinesFrom 1 (Text.fileLines text.toList) = .ok directives) :
    (ofGrammar grammar).inText text = .ok directives := by
  have hempty : ofGrammar grammar (String.ofList []) = .ok none := rfl
  rw [inText]
  rcases Text.splitLines_eq text.toList with heq | heq
  · rw [heq, h]
  · rw [heq, inLinesFrom_append]
    refine ⟨directives, [], h, ?_, (List.append_nil directives).symm⟩
    exact inLinesFrom_singleton.mpr ⟨none, hempty, rfl⟩

end Matcher

theorem Source.line?_eq_some_iff {text line : String} {number : Number} :
    (Source.ofText text).line? number = some line ↔
      ∃ n, 1 ≤ n ∧ number = .ofNat n ∧
        (Text.fileLines text.toList)[n - 1]? = some line.toList := by
  constructor
  · intro h
    unfold line? at h
    split at h
    · exact nomatch h
    · next hnumber =>
        have hline : Position.isLine number = true := by
          simpa [Position.isLine, not_or] using hnumber
        obtain ⟨n, hn, rfl⟩ := Position.exists_ofNat_of_isLine hline
        simp only [ofText, Number.toNat_ofNat, List.getElem?_toArray, List.getElem?_map,
          Option.map_eq_some_iff] at h
        obtain ⟨found, hfound, rfl⟩ := h
        exact ⟨n, hn, rfl, by rw [hfound, String.toList_ofList]⟩
  · rintro ⟨n, hn, rfl, hline⟩
    obtain ⟨above, rfl⟩ := Nat.exists_eq_add_of_le' hn
    rw [Nat.add_sub_cancel] at hline
    rw [line?_ofText text hline, String.ofList_toList]

/-- A reader counts the lines of a file, and it reads them and no others. -/
structure Reader.Gives (reader : Reader) (tree : FileTree) (file : Wide)
    (lines : List (List Char)) : Prop where
  lineCount : (reader.lineCount tree file).1 = .ok lines.length
  readLine : ∀ number text, (reader.readLine tree file number).1 = .ok text ↔
    ∃ n, 1 ≤ n ∧ number = .ofNat n ∧ lines[n - 1]? = some text.toList

theorem Reader.Reflects.gives {reader : Reader} {tree : FileTree} (h : reader.Reflects tree)
    {file : Wide} {text : String} (htext : tree.readText file = .ok text) :
    reader.Gives tree file (Text.fileLines text.toList) := by
  have hsource : (reader.source tree file).1 = .ok (Source.ofText text) :=
    (h.source file).1.trans (FileTree.source_of_readText htext)
  constructor
  · simp only [Reader.lineCount, hsource, Except.map, Source.size_ofText]
  · intro number line
    rw [← Source.line?_eq_some_iff]
    simp only [Reader.readLine, hsource, Except.bind]
    cases (Source.ofText text).line? number with
    | none => simp
    | some found => simp

namespace Tracker

variable {tree : FileTree} {tracker : Tracker} {file : Wide} {text : String}

theorem isIgnored_wholeFile (h : tracker.reader.Reflects tree)
    (htext : tree.readText file = .ok text) {record : Record} {line : Nat}
    (hresolved : tracker.resolved tree file = .ok record)
    (hcount : record.lineCount = (Text.fileLines text.toList).length)
    (hwatermark : record.watermark = .ofNat line) (origin : Origin) :
    ∃ result known,
      Answered tracker.settings.matcher (Text.fileLines text.toList) record line
        (.wholeFile file) origin result known ∧
      (tracker.isIgnored tree (.wholeFile file) origin).1 = result ∧
      (tracker.isIgnored tree (.wholeFile file) origin).2.records.get? file = some known := by
  obtain ⟨resolved, hrun, hrests⟩ := run_resolve tracker tree tracker.settings file
  have hreflects : resolved.reader.Reflects tree := by
    apply hrests.reflects
    simpa only [resolve, hresolved] using h
  have hknown : resolved.records.get? file = some record := by
    rw [hrests.records]
    simp only [resolve, hresolved]
    rw [Entries.get?_put, if_pos rfl]
  rw [hresolved] at hrun
  obtain ⟨result, known, answered, hanswered, hidle, hask⟩ := ask_answerFile hreflects
    (show tree.readText (Range.wholeFile file).file = .ok text from htext) hknown hcount
    hwatermark rfl tracker.settings origin
  obtain ⟨after, hidle', hfinish⟩ := ask_finish hask file
  have hanswer : tracker.isIgnored tree (.wholeFile file) origin = (result, after) := by
    rw [isIgnored_eq_ask]
    unfold TrackerSettings.answer
    exact (ask_bind_ok hrun _).trans hfinish
  refine ⟨result, known, hanswered, ?_, ?_⟩
  · rw [hanswer]
  · rw [hanswer, hidle'.records, hidle.records]
    exact (Entries.get?_put _ _ _ _).trans (if_pos rfl)

theorem isIgnored_cold (h : tracker.reader.Reflects tree) (htext : tree.readText file = .ok text)
    {fingerprint : String} (hcold : tracker.resolved tree file =
      .ok (.cold fingerprint (Text.fileLines text.toList).length))
    {directives : List LineDirective}
    (hdirectives : tracker.settings.matcher.inLinesFrom 1 (Text.fileLines text.toList) =
      .ok directives) (origin : Origin) :
    (tracker.isIgnored tree (.wholeFile file) origin).1 =
        .ok ((Intervals.applyAll [] directives).mention origin) ∧
      (tracker.isIgnored tree (.wholeFile file) origin).2.snapshotOf? file = some
        { watermark := .ofNat (Text.fileLines text.toList).length
          intervals := Intervals.applyAll [] directives } := by
  obtain ⟨result, known, hanswered, hresult, hknown⟩ :=
    isIgnored_wholeFile h htext hcold rfl rfl origin
  rw [hresult, snapshotOf?, hknown]
  cases hanswered with
  | failed hsearched =>
      cases hsearched with
      | broken _ _ hline herror =>
          obtain ⟨directive?, hmatch⟩ :=
            Matcher.exists_directive_of_mem hdirectives (List.mem_of_getElem? hline)
          exact nomatch herror.symm.trans hmatch
  | mentioned _ hmentioned =>
      -- No interval is known, so that the question can only end here if the file has no lines.
      have hcomplete : (Text.fileLines text.toList).length = 0 := by
        rcases hmentioned with hmentioned | hcomplete
        · exact nomatch hmentioned
        · have hle : Number.ofNat (Text.fileLines text.toList).length ≤ Number.ofNat 0 :=
            of_decide_eq_true hcomplete
          exact Nat.le_zero.mp (Number.ofNat_le_ofNat.mp hle)
      rw [List.length_eq_zero_iff] at hcomplete
      rw [hcomplete] at hdirectives ⊢
      obtain rfl := Except.ok.inj hdirectives
      exact ⟨rfl, rfl⟩
  | scanned _ hsearched =>
      cases hsearched with
      | @complete found hfound =>
          have hall : tracker.settings.matcher.inLinesFrom 1 (Text.fileLines text.toList) =
              .ok found := by
            simpa [Record.cold] using hfound
          obtain rfl : directives = found := Except.ok.inj (hdirectives.symm.trans hall)
          rw [List.append_nil]
          exact ⟨rfl, rfl⟩
  | covered hspan _ => exact nomatch hspan
  | faulty hspan _ => exact nomatch hspan
  | looked hspan _ _ => exact nomatch hspan
  | inline hspan _ => exact nomatch hspan
  | committed hspan _ _ => exact nomatch hspan

end Tracker

/-- A scan and the questions see the same lines. Put together with their terminators, the lines that
a reader gives are the text of the file, and a scan collects the directives on them. These are what
a tracker that knows nothing of the file takes in when it is asked about the whole of it. -/
theorem FileTree.directives_spec {tree : FileTree} {file text : String}
    (htext : tree.readText file = .ok text) {grammar : Grammar}
    (hgrammar : ∀ text, ∃ targets?, grammar text = .ok targets?) :
    ∃ pieces directives,
      Text.Cuts text.toList pieces ∧
      (∀ reader : Reader, reader.Reflects tree →
        reader.Gives tree file (pieces.map Text.Piece.line)) ∧
      tree.directives (.ofGrammar grammar) file = .ok directives ∧
      (Matcher.ofGrammar grammar).Collects (pieces.map Text.Piece.line) directives ∧
      ∀ (tracker : Tracker) fingerprint origin, tracker.reader.Reflects tree →
        tracker.settings.matcher = .ofGrammar grammar →
        tracker.resolved tree file = .ok (.cold fingerprint pieces.length) →
          (tracker.isIgnored tree (.wholeFile file) origin).1 =
              .ok ((Intervals.applyAll [] directives).mention origin) ∧
            (tracker.isIgnored tree (.wholeFile file) origin).2.snapshotOf? file = some
              { watermark := .ofNat pieces.length
                intervals := Intervals.applyAll [] directives } := by
  obtain ⟨directives, hdirectives⟩ := Matcher.exists_inLinesFrom
    (Matcher.exists_ofGrammar hgrammar) 1 (Text.fileLines text.toList)
  have hcount : (Text.fileLines text.toList).length = (Text.filePieces text.toList).length :=
    List.length_map _
  refine ⟨Text.filePieces text.toList, directives, Text.cuts_filePieces _, ?_, ?_, ?_, ?_⟩
  · intro reader hreflects
    exact hreflects.gives htext
  · rw [FileTree.directives, htext]
    simp only [Matcher.inText_of_inLinesFrom hdirectives, Except.mapError]
  · exact Matcher.collects_of_inLinesFrom hdirectives
  · intro tracker fingerprint origin hreflects hmatcher hcold
    rw [← hmatcher] at hdirectives
    rw [← hcount] at hcold ⊢
    exact Tracker.isIgnored_cold hreflects htext hcold hdirectives origin

theorem FileTree.directives_spec_mixedEndings :
    let text := "# start ignoring mypy\r\nx = 1 \r \r\n# stop ignoring\n"
    let tree := FileTree.single "a.py" text
    let directives := [Directive.onLine ⟨.start, [{ analyzer := "mypy" }]⟩ 1,
      Directive.onLine ⟨.stop, []⟩ 3]
    tree.directives (.ofGrammar .flat) "a.py" = .ok directives ∧
      (∃ pieces, Text.Cuts text.toList pieces ∧
        Reader.Gives {} tree "a.py" (pieces.map Text.Piece.line)) ∧
      (Tracker.isIgnored {} tree (.wholeFile "a.py") { analyzer := "ruff" }).1 = .ok false ∧
      (Tracker.isIgnored {} tree (.wholeFile "a.py") { analyzer := "ruff" }).2.snapshotOf? "a.py" =
        some { watermark := .ofNat 3, intervals := Intervals.applyAll [] directives } := by
  intro text tree directives
  have htext : tree.readText "a.py" = .ok text := FileTree.readText_single_script text
  have hreflects : ({} : Reader).Reflects tree := Reader.reflects_empty tree
  obtain ⟨pieces, scanned, hcuts, hgives, hscan, -, hcold⟩ :=
    directives_spec htext (fun text => ⟨Grammar.flat? text.toList, rfl⟩ :
      ∀ text, ∃ targets?, Grammar.flat text = .ok targets?)
  have hdirectives : tree.directives (.ofGrammar .flat) "a.py" = .ok directives := by
    have hfound : (Matcher.ofGrammar .flat).inText text = .ok directives := by decide +kernel
    rw [FileTree.directives, htext]
    simp only [hfound, Except.mapError]
  obtain rfl : scanned = directives := Except.ok.inj (hscan.symm.trans hdirectives)
  have hcount : (Text.fileLines text.toList).length = 3 := by decide +kernel
  have hpieces : pieces.length = 3 := by
    have hlines := (hreflects.gives htext).lineCount.symm.trans (hgives {} hreflects).lineCount
    rw [← hcount, Except.ok.inj hlines, List.length_map]
  have hresolved : Tracker.resolved {} tree "a.py" =
      .ok (.cold (Text.fingerprint text) pieces.length) := by
    rw [hpieces, ← hcount]
    exact Tracker.resolved_fresh htext {}
  obtain ⟨hanswer, hsnapshot⟩ := hcold {} _ { analyzer := "ruff" } hreflects rfl hresolved
  refine ⟨hscan, ⟨pieces, hcuts, hgives {} hreflects⟩, ?_, ?_⟩
  · rw [hanswer]
    decide +kernel
  · rw [hsnapshot, hpieces]

end Suppression

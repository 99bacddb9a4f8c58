import Suppression.Proofs.SettledQuestions

namespace Suppression

namespace Request

/-- The request is one with which a question begins, before it is known what there is to know. -/
def IsOpening : Request → Prop
  | readLine _ _ => False
  | release _ => False
  | _ => True

def LooksInto (file : Wide) : Request → Prop
  | fingerprint asked => asked = file
  | lineCount asked => asked = file
  | readLine asked _ => asked = file
  | _ => False

theorem LooksInto.isAbout {file : Wide} {r : Request} (h : r.LooksInto file) :
    r.IsAbout file := by
  cases r with
  | fingerprint asked => exact congrArg some h
  | lineCount asked => exact congrArg some h
  | readLine asked line => exact congrArg some h
  | _ => exact absurd h id

end Request

namespace TrackerSettings

open Asking

variable {settings : TrackerSettings} {file : Wide} {fingerprint : String} {made : List Request}

theorem seed_makes {lineCount : Nat} {result : Except QueryError (Option Snapshot)}
    (h : (settings.seed file fingerprint lineCount).Makes made result) :
    made = [.load file fingerprint] := by
  unfold seed at h
  obtain ⟨answer, rest, rfl, hrest⟩ := h.of_request (by simp [Request.file?])
  obtain rfl : rest = [] := by
    cases answer with
    | error e => exact (of_note hrest).of_pure.1
    | ok snapshot? =>
        cases snapshot? with
        | none => exact hrest.of_pure.1
        | some snapshot =>
            dsimp only at hrest
            split at hrest
            · exact (of_note hrest).of_pure.1
            · exact (of_note hrest).of_pure.1
  rfl

theorem resolve_makes {result : Except QueryError Record}
    (h : (settings.resolve file).Makes made result) : ∀ r ∈ made, r.IsOpening := by
  unfold resolve at h
  obtain ⟨known, made, rfl, hknown⟩ := h.of_request (by simp [Request.file?])
  refine List.forall_mem_cons.mpr ⟨trivial, ?_⟩
  cases known with
  | some record => simp [hknown.of_pure.1]
  | none =>
      rcases hknown.of_access (by simp [Request.file?]) with
        ⟨error, rfl, -⟩ | ⟨fingerprint, made, rfl, hopened⟩
      · simp [Request.IsOpening]
      · refine List.forall_mem_cons.mpr ⟨trivial, ?_⟩
        rcases hopened.of_access (by simp [Request.file?]) with
          ⟨error, rfl, -⟩ | ⟨lineCount, made, rfl, hcounted⟩
        · simp [Request.IsOpening]
        · refine List.forall_mem_cons.mpr ⟨trivial, ?_⟩
          rcases hcounted.of_bind with ⟨error, hseed, -⟩ | ⟨_, seed?, made, hseed, hseeded, rfl⟩
          · simp [seed_makes hseed, Request.IsOpening]
          · rw [seed_makes hseed]
            refine List.forall_mem_cons.mpr ⟨trivial, ?_⟩
            obtain ⟨-, made, rfl, hdone⟩ := hseeded.of_request (by simp [Request.file?])
            simp [hdone.of_pure.1, Request.IsOpening]

end TrackerSettings

namespace Asking

variable {α β σ : Type} {handle : (r : Request) → σ → r.Answer × σ} {state after : σ}

theorem requests_bind_ok {asking : Asking α} {result : α}
    (h : Query.run handle asking.run state = (.ok result, after)) (next : α → Asking β) :
    Query.requests handle (asking >>= next).run state =
      Query.requests handle asking.run state ++ Query.requests handle (next result).run after := by
  change Query.requests handle (Query.bind asking.run (ExceptT.bindCont next)) state = _
  rw [Query.requests_bind, h]
  rfl

theorem requests_bind_error {asking : Asking α} {error : QueryError}
    (h : Query.run handle asking.run state = (.error error, after)) (next : α → Asking β) :
    Query.requests handle (asking >>= next).run state = Query.requests handle asking.run state := by
  change Query.requests handle (Query.bind asking.run (ExceptT.bindCont next)) state = _
  rw [Query.requests_bind, h]
  exact List.append_nil _

theorem requests_resolve_known {settings : TrackerSettings} {file : Wide} {record : Record}
    (h : handle (.known file) state = (some record, after)) :
    Query.requests handle (settings.resolve file).run state = [.known file] := by
  unfold TrackerSettings.resolve
  rw [requests_bind_ok (run_known h)]
  rfl

end Asking

theorem Record.Consulted.remembered {record known : Record} {line : Nat} {range : Range}
    {origin : Origin} {made : List Request} {result : Except QueryError Bool}
    (h : record.Consulted line range origin made result known) {records : Entries Record}
    (hrecord : records.get? range.file = some record) :
    ((made ++ TrackerSettings.closing range.file result known).foldl Request.remembered
      records).get? range.file = some known := by
  have hreads (lines : List Nat) (records : Entries Record) :
      (lines.map (Request.readLine range.file)).foldl Request.remembered records = records := by
    induction lines with
    | nil => rfl
    | cons line rest ih => exact ih
  have hclosing (records : Entries Record) :
      (TrackerSettings.closing range.file result known).foldl Request.remembered records =
        records := by
    unfold TrackerSettings.closing
    split
    · split <;> rfl
    · rfl
  rw [List.foldl_append, hclosing]
  cases h with
  | settled _ => exact hrecord
  | faulty _ => exact hrecord
  | ownLine _ _ _ _ _ =>
      rw [List.foldl_append, hreads]
      simp [Request.remembered, Entries.get?_put]
  | allBeyond _ _ _ =>
      rw [List.foldl_append, hreads]
      simp [Request.remembered, Entries.get?_put]
  | broken _ _ _ => rwa [hreads]

theorem Record.Consulted.of_settles {record known : Record} {line : Nat} {range : Range}
    {origin : Origin} {made : List Request} {result : Except QueryError Bool}
    (h : record.Consulted line range origin made result known)
    (hsettles : record.Settles range origin) : made = [] ∧ known = record := by
  cases h with
  | settled _ => exact ⟨rfl, rfl⟩
  | faulty _ => exact ⟨rfl, rfl⟩
  | ownLine hnot _ _ _ _ => exact absurd hsettles hnot
  | allBeyond hnot _ _ => exact absurd hsettles hnot
  | broken hnot _ _ => exact absurd hsettles hnot

theorem Record.Consulted.ne_release {record known : Record} {line : Nat} {range : Range}
    {origin : Origin} {made : List Request} {result : Except QueryError Bool}
    (h : record.Consulted line range origin made result known) {r : Request} (hmem : r ∈ made)
    (file : Wide) : r ≠ .release file := by
  rintro rfl
  cases h <;> simp at hmem

theorem Record.Consulted.lt_of_readLine {record known : Record} {line : Nat} {range : Range}
    {origin : Origin} {made : List Request} {result : Except QueryError Bool}
    (h : record.Consulted line range origin made result known) {file : Wide} {number : Nat}
    (hmem : .readLine file number ∈ made) : line < number ∧ number ≤ record.lastLine range := by
  have hlines {stop : Nat} (hle : line ≤ stop)
      (hmem : .readLine file number ∈
        (descending (record.lastLine range) stop).map (Request.readLine range.file)) :
      line < number ∧ number ≤ record.lastLine range := by
    obtain ⟨_, hnumber, ⟨⟩⟩ := List.mem_map.mp hmem
    obtain ⟨hlt, hlast⟩ := mem_descending.mp hnumber
    exact ⟨hle.trans_lt hlt, hlast⟩
  cases h with
  | settled _ => simp at hmem
  | faulty _ => simp at hmem
  | ownLine _ _ _ hle _ => exact hlines hle (by simpa using hmem)
  | allBeyond _ _ _ => exact hlines le_rfl (by simpa using hmem)
  | broken _ hle _ => exact hlines hle hmem

theorem Request.flatMap_reads_of_isOpening {made : List Request} (h : ∀ r ∈ made, r.IsOpening) :
    made.flatMap Request.reads = [] := by
  refine List.flatMap_eq_nil_iff.mpr fun r hmem => ?_
  cases r with
  | readLine file line => exact absurd (h _ hmem) id
  | _ => rfl

theorem TrackerSettings.of_mem_closing {file : Wide} {result : Except QueryError Bool}
    {known : Record} {r : Request} (h : r ∈ closing file result known) :
    r = .release file ∧ known.isComplete = true := by
  unfold closing at h
  split at h
  · split at h
    · next hcomplete => exact ⟨List.mem_singleton.mp h, hcomplete⟩
    · simp at h
  · simp at h

namespace Tracker

variable {matcher : Matcher} {tree : FileTree} {tracker : Tracker} {file : Wide} {range : Range}
  {origin : Origin}

/-- What a question asks a tracker for, request by request. -/
def requests (tracker : Tracker) (tree : FileTree) (range : Range) (origin : Origin) :
    List Request :=
  Query.requests (respond tree) (tracker.settings.answer range origin).run tracker

def requestsAll (tracker : Tracker) (tree : FileTree) : List Question → List Request
  | [] => []
  | question :: rest =>
      tracker.requests tree question.range question.origin ++
        (tracker.isIgnored tree question.range question.origin).2.requestsAll tree rest

theorem isAbout_of_mem_requests {r : Request} (h : r ∈ tracker.requests tree range origin) :
    r.IsAbout range.file :=
  (Query.makes_run _ _).uses (uses_answer tracker.settings range origin) r h

/-- The step lemma of what is asked for: the file cannot be opened, or it is known what there is to
know about it to begin with, and then lines are read and the file is released. -/
theorem Sound.requests_cases (h : tracker.Sound tree) (range : Range) (origin : Origin) :
    (∃ error, tracker.resolved tree range.file = .error error ∧
        (tracker.isIgnored tree range origin).1 = .error (.access error) ∧
        ∀ r ∈ tracker.requests tree range origin, r.IsOpening) ∨
      ∃ text record line opening asked known, tree.readText range.file = .ok text ∧
        record.Knows tracker.settings.matcher text ∧
        tracker.resolved tree range.file = .ok record ∧ record.watermark = .ofNat line ∧
        record.Consulted line range origin asked (tracker.isIgnored tree range origin).1 known ∧
        tracker.requests tree range origin = opening ++ (asked ++
          TrackerSettings.closing range.file (tracker.isIgnored tree range origin).1 known) ∧
        (∀ r ∈ opening, r.IsOpening) ∧
        (tracker.records.get? range.file = some record → opening = [.known range.file]) ∧
        (tracker.isIgnored tree range origin).2.records.get? range.file = some known := by
  obtain ⟨resolved, hrun, hrests⟩ := run_resolve tracker tree tracker.settings range.file
  have hopening := TrackerSettings.resolve_makes
    (@Query.makes_run _ _ (respond tree) (tracker.settings.resolve range.file).run tracker)
  unfold requests Tracker.isIgnored
  rw [TrackerSettings.answer_eq]
  cases hresolved : tracker.resolved tree range.file with
  | error e =>
      rw [hresolved] at hrun
      rw [Asking.requests_bind_error hrun, Asking.run_bind_error hrun]
      exact Or.inl ⟨e, rfl, rfl, hopening⟩
  | ok record =>
      rw [hresolved] at hrun
      obtain ⟨text, htext, hknows⟩ := h.carries.of_resolved (fun _ => .cold _) hresolved
      obtain ⟨line, -, hwatermark, -⟩ := hknows.watermark
      rw [Asking.requests_bind_ok hrun, Asking.run_bind_ok hrun]
      obtain ⟨asked, known, hconsulted, hmade⟩ := TrackerSettings.answerFrom_makes hwatermark
        (@Query.makes_run _ _ (respond tree)
          (tracker.settings.answerFrom range origin record).run resolved)
      refine Or.inr ⟨text, record, line, _, asked, known, htext, hknows, rfl, hwatermark,
        hconsulted, by rw [hmade], hopening, ?_, ?_⟩
      · intro hknown
        exact Asking.requests_resolve_known (congrArg (·, tracker) hknown)
      · have hrecord : resolved.records.get? range.file = some record := by
          rw [hrests.records, resolve, hresolved]
          simp [Entries.get?_put]
        rw [Query.records_run, hmade]
        exact hconsulted.remembered hrecord

section released

def Completed (file : Wide) (tracker : Tracker) : Prop :=
  ∃ record, tracker.records.get? file = some record ∧ record.isComplete = true

theorem Completed.isIgnored (h : tracker.Completed file) (hsound : tracker.Sound tree)
    (range : Range) (origin : Origin) :
    (tracker.isIgnored tree range origin).2.Completed file ∧
      ∀ r ∈ tracker.requests tree range origin, ¬ r.LooksInto file := by
  obtain ⟨record, hrecord, hcomplete⟩ := h
  by_cases hfile : file = range.file
  · subst hfile
    rcases hsound.requests_cases range origin with ⟨error, hresolved, -, -⟩ |
      ⟨text, record', line, opening, asked, known, -, -, hresolved, hwatermark, hconsulted, hmade,
        -, hopening, hknown⟩
    · exact nomatch (resolved_of_get? hrecord tree).symm.trans hresolved
    · obtain rfl : record = record' :=
        Except.ok.inj ((resolved_of_get? hrecord tree).symm.trans hresolved)
      have hsettles := record.settles_of_isComplete hcomplete range origin hwatermark
      -- Then nothing is read, and the file is only released once more.
      obtain ⟨rfl, rfl⟩ := hconsulted.of_settles hsettles
      refine ⟨⟨known, hknown, hcomplete⟩, ?_⟩
      rw [hmade, hopening hrecord]
      intro r hmem hlooks
      rcases List.mem_append.mp hmem with hfirst | hlast
      · obtain rfl := List.mem_singleton.mp hfirst
        exact hlooks
      · obtain ⟨rfl, -⟩ := TrackerSettings.of_mem_closing hlast
        exact hlooks
  · refine ⟨⟨record, ?_, hcomplete⟩, ?_⟩
    · rw [(isIgnored_elsewhere hfile tracker origin).record, hrecord]
    · intro r hmem hlooks
      exact hfile (Option.some.inj (hlooks.isAbout.symm.trans (isAbout_of_mem_requests hmem)))

theorem Sound.pairwise_requests (h : tracker.Sound tree) (range : Range) (origin : Origin) :
    (tracker.requests tree range origin).Pairwise
      fun earlier later => ∀ file, earlier = .release file → ¬ later.LooksInto file := by
  have hopening {made : List Request} (hmade : ∀ r ∈ made, r.IsOpening) :
      ∀ r ∈ made, ∀ file, r ≠ .release file := by
    rintro _ hmem file rfl
    exact hmade _ hmem
  have hfront {made : List Request} (hmade : ∀ r ∈ made, ∀ file, r ≠ .release file) :
      made.Pairwise fun earlier later => ∀ file, earlier = .release file →
        ¬ later.LooksInto file :=
    List.pairwise_of_forall_mem_list fun r hmem _ _ file heq => absurd heq (hmade r hmem file)
  rcases h.requests_cases range origin with ⟨error, -, -, hall⟩ |
    ⟨text, record, line, opening, asked, known, -, -, -, -, hconsulted, hmade, hall, -, -⟩
  · exact hfront (hopening hall)
  · have hbefore : ∀ r ∈ opening ++ asked, ∀ file, r ≠ .release file := by
      intro r hmem
      rcases List.mem_append.mp hmem with hopened | hasked
      · exact hopening hall r hopened
      · exact hconsulted.ne_release hasked
    rw [hmade, ← List.append_assoc]
    refine List.pairwise_append.mpr ⟨hfront hbefore, ?_, ?_⟩
    · refine List.pairwise_of_forall_mem_list fun _ _ r hmem file _ hlooks => ?_
      obtain ⟨rfl, -⟩ := TrackerSettings.of_mem_closing hmem
      exact hlooks
    · intro r hmem _ _ file heq
      exact absurd heq (hbefore r hmem file)

theorem Sound.completed_of_release (h : tracker.Sound tree)
    (hreleased : .release file ∈ tracker.requests tree range origin) :
    (tracker.isIgnored tree range origin).2.Completed file := by
  obtain rfl : range.file = file := (Option.some.inj (isAbout_of_mem_requests hreleased)).symm
  rcases h.requests_cases range origin with ⟨error, -, -, hall⟩ |
    ⟨text, record, line, opening, asked, known, -, -, -, -, hconsulted, hmade, hall, -, hknown⟩
  · exact absurd (hall _ hreleased) id
  · rw [hmade] at hreleased
    rcases List.mem_append.mp hreleased with hopened | hlater
    · exact absurd (hall _ hopened) id
    · rcases List.mem_append.mp hlater with hasked | hlast
      · exact absurd rfl (hconsulted.ne_release hasked range.file)
      · exact ⟨known, hknown, (TrackerSettings.of_mem_closing hlast).2⟩

/-- The run lemma of files that are known: they are never looked into again. -/
theorem Completed.askAll (h : tracker.Completed file) (hreached : tracker.Reached matcher tree)
    (questions : List Question) :
    ∀ r ∈ tracker.requestsAll tree questions, ¬ r.LooksInto file := by
  induction questions generalizing tracker with
  | nil => simp [requestsAll]
  | cons question rest ih =>
      obtain ⟨hafter, hfirst⟩ :=
        h.isIgnored hreached.sound.2.2 question.range question.origin
      intro r hmem
      rcases List.mem_append.mp hmem with hnow | hlater
      · exact hfirst r hnow
      · exact ih hafter (hreached.ask question.range question.origin) r hlater

theorem Reached.pairwise_requestsAll (h : tracker.Reached matcher tree)
    (questions : List Question) : (tracker.requestsAll tree questions).Pairwise
      fun earlier later => ∀ file, earlier = .release file → ¬ later.LooksInto file := by
  induction questions generalizing tracker with
  | nil => exact List.Pairwise.nil
  | cons question rest ih =>
      have hafter := h.ask question.range question.origin
      refine List.pairwise_append.mpr
        ⟨h.sound.2.2.pairwise_requests question.range question.origin, ih hafter, ?_⟩
      rintro _ hmem later hlater file rfl
      exact (h.sound.2.2.completed_of_release hmem).askAll hafter rest later hlater

end released

section settled

def Settled (range : Range) (origin : Origin) (tracker : Tracker) : Prop :=
  ∃ record, tracker.records.get? range.file = some record ∧ record.Settles range origin

theorem Settled.not_readLine (h : tracker.Settled range origin) (hsound : tracker.Sound tree)
    (line : Nat) : .readLine file line ∉ tracker.requests tree range origin := by
  obtain ⟨record, hrecord, hsettles⟩ := h
  intro hmem
  rcases hsound.requests_cases range origin with ⟨error, -, -, hall⟩ |
    ⟨text, record', reached, opening, asked, known, -, -, hresolved, -, hconsulted, hmade, hall,
      -, -⟩
  · exact hall _ hmem
  · obtain rfl : record = record' :=
      Except.ok.inj ((resolved_of_get? hrecord tree).symm.trans hresolved)
    obtain ⟨rfl, -⟩ := hconsulted.of_settles hsettles
    rw [hmade] at hmem
    rcases List.mem_append.mp hmem with hopened | hlast
    · exact hall _ hopened
    · exact nomatch (TrackerSettings.of_mem_closing hlast).1

theorem Reached.settled_of_ok (h : tracker.Reached matcher tree) (haccepted : range.Accepted)
    (hexact : range.IsExact) {answer : Bool}
    (hanswer : (tracker.isIgnored tree range origin).1 = .ok answer) :
    (tracker.isIgnored tree range origin).2.Settled range origin := by
  obtain ⟨hheld, -, hsound⟩ := h.sound
  rcases hsound.isIgnored_cases range origin with ⟨error, after, -, -, -, hrun⟩ |
    ⟨text, record, line, result, known, after, htext, hknows, hwatermark, hline, hanswered, hidle,
      hrun⟩
  · rw [hrun] at hanswer
    exact nomatch hanswer
  · rw [hrun] at hanswer ⊢
    obtain rfl : result = .ok answer := hanswer
    refine ⟨known, ?_, hanswered.settles hknows (hheld.length_lt htext) hwatermark hline haccepted
      fun span hspan => (hexact span hspan).2.2⟩
    rw [hidle.records, Entries.get?_put, if_pos rfl]

/-- The step lemma of what is settled: no question unsettles it. -/
theorem Settled.isIgnored (h : tracker.Settled range origin)
    (hreached : tracker.Reached matcher tree)
    (haccepted : range.Accepted) (hexact : range.IsExact) (asked : Range) (origin' : Origin) :
    (tracker.isIgnored tree asked origin').2.Settled range origin := by
  obtain ⟨record, hrecord, hsettles⟩ := h
  obtain ⟨hheld, -, hsound⟩ := hreached.sound
  by_cases hfile : range.file = asked.file
  · rcases hsound.requests_cases asked origin' with ⟨error, hresolved, -, -⟩ |
      ⟨text, record', line, opening, made, known, htext, hknows, hresolved, hwatermark, hconsulted,
        -, -, -, hknown⟩
    · exact nomatch (resolved_of_get? (hfile ▸ hrecord) tree).symm.trans hresolved
    · obtain rfl : record = record' :=
        Except.ok.inj ((resolved_of_get? (hfile ▸ hrecord) tree).symm.trans hresolved)
      have hafter := (hsound.isIgnored (fun _ => hheld.length_lt) origin').1.records _ _ hknown
      obtain ⟨text', htext', hknows'⟩ := hafter
      obtain rfl : text = text' := Except.ok.inj (htext.symm.trans htext')
      rw [(hsound.isIgnored (fun _ => hheld.length_lt) origin').2.settings] at hknows'
      exact ⟨known, hfile ▸ hknown, hconsulted.settles hsettles hknows hknows'
        (hheld.length_lt htext) hwatermark haccepted fun span hspan => (hexact span hspan).2.2⟩
  · refine ⟨record, ?_, hsettles⟩
    rw [(isIgnored_elsewhere hfile tracker origin').record, hrecord]

/-- The run lemma of what is settled. -/
theorem Settled.askAll (h : tracker.Settled range origin) (hreached : tracker.Reached matcher tree)
    (haccepted : range.Accepted) (hexact : range.IsExact) (questions : List Question) :
    (tracker.askAll tree questions).2.Settled range origin := by
  induction questions generalizing tracker with
  | nil => exact h
  | cons question rest ih =>
      exact ih (h.isIgnored hreached haccepted hexact question.range question.origin)
        (hreached.ask question.range question.origin)

end settled

theorem Reached.askAll (h : tracker.Reached matcher tree) (questions : List Question) :
    (tracker.askAll tree questions).2.Reached matcher tree := by
  induction questions generalizing tracker with
  | nil => exact h
  | cons question rest ih => exact ih (h.ask question.range question.origin)

theorem reads_askAll (tracker : Tracker) (tree : FileTree) (questions : List Question) :
    (tracker.askAll tree questions).2.reads =
      tracker.reads ++ (tracker.requestsAll tree questions).flatMap Request.reads := by
  induction questions generalizing tracker with
  | nil => exact (List.append_nil _).symm
  | cons question rest ih =>
      have hfirst : (tracker.isIgnored tree question.range question.origin).2.reads =
          tracker.reads ++
            (tracker.requests tree question.range question.origin).flatMap Request.reads :=
        Query.reads_run_requests _ _ _
      rw [askAll_cons, ih, hfirst, requestsAll, List.flatMap_append, List.append_assoc]

end Tracker

/-- The last line that a range can be about in a file with so many lines. -/
def Range.lastWithin (range : Range) (count : Nat) : Nat :=
  match range.span with
  | some span => Min.min span.stop.line.toNat count
  | none => count

theorem Range.Accepted.lastLine_eq {range : Range} (h : range.Accepted) (record : Record) :
    record.lastLine range = range.lastWithin record.lineCount := by
  unfold Record.lastLine Range.lastWithin
  cases hspan : range.span with
  | none => rfl
  | some span =>
      obtain ⟨first, last, hruns⟩ := h.runsOver hspan
      simp only [hruns.lastLine_eq, hruns.stop_line, Number.toNat_ofNat]

/-- How a question is answered, the lines that are read for it, in this order, and what is known
then of the file, which has so many lines: nothing is read and nothing changes; or the range lies on
one line, which is read, and the watermark stays; or all lines from the last one up to the watermark
are read, and the watermark moves to the last one. -/
inductive Record.Reading (record : Record) (count : Nat) (range : Range) :
    Bool → List Nat → Record → Prop
  | nothing {answer : Bool} : Reading record count range answer [] record
  | ownLine {span : Span} {line : Nat} {known : Record} : range.span = some span →
      span.start.line = .ofNat line → span.stop.line = .ofNat line →
      known.watermark = record.watermark → Reading record count range true [line] known
  | upwards {answer : Bool} {line : Nat} {known : Record} : record.watermark = .ofNat line →
      line < range.lastWithin count → known.watermark = .ofNat (range.lastWithin count) →
        Reading record count range answer (descending (range.lastWithin count) line) known

theorem Record.Consulted.reading {record known : Record} {line : Nat} {range : Range}
    {origin : Origin} {made : List Request} {answer : Bool}
    (h : record.Consulted line range origin made (.ok answer) known) (haccepted : range.Accepted)
    (hwatermark : record.watermark = .ofNat line) :
    ∃ lines, made.flatMap Request.reads = lines.map (fun line => (range.file, line)) ∧
      record.Reading record.lineCount range answer lines known := by
  have hreads (lines : List Nat) {record : Record} :
      (lines.map (Request.readLine range.file) ++
        [Request.remember range.file record]).flatMap Request.reads =
      lines.map fun line => (range.file, line) := by
    induction lines with
    | nil => rfl
    | cons line rest ih => exact congrArg ((range.file, line) :: ·) ih
  have hlast := haccepted.lastLine_eq record
  cases h with
  | settled _ => exact ⟨[], rfl, .nothing⟩
  | allBeyond _ hlt _ =>
      refine ⟨_, hreads _, ?_⟩
      rw [hlast] at hlt ⊢
      exact .upwards hwatermark hlt rfl
  | @ownLine directive stop _ hends hline hle hlt =>
      refine ⟨_, hreads _, ?_⟩
      cases hspan : range.span with
      | none => simp [TrackerSettings.endsSearch, hspan] at hends
      | some span =>
          obtain ⟨first, last, hruns⟩ := haccepted.runsOver hspan
          simp only [TrackerSettings.endsSearch, hspan, hline, hruns.start_line, hruns.stop_line,
            Number.same_ofNat, Bool.and_eq_true, decide_eq_true_eq] at hends
          obtain ⟨⟨⟨-, rfl⟩, rfl⟩, -⟩ := hends
          have hown : record.lastLine range = stop + 1 := by
            have hlast' : range.lastWithin record.lineCount =
                Min.min (stop + 1) record.lineCount := by
              simp only [Range.lastWithin, hspan, hruns.stop_line, Number.toNat_ofNat]
            omega
          rw [hown, descending_succ le_rfl, descending_self]
          exact .ownLine hspan hruns.start_line hruns.stop_line rfl

namespace Tracker

/-- How a tracker reads files when it is asked some questions. -/
structure ReadsOnce (tree : FileTree) (tracker : Tracker) (questions : List Question) : Prop where
  /-- The log of the tracker shows the lines that have been asked for. -/
  logged : (tracker.askAll tree questions).2.reads =
    tracker.reads ++ (tracker.requestsAll tree questions).flatMap Request.reads
  /-- How a question reads that has an answer. -/
  reading : ∀ before question after, questions = before ++ question :: after →
    ∀ answer, ((tracker.askAll tree before).2.isIgnored tree question.range question.origin).1 =
      .ok answer →
    ∃ text record known lines, tree.readText question.range.file = .ok text ∧
      (tracker.askAll tree before).2.resolved tree question.range.file = .ok record ∧
      ((tracker.askAll tree before).2.isIgnored tree question.range
        question.origin).2.records.get? question.range.file = some known ∧
      ((tracker.askAll tree before).2.requests tree question.range
        question.origin).flatMap Request.reads =
          lines.map (fun line => (question.range.file, line)) ∧
      record.Reading (Text.fileLines text.toList).length question.range answer lines known
  /-- Only lines beyond the watermark and within the file are asked for, whatever comes of it. -/
  beyond : ∀ before question after, questions = before ++ question :: after → ∀ file line,
    .readLine file line ∈ (tracker.askAll tree before).2.requests tree question.range
      question.origin →
    ∃ text record reached, tree.readText file = .ok text ∧
      (tracker.askAll tree before).2.resolved tree file = .ok record ∧
      record.watermark = .ofNat reached ∧ reached < line ∧
      1 ≤ line ∧ line ≤ (Text.fileLines text.toList).length
  /-- A question that has had an answer reads nothing when it is asked again. -/
  again : ∀ before question between after,
    questions = before ++ question :: (between ++ question :: after) →
    ∀ answer, ((tracker.askAll tree before).2.isIgnored tree question.range question.origin).1 =
      .ok answer →
    ∀ file line, .readLine file line ∉ (tracker.askAll tree
      (before ++ question :: between)).2.requests tree question.range question.origin
  /-- A file that has been released is not looked into again. -/
  released : (tracker.requestsAll tree questions).Pairwise
    fun earlier later => ∀ file, earlier = .release file → ¬ later.LooksInto file

/-- Whatever is asked about files that stay as they are, no line is read twice, and no file is
looked into after it has been released. Nothing is known at first but what the store has kept for
the contents of the files. -/
theorem Reached.readsOnce {matcher : Matcher} {tree : FileTree} {tracker : Tracker}
    (h : tracker.Reached matcher tree) (questions : List Question)
    (hquestions : ∀ question ∈ questions, question.range.Accepted ∧ question.range.IsExact) :
    tracker.ReadsOnce tree questions := by
  refine ⟨reads_askAll tracker tree questions, ?_, ?_, ?_, h.pairwise_requestsAll questions⟩
  · rintro before question after rfl answer hanswer
    obtain ⟨haccepted, -⟩ := hquestions question (by simp)
    rcases (h.askAll before).sound.2.2.requests_cases question.range question.origin with
      ⟨error, -, herror, -⟩ |
      ⟨text, record, line, opening, asked, known, htext, hknows, hresolved, hwatermark, hconsulted,
        hmade, hopening, -, hknown⟩
    · exact nomatch herror.symm.trans hanswer
    · rw [hanswer] at hconsulted hmade
      obtain ⟨lines, hlines, hreading⟩ := hconsulted.reading haccepted hwatermark
      rw [hknows.lineCount] at hreading
      have hclosing : (TrackerSettings.closing question.range.file (.ok answer) known).flatMap
          Request.reads = [] := by
        refine List.flatMap_eq_nil_iff.mpr fun r hmem => ?_
        obtain ⟨rfl, -⟩ := TrackerSettings.of_mem_closing hmem
        rfl
      refine ⟨text, record, known, lines, htext, hresolved, hknown, ?_, hreading⟩
      rw [hmade, List.flatMap_append, List.flatMap_append, hlines, hclosing,
        Request.flatMap_reads_of_isOpening hopening, List.nil_append, List.append_nil]
  · rintro before question after rfl file line hmem
    obtain rfl : question.range.file = file :=
      (Option.some.inj (isAbout_of_mem_requests hmem)).symm
    rcases (h.askAll before).sound.2.2.requests_cases question.range question.origin with
      ⟨error, -, -, hall⟩ |
      ⟨text, record, reached, opening, asked, known, htext, hknows, hresolved, hwatermark,
        hconsulted, hmade, hopening, -, -⟩
    · exact absurd (hall _ hmem) id
    · have hasked : .readLine question.range.file line ∈ asked := by
        rw [hmade] at hmem
        rcases List.mem_append.mp hmem with hopened | hlater
        · exact absurd (hopening _ hopened) id
        · rcases List.mem_append.mp hlater with hasked | hlast
          · exact hasked
          · exact nomatch (TrackerSettings.of_mem_closing hlast).1
      obtain ⟨hlt, hle⟩ := hconsulted.lt_of_readLine hasked
      have hlast := hle.trans (record.lastLine_le question.range)
      rw [hknows.lineCount] at hlast
      exact ⟨text, record, reached, htext, hresolved, hwatermark, hlt, by omega, hlast⟩
  · rintro before question between after rfl answer hanswer file line
    obtain ⟨haccepted, hexact⟩ := hquestions question (by simp)
    have hreached := h.askAll before
    have hsettled := (hreached.settled_of_ok haccepted hexact hanswer).askAll
      (hreached.ask question.range question.origin) haccepted hexact between
    have hafter := (hreached.ask question.range question.origin).askAll between
    have hasked : (tracker.askAll tree (before ++ question :: between)).2 =
        (((tracker.askAll tree before).2.isIgnored tree question.range
          question.origin).2.askAll tree between).2 := by
      rw [askAll_append]
      rfl
    rw [hasked]
    exact hsettled.not_readLine hafter.sound.2.2 line

/-- The line is read for the first question, and the whole file for the second one. -/
theorem Reached.readsOnce_ignoredLine :
    ReadsOnce (.single "a.py" "# ignore mypy\n") { settings := {} } [
      ⟨{ file := "a.py", span := some ⟨⟨1, 0⟩, ⟨1, 4⟩⟩ }, { analyzer := "mypy" }⟩,
      ⟨.wholeFile "a.py", { analyzer := "pylint" }⟩,
      ⟨{ file := "a.py", span := some ⟨⟨1, 0⟩, ⟨1, 4⟩⟩ }, { analyzer := "mypy" }⟩] := by
  have hbetween : Range.between "a.py" ⟨1, 0⟩ ⟨1, 4⟩ =
      .ok { file := "a.py", span := some ⟨⟨1, 0⟩, ⟨1, 4⟩⟩ } := by decide
  have hstart : Reached .standard (.single "a.py" "# ignore mypy\n") { settings := {} } :=
    .fresh (FileTree.holdable_single (by decide +kernel)) rfl
  have hline : Range.Accepted { file := "a.py", span := some ⟨⟨1, 0⟩, ⟨1, 4⟩⟩ } ∧
      Range.IsExact { file := "a.py", span := some ⟨⟨1, 0⟩, ⟨1, 4⟩⟩ } :=
    ⟨.between hbetween, by decide⟩
  refine hstart.readsOnce _ (List.forall_mem_cons.mpr ⟨hline, List.forall_mem_cons.mpr
    ⟨⟨.wholeFile "a.py", by decide⟩, List.forall_mem_cons.mpr ⟨hline, by simp⟩⟩⟩)

end Tracker

end Suppression

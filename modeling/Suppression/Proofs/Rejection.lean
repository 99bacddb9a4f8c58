import Suppression.Proofs.RangedIntervals
import Suppression.Proofs.Resuming

namespace Suppression

/-- Lines up to the watermark and up to the end of the file can be numbered exactly. -/
structure Record.IsMeasured (record : Record) : Prop where
  lineCount_lt : record.lineCount < 2 ^ 53
  watermark : ∃ line, record.watermark = .ofNat line

namespace Request

/-- The request leaves alone what is known, what is stored and what is held of the files. -/
def IsIdle : Request → Prop
  | remember _ _ => False
  | load _ _ => False
  | release _ => False
  | _ => True

/-- Nothing is loaded, and what is remembered is measured. -/
def IsMeasured : Request → Prop
  | remember _ record => record.IsMeasured
  | load _ _ => False
  | _ => True

theorem IsIdle.isMeasured {r : Request} (h : r.IsIdle) : r.IsMeasured := by
  cases r with
  | remember file record => exact absurd h id
  | load file fingerprint => exact absurd h id
  | _ => trivial

end Request

/-- The directives that a search has found stand on lines up to the one that it began with. -/
def Found.LiesBy (last : Nat) : Found → Prop
  | inline _ => True
  | complete directives => ∀ directive ∈ directives, ∃ line, 1 ≤ line ∧ line ≤ last ∧
      directive.line = .ofNat line

namespace Query

variable {α β ε : Type} {p p' : Request → Prop} {q q' : α → Prop}

/-- All requests of a computation are of some kind, and so is its result, whatever is answered. -/
def Yields (p : Request → Prop) (q : α → Prop) : Query α → Prop
  | done result => q result
  | ask r next => p r ∧ ∀ answer, (next answer).Yields p q

theorem Yields.mono {query : Query α} (h : query.Yields p q) (hp : ∀ r, p r → p' r)
    (hq : ∀ result, q result → q' result) : query.Yields p' q' := by
  induction query with
  | done result => exact hq result h
  | ask r next ih => exact ⟨hp r h.1, fun answer => ih answer (h.2 answer)⟩

theorem Yields.bind {query : Query α} {next : α → Query β} {q' : β → Prop} (h : query.Yields p q)
    (hnext : ∀ result, q result → (next result).Yields p q') : (query.bind next).Yields p q' := by
  induction query with
  | done result => exact hnext result h
  | ask r answer ih => exact ⟨h.1, fun a => ih a (h.2 a)⟩

/-- The computation has a value in the end, and remembers only what is measured. -/
def Succeeds (query : Query (Except ε α)) : Prop :=
  query.Yields Request.IsMeasured fun result => ∃ value, result = .ok value

/-- Whatever is not idle is done only when the computation is sure to succeed. -/
inductive Cautious : Query (Except ε α) → Prop
  | done (result : Except ε α) : Cautious (.done result)
  | idle {r : Request} {next : r.Answer → Query (Except ε α)} : r.IsIdle →
      (∀ answer, Cautious (next answer)) → Cautious (.ask r next)
  | sure {r : Request} {next : r.Answer → Query (Except ε α)} : r.IsMeasured →
      (∀ answer, (next answer).Succeeds) → Cautious (.ask r next)

theorem Succeeds.cautious {query : Query (Except ε α)} (h : query.Succeeds) : query.Cautious := by
  cases query with
  | done result => exact .done result
  | ask r next => exact .sure h.1 h.2

theorem Cautious.yields {query : Query (Except ε α)} (h : query.Cautious) :
    query.Yields Request.IsMeasured fun _ => True := by
  induction h with
  | done result => trivial
  | idle hr _ ih => exact ⟨hr.isMeasured, ih⟩
  | sure hr hnext => exact ⟨hr, fun answer => (hnext answer).mono (fun _ => id) fun _ _ => trivial⟩

/-- The run lemma of failure: either there is a value, or all that idle requests keep is kept. -/
theorem Cautious.run {σ : Type} {handle : (r : Request) → σ → r.Answer × σ} {P : σ → Prop}
    {query : Query (Except ε α)} (h : query.Cautious)
    (hidle : ∀ r state, r.IsIdle → P state → P (handle r state).2) {state : σ} (hstate : P state) :
    (∃ value, (Query.run handle query state).1 = .ok value) ∨
      P (Query.run handle query state).2 := by
  induction h generalizing state with
  | done result => exact Or.inr hstate
  | idle hr _ ih => exact ih _ (hidle _ _ hr hstate)
  | sure hr hnext =>
      left
      have hsucceeds (query : Query (Except ε α)) (h : query.Succeeds) (state : σ) :
          ∃ value, (Query.run handle query state).1 = .ok value := by
        induction query generalizing state with
        | done result => exact h
        | ask r next ih => exact ih _ (h.2 _) _
      exact hsucceeds _ (hnext _) _

/-- What requests of some kind keep is kept by a computation that makes no others. -/
theorem Yields.run {σ : Type} {handle : (r : Request) → σ → r.Answer × σ} {P : σ → Prop}
    {query : Query α} (h : query.Yields p q)
    (hstep : ∀ r state, p r → P state → P (handle r state).2) {state : σ} (hstate : P state) :
    P (Query.run handle query state).2 := by
  induction query generalizing state with
  | done result => exact hstate
  | ask r next ih => exact ih _ (h.2 _) (hstep _ _ h.1 hstate)

end Query

namespace Asking

variable {α β : Type} {q : α → Prop}

/-- The computation makes idle requests only, and its value, if it has one, is of some kind. -/
def Idles (q : α → Prop) (asking : Asking α) : Prop :=
  asking.run.Yields Request.IsIdle fun result => ∀ value, result = .ok value → q value

def Succeeds (asking : Asking α) : Prop :=
  asking.run.Succeeds

def Cautious (asking : Asking α) : Prop :=
  asking.run.Cautious

theorem Idles.pure {value : α} (h : q value) : Idles q (pure value : Asking α) := by
  rintro _ ⟨⟩
  exact h

theorem Idles.ofExcept {ε : Type} (wrap : ε → QueryError) (result : Except ε α) :
    Idles (fun value => result = .ok value) (ofExcept wrap result) := by
  intro value h
  cases result with
  | ok value' => exact congrArg Except.ok (Except.ok.inj h)
  | error e => exact nomatch h

theorem Idles.access {r : Request} {wrap : r.Answer → Except AccessError α} (hr : r.IsIdle) :
    Idles (fun _ => True) (access (.ask r fun answer => .done (wrap answer))) :=
  ⟨hr, fun _ _ _ => trivial⟩

theorem Idles.bind {asking : Asking α} {next : α → Asking β} {q' : β → Prop} (h : asking.Idles q)
    (hnext : ∀ value, q value → (next value).Idles q') : Idles q' (asking >>= next) := by
  refine Query.Yields.bind h fun result hresult => ?_
  cases result with
  | error e => exact fun value h => nomatch h
  | ok value => exact hnext value (hresult value rfl)

theorem Idles.cautious_bind {asking : Asking α} {next : α → Asking β} (h : asking.Idles q)
    (hnext : ∀ value, q value → (next value).Cautious) : Cautious (asking >>= next) := by
  change (asking.run.bind (ExceptT.bindCont next)).Cautious
  obtain ⟨query, hquery⟩ : ∃ query : Query (Except QueryError α), query = asking.run := ⟨_, rfl⟩
  unfold Idles at h
  rw [← hquery] at h ⊢
  clear hquery
  induction query with
  | done result =>
      cases result with
      | error e => exact .done _
      | ok value => exact hnext value (h value rfl)
  | ask r answer ih => exact .idle h.1 fun a => ih a (h.2 a)

theorem Succeeds.pure (value : α) : Succeeds (pure value : Asking α) :=
  ⟨value, rfl⟩

theorem Succeeds.request (r : Request) (hr : r.IsMeasured) : Succeeds (request r) :=
  ⟨hr, fun answer => ⟨answer, rfl⟩⟩

theorem Succeeds.bind {asking : Asking α} {next : α → Asking β} (h : asking.Succeeds)
    (hnext : ∀ value, (next value).Succeeds) : Succeeds (asking >>= next) := by
  refine Query.Yields.bind h ?_
  rintro _ ⟨value, rfl⟩
  exact hnext value

theorem Succeeds.cautious {asking : Asking α} (h : asking.Succeeds) : asking.Cautious :=
  Query.Succeeds.cautious h

theorem Cautious.bind {asking : Asking α} {next : α → Asking β} (h : asking.Cautious)
    (hnext : ∀ value, (next value).Succeeds) : Cautious (asking >>= next) := by
  change (asking.run.bind (ExceptT.bindCont next)).Cautious
  obtain ⟨query, hquery⟩ : ∃ query : Query (Except QueryError α), query = asking.run := ⟨_, rfl⟩
  unfold Cautious at h
  rw [← hquery] at h ⊢
  clear hquery
  induction h with
  | done result =>
      cases result with
      | error e => exact .done _
      | ok value => exact (hnext value).cautious
  | idle hr _ ih => exact .idle hr ih
  | sure hr hsucceeds =>
      refine .sure hr fun answer => Query.Yields.bind (hsucceeds answer) ?_
      rintro _ ⟨value, rfl⟩
      exact hnext value

end Asking

namespace TrackerSettings

open Asking

variable {settings : TrackerSettings} {file : Wide} {span : Option Span} {origin : Origin}
  {record : Record}

theorem note_idles (settings : TrackerSettings) (text : Wide) :
    Idles (fun _ => True) (settings.note text) := by
  unfold note
  split
  · exact ⟨trivial, fun _ _ _ => trivial⟩
  · exact .pure trivial

theorem note_succeeds (settings : TrackerSettings) (text : Wide) :
    Succeeds (settings.note text) := by
  unfold note
  split
  · exact .request (.note text) trivial
  · exact .pure ()

theorem directiveAt_idles (settings : TrackerSettings) (file : Wide) (line : Nat) :
    Idles (fun directive? => ∀ directive ∈ directive?, directive.line = .ofNat line)
      (settings.directiveAt file line) := by
  have hread : Request.IsIdle (.readLine file line) := trivial
  refine (Idles.access hread).bind fun text _ => (Idles.ofExcept _ _).bind fun directive? _ => ?_
  refine .pure ?_
  cases directive? with
  | none => simp
  | some directive => simp

theorem search_idles (settings : TrackerSettings) (file : Wide) (span : Option Span)
    (origin : Origin) (watermark : Nat) {last : Nat} {found : List LineDirective}
    (hfound : (Found.complete found).LiesBy last) {line : Nat} (hline : line ≤ last) :
    Idles (Found.LiesBy last) (settings.search file span origin (.ofNat watermark) found line) := by
  induction line generalizing found with
  | zero =>
      rw [search]
      simp only [Number.ofNat_lt_ofNat, Nat.not_lt_zero, if_false]
      exact .pure hfound
  | succ above ih =>
      rw [search]
      split
      · refine (directiveAt_idles settings file (above + 1)).bind fun directive? hdirective => ?_
        cases directive? with
        | none => exact ih hfound (by omega)
        | some directive =>
            dsimp only
            split
            · exact .pure trivial
            · refine ih ?_ (by omega)
              exact List.forall_mem_cons.mpr
                ⟨⟨above + 1, by omega, hline, hdirective directive rfl⟩, hfound⟩
      · exact .pure hfound

theorem searchFrom_idles (settings : TrackerSettings) (file : Wide) (span : Option Span)
    (origin : Origin) (watermark last : Nat) :
    Idles (Found.LiesBy last)
      (settings.searchFrom file span origin (.ofNat watermark) last) := by
  refine (note_idles settings _).bind fun _ _ => ?_
  exact search_idles settings file span origin watermark (by simp [Found.LiesBy]) le_rfl

theorem addInline_succeeds (h : record.IsMeasured) (file : Wide) (directive : LineDirective) :
    Succeeds (Asking.request (.remember file (record.addInline directive))) :=
  .request (.remember file (record.addInline directive)) ⟨h.lineCount_lt, h.watermark⟩

theorem commit_succeeds (h : record.IsMeasured) (file : Wide) (last : Nat)
    (directives : List LineDirective) :
    Succeeds (Asking.request (.remember file (record.commit last directives))) :=
  .request (.remember file (record.commit last directives)) ⟨h.lineCount_lt, last, rfl⟩

theorem answerLines_cautious (settings : TrackerSettings) (h : record.IsMeasured) (range : Range)
    (span : Span) (origin : Origin) :
    Cautious (settings.answerLines record range span origin) := by
  obtain ⟨watermark, hwatermark⟩ := h.watermark
  unfold answerLines
  refine (Idles.ofExcept _ _).cautious_bind fun covered hcovered => ?_
  cases covered with
  | true => exact (Succeeds.pure _).cautious
  | false =>
      simp only [Bool.false_eq_true, if_false]
      split
      · exact (Succeeds.pure _).cautious
      · rw [hwatermark]
        refine (searchFrom_idles settings range.file (some span) origin watermark
          (lastLine span record.lineCount)).cautious_bind fun found hfound => ?_
        refine Succeeds.cautious ?_
        cases found with
        | inline directive =>
            refine (addInline_succeeds h range.file directive).bind fun _ => ?_
            exact (note_succeeds settings _).bind fun _ => .pure _
        | complete directives =>
            have hlast := lastLine_le span record.lineCount
            have hcount := h.lineCount_lt
            have hlines : ∀ directive ∈ directives, ∃ line, 1 ≤ line ∧ line < 2 ^ 53 ∧
                directive.line = .ofNat line := by
              intro directive hmem
              obtain ⟨line, hpos, hle, hline⟩ := hfound directive hmem
              exact ⟨line, hpos, by omega, hline⟩
            obtain ⟨covered, hcover⟩ := Record.exists_cover_commit hcovered
              (lastLine span record.lineCount) hlines
            refine (commit_succeeds h range.file _ directives).bind fun _ => ?_
            rw [hcover]
            exact (Succeeds.pure covered).bind fun _ => .pure _

theorem answerFile_cautious (settings : TrackerSettings) (h : record.IsMeasured) (file : Wide)
    (origin : Origin) : Cautious (settings.answerFile record file origin) := by
  obtain ⟨watermark, hwatermark⟩ := h.watermark
  unfold answerFile
  split
  · exact (Succeeds.pure _).cautious
  · rw [hwatermark]
    refine (searchFrom_idles settings file none origin watermark
      record.lineCount).cautious_bind fun found _ => ?_
    refine Succeeds.cautious ?_
    cases found with
    | inline directive => exact .pure _
    | complete directives =>
        exact (commit_succeeds h file _ directives).bind fun _ => .pure _

/-- What is known about a file is changed only by a question that has an answer. -/
theorem answerFrom_cautious (settings : TrackerSettings) (h : record.IsMeasured) (range : Range)
    (origin : Origin) : Cautious (settings.answerFrom range origin record) := by
  have hfinish (result : Bool × Record) : Succeeds
      (do if result.2.isComplete then Asking.request (.release range.file)
          return result.1) := by
    split
    · exact (Succeeds.request (.release range.file) trivial).bind fun _ => .pure _
    · exact .pure _
  unfold answerFrom
  cases range.span with
  | some span => exact (answerLines_cautious settings h range span origin).bind hfinish
  | none => exact (answerFile_cautious settings h range.file origin).bind hfinish

end TrackerSettings

namespace Tracker

variable {tree : FileTree} {tracker : Tracker} {file : Wide} {range : Range} {origin : Origin}
  {error : QueryError}

theorem alikeOn_respond {r : Request} (hr : r.IsIdle) (tracker : Tracker) :
    AlikeOn tree file tracker (respond tree r tracker).2 := by
  by_cases hfile : r.file? = some file
  · refine ⟨by rw [settings_respond], ?_, by rw [kept_respond], ?_⟩
    · rw [records_respond r fun _ _ heq => by simp [heq, Request.IsIdle] at hr]
    · cases r with
      | fingerprint asked => exact Reader.source_source _ _ _ _
      | lineCount asked => exact Reader.source_source _ _ _ _
      | readLine asked line => exact Reader.source_source _ _ _ _
      | release asked => exact absurd hr id
      | load asked fingerprint => exact absurd hr id
      | _ => rfl
  · refine respond_elsewhere ?_ tracker
    rintro asked hasked rfl
    exact hfile hasked

theorem resumes_resolve (tracker : Tracker) (tree : FileTree) (asked file : Wide) :
    Resumes tree file tracker (tracker.resolve tree asked) := by
  unfold resolve
  cases hresolved : tracker.resolved tree asked with
  | error e => exact (AlikeOn.refl tree file tracker).resumes
  | ok record =>
      refine ⟨rfl, rfl, rfl, ?_⟩
      by_cases hfile : file = asked
      · subst hfile
        rw [hresolved]
        exact resolved_of_get? (by simp [Entries.get?_put]) tree
      · refine AlikeOn.resolved_eq ⟨rfl, ?_, rfl, rfl⟩
        simp [Entries.get?_put, hfile]

theorem resumes_of_error (hmeasured : ∀ record, tracker.resolved tree range.file = .ok record →
    record.IsMeasured) (h : (tracker.isIgnored tree range origin).1 = .error error)
    (file : Wide) : Resumes tree file tracker (tracker.isIgnored tree range origin).2 := by
  obtain ⟨resolved, hrun, hrests⟩ := run_resolve tracker tree tracker.settings range.file
  have hresumes := (resumes_resolve tracker tree range.file file).trans
    (hrests.alikeOn file).resumes
  unfold isIgnored at h ⊢
  rw [TrackerSettings.answer_eq] at h ⊢
  cases hresolved : tracker.resolved tree range.file with
  | error e =>
      rw [hresolved] at hrun
      rw [Asking.run_bind_error hrun]
      exact hresumes
  | ok record =>
      rw [hresolved] at hrun
      rw [Asking.run_bind_ok hrun] at h ⊢
      have hcautious := TrackerSettings.answerFrom_cautious tracker.settings
        (hmeasured record hresolved) range origin
      rcases @Query.Cautious.run _ _ _ (respond tree) (AlikeOn tree file resolved) _ hcautious
        (fun r state hr hstate => hstate.trans (alikeOn_respond hr state)) resolved
        (.refl tree file resolved) with ⟨value, hvalue⟩ | halike
      · exact nomatch hvalue.symm.trans h
      · exact hresumes.trans halike.resumes

end Tracker

end Suppression

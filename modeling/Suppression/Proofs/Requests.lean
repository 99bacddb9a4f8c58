import Suppression.Proofs.Rejection

namespace Suppression

def Request.remembered (records : Entries Record) : Request → Entries Record
  | remember file record => records.put file record
  | _ => records

namespace Query

variable {α β σ : Type} {handle : (r : Request) → σ → r.Answer × σ} {query : Query α}

/-- The requests that a computation makes, in the order in which it makes them. Notes, which are
about no file, do not count. -/
def requests (handle : (r : Request) → σ → r.Answer × σ) : Query α → σ → List Request
  | done _, _ => []
  | ask r next, state =>
      let (answer, state) := handle r state
      if r.file? = none then requests handle (next answer) state
      else r :: requests handle (next answer) state

/-- The requests that a computation makes if they are answered in some way, and its result then. -/
inductive Makes : Query α → List Request → α → Prop
  | done (result : α) : Makes (.done result) [] result
  | ask {r : Request} {next : r.Answer → Query α} {made : List Request} {result : α}
      (answer : r.Answer) : r.file? ≠ none → Makes (next answer) made result →
        Makes (.ask r next) (r :: made) result
  | note {text : Wide} {next : Unit → Query α} {made : List Request} {result : α} :
      Makes (next ()) made result → Makes (.ask (.note text) next) made result

theorem Makes.of_done {result result' : α} {made : List Request}
    (h : Makes (.done result) made result') : made = [] ∧ result' = result := by
  cases h
  exact ⟨rfl, rfl⟩

theorem makes_run (query : Query α) (state : σ) :
    query.Makes (query.requests handle state) (query.run handle state).1 := by
  induction query generalizing state with
  | done result => exact .done result
  | ask r next ih =>
      have hrest := ih (handle r state).1 (handle r state).2
      simp only [requests, run]
      split
      · next hnote =>
          cases r with
          | note text => exact .note hrest
          | _ => simp [Request.file?] at hnote
      · next habout => exact .ask _ habout hrest

theorem requests_bind (query : Query α) (next : α → Query β) (state : σ) :
    (query.bind next).requests handle state = query.requests handle state ++
      (next (query.run handle state).1).requests handle (query.run handle state).2 := by
  induction query generalizing state with
  | done result => rfl
  | ask r answer ih =>
      have hrest := ih (handle r state).1 (handle r state).2
      simp only [bind, requests, run]
      split
      · exact hrest
      · rw [hrest, List.cons_append]

theorem Makes.of_bind {next : α → Query β} {made : List Request} {result : β}
    (h : (query.bind next).Makes made result) : ∃ before value after,
      query.Makes before value ∧ (next value).Makes after result ∧ made = before ++ after := by
  induction query generalizing made with
  | done value => exact ⟨[], value, made, .done value, h, rfl⟩
  | ask r answer ih =>
      cases h with
      | ask a habout hrest =>
          obtain ⟨before, value, after, hbefore, hafter, rfl⟩ := ih a hrest
          exact ⟨r :: before, value, after, .ask a habout hbefore, hafter, rfl⟩
      | note hrest =>
          obtain ⟨before, value, after, hbefore, hafter, rfl⟩ := ih () hrest
          exact ⟨before, value, after, .note hbefore, hafter, rfl⟩

theorem Makes.uses {p : Request → Prop} {made : List Request} {result : α}
    (h : query.Makes made result) (hquery : query.Uses p) : ∀ r ∈ made, p r := by
  induction h with
  | done result => simp
  | @ask r _ _ _ answer habout _ ih =>
      obtain ⟨file, hfile⟩ := Option.ne_none_iff_exists'.mp habout
      exact List.forall_mem_cons.mpr ⟨hquery.1 file hfile, ih (hquery.2 answer)⟩
  | note _ ih => exact ih (hquery.2 ())

section tracker

variable (tree : FileTree) (query : Query α) (tracker : Tracker)

theorem records_run : (query.run (Tracker.respond tree) tracker).2.records =
    (query.requests (Tracker.respond tree) tracker).foldl Request.remembered tracker.records := by
  induction query generalizing tracker with
  | done result => rfl
  | ask r next ih =>
      have hstep : (Tracker.respond tree r tracker).2.records =
          r.remembered tracker.records := by
        cases r with
        | load file fingerprint =>
            exact (Tracker.load_idles tracker tree file fingerprint).1.records
        | _ => rfl
      have hrest := ih (Tracker.respond tree r tracker).1 (Tracker.respond tree r tracker).2
      simp only [run, requests]
      split
      · next hnote =>
          rw [hrest, hstep]
          cases r with
          | note text => rfl
          | _ => simp [Request.file?] at hnote
      · rw [List.foldl_cons, ← hstep]
        exact hrest

theorem reads_run_requests : (query.run (Tracker.respond tree) tracker).2.reads = tracker.reads ++
    (query.requests (Tracker.respond tree) tracker).flatMap Request.reads := by
  induction query generalizing tracker with
  | done result => exact (List.append_nil _).symm
  | ask r next ih =>
      have hrest := ih (Tracker.respond tree r tracker).1 (Tracker.respond tree r tracker).2
      have hstep := Tracker.reads_respond tree r tracker
      simp only [run, requests]
      split
      · next hnote =>
          rw [hrest, hstep]
          cases r with
          | note text => exact congrArg (· ++ _) (List.append_nil tracker.reads)
          | _ => simp [Request.file?] at hnote
      · rw [hrest, hstep, List.flatMap_cons, List.append_assoc]

end tracker

end Query

namespace Asking

variable {α β : Type} {made : List Request}

def Makes (asking : Asking α) (made : List Request) (result : Except QueryError α) : Prop :=
  asking.run.Makes made result

theorem Makes.of_bind {asking : Asking α} {next : α → Asking β} {result : Except QueryError β}
    (h : (asking >>= next).Makes made result) :
    (∃ error, asking.Makes made (.error error) ∧ result = .error error) ∨
      ∃ before value after, asking.Makes before (.ok value) ∧ (next value).Makes after result ∧
        made = before ++ after := by
  obtain ⟨before, value, after, hbefore, hafter, rfl⟩ := Query.Makes.of_bind h
  cases value with
  | error e =>
      obtain ⟨rfl, rfl⟩ := Query.Makes.of_done hafter
      exact Or.inl ⟨e, (List.append_nil before).symm ▸ hbefore, rfl⟩
  | ok value => exact Or.inr ⟨before, value, after, hbefore, hafter, rfl⟩

theorem Makes.of_pure {value : α} {result : Except QueryError α}
    (h : (pure value : Asking α).Makes made result) : made = [] ∧ result = .ok value :=
  Query.Makes.of_done h

theorem Makes.of_ofExcept {ε : Type} {wrap : ε → QueryError} {outcome : Except ε α}
    {next : α → Asking β} {result : Except QueryError β}
    (h : (ofExcept wrap outcome >>= next).Makes made result) :
    (∃ error, outcome = .error error ∧ made = [] ∧ result = .error (wrap error)) ∨
      ∃ value, outcome = .ok value ∧ (next value).Makes made result := by
  cases outcome with
  | error e =>
      obtain ⟨rfl, rfl⟩ := Query.Makes.of_done h
      exact Or.inl ⟨e, rfl, rfl, rfl⟩
  | ok value => exact Or.inr ⟨value, rfl, h⟩

theorem Makes.of_request {r : Request} {next : r.Answer → Asking β} {result : Except QueryError β}
    (habout : r.file? ≠ none) (h : (request r >>= next).Makes made result) :
    ∃ answer rest, made = r :: rest ∧ (next answer).Makes rest result := by
  cases h with
  | ask answer _ hrest => exact ⟨answer, _, rfl, hrest⟩
  | note _ => exact absurd rfl habout

theorem Makes.of_access {r : Request} {wrap : r.Answer → Except AccessError α}
    {next : α → Asking β} {result : Except QueryError β} (habout : r.file? ≠ none)
    (h : (access (.ask r fun answer => .done (wrap answer)) >>= next).Makes made result) :
    (∃ error, made = [r] ∧ result = .error error) ∨
      ∃ value rest, made = r :: rest ∧ (next value).Makes rest result := by
  cases h with
  | @ask _ _ rest _ answer _ hrest =>
      change (ofExcept .access (wrap answer) >>= next).Makes rest result at hrest
      rcases hrest.of_ofExcept with ⟨error, -, rfl, hresult⟩ | ⟨value, -, hvalue⟩
      · exact Or.inl ⟨_, rfl, hresult⟩
      · exact Or.inr ⟨value, rest, rfl, hvalue⟩
  | note _ => exact absurd rfl habout

end Asking

/-- The lines from one upwards to another one, which is not among them. -/
def descending (last line : Nat) : List Nat :=
  (List.range' (line + 1) (last - line)).reverse

theorem descending_self (line : Nat) : descending line line = [] := by
  simp [descending]

theorem descending_succ {last line : Nat} (h : line ≤ last) :
    descending (last + 1) line = (last + 1) :: descending last line := by
  have hcount : last + 1 - line = (last - line) + 1 := by omega
  have hlast : line + 1 + (last - line) = last + 1 := by omega
  rw [descending, hcount, List.range'_1_concat, List.reverse_append, hlast]
  rfl

theorem mem_descending {last line number : Nat} :
    number ∈ descending last line ↔ line < number ∧ number ≤ last := by
  simp only [descending, List.mem_reverse, List.mem_range'_1]
  omega

namespace Record

/-- The last line of the file that matters for a range. -/
def lastLine (record : Record) (range : Range) : Nat :=
  match range.span with
  | some span => TrackerSettings.lastLine span record.lineCount
  | none => record.lineCount

theorem lastLine_le (record : Record) (range : Range) :
    record.lastLine range ≤ record.lineCount := by
  unfold lastLine
  split
  · exact TrackerSettings.lastLine_le _ _
  · exact le_rfl

/-- A question is settled by what is known, without a look at the file. -/
def Settles (record : Record) (range : Range) (origin : Origin) : Prop :=
  match range.span with
  | some _ =>
      record.cover range origin = .ok true ∨ .ofNat (record.lastLine range) ≤ record.watermark
  | none => record.mention origin = true ∨ record.isComplete = true

theorem settles_of_isComplete {record : Record} (h : record.isComplete = true) (range : Range)
    (origin : Origin) {line : Nat} (hwatermark : record.watermark = .ofNat line) :
    record.Settles range origin := by
  have hlast := record.lastLine_le range
  unfold Settles
  split
  · right
    rw [isComplete, hwatermark, decide_eq_true_iff, Number.ofNat_le_ofNat] at h
    rw [hwatermark, Number.ofNat_le_ofNat]
    omega
  · exact Or.inr h

/-- The requests of a question about a file that is known up to a line, how it ends, and what is
known then. -/
inductive Consulted (record : Record) (line : Nat) (range : Range) (origin : Origin) :
    List Request → Except QueryError Bool → Record → Prop
  | settled {answer : Bool} : record.Settles range origin →
      Consulted record line range origin [] (.ok answer) record
  | faulty {error : RangeError} : record.cover range origin = .error error →
      Consulted record line range origin [] (.error (.range error)) record
  | ownLine {directive : LineDirective} {stop : Nat} : ¬ record.Settles range origin →
      TrackerSettings.endsSearch range.span origin directive = true →
      directive.line = .ofNat (stop + 1) → line ≤ stop → stop < record.lastLine range →
        Consulted record line range origin
          ((descending (record.lastLine range) stop).map (.readLine range.file) ++
            [.remember range.file (record.addInline directive)])
          (.ok true) (record.addInline directive)
  | allBeyond {directives : List LineDirective} {result : Except QueryError Bool} :
      ¬ record.Settles range origin → line < record.lastLine range →
      (∀ directive ∈ directives, ∃ number, line < number ∧ directive.line = .ofNat number) →
        Consulted record line range origin
          ((descending (record.lastLine range) line).map (.readLine range.file) ++
            [.remember range.file (record.commit (record.lastLine range) directives)])
          result (record.commit (record.lastLine range) directives)
  | broken {stop : Nat} {error : QueryError} : ¬ record.Settles range origin → line ≤ stop →
      stop ≤ record.lastLine range →
        Consulted record line range origin
          ((descending (record.lastLine range) stop).map (.readLine range.file)) (.error error)
          record

end Record

namespace TrackerSettings

open Asking

variable {settings : TrackerSettings} {range : Range} {span : Option Span} {origin : Origin}
  {record : Record} {file : Wide} {line last : Nat} {made : List Request}

theorem of_note {α : Type} {text : Wide} {next : Unit → Asking α} {result : Except QueryError α}
    (h : (settings.note text >>= next).Makes made result) : (next ()).Makes made result := by
  unfold note at h
  split at h
  · cases h with
    | ask answer habout _ => exact absurd rfl habout
    | note hrest => exact hrest
  · exact h

theorem directiveAt_makes {number : Nat} {result : Except QueryError (Option LineDirective)}
    (h : (settings.directiveAt file number).Makes made result) :
    made = [.readLine file number] ∧
      ∀ directive, result = .ok (some directive) → directive.line = .ofNat number := by
  unfold directiveAt at h
  rcases h.of_access (by simp [Request.file?]) with ⟨error, rfl, rfl⟩ | ⟨text, rest, rfl, hrest⟩
  · exact ⟨rfl, by simp⟩
  · rcases hrest.of_ofExcept with ⟨error, -, rfl, rfl⟩ | ⟨directive?, -, hdone⟩
    · exact ⟨rfl, by simp⟩
    · obtain ⟨rfl, rfl⟩ := hdone.of_pure
      refine ⟨rfl, ?_⟩
      cases directive? with
      | none => simp
      | some found =>
          rintro directive ⟨⟩
          rfl

/-- Where a search from a last line upwards to a watermark stops, and how. -/
inductive Stops (span : Option Span) (origin : Origin) (line last : Nat) :
    Nat → Except QueryError Found → Prop
  | complete {directives : List LineDirective} :
      (∀ directive ∈ directives, ∃ number, line < number ∧ directive.line = .ofNat number) →
        Stops span origin line last line (.ok (.complete directives))
  | inline {directive : LineDirective} {stop : Nat} : line ≤ stop → stop < last →
      directive.line = .ofNat (stop + 1) → endsSearch span origin directive = true →
        Stops span origin line last stop (.ok (.inline directive))
  | broken {stop : Nat} {error : QueryError} : line ≤ stop →
      Stops span origin line last stop (.error error)

theorem Stops.extend {stop : Nat} {result : Except QueryError Found}
    (h : Stops span origin line last stop result) :
    Stops span origin line (last + 1) stop result := by
  cases h with
  | complete hdirectives => exact .complete hdirectives
  | inline hle hlt hline hends => exact .inline hle (by omega) hline hends
  | broken hle => exact .broken hle

theorem search_makes {found : List LineDirective} {result : Except QueryError Found}
    (hline : line ≤ last)
    (hfound : ∀ directive ∈ found, ∃ number, line < number ∧ directive.line = .ofNat number)
    (h : (settings.search file span origin (.ofNat line) found last).Makes made result) :
    ∃ stop, stop ≤ last ∧ made = (descending last stop).map (.readLine file) ∧
      Stops span origin line last stop result := by
  induction last generalizing found made with
  | zero =>
      obtain rfl := Nat.le_zero.mp hline
      simp only [search, Number.ofNat_lt_ofNat, Nat.lt_irrefl, if_false] at h
      obtain ⟨rfl, rfl⟩ := h.of_pure
      exact ⟨0, le_rfl, by rw [descending_self]; rfl, .complete hfound⟩
  | succ above ih =>
      by_cases hlast : line = above + 1
      · subst hlast
        simp only [search, Number.ofNat_lt_ofNat, Nat.lt_irrefl, if_false] at h
        obtain ⟨rfl, rfl⟩ := h.of_pure
        exact ⟨above + 1, le_rfl, by rw [descending_self]; rfl, .complete hfound⟩
      · have hlt : line < above + 1 := by omega
        have hone : [Request.readLine file (above + 1)] =
            (descending (above + 1) above).map (.readLine file) := by
          rw [descending_succ le_rfl, descending_self]
          rfl
        simp only [search, Number.ofNat_lt_ofNat, hlt, if_true] at h
        rcases h.of_bind with ⟨error, hread, rfl⟩ | ⟨before, directive?, after, hread, hrest, rfl⟩
        · exact ⟨above, by omega, (directiveAt_makes hread).1.trans hone, .broken (by omega)⟩
        · obtain ⟨rfl, hnumber⟩ := directiveAt_makes hread
          -- The search goes on with the line above, whatever has been found on this one.
          have hon {found : List LineDirective} (hfound : ∀ directive ∈ found, ∃ number,
              line < number ∧ directive.line = .ofNat number)
              (hrest : (settings.search file span origin (.ofNat line) found above).Makes after
                result) :
              ∃ stop, stop ≤ above + 1 ∧ [Request.readLine file (above + 1)] ++ after =
                (descending (above + 1) stop).map (.readLine file) ∧
                  Stops span origin line (above + 1) stop result := by
            obtain ⟨stop, hstop, rfl, hstops⟩ := ih (by omega) hfound hrest
            refine ⟨stop, by omega, ?_, hstops.extend⟩
            rw [descending_succ hstop, List.map_cons, List.singleton_append]
          cases directive? with
          | none => exact hon hfound hrest
          | some directive =>
              have hdirective := hnumber directive rfl
              by_cases hends : endsSearch span origin directive = true
              · simp only [hends, if_true] at hrest
                obtain ⟨rfl, rfl⟩ := hrest.of_pure
                exact ⟨above, by omega, hone, .inline (by omega) (by omega) hdirective hends⟩
              · simp only [hends] at hrest
                exact hon (List.forall_mem_cons.mpr ⟨⟨above + 1, hlt, hdirective⟩, hfound⟩) hrest

theorem searchFrom_makes {result : Except QueryError Found} (hline : line ≤ last)
    (h : (settings.searchFrom file span origin (.ofNat line) last).Makes made result) :
    ∃ stop, stop ≤ last ∧ made = (descending last stop).map (.readLine file) ∧
      Stops span origin line last stop result := by
  unfold searchFrom at h
  exact search_makes hline (by simp) (of_note h)

theorem answerLines_makes {span : Span} {result : Except QueryError (Bool × Record)}
    (hspan : range.span = some span) (hwatermark : record.watermark = .ofNat line)
    (h : (settings.answerLines record range span origin).Makes made result) :
    ∃ known, record.Consulted line range origin made (result.map Prod.fst) known ∧
      ∀ value, result = .ok value → value.2 = known := by
  have hlast : lastLine span record.lineCount = record.lastLine range := by
    simp only [Record.lastLine, hspan]
  unfold answerLines at h
  simp only [hlast, hwatermark] at h
  rcases h.of_ofExcept with ⟨error, herror, rfl, rfl⟩ | ⟨covered, hcover, h⟩
  · exact ⟨record, .faulty herror, by simp⟩
  · cases covered with
    | true =>
        obtain ⟨rfl, rfl⟩ := h.of_pure
        refine ⟨record, .settled ?_, by simp⟩
        simp only [Record.Settles, hspan]
        exact Or.inl hcover
    | false =>
        by_cases hlooked : record.lastLine range ≤ line
        · simp only [Bool.false_eq_true, if_false, Number.ofNat_le_ofNat, hlooked, if_true] at h
          obtain ⟨rfl, rfl⟩ := h.of_pure
          refine ⟨record, .settled ?_, by simp⟩
          simp only [Record.Settles, hspan, hwatermark, Number.ofNat_le_ofNat]
          exact Or.inr hlooked
        · have hsettles : ¬ record.Settles range origin := by
            simp [Record.Settles, hspan, hwatermark, hlooked, hcover]
          simp only [Bool.false_eq_true, if_false, Number.ofNat_le_ofNat, hlooked] at h
          rw [not_le] at hlooked
          rcases h.of_bind with ⟨error, hsearch, rfl⟩ | ⟨_, found, after, hsearch, h, rfl⟩
          · obtain ⟨stop, hle, rfl, hstops⟩ := searchFrom_makes hlooked.le hsearch
            cases hstops with
            | broken hstop => exact ⟨record, .broken hsettles hstop hle, by simp⟩
          · obtain ⟨stop, hle, rfl, hstops⟩ := searchFrom_makes hlooked.le hsearch
            cases hstops with
            | complete hdirectives =>
                obtain ⟨-, rest, rfl, hrest⟩ := h.of_request (by simp [Request.file?])
                rw [hlast]
                rcases hrest.of_ofExcept with ⟨error, -, rfl, rfl⟩ | ⟨covered, -, hend⟩
                · exact ⟨_, .allBeyond hsettles hlooked hdirectives, by simp⟩
                · obtain ⟨rfl, rfl⟩ := hend.of_pure
                  exact ⟨_, .allBeyond hsettles hlooked hdirectives, by simp⟩
            | inline hstop hlt hnumber hends =>
                obtain ⟨-, rest, rfl, hrest⟩ := h.of_request (by simp [Request.file?])
                obtain ⟨rfl, rfl⟩ := (of_note hrest).of_pure
                exact ⟨_, .ownLine hsettles (hspan ▸ hends) hnumber hstop hlt, by simp⟩

theorem answerFile_makes {result : Except QueryError (Bool × Record)} (hspan : range.span = none)
    (hwatermark : record.watermark = .ofNat line)
    (h : (settings.answerFile record range.file origin).Makes made result) :
    ∃ known, record.Consulted line range origin made (result.map Prod.fst) known ∧
      ∀ value, result = .ok value → value.2 = known := by
  have hlast : record.lineCount = record.lastLine range := by
    simp only [Record.lastLine, hspan]
  unfold answerFile at h
  by_cases hmentioned : (record.mention origin || record.isComplete) = true
  · simp only [hmentioned, if_true] at h
    obtain ⟨rfl, rfl⟩ := h.of_pure
    refine ⟨record, .settled ?_, by simp⟩
    simpa only [Record.Settles, hspan, Bool.or_eq_true] using hmentioned
  · have hsettles : ¬ record.Settles range origin := by
      simpa only [Record.Settles, hspan, Bool.or_eq_true] using hmentioned
    have hbeyond : line < record.lastLine range := by
      rw [← hlast, ← not_le]
      intro hle
      simp [Record.isComplete, hwatermark, hle] at hmentioned
    simp only [hmentioned, hwatermark] at h
    rw [hlast] at h
    rcases h.of_bind with ⟨error, hsearch, rfl⟩ | ⟨_, found, after, hsearch, h, rfl⟩
    · obtain ⟨stop, hle, rfl, hstops⟩ := searchFrom_makes hbeyond.le hsearch
      cases hstops with
      | broken hstop => exact ⟨record, .broken hsettles hstop hle, by simp⟩
    · obtain ⟨stop, hle, rfl, hstops⟩ := searchFrom_makes hbeyond.le hsearch
      cases hstops with
      | complete hdirectives =>
          obtain ⟨-, rest, rfl, hrest⟩ := h.of_request (by simp [Request.file?])
          obtain ⟨rfl, rfl⟩ := hrest.of_pure
          exact ⟨_, .allBeyond hsettles hbeyond hdirectives, by simp⟩
      | inline _ _ _ hends => simp [endsSearch] at hends

/-- What is asked for at the end of a question. -/
def closing (file : Wide) (result : Except QueryError Bool) (known : Record) : List Request :=
  match result with
  | .ok _ => if known.isComplete then [.release file] else []
  | .error _ => []

/-- All that is asked for once it is known what there is to know to begin with. -/
theorem answerFrom_makes {result : Except QueryError Bool}
    (hwatermark : record.watermark = .ofNat line)
    (h : (settings.answerFrom range origin record).Makes made result) :
    ∃ asked known, record.Consulted line range origin asked result known ∧
      made = asked ++ closing range.file result known := by
  -- However the answer is found, the file is released if it is known to the end.
  have hfinish {asking : Asking (Bool × Record)}
      (hanswer : ∀ {made result}, asking.Makes made result →
        ∃ known, record.Consulted line range origin made (result.map Prod.fst) known ∧
          ∀ value, result = .ok value → value.2 = known)
      (h : (asking >>= fun found => do
        if found.2.isComplete then Asking.request (.release range.file)
        return found.1).Makes made result) :
      ∃ asked known, record.Consulted line range origin asked result known ∧
        made = asked ++ closing range.file result known := by
    rcases h.of_bind with ⟨error, hasked, rfl⟩ | ⟨asked, value, after, hasked, hend, rfl⟩
    · obtain ⟨known, hconsulted, -⟩ := hanswer hasked
      exact ⟨made, known, hconsulted, (List.append_nil made).symm⟩
    · obtain ⟨known, hconsulted, hknown⟩ := hanswer hasked
      obtain rfl := hknown value rfl
      by_cases hcomplete : value.2.isComplete = true
      · simp only [hcomplete, if_true] at hend
        obtain ⟨-, rest, rfl, hrest⟩ := hend.of_request (by simp [Request.file?])
        obtain ⟨rfl, rfl⟩ := hrest.of_pure
        exact ⟨asked, value.2, hconsulted, by simp [closing, hcomplete]⟩
      · simp only [hcomplete] at hend
        obtain ⟨rfl, rfl⟩ := hend.of_pure
        exact ⟨asked, value.2, hconsulted, by simp [closing, hcomplete]⟩
  unfold answerFrom at h
  cases hspan : range.span with
  | some span =>
      simp only [hspan] at h
      exact hfinish (answerLines_makes hspan hwatermark) h
  | none =>
      simp only [hspan] at h
      exact hfinish (answerFile_makes hspan hwatermark) h

end TrackerSettings

end Suppression

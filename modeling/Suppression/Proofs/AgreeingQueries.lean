import Suppression.Proofs.LineNumber
import Suppression.Tracker.Answer

namespace Suppression

namespace Request

/-- The file that a request is about; a note is about none. -/
def file? : Request → Option Wide
  | known file => some file
  | remember file _ => some file
  | fingerprint file => some file
  | lineCount file => some file
  | readLine file _ => some file
  | release file => some file
  | load file _ => some file
  | note _ => none

def IsAbout (file : Wide) (r : Request) : Prop :=
  r.file? = some file

/-- The request leaves alone what is known up to a watermark: no line up to it is read, and what is
remembered reaches no less far. -/
def IsBeyond (watermark : Number) : Request → Prop
  | readLine _ line => watermark < .ofNat line
  | remember _ record => record.watermark = watermark ∨
      ∃ last, record.watermark = .ofNat last ∧ ¬ Number.ofNat last ≤ watermark
  | _ => True

end Request

namespace Query

variable {α β : Type} {p : Request → Prop}

/-- Two computations ask for the same, which is of some kind, and have the same results. Notes do
not count. -/
inductive Agree (p : Request → Prop) : Query α → Query α → Prop
  | done (result : α) : Agree p (.done result) (.done result)
  | ask {r : Request} {next next' : r.Answer → Query α} :
      p r → (∀ answer, Agree p (next answer) (next' answer)) →
        Agree p (.ask r next) (.ask r next')
  | noteLeft {text : Wide} {next : Unit → Query α} {query : Query α} :
      Agree p (next ()) query → Agree p (.ask (.note text) next) query
  | noteRight {text : Wide} {next : Unit → Query α} {query : Query α} :
      Agree p query (next ()) → Agree p query (.ask (.note text) next)

theorem Agree.bind {query query' : Query α} {next next' : α → Query β} (h : Agree p query query')
    (hnext : ∀ result, Agree p (next result) (next' result)) :
    Agree p (query.bind next) (query'.bind next') := by
  induction h with
  | done result => exact hnext result
  | ask hr _ ih => exact .ask hr ih
  | noteLeft _ ih => exact .noteLeft ih
  | noteRight _ ih => exact .noteRight ih

theorem Agree.mono {q : Request → Prop} {query query' : Query α} (h : Agree p query query')
    (hpq : ∀ r, p r → q r) : Agree q query query' := by
  induction h with
  | done result => exact .done result
  | ask hr _ ih => exact .ask (hpq _ hr) ih
  | noteLeft _ ih => exact .noteLeft ih
  | noteRight _ ih => exact .noteRight ih

/-- All requests of a computation but its notes are of some kind, whatever is answered to them. -/
def Uses (p : Request → Prop) : Query α → Prop
  | done _ => True
  | ask r next => (∀ file, r.file? = some file → p r) ∧ ∀ answer, Uses p (next answer)

theorem Agree.uses {query query' : Query α} (h : Agree p query query') : query.Uses p := by
  induction h with
  | done result => trivial
  | ask hr _ ih => exact ⟨fun _ _ => hr, ih⟩
  | noteLeft _ ih => exact ⟨fun _ hnote => by simp [Request.file?] at hnote, fun _ => ih⟩
  | noteRight _ ih => exact ih

theorem Uses.agree {query : Query α} (h : query.Uses p) : Agree p query query := by
  induction query with
  | done result => exact .done result
  | ask r next ih =>
      obtain ⟨hr, hnext⟩ := h
      cases r with
      | note text => exact .noteLeft (.noteRight (ih () (hnext ())))
      | _ => exact .ask (hr _ rfl) fun answer => ih answer (hnext answer)

theorem Uses.run_keeps {σ : Type} {handle : (r : Request) → σ → r.Answer × σ} {query : Query α}
    (h : query.Uses p) {I : σ → Prop} (hstep : ∀ r state,
      (∀ file, r.file? = some file → p r) → I state → I (handle r state).2) {state : σ}
    (hstate : I state) : I (run handle query state).2 := by
  induction query generalizing state with
  | done result => exact hstate
  | ask r next ih => exact ih _ (h.2 _) (hstep r state h.1 hstate)

end Query

namespace Asking

variable {α β : Type} {p : Request → Prop}

def Agree (p : Request → Prop) (asking asking' : Asking α) : Prop :=
  Query.Agree p asking.run asking'.run

theorem Agree.pure (result : α) : Agree p (pure result : Asking α) (pure result) :=
  .done _

theorem Agree.bind {asking asking' : Asking α} {next next' : α → Asking β}
    (h : Agree p asking asking') (hnext : ∀ result, Agree p (next result) (next' result)) :
    Agree p (asking >>= next) (asking' >>= next') := by
  refine Query.Agree.bind h fun result => ?_
  cases result with
  | error e => exact .done _
  | ok result => exact hnext result

theorem Agree.request {r : Request} (hr : p r) : Agree p (request r) (request r) :=
  .ask hr fun _ => .done _

theorem Agree.ofExcept {ε : Type} (wrap : ε → QueryError) (result : Except ε α) :
    Agree p (ofExcept wrap result) (ofExcept wrap result) :=
  .done _

theorem Agree.access {r : Request} {wrap : r.Answer → Except AccessError α} (hr : p r) :
    Agree p (access (.ask r fun answer => .done (wrap answer)))
      (access (.ask r fun answer => .done (wrap answer))) :=
  .ask hr fun _ => .done _

end Asking

namespace TrackerSettings

open Asking

variable {p : Request → Prop} {settings other : TrackerSettings}

theorem note_agree (settings other : TrackerSettings) (text : Wide) :
    Agree p (settings.note text) (other.note text) := by
  unfold note
  split <;> split
  · exact .noteLeft (.noteRight (.done _))
  · exact .noteLeft (.done _)
  · exact .noteRight (.done _)
  · exact .done _

section resolve

variable {file : Wide}

theorem seed_agree (settings other : TrackerSettings) (file : Wide) (fingerprint : String)
    (lineCount : Nat) :
    Agree (Request.IsAbout file) (settings.seed file fingerprint lineCount)
      (other.seed file fingerprint lineCount) := by
  unfold seed
  refine .bind (.request rfl) fun found => ?_
  rcases found with e | snapshot
  · exact .bind (note_agree _ _ _) fun _ => .pure _
  · cases snapshot with
    | none => exact .pure _
    | some snapshot =>
        dsimp only
        split
        · exact .bind (note_agree _ _ _) fun _ => .pure _
        · exact .bind (note_agree _ _ _) fun _ => .pure _

theorem resolve_agree (settings other : TrackerSettings) (file : Wide) :
    Agree (Request.IsAbout file) (settings.resolve file) (other.resolve file) := by
  unfold resolve
  refine .bind (.request rfl) fun known => ?_
  cases known with
  | some record => exact .pure _
  | none =>
      refine .bind (.access rfl) fun fingerprint => .bind (.access rfl) fun lineCount => ?_
      refine .bind (seed_agree settings other file fingerprint lineCount) fun snapshot => ?_
      exact .bind (.request rfl) fun _ => .pure _

end resolve

/-- How a question is answered from what is known about its file, and further reading. -/
def answerFrom (settings : TrackerSettings) (range : Range) (origin : Origin) (record : Record) :
    Asking Bool := do
  let (ignored, record) ← match range.span with
    | some span => settings.answerLines record range span origin
    | none => settings.answerFile record range.file origin
  if record.isComplete then Asking.request (.release range.file)
  return ignored

theorem answer_eq (settings : TrackerSettings) (range : Range) (origin : Origin) :
    settings.answer range origin =
      (settings.resolve range.file >>= settings.answerFrom range origin) := rfl

section answerFrom

variable {file : Wide} {watermark : Number}

/-- A request about one file, beyond a watermark. -/
def GoesOn (file : Wide) (watermark : Number) (r : Request) : Prop :=
  r.IsAbout file ∧ r.IsBeyond watermark

theorem directiveAt_agree (hmatcher : other.matcher = settings.matcher) {line : Nat}
    (hline : watermark < .ofNat line) :
    Agree (GoesOn file watermark) (settings.directiveAt file line)
      (other.directiveAt file line) := by
  unfold directiveAt
  rw [hmatcher]
  exact .bind (.access ⟨rfl, hline⟩) fun _ => .bind (.ofExcept _ _) fun _ => .pure _

theorem search_agree (hmatcher : other.matcher = settings.matcher) (span : Option Span)
    (origin : Origin) (found : List LineDirective) (line : Nat) :
    Agree (GoesOn file watermark) (settings.search file span origin watermark found line)
      (other.search file span origin watermark found line) := by
  induction line generalizing found with
  | zero =>
      unfold search
      split
      · next hline =>
          exact .bind (directiveAt_agree hmatcher hline) fun _ => .pure _
      · exact .pure _
  | succ above ih =>
      unfold search
      split
      · next hline =>
          refine .bind (directiveAt_agree hmatcher hline) fun directive? => ?_
          cases directive? with
          | none => exact ih found
          | some directive =>
              dsimp only
              split
              · exact .pure _
              · exact ih _
      · exact .pure _

theorem searchFrom_agree (hmatcher : other.matcher = settings.matcher) (span : Option Span)
    (origin : Origin) (last : Nat) :
    Agree (GoesOn file watermark) (settings.searchFrom file span origin watermark last)
      (other.searchFrom file span origin watermark last) :=
  .bind (note_agree _ _ _) fun _ => search_agree hmatcher span origin [] last

theorem answerLines_agree (hmatcher : other.matcher = settings.matcher) (record : Record)
    (range : Range) (span : Span) (origin : Origin) :
    Agree (GoesOn range.file record.watermark) (settings.answerLines record range span origin)
      (other.answerLines record range span origin) := by
  unfold answerLines
  refine .bind (.ofExcept _ _) fun covered => ?_
  cases covered with
  | true => exact .pure _
  | false =>
      simp only [Bool.false_eq_true, if_false]
      by_cases hlast : Number.ofNat (lastLine span record.lineCount) ≤ record.watermark
      · simp only [hlast, if_true]
        exact .pure _
      · simp only [hlast, if_false]
        refine .bind (searchFrom_agree hmatcher _ _ _) fun found => ?_
        cases found with
        | inline directive =>
            refine .bind (.request ⟨rfl, Or.inl rfl⟩) fun _ => ?_
            exact .bind (note_agree _ _ _) fun _ => .pure _
        | complete directives =>
            refine .bind (.request ⟨rfl, Or.inr ⟨_, rfl, hlast⟩⟩) fun _ => ?_
            exact .bind (.ofExcept _ _) fun _ => .pure _

theorem answerFile_agree (hmatcher : other.matcher = settings.matcher) (record : Record)
    (origin : Origin) :
    Agree (GoesOn file record.watermark) (settings.answerFile record file origin)
      (other.answerFile record file origin) := by
  unfold answerFile
  split
  · exact .pure _
  · next hneither =>
      refine .bind (searchFrom_agree hmatcher _ _ _) fun found => ?_
      cases found with
      | inline directive => exact .pure _
      | complete directives =>
          refine .bind (.request ⟨rfl, Or.inr ⟨_, rfl, ?_⟩⟩) fun _ => .pure _
          intro hle
          simp [Record.isComplete, hle] at hneither

theorem answerFrom_agree (hmatcher : other.matcher = settings.matcher) (range : Range)
    (origin : Origin) (record : Record) :
    Agree (GoesOn range.file record.watermark) (settings.answerFrom range origin record)
      (other.answerFrom range origin record) := by
  have hfinish (result : Bool × Record) : Agree (GoesOn range.file record.watermark)
      (do if result.2.isComplete then Asking.request (.release range.file)
          return result.1)
      (do if result.2.isComplete then Asking.request (.release range.file)
          return result.1) := by
    split
    · exact .bind (.request ⟨rfl, trivial⟩) fun _ => .pure _
    · exact .pure _
  unfold answerFrom
  cases range.span with
  | some span => exact .bind (answerLines_agree hmatcher record range span origin) hfinish
  | none => exact .bind (answerFile_agree hmatcher record origin) hfinish

end answerFrom

theorem answer_agree (hmatcher : other.matcher = settings.matcher) (range : Range)
    (origin : Origin) :
    Agree (Request.IsAbout range.file) (settings.answer range origin)
      (other.answer range origin) := by
  rw [answer_eq, answer_eq]
  refine .bind (resolve_agree settings other range.file) fun record => ?_
  exact (answerFrom_agree hmatcher range origin record).mono fun _ h => h.1

end TrackerSettings

end Suppression

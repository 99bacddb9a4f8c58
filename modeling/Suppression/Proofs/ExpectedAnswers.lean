import Suppression.Proofs.Rejection
import Suppression.Proofs.StorableRecord

namespace Suppression

/-- Directives that the matcher has found on lines after one and up to another, in ascending order.
-/
inductive Matcher.Gathered (matcher : Matcher) : Nat → Nat → List LineDirective → Prop
  | nil {line last : Nat} : line ≤ last → Gathered matcher line last []
  | cons {line number last : Nat} {text : String} {directive : LineDirective}
      {later : List LineDirective} : line < number → directive.line = .ofNat number →
      matcher text = .ok (some directive.toDirective) → Gathered matcher number last later →
        Gathered matcher line last (directive :: later)

namespace Matcher.Gathered

variable {matcher : Matcher} {line last : Nat} {directives : List LineDirective}

theorem le (h : matcher.Gathered line last directives) : line ≤ last := by
  induction h with
  | nil hle => exact hle
  | cons hlt _ _ _ ih => exact hlt.le.trans ih

theorem lower (h : matcher.Gathered line last directives) {earlier : Nat} (hle : earlier ≤ line) :
    matcher.Gathered earlier last directives := by
  cases h with
  | nil hlast => exact .nil (hle.trans hlast)
  | cons hlt hnumber hmatch hlater => exact .cons (hle.trans_lt hlt) hnumber hmatch hlater

theorem names (h : matcher.Gathered line last directives) {P : Target → Prop}
    (hmatcher : matcher.Names P) : ∀ directive ∈ directives, ∀ target ∈ directive.targets,
      P target := by
  induction h with
  | nil _ => simp
  | cons _ _ hmatch _ ih => exact List.forall_mem_cons.mpr ⟨hmatcher _ _ hmatch, ih⟩

theorem placed (h : matcher.Gathered line last directives) {intervals : Intervals}
    (hplaced : intervals.Placed line) (hexact : last < 2 ^ 53) :
    (intervals.applyAll directives).Placed last := by
  induction h generalizing intervals with
  | nil hle => exact fun interval hmem => (hplaced interval hmem).mono hle
  | cons hlt hnumber _ hlater ih =>
      exact ih (hplaced.apply hlt (hlater.le.trans_lt hexact) hnumber) hexact

end Matcher.Gathered

/-- A property of what is known about a file that a first look at the file gives and that every way
of extending it keeps. -/
structure Record.Lasts (matcher : Matcher) (P : Record → Prop) : Prop where
  cold : ∀ fingerprint lineCount, fingerprint ≠ "" → lineCount < 2 ^ 53 →
    P (.cold fingerprint lineCount)
  watermark : ∀ record, P record → ∃ line, record.watermark = .ofNat line
  addInline : ∀ record line text directive number, P record → record.watermark = .ofNat line →
    line < number → number ≤ record.lineCount → directive.line = .ofNat number →
    matcher text = .ok (some directive.toDirective) → P (record.addInline directive)
  commit : ∀ record line last directives, P record → record.watermark = .ofNat line →
    line < last → last ≤ record.lineCount → matcher.Gathered line last directives →
      P (record.commit last directives)

namespace Request

/-- What is known about a file has a property, and so has what is stored of it, once it is taken
over for a file with as many lines. The counts of lines are exact. -/
def Expects (P : Record → Prop) : (r : Request) → r.Answer → Prop
  | known _, answer => ∀ record, answer = some record → P record
  | fingerprint _, answer => ∀ digest, answer = .ok digest → digest ≠ ""
  | lineCount _, answer => ∀ count, answer = .ok count → count < 2 ^ 53
  | load _ saved, answer => ∀ (digest : String) snapshot count, saved = digest →
      answer = .ok (some snapshot) → count < 2 ^ 53 →
        ¬ Number.ofNat count < snapshot.watermark → P (.ofSnapshot digest count snapshot)
  | _, _ => True

/-- What is remembered has a property. -/
def Grants (P : Record → Prop) : Request → Prop
  | remember _ record => P record
  | _ => True

end Request

namespace Query

variable {α β : Type} {P : Record → Prop} {q : α → Prop}

/-- As long as its requests are answered as expected, a computation remembers only what has a
property, and has a result of some kind. -/
def Honors (P : Record → Prop) (q : α → Prop) : Query α → Prop
  | done result => q result
  | ask r next => r.Grants P ∧ ∀ answer, r.Expects P answer → (next answer).Honors P q

theorem Honors.bind {query : Query α} {next : α → Query β} {q' : β → Prop} (h : query.Honors P q)
    (hnext : ∀ result, q result → (next result).Honors P q') :
    (query.bind next).Honors P q' := by
  induction query with
  | done result => exact hnext result h
  | ask r answer ih => exact ⟨h.1, fun a ha => ih a (h.2 a ha)⟩

/-- The run lemma: what answers the requests keeps to what is expected of it. -/
theorem Honors.run {σ : Type} {handle : (r : Request) → σ → r.Answer × σ} {I : σ → Prop}
    {p : Request → Prop} {query : Query α} (h : query.Honors P q) (huses : query.Uses p)
    (hstep : ∀ r state, (∀ file, r.file? = some file → p r) → r.Grants P → I state →
      r.Expects P (handle r state).1 ∧ I (handle r state).2) {state : σ} (hstate : I state) :
    I (query.run handle state).2 := by
  induction query generalizing state with
  | done result => exact hstate
  | ask r next ih =>
      obtain ⟨hanswer, hafter⟩ := hstep r state huses.1 h.1 hstate
      exact ih _ (h.2 _ hanswer) (huses.2 _) hafter

end Query

namespace Asking

variable {α β : Type} {P : Record → Prop} {q : α → Prop}

def Honors (P : Record → Prop) (q : α → Prop) (asking : Asking α) : Prop :=
  asking.run.Honors P fun result => ∀ value, result = .ok value → q value

theorem Honors.pure {value : α} (h : q value) : Honors P q (pure value : Asking α) := by
  rintro _ ⟨⟩
  exact h

theorem Honors.ofExcept {ε : Type} (wrap : ε → QueryError) (result : Except ε α) :
    Honors P (fun value => result = .ok value) (ofExcept wrap result) := by
  intro value h
  cases result with
  | ok value' => exact congrArg Except.ok (Except.ok.inj h)
  | error e => exact nomatch h

theorem Honors.request {r : Request} (hr : r.Grants P) :
    Honors P (r.Expects P) (request r) := by
  refine ⟨hr, fun answer hanswer => ?_⟩
  rintro _ ⟨⟩
  exact hanswer

theorem Honors.access {r : Request} {wrap : r.Answer → Except AccessError α} (hr : r.Grants P)
    (hwrap : ∀ answer value, r.Expects P answer → wrap answer = .ok value → q value) :
    Honors P q (access (.ask r fun answer => .done (wrap answer))) := by
  refine ⟨hr, fun answer hanswer value hvalue => ?_⟩
  cases hresult : wrap answer with
  | error e =>
      rw [hresult] at hvalue
      exact nomatch hvalue
  | ok value' =>
      rw [hresult] at hvalue
      obtain rfl : value' = value := Except.ok.inj hvalue
      exact hwrap answer value' hanswer hresult

theorem Honors.bind {asking : Asking α} {next : α → Asking β} {q' : β → Prop}
    (h : asking.Honors P q) (hnext : ∀ value, q value → (next value).Honors P q') :
    Honors P q' (asking >>= next) := by
  refine Query.Honors.bind h fun result hresult => ?_
  cases result with
  | error e => exact fun value h => nomatch h
  | ok value => exact hnext value (hresult value rfl)

end Asking

/-- What a search finds: a directive on a line after the watermark, or all directives on these
lines. -/
def Found.IsGathered (matcher : Matcher) (watermark last : Nat) : Found → Prop
  | inline directive => ∃ number text, watermark < number ∧ number ≤ last ∧
      directive.line = .ofNat number ∧ matcher text = .ok (some directive.toDirective)
  | complete directives => matcher.Gathered watermark last directives

namespace TrackerSettings

open Asking

variable {P : Record → Prop} {settings : TrackerSettings} {file : Wide} {origin : Origin}
  {record : Record}

theorem note_honors (settings : TrackerSettings) (text : Wide) :
    Honors P (fun _ => True) (settings.note text) := by
  unfold note
  split
  · exact ⟨trivial, fun _ _ _ _ => trivial⟩
  · exact .pure trivial

theorem seed_honors (settings : TrackerSettings) (file : Wide) (fingerprint : String)
    {lineCount : Nat} (hcount : lineCount < 2 ^ 53) :
    Honors P (fun snapshot? => ∀ snapshot, snapshot? = some snapshot →
      P (.ofSnapshot fingerprint lineCount snapshot))
      (settings.seed file fingerprint lineCount) := by
  unfold seed
  refine Honors.bind (.request (r := .load file fingerprint) trivial) fun answer hanswer => ?_
  cases answer with
  | error e => exact (note_honors settings _).bind fun _ _ => .pure (by simp)
  | ok snapshot? =>
      cases snapshot? with
      | none => exact .pure (by simp)
      | some snapshot =>
          dsimp only
          split
          · exact (note_honors settings _).bind fun _ _ => .pure (by simp)
          · next hwithin =>
              refine (note_honors settings _).bind fun _ _ => .pure ?_
              rintro _ ⟨⟩
              dsimp only [Request.Expects] at hanswer
              exact hanswer fingerprint snapshot lineCount rfl rfl hcount hwithin

theorem resolve_honors (h : Record.Lasts settings.matcher P) (file : Wide) :
    Honors P P (settings.resolve file) := by
  unfold resolve
  refine Honors.bind (.request (r := .known file) trivial) fun known hknown => ?_
  dsimp only [Request.Expects] at hknown
  cases known with
  | some record => exact .pure (hknown record rfl)
  | none =>
      refine Honors.bind (q := fun digest => digest ≠ "") (.access (r := .fingerprint file) trivial
        fun answer digest hanswer hdigest => hanswer digest hdigest) fun digest hdigest => ?_
      refine Honors.bind (q := fun count => count < 2 ^ 53) (.access (r := .lineCount file) trivial
        fun answer count hanswer hcount => hanswer count hcount) fun count hcount => ?_
      refine (seed_honors settings file digest hcount).bind fun snapshot? hsnapshot => ?_
      have hremember (record : Record) (hrecord : P record) :
          Honors P P (do
            Asking.request (.remember file record)
            return record) :=
        Honors.bind (.request (r := .remember file record) hrecord) fun _ _ => .pure hrecord
      cases snapshot? with
      | some snapshot => exact hremember _ (hsnapshot snapshot rfl)
      | none => exact hremember _ (h.cold digest count hdigest hcount)

theorem search_honors (settings : TrackerSettings) (file : Wide) (span : Option Span)
    (origin : Origin) {watermark last line : Nat} {found : List LineDirective}
    (hfound : settings.matcher.Gathered line last found) (hline : watermark ≤ line) :
    Honors P (Found.IsGathered settings.matcher watermark last)
      (settings.search file span origin (.ofNat watermark) found line) := by
  induction line generalizing found with
  | zero =>
      rw [search]
      simp only [Number.ofNat_lt_ofNat, Nat.not_lt_zero, if_false]
      exact .pure (hfound.lower hline)
  | succ above ih =>
      rw [search]
      simp only [Number.ofNat_lt_ofNat]
      split
      · next hlt =>
          have hread : Honors P (fun directive? : Option LineDirective => ∀ directive,
              directive? = some directive → directive.line = .ofNat (above + 1) ∧
                ∃ text, settings.matcher text = .ok (some directive.toDirective))
              (settings.directiveAt file (above + 1)) := by
            refine Honors.bind (q := fun _ => True)
              (.access (r := .readLine file (above + 1)) trivial fun _ _ _ _ => trivial)
              fun text _ => ?_
            refine (Honors.ofExcept _ _).bind fun directive? hmatch => .pure ?_
            rintro directive hdirective
            obtain ⟨found, rfl, rfl⟩ := Option.map_eq_some_iff.mp hdirective
            exact ⟨rfl, text, hmatch⟩
          refine hread.bind fun directive? hdirective => ?_
          cases directive? with
          | none => exact ih (hfound.lower (Nat.le_succ above)) (by omega)
          | some directive =>
              obtain ⟨hnumber, text, hmatch⟩ := hdirective directive rfl
              dsimp only
              split
              · exact .pure ⟨above + 1, text, hlt, hfound.le, hnumber, hmatch⟩
              · exact ih (.cons (Nat.lt_succ_self above) hnumber hmatch hfound) (by omega)
      · exact .pure (hfound.lower hline)

theorem searchFrom_honors (settings : TrackerSettings) (file : Wide) (span : Option Span)
    (origin : Origin) {watermark last : Nat} (hlast : watermark ≤ last) :
    Honors P (Found.IsGathered settings.matcher watermark last)
      (settings.searchFrom file span origin (.ofNat watermark) last) :=
  (note_honors settings _).bind fun _ _ =>
    search_honors settings file span origin (.nil le_rfl) hlast

theorem answerLines_honors (h : Record.Lasts settings.matcher P) (hrecord : P record)
    (range : Range) (span : Span) (origin : Origin) :
    Honors P (fun _ => True) (settings.answerLines record range span origin) := by
  obtain ⟨line, hline⟩ := h.watermark record hrecord
  unfold answerLines
  refine (Honors.ofExcept _ _).bind fun covered _ => ?_
  split
  · exact .pure trivial
  · simp only [hline, Number.ofNat_le_ofNat]
    split
    · exact .pure trivial
    · next hbeyond =>
        rw [not_le] at hbeyond
        have hlast := lastLine_le span record.lineCount
        refine (searchFrom_honors settings range.file (some span) origin hbeyond.le).bind
          fun found hfound => ?_
        cases found with
        | inline directive =>
            obtain ⟨number, text, hlt, hle, hnumber, hmatch⟩ := hfound
            have hafter := h.addInline record line text directive number hrecord hline hlt
              (hle.trans hlast) hnumber hmatch
            refine Honors.bind (.request (r := .remember range.file _) hafter) fun _ _ => ?_
            exact (note_honors settings _).bind fun _ _ => .pure trivial
        | complete directives =>
            have hafter := h.commit record line _ directives hrecord hline hbeyond hlast hfound
            refine Honors.bind (.request (r := .remember range.file _) hafter) fun _ _ => ?_
            exact (Honors.ofExcept _ _).bind fun _ _ => .pure trivial

theorem answerFile_honors (h : Record.Lasts settings.matcher P) (hrecord : P record)
    (file : Wide) (origin : Origin) :
    Honors P (fun _ => True) (settings.answerFile record file origin) := by
  obtain ⟨line, hline⟩ := h.watermark record hrecord
  unfold answerFile
  split
  · exact .pure trivial
  · next hsilent =>
      have hbeyond : line < record.lineCount := by
        rw [← not_le]
        intro hle
        simp [Record.isComplete, hline, hle] at hsilent
      rw [hline]
      refine (searchFrom_honors settings file none origin hbeyond.le).bind fun found hfound => ?_
      cases found with
      | inline directive => exact .pure trivial
      | complete directives =>
          have hafter := h.commit record line _ directives hrecord hline hbeyond le_rfl hfound
          exact Honors.bind (.request (r := .remember file _) hafter) fun _ _ => .pure trivial

/-- A question remembers only what has the property. -/
theorem answer_honors (h : Record.Lasts settings.matcher P) (range : Range) (origin : Origin) :
    Honors P (fun _ => True) (settings.answer range origin) := by
  have hfinish (result : Bool × Record) : Honors P (fun _ => True)
      (do if result.2.isComplete then Asking.request (.release range.file)
          return result.1) := by
    split
    · exact Honors.bind (.request (r := .release range.file) trivial) fun _ _ => .pure trivial
    · exact .pure trivial
  rw [answer_eq]
  refine (resolve_honors h range.file).bind fun record hrecord => ?_
  unfold answerFrom
  cases range.span with
  | some span => exact (answerLines_honors h hrecord range span origin).bind fun _ _ => hfinish _
  | none => exact (answerFile_honors h hrecord range.file origin).bind fun _ _ => hfinish _

end TrackerSettings

end Suppression

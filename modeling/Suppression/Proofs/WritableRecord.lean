import Suppression.Proofs.CacheDocument
import Suppression.Proofs.KnownRecord
import Suppression.Proofs.PlainTarget
import Suppression.Proofs.StopEffect

namespace Suppression

/-- All targets that the matcher finds are of some kind. -/
def Matcher.Names (P : Target → Prop) (matcher : Matcher) : Prop :=
  ∀ line directive, matcher line = .ok (some directive) → ∀ target ∈ directive.targets, P target

abbrev Matcher.NamesWritable (matcher : Matcher) : Prop :=
  matcher.Names Target.IsWritable

theorem Target.IsPlain.isWritable {target : Target} (h : target.IsPlain) : target.IsWritable :=
  fun _ => h.ruleFirst

theorem Matcher.standard_namesPlain : standard.Names Target.IsPlain := by
  intro line directive hmatch
  unfold standard ofGrammar at hmatch
  split at hmatch
  · simp at hmatch
  · next kind text hfind =>
      cases hflat : Grammar.flat? text.toList with
      | none => simp [Grammar.flat, hflat, Except.map] at hmatch
      | some targets =>
          obtain rfl : { kind, targets } = directive := by
            simpa [Grammar.flat, hflat, Except.map] using hmatch
          exact Grammar.arePlain_of_flat? hflat

theorem Matcher.standard_namesWritable : standard.NamesWritable :=
  fun line directive hmatch target hmem =>
    (standard_namesPlain line directive hmatch target hmem).isWritable

theorem Matcher.Names.of_mem {P : Target → Prop} {matcher : Matcher} (h : matcher.Names P)
    {lines : List (List Char)} {number : Nat} {directives : List LineDirective}
    (hdirectives : matcher.inLinesFrom number lines = .ok directives) :
    ∀ directive ∈ directives, ∀ target ∈ directive.targets, P target := by
  intro directive hmem
  induction lines generalizing number directives with
  | nil =>
      obtain rfl : directives = [] := by simpa [inLinesFrom, eq_comm] using hdirectives
      simp at hmem
  | cons line rest ih =>
      obtain ⟨directive?, others, hmatch, hrest, rfl⟩ := inLinesFrom_cons.mp hdirectives
      rcases List.mem_append.mp hmem with hfirst | hlater
      · cases directive? with
        | none => simp at hfirst
        | some found =>
            obtain rfl : directive = found.onLine number := by simpa using hfirst
            exact h _ found hmatch
      · exact ih hrest hlater

theorem Interval.mem_targets_of_stop {line : Number} {targets : Targets} {interval : Interval} :
    (∀ target ∈ (stop line targets interval).1.targets, target ∈ interval.targets) ∧
      ∀ next, (stop line targets interval).2 = some next →
        ∀ target ∈ next.targets, target ∈ interval.targets := by
  refine ⟨fun target hmem => stop_targets line targets interval ▸ hmem, ?_⟩
  intro next hnext target hmem
  obtain ⟨remaining, heffect, rfl⟩ := exists_narrow_of_stop_snd hnext
  obtain ⟨rfl, -⟩ := Targets.eq_of_narrow heffect
  exact (Targets.mem_without.mp hmem).1

namespace Intervals

/-- All targets of the intervals are of some kind. -/
def Name (P : Target → Prop) (intervals : Intervals) : Prop :=
  ∀ interval ∈ intervals, ∀ target ∈ interval.targets, P target

variable {P : Target → Prop} {intervals : Intervals}

theorem Name.apply (h : intervals.Name P) {directive : LineDirective}
    (hnew : ∀ target ∈ directive.targets, P target) : (intervals.apply directive).Name P := by
  intro interval hmem
  rcases mem_apply hmem with hold | ⟨-, rfl⟩ | ⟨-, rfl⟩ | ⟨-, old, hold, rfl | hnext⟩
  · exact h interval hold
  · exact hnew
  · exact hnew
  · exact fun target ht => h old hold target (Interval.mem_targets_of_stop.1 target ht)
  · intro target ht
    exact h old hold target (Interval.mem_targets_of_stop.2 interval hnext target ht)

theorem Name.applyAll (h : intervals.Name P) {directives : List LineDirective}
    (hnew : ∀ directive ∈ directives, ∀ target ∈ directive.targets, P target) :
    (intervals.applyAll directives).Name P := by
  induction directives generalizing intervals with
  | nil => exact h
  | cons directive rest ih =>
      obtain ⟨hfirst, hrest⟩ := List.forall_mem_cons.mp hnew
      exact ih (h.apply hfirst) hrest

end Intervals

theorem Interval.Within.isWritable {line : Nat} {interval : Interval} (h : interval.Within line)
    (hline : line < 2 ^ 53) (htargets : ∀ target ∈ interval.targets, target.IsWritable) :
    interval.IsWritable := by
  cases h with
  | unclosed targets hpos hle =>
      exact ⟨Json.numberReads_ofNat (by omega), by simp [Interval.opened], htargets, .refl _⟩
  | closed targets hpos hordered hle =>
      refine ⟨Json.numberReads_ofNat (by omega), ?_, htargets, .refl _⟩
      intro number hnumber
      obtain rfl := IntervalEnd.line.inj hnumber
      exact Json.numberReads_ofNat (by omega)
  | inline targets hpos hle =>
      refine ⟨Json.numberReads_ofNat (by omega), ?_, htargets, .refl _⟩
      intro number hnumber
      obtain rfl := IntervalEnd.line.inj hnumber
      exact Json.numberReads_ofNat (by omega)

theorem Record.Knows.isWritable {matcher : Matcher} {text : String} {record : Record}
    (h : record.Knows matcher text) (hheld : text.length < 2 ^ 53)
    (hmatcher : matcher.NamesWritable) : record.entry.snapshot.IsWritable := by
  obtain ⟨line, hline, hwatermark, htell⟩ := h.watermark
  have hlines := lines_lt hheld
  rw [h.lineCount] at hline
  refine ⟨?_, fun interval hmem => ?_⟩
  · change Json.NumberReads record.watermark
    rw [hwatermark]
    exact Json.numberReads_ofNat (by omega)
  · refine (htell.within hlines hline interval hmem).isWritable hlines ?_
    obtain ⟨directives, ahead, hdirectives, hahead, hperm⟩ := htell.parts
    rcases List.mem_append.mp (hperm.mem_iff.mp hmem) with hknown | hlater
    · have hempty : Intervals.Name Target.IsWritable [] := by simp [Intervals.Name]
      exact hempty.applyAll (hmatcher.of_mem hdirectives) interval hknown
    · obtain ⟨directive, hdirective, rfl⟩ := List.mem_map.mp hlater
      obtain ⟨-, number, -, ⟨text, -, hmatch⟩, -⟩ := hahead.found directive hdirective
      exact hmatcher _ _ hmatch

end Suppression

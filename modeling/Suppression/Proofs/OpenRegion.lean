import Suppression.Proofs.Knowledge
import Suppression.Proofs.StopEffect

namespace Suppression

open scoped List

/-- Directives in ascending order of their lines, from a line on. -/
inductive Ascending : Nat → List LineDirective → Prop
  | nil {number : Nat} : Ascending number []
  | cons {number line : Nat} {directive : LineDirective} {rest : List LineDirective} :
      number ≤ line → line < 2 ^ 53 → directive.line = .ofNat line →
        Ascending (line + 1) rest → Ascending number (directive :: rest)

theorem Ascending.mono {number earlier : Nat} {directives : List LineDirective}
    (h : Ascending number directives) (hle : earlier ≤ number) : Ascending earlier directives := by
  cases h with
  | nil => exact .nil
  | cons hline hexact hnumber hrest => exact .cons (hle.trans hline) hexact hnumber hrest

theorem Ascending.of_cons {number : Nat} {directive : LineDirective} {rest : List LineDirective}
    (h : Ascending number (directive :: rest)) : Ascending number rest := by
  cases h with
  | cons hline _ _ hrest => exact hrest.mono (by omega)

theorem Ascending.exists_line {number : Nat} {directive : LineDirective}
    {rest : List LineDirective} (h : Ascending number (directive :: rest)) :
    ∃ line, directive.line = .ofNat line := by
  cases h with
  | cons _ _ hline _ => exact ⟨_, hline⟩

theorem Matcher.ascending_inLinesFrom {matcher : Matcher} {lines : List (List Char)}
    {number : Nat} {directives : List LineDirective}
    (h : matcher.inLinesFrom number lines = .ok directives)
    (hexact : number + lines.length ≤ 2 ^ 53) : Ascending number directives := by
  induction lines generalizing number directives with
  | nil =>
      obtain rfl : directives = [] := by simpa [inLinesFrom, eq_comm] using h
      exact .nil
  | cons line rest ih =>
      rw [List.length_cons] at hexact
      obtain ⟨directive?, others, -, hrest, rfl⟩ := inLinesFrom_cons.mp h
      have hothers := ih hrest (by omega)
      cases directive? with
      | none => exact hothers.mono (Nat.le_succ number)
      | some directive => exact .cons le_rfl (by omega) rfl hothers

namespace Intervals

variable {intervals others : Intervals} {directives : List LineDirective}
  {directive : LineDirective} {origin : Origin} {span : Span} {line number : Nat}

/-- The intervals after some directives, without those that the directives open. -/
def stopAll (intervals : Intervals) (directives : List LineDirective) : Intervals :=
  directives.foldl stopBy intervals

theorem stopBy_perm (h : intervals ~ others) (directive : LineDirective) :
    stopBy intervals directive ~ stopBy others directive := by
  by_cases hkind : directive.kind = .stop
  · simpa only [stopBy_of_stop hkind] using apply_perm h directive
  · simpa only [stopBy_of_ne hkind] using h

theorem stopBy_append (intervals others : Intervals) (directive : LineDirective) :
    stopBy (intervals ++ others) directive ~
      stopBy intervals directive ++ stopBy others directive := by
  unfold stopBy
  split
  · exact stopAt_append _ _ _ _
  · rfl

theorem stopAll_perm (h : intervals ~ others) (directives : List LineDirective) :
    stopAll intervals directives ~ stopAll others directives := by
  induction directives generalizing intervals others with
  | nil => exact h
  | cons directive rest ih => exact ih (stopBy_perm h directive)

theorem applyAll_perm (h : intervals ~ others) (directives : List LineDirective) :
    applyAll intervals directives ~ applyAll others directives := by
  induction directives generalizing intervals others with
  | nil => exact h
  | cons directive rest ih => exact ih (apply_perm h directive)

theorem stopAll_append (intervals others : Intervals) (directives : List LineDirective) :
    stopAll (intervals ++ others) directives ~
      stopAll intervals directives ++ stopAll others directives := by
  induction directives generalizing intervals others with
  | nil => rfl
  | cons directive rest ih =>
      exact (stopAll_perm (stopBy_append _ _ _) rest).trans (ih _ _)

theorem within_stopBy (h : intervals.Within line) (hlt : line < number) (hexact : number < 2 ^ 53)
    (hline : directive.line = .ofNat number) : (stopBy intervals directive).Within number := by
  by_cases hkind : directive.kind = .stop
  · rw [stopBy_of_stop hkind]
    exact within_apply h hlt hexact hline
  · rw [stopBy_of_ne hkind]
    intro interval hmem
    exact (h interval hmem).mono hlt.le

theorem applyAll_append_perm (hwithin : intervals.Within line)
    (h : Ascending (line + 1) directives) :
    applyAll (intervals ++ others) directives ~
      stopAll intervals directives ++ applyAll others directives := by
  induction directives generalizing intervals others line with
  | nil => rfl
  | cons directive rest ih =>
      cases h with
      | cons hle hexact hline hrest =>
          have hnew : (intervals.any fun interval => interval.isInlineAt directive.line) =
              false := by
            rw [hline]
            exact Tell.any_isInlineAt_eq_false hwithin (by omega)
          calc
            _ ~ applyAll (stopBy intervals directive ++ apply others directive) rest :=
              applyAll_perm (apply_append_perm hnew) rest
            _ ~ _ := ih (within_stopBy hwithin (by omega) hexact hline) hrest

theorem stopAll_nil (directives : List LineDirective) : stopAll [] directives = [] := by
  induction directives with
  | nil => rfl
  | cons directive rest ih =>
      have hnone : stopBy [] directive = [] := by
        unfold stopBy
        split <;> rfl
      rw [stopAll, List.foldl_cons, hnone]
      exact ih

theorem hold_stopAll (intervals : Intervals) (directives : List LineDirective) (span : Span)
    (origin : Origin) : (stopAll intervals directives).hold span origin =
      intervals.any fun interval => (stopAll [interval] directives).hold span origin := by
  induction intervals with
  | nil => simp [stopAll_nil, hold]
  | cons interval rest ih =>
      have hparts := stopAll_append [interval] rest directives
      rw [List.singleton_append] at hparts
      rw [hold_perm hparts, hold_append, ih, List.any_cons]

theorem mention_stopBy (intervals : Intervals) (directive : LineDirective) (origin : Origin) :
    (stopBy intervals directive).mention origin = intervals.mention origin := by
  unfold stopBy
  split
  · rw [mention_perm (stopAt_perm _ _ _), mention_append]
    have hfst : mention (intervals.map fun interval =>
        (interval.stop directive.line directive.targets).1) origin = intervals.mention origin := by
      simp [mention, List.any_map, Function.comp_def, Interval.stop_targets]
    have hsnd : mention (intervals.filterMap fun interval =>
        (interval.stop directive.line directive.targets).2) origin = true →
          intervals.mention origin = true := by
      rw [mention_iff, mention_iff]
      rintro ⟨next, hmem, hcover⟩
      obtain ⟨interval, hinterval, hstop⟩ := List.mem_filterMap.mp hmem
      obtain ⟨remaining, heffect, rfl⟩ := Interval.exists_narrow_of_stop_snd hstop
      exact ⟨interval, hinterval, Targets.cover_of_narrow heffect hcover⟩
    rw [hfst]
    cases hmention : intervals.mention origin with
    | true => simp
    | false => simpa [hmention] using hsnd
  · rfl

theorem mention_stopAll (intervals : Intervals) (directives : List LineDirective)
    (origin : Origin) :
    (stopAll intervals directives).mention origin = intervals.mention origin := by
  induction directives generalizing intervals with
  | nil => rfl
  | cons directive rest ih => exact (ih _).trans (mention_stopBy intervals directive origin)

theorem stopAll_of_isOpen_eq_false {interval : Interval} (h : interval.isOpen = false)
    (directives : List LineDirective) : stopAll [interval] directives = [interval] := by
  induction directives with
  | nil => rfl
  | cons directive rest ih =>
      have hsame : stopBy [interval] directive = [interval] := by
        unfold stopBy stopAt
        split <;> simp [Interval.stop, h]
      rw [stopAll, List.foldl_cons, hsame]
      exact ih

theorem hold_eq_false_of_mention (h : intervals.mention origin = false) (span : Span) :
    intervals.hold span origin = false := by
  rw [← Bool.not_eq_true] at h ⊢
  intro hhold
  obtain ⟨interval, hmem, hcover, -⟩ := hold_iff.mp hhold
  exact h (mention_iff.mpr ⟨interval, hmem, hcover⟩)

end Intervals

end Suppression

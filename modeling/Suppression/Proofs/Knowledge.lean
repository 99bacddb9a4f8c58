import Mathlib.Data.List.Nodup
import Suppression.Proofs.Coverage
import Suppression.Proofs.FileLines
import Suppression.Tracker.Record

namespace Suppression

open scoped List

/-- The interval of a directive for its own line. -/
def LineDirective.ownLine (directive : LineDirective) : Interval :=
  .oneLine directive.line directive.targets

/-- Directives for their own lines, which stand on different lines beyond a given one. -/
structure Matcher.Ahead (matcher : Matcher) (lines : List (List Char)) (line : Nat)
    (ahead : List LineDirective) : Prop where
  distinct : (ahead.map LineDirective.line).Nodup
  found : ∀ directive ∈ ahead, directive.kind = .inline ∧
    ∃ number, line < number ∧ matcher.Finds lines number directive.toDirective ∧
      directive.line = .ofNat number

/-- The intervals are all that is to be known about a file up to a line, and something of what comes
after it. -/
structure Intervals.Tell (matcher : Matcher) (lines : List (List Char)) (line : Nat)
    (intervals : Intervals) : Prop where
  sorted : intervals.IsSorted
  parts : ∃ directives ahead, matcher.inLinesFrom 1 (lines.take line) = .ok directives ∧
    matcher.Ahead lines line ahead ∧
      intervals ~ applyAll [] directives ++ ahead.map LineDirective.ownLine

namespace Intervals

theorem applyAll_append (intervals : Intervals) (before after : List LineDirective) :
    applyAll intervals (before ++ after) = applyAll (applyAll intervals before) after :=
  List.foldl_append

theorem within_applyAll {matcher : Matcher} {lines : List (List Char)}
    (hlines : lines.length < 2 ^ 53) {line : Nat} (hline : line ≤ lines.length)
    {directives : List LineDirective}
    (h : matcher.inLinesFrom 1 (lines.take line) = .ok directives) :
    (applyAll [] directives).Within line := by
  induction line generalizing directives with
  | zero =>
      obtain rfl : directives = [] := by simpa [Matcher.inLinesFrom, eq_comm] using h
      simp [applyAll, Within]
  | succ line ih =>
      obtain ⟨before, directive?, hbefore, -, rfl⟩ :=
        (Matcher.inLinesFrom_take_succ (List.getElem?_eq_getElem hline)).mp h
      have hwithin := ih (by omega) hbefore
      rw [applyAll_append]
      cases directive? with
      | none => exact fun interval hmem => (hwithin interval hmem).mono (by omega)
      | some directive => exact within_apply hwithin (by omega) (by omega) rfl

end Intervals

namespace Matcher.Ahead

variable {matcher : Matcher} {lines : List (List Char)} {line : Nat} {ahead : List LineDirective}

theorem within (h : matcher.Ahead lines line ahead) :
    Intervals.Within lines.length (ahead.map LineDirective.ownLine) := by
  intro interval hmem
  obtain ⟨directive, hdirective, rfl⟩ := List.mem_map.mp hmem
  obtain ⟨-, number, hlt, hfinds, hnumber⟩ := h.found directive hdirective
  rw [LineDirective.ownLine, hnumber]
  exact .inline _ (by omega) hfinds.le_length

theorem skip (h : matcher.Ahead lines line ahead)
    (hnone : ∀ directive ∈ ahead, directive.line ≠ .ofNat (line + 1)) :
    matcher.Ahead lines (line + 1) ahead := by
  refine ⟨h.distinct, ?_⟩
  intro directive hmem
  obtain ⟨hkind, number, hlt, hfinds, hnumber⟩ := h.found directive hmem
  have hne : number ≠ line + 1 := by
    rintro rfl
    exact hnone directive hmem hnumber
  exact ⟨hkind, number, by omega, hfinds, hnumber⟩

theorem erase (h : matcher.Ahead lines line ahead) {directive : LineDirective}
    (hmem : directive ∈ ahead) (hnumber : directive.line = .ofNat (line + 1)) :
    matcher.Ahead lines (line + 1) (ahead.erase directive) := by
  have hsublist : (ahead.erase directive).Sublist ahead := List.erase_sublist
  have hrest : matcher.Ahead lines line (ahead.erase directive) :=
    ⟨h.distinct.sublist (hsublist.map _),
      fun other hother => h.found other (hsublist.subset hother)⟩
  refine hrest.skip ?_
  intro other hother hline
  obtain rfl : other = directive := List.inj_on_of_nodup_map h.distinct (hsublist.subset hother)
    hmem (hline.trans hnumber.symm)
  exact (List.Nodup.of_map LineDirective.line h.distinct).not_mem_erase hother

end Matcher.Ahead

namespace Intervals.Tell

variable {matcher : Matcher} {lines : List (List Char)} {line : Nat} {intervals : Intervals}

theorem cold : Tell matcher lines 0 [] := by
  refine ⟨List.Pairwise.nil, [], [], by simp [Matcher.inLinesFrom], ⟨by simp, by simp⟩, ?_⟩
  simp [applyAll]

theorem within (h : intervals.Tell matcher lines line) (hlines : lines.length < 2 ^ 53)
    (hline : line ≤ lines.length) : intervals.Within lines.length := by
  obtain ⟨directives, ahead, hdirectives, hahead, hperm⟩ := h.parts
  intro interval hmem
  rcases List.mem_append.mp (hperm.mem_iff.mp hmem) with hknown | hlater
  · exact (within_applyAll hlines hline hdirectives interval hknown).mono hline
  · exact hahead.within interval hlater

theorem exists_lines (h : intervals.Tell matcher lines line) (hlines : lines.length < 2 ^ 53)
    (hline : line ≤ lines.length) :
    ∀ interval ∈ intervals, ∃ n, interval.startLine = .ofNat n := by
  intro interval hmem
  obtain ⟨n, -, hn⟩ := (h.within hlines hline interval hmem).exists_startLine
  exact ⟨n, hn⟩

theorem any_isInlineAt_eq_false {before : Intervals} (hbefore : before.Within line)
    {number : Nat} (hnumber : line < number) :
    (before.any fun interval => interval.isInlineAt (.ofNat number)) = false := by
  rw [List.any_eq_false]
  intro interval hmem
  cases hbefore interval hmem with
  | unclosed targets _ _ => simp [Interval.isInlineAt, Interval.opened]
  | closed targets _ _ _ => simp [Interval.isInlineAt, Interval.opened]
  | inline targets _ hown =>
      simp only [Interval.isInlineAt, Interval.oneLine, Number.same_ofNat, decide_true,
        Bool.true_and, decide_eq_true_eq]
      omega

theorem apply_known {before : Intervals} (hbefore : before.Within line)
    {ahead : List LineDirective} {directive : LineDirective} (hmem : directive ∈ ahead)
    (hkind : directive.kind = .inline) (hnumber : directive.line = .ofNat (line + 1))
    (hperm : intervals ~ before ++ ahead.map LineDirective.ownLine) :
    apply intervals directive ~ apply before directive ++
      (ahead.erase directive).map LineDirective.ownLine := by
  have hany : (intervals.any fun interval => interval.isInlineAt directive.line) = true := by
    rw [List.any_eq_true]
    refine ⟨directive.ownLine, hperm.mem_iff.mpr ?_, ?_⟩
    · exact List.mem_append_right _ (List.mem_map_of_mem hmem)
    · simp [Interval.isInlineAt, LineDirective.ownLine, Interval.oneLine, hnumber]
  have hnew : (before.any fun interval => interval.isInlineAt directive.line) = false := by
    rw [hnumber]
    exact any_isInlineAt_eq_false hbefore (by omega)
  simp only [apply, hkind, addInline_of_any _ hany]
  calc
    intervals ~ before ++ ahead.map LineDirective.ownLine := hperm
    _ ~ before ++ directive.ownLine :: (ahead.erase directive).map LineDirective.ownLine :=
      ((List.perm_cons_erase hmem).map LineDirective.ownLine).append_left before
    _ ~ (directive.ownLine :: before) ++ (ahead.erase directive).map LineDirective.ownLine :=
      List.perm_middle
    _ ~ _ := (addInline_perm directive.targets hnew).symm.append_right _

theorem next (h : intervals.Tell matcher lines line) (hlines : lines.length < 2 ^ 53)
    {text : List Char} (htext : lines[line]? = some text) {directive? : Option Directive}
    (hmatch : matcher (String.ofList text) = .ok directive?) :
    Tell matcher lines (line + 1) (applyAll intervals
      (directive?.map fun directive => directive.onLine (line + 1)).toList) := by
  obtain ⟨hlt, -⟩ := List.getElem?_eq_some_iff.mp htext
  obtain ⟨directives, ahead, hdirectives, hahead, hperm⟩ := h.parts
  have hbefore := within_applyAll hlines hlt.le hdirectives
  have htake := Matcher.inLinesFrom_take_succ htext |>.mpr
    ⟨directives, directive?, hdirectives, hmatch, rfl⟩
  -- A directive that has been come upon on this line is the one that is found now.
  have hsame : ∀ directive ∈ ahead, directive.line = .ofNat (line + 1) →
      directive? = some directive.toDirective := by
    intro directive hmem hnumber
    obtain ⟨-, number, -, ⟨text', htext', hmatch'⟩, hnumber'⟩ := hahead.found directive hmem
    obtain rfl : line + 1 = number := Number.ofNat_inj.mp (hnumber.symm.trans hnumber')
    obtain rfl : text = text' := Option.some.inj (htext.symm.trans htext')
    exact Except.ok.inj (hmatch.symm.trans hmatch')
  cases directive? with
  | none =>
      refine ⟨h.sorted, _, ahead, htake, hahead.skip fun directive hmem hnumber => ?_, ?_⟩
      · exact absurd (hsame directive hmem hnumber) (by simp)
      · rw [Option.map_none, Option.toList_none, List.append_nil]
        exact hperm
  | some directive =>
      refine ⟨isSorted_apply h.sorted (h.exists_lines hlines hlt.le) rfl (by omega), ?_⟩
      -- An earlier search may have ended at this very directive.
      by_cases hknown : directive.onLine (line + 1) ∈ ahead
      · refine ⟨_, ahead.erase (directive.onLine (line + 1)), htake, hahead.erase hknown rfl, ?_⟩
        rw [applyAll_append]
        exact apply_known hbefore hknown (hahead.found _ hknown).1 rfl hperm
      · have hne : ∀ other ∈ ahead, other.line ≠ .ofNat (line + 1) := by
          intro other hmem hnumber
          have hdirective := Option.some.inj (hsame other hmem hnumber)
          refine hknown ?_
          have : other = directive.onLine (line + 1) := by
            cases other
            simp_all [Directive.onLine]
          rwa [← this]
        refine ⟨_, ahead, htake, hahead.skip hne, ?_⟩
        rw [applyAll_append]
        refine (apply_perm hperm _).trans (apply_append_oneLine _ ?_)
        intro interval hmem
        obtain ⟨other, hother, rfl⟩ := List.mem_map.mp hmem
        obtain ⟨-, number, -, -, hnumber⟩ := hahead.found other hother
        refine ⟨other.line, other.targets, rfl, ?_⟩
        have hline := hne other hother
        rw [hnumber] at hline ⊢
        simpa [Directive.onLine] using hline

theorem commit (h : intervals.Tell matcher lines line) (hlines : lines.length < 2 ^ 53)
    {count : Nat} (hcount : line + count ≤ lines.length) {directives : List LineDirective}
    (hdirectives : matcher.inLinesFrom (line + 1) ((lines.drop line).take count) =
      .ok directives) :
    (applyAll intervals directives).Tell matcher lines (line + count) := by
  induction count generalizing directives with
  | zero =>
      obtain rfl : directives = [] := by simpa [Matcher.inLinesFrom, eq_comm] using hdirectives
      exact h
  | succ count ih =>
      have htext : lines[line + count]? = some lines[line + count] :=
        List.getElem?_eq_getElem (by omega)
      obtain ⟨before, directive?, hbefore, hmatch, rfl⟩ :=
        (Matcher.inLinesFrom_slice_succ htext).mp hdirectives
      rw [applyAll_append]
      exact (ih (by omega) hbefore).next hlines htext hmatch

theorem addInline (h : intervals.Tell matcher lines line) (hlines : lines.length < 2 ^ 53)
    {number : Nat} (hlt : line < number) {directive : Directive}
    (hkind : directive.kind = .inline) (hfinds : matcher.Finds lines number directive) :
    (Intervals.addInline intervals (.ofNat number) directive.targets).Tell matcher lines line := by
  have hline : line ≤ lines.length := hlt.le.trans hfinds.le_length
  cases hany : intervals.any fun interval => interval.isInlineAt (.ofNat number) with
  | true => rwa [addInline_of_any _ hany]
  | false =>
      obtain ⟨directives, ahead, hdirectives, hahead, hperm⟩ := h.parts
      refine ⟨?_, directives, directive.onLine number :: ahead, hdirectives, ⟨?_, ?_⟩, ?_⟩
      · rw [Intervals.addInline, hany]
        exact isSorted_insert h.sorted (h.exists_lines hlines hline) ⟨number, rfl⟩
      · refine List.nodup_cons.mpr ⟨?_, hahead.distinct⟩
        intro hmem
        obtain ⟨other, hother, hother'⟩ := List.mem_map.mp hmem
        have hfalse := List.any_eq_false.mp hany other.ownLine
          (hperm.mem_iff.mpr (List.mem_append_right _ (List.mem_map_of_mem hother)))
        simp [Interval.isInlineAt, LineDirective.ownLine, Interval.oneLine, hother',
          Directive.onLine] at hfalse
      · refine List.forall_mem_cons.mpr ⟨?_, hahead.found⟩
        exact ⟨hkind, number, hlt, hfinds, rfl⟩
      · calc
          _ ~ .oneLine (.ofNat number) directive.targets :: intervals := addInline_perm _ hany
          _ ~ .oneLine (.ofNat number) directive.targets ::
              (applyAll [] directives ++ ahead.map LineDirective.ownLine) := hperm.cons _
          _ ~ _ := List.perm_middle.symm

end Intervals.Tell

end Suppression

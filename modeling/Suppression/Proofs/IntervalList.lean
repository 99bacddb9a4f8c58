import Suppression.Interval
import Suppression.Proofs.LineNumber

namespace Suppression

/-- An interval as it is left behind by the directives on the first lines of a file, up to a given
line. One that goes on after a stop may begin one line later. -/
inductive Interval.Within (line : Nat) : Interval → Prop
  | unclosed {first : Nat} (targets : Targets) :
      1 ≤ first → first ≤ line + 1 → Within line (opened (.ofNat first) targets)
  | closed {first last : Nat} (targets : Targets) :
      1 ≤ first → first ≤ last → last ≤ line →
        Within line { opened (.ofNat first) targets with endLine := .line (.ofNat last) }
  | inline {own : Nat} (targets : Targets) :
      1 ≤ own → own ≤ line → Within line (oneLine (.ofNat own) targets)

namespace Interval

theorem Within.mono {line later : Nat} (hle : line ≤ later) {interval : Interval}
    (h : interval.Within line) : interval.Within later := by
  cases h with
  | unclosed targets hfirst hlast => exact .unclosed targets hfirst (by omega)
  | closed targets hfirst hordered hlast => exact .closed targets hfirst hordered (by omega)
  | inline targets hpos hown => exact .inline targets hpos (by omega)

theorem Within.exists_startLine {line : Nat} {interval : Interval} (h : interval.Within line) :
    ∃ first, 1 ≤ first ∧ interval.startLine = .ofNat first := by
  cases h with
  | unclosed targets hfirst hlast => exact ⟨_, hfirst, rfl⟩
  | closed targets hfirst hordered hlast => exact ⟨_, hfirst, rfl⟩
  | inline targets hpos hown => exact ⟨_, hpos, rfl⟩

@[simp] theorem isOpen_opened (line : Number) (targets : Targets) :
    (opened line targets).isOpen = true := rfl

@[simp] theorem stop_oneLine (line own : Number) (targets targets' : Targets) :
    stop line targets (oneLine own targets') = (oneLine own targets', none) := rfl

theorem stop_startLine (line : Number) (targets : Targets) (interval : Interval) :
    (stop line targets interval).1.startLine = interval.startLine := by
  unfold stop
  split
  · cases Targets.stopEffect targets interval.targets <;> rfl
  · rfl

theorem stop_origin (line : Number) (targets : Targets) (interval : Interval) :
    (stop line targets interval).1.origin = interval.origin := by
  unfold stop
  split
  · cases Targets.stopEffect targets interval.targets <;> rfl
  · rfl

theorem exists_narrow_of_stop_snd {line : Number} {targets : Targets} {interval next : Interval}
    (h : (stop line targets interval).2 = some next) :
    ∃ remaining, Targets.stopEffect targets interval.targets = .narrow remaining ∧
      next = opened line.succ remaining := by
  simp only [stop] at h
  split at h
  · cases heffect : Targets.stopEffect targets interval.targets with
    | none => simp [heffect] at h
    | close => simp [heffect] at h
    | narrow remaining =>
        simp only [heffect, Option.some.injEq] at h
        exact ⟨remaining, rfl, h.symm⟩
  · simp at h

theorem origin_stop_snd {line : Number} {targets : Targets} {interval next : Interval}
    (h : (stop line targets interval).2 = some next) : next.origin = .start := by
  obtain ⟨remaining, -, rfl⟩ := exists_narrow_of_stop_snd h
  rfl

theorem within_stop_fst {before line : Nat} (hlt : before < line) (targets : Targets)
    {interval : Interval} (h : interval.Within before) :
    (stop (.ofNat line) targets interval).1.Within line := by
  cases h with
  | unclosed targets' hfirst hlast =>
      simp only [stop, isOpen_opened, if_true]
      cases Targets.stopEffect targets (opened (.ofNat _) targets').targets with
      | none => exact .unclosed targets' hfirst (by omega)
      | close => exact .closed targets' hfirst (by omega) le_rfl
      | narrow remaining => exact .closed targets' hfirst (by omega) le_rfl
  | closed targets' hfirst hordered hlast => exact .closed targets' hfirst hordered (by omega)
  | inline targets' hpos hown => exact .inline targets' hpos (by omega)

theorem within_stop_snd {line : Nat} (hexact : line < 2 ^ 53) (targets : Targets)
    {interval next : Interval} (h : (stop (.ofNat line) targets interval).2 = some next) :
    next.Within line := by
  obtain ⟨remaining, -, rfl⟩ := exists_narrow_of_stop_snd h
  rw [Number.succ_ofNat hexact]
  exact .unclosed remaining (by omega) le_rfl

end Interval

namespace Intervals

open scoped List

theorem insert_perm (intervals : Intervals) (interval : Interval) :
    insert intervals interval ~ interval :: intervals := by
  induction intervals with
  | nil => rfl
  | cons first rest ih =>
      simp only [insert]
      split
      · rfl
      · exact (ih.cons first).trans (.swap interval first rest)

theorem foldl_insert_perm (added intervals : Intervals) :
    added.foldl insert intervals ~ intervals ++ added := by
  induction added generalizing intervals with
  | nil => simp
  | cons interval rest ih =>
      rw [List.foldl_cons]
      calc
        _ ~ insert intervals interval ++ rest := ih _
        _ ~ interval :: intervals ++ rest := (insert_perm intervals interval).append_right rest
        _ ~ intervals ++ interval :: rest := List.perm_middle.symm

theorem stopAt_perm (intervals : Intervals) (line : Number) (targets : Targets) :
    stopAt intervals line targets ~
      intervals.map (fun interval => (interval.stop line targets).1) ++
        intervals.filterMap fun interval => (interval.stop line targets).2 := by
  refine (foldl_insert_perm _ _).trans ?_
  rw [List.map_map, List.filterMap_map]
  rfl

theorem addInline_of_any {intervals : Intervals} {line : Number} (targets : Targets)
    (h : intervals.any (fun interval => interval.isInlineAt line) = true) :
    addInline intervals line targets = intervals := by
  simp [addInline, h]

theorem addInline_perm {intervals : Intervals} {line : Number} (targets : Targets)
    (h : intervals.any (fun interval => interval.isInlineAt line) = false) :
    addInline intervals line targets ~ .oneLine line targets :: intervals := by
  simpa [addInline, h] using insert_perm intervals (.oneLine line targets)

theorem apply_perm {intervals others : Intervals} (h : intervals ~ others)
    (directive : LineDirective) : apply intervals directive ~ apply others directive := by
  unfold apply
  cases directive.kind with
  | inline =>
      cases hany : intervals.any fun interval => interval.isInlineAt directive.line with
      | true =>
          rwa [addInline_of_any _ hany, addInline_of_any _ (h.any_eq ▸ hany)]
      | false =>
          calc
            _ ~ .oneLine directive.line directive.targets :: intervals := addInline_perm _ hany
            _ ~ .oneLine directive.line directive.targets :: others := h.cons _
            _ ~ _ := (addInline_perm _ (h.any_eq ▸ hany)).symm
  | start =>
      calc
        _ ~ .opened directive.line directive.targets :: intervals := insert_perm _ _
        _ ~ .opened directive.line directive.targets :: others := h.cons _
        _ ~ _ := (insert_perm _ _).symm
  | stop =>
      calc
        _ ~ _ := stopAt_perm _ _ _
        _ ~ _ := (h.map _).append (h.filterMap _)
        _ ~ _ := (stopAt_perm _ _ _).symm

/-- The intervals after a directive, without the interval that it may open. -/
def stopBy (intervals : Intervals) (directive : LineDirective) : Intervals :=
  if directive.kind = .stop then intervals.stopAt directive.line directive.targets else intervals

theorem stopBy_of_stop {directive : LineDirective} (h : directive.kind = .stop)
    (intervals : Intervals) :
    stopBy intervals directive = apply intervals directive := by
  simp [stopBy, apply, h]

theorem stopBy_of_ne {directive : LineDirective} (h : directive.kind ≠ .stop)
    (intervals : Intervals) :
    stopBy intervals directive = intervals :=
  if_neg h

theorem stopAt_append (intervals others : Intervals) (line : Number) (targets : Targets) :
    stopAt (intervals ++ others) line targets ~
      stopAt intervals line targets ++ stopAt others line targets := by
  refine (stopAt_perm _ _ _).trans ?_
  rw [List.map_append, List.filterMap_append, List.append_assoc]
  refine List.Perm.trans ?_ ((stopAt_perm _ _ _).append (stopAt_perm _ _ _)).symm
  rw [List.append_assoc]
  refine List.Perm.append_left _ ?_
  rw [← List.append_assoc, ← List.append_assoc]
  exact List.perm_append_comm.append_right _

/-- A directive acts on intervals of other lines through its stop only. -/
theorem apply_append_perm {intervals others : Intervals} {directive : LineDirective}
    (hnew : (intervals.any fun interval => interval.isInlineAt directive.line) = false) :
    apply (intervals ++ others) directive ~
      stopBy intervals directive ++ apply others directive := by
  unfold apply stopBy
  cases hkind : directive.kind with
  | inline =>
      have hboth : ((intervals ++ others).any fun interval => interval.isInlineAt directive.line) =
          others.any fun interval => interval.isInlineAt directive.line := by
        rw [List.any_append, hnew, Bool.false_or]
      cases hany : others.any fun interval => interval.isInlineAt directive.line with
      | true =>
          simp only [addInline_of_any _ hany, addInline_of_any _ (hboth.trans hany)]
          rfl
      | false =>
          calc
            _ ~ .oneLine directive.line directive.targets :: (intervals ++ others) :=
              addInline_perm _ (hboth.trans hany)
            _ ~ intervals ++ .oneLine directive.line directive.targets :: others :=
              List.perm_middle.symm
            _ ~ _ := (addInline_perm _ hany).symm.append_left _
  | start =>
      calc
        _ ~ .opened directive.line directive.targets :: (intervals ++ others) := insert_perm _ _
        _ ~ intervals ++ .opened directive.line directive.targets :: others :=
          List.perm_middle.symm
        _ ~ _ := (insert_perm _ _).symm.append_left _
  | stop => exact stopAt_append _ _ _ _

/-- The intervals of other lines' own directives stay as they are. -/
theorem apply_append_oneLine (intervals : Intervals) {ahead : Intervals}
    {directive : LineDirective}
    (hahead : ∀ interval ∈ ahead, ∃ line targets, interval = .oneLine line targets ∧
      line.same directive.line = false) :
    apply (intervals ++ ahead) directive ~ apply intervals directive ++ ahead := by
  have hline : (ahead.any fun interval => interval.isInlineAt directive.line) = false := by
    rw [List.any_eq_false]
    intro interval hmem
    obtain ⟨line, targets, rfl, hsame⟩ := hahead interval hmem
    simp [Interval.isInlineAt, Interval.oneLine, hsame]
  have hstop : stopBy ahead directive ~ ahead := by
    unfold stopBy
    split
    · refine (stopAt_perm _ _ _).trans (List.Perm.of_eq ?_)
      have hfst : ahead.map (fun interval =>
          (interval.stop directive.line directive.targets).1) = ahead := by
        refine (List.map_congr_left ?_).trans (List.map_id ahead)
        intro interval hmem
        obtain ⟨line, targets, rfl, -⟩ := hahead interval hmem
        rw [Interval.stop_oneLine, id]
      have hsnd : ahead.filterMap (fun interval =>
          (interval.stop directive.line directive.targets).2) = [] := by
        refine List.filterMap_eq_nil_iff.mpr ?_
        intro interval hmem
        obtain ⟨line, targets, rfl, -⟩ := hahead interval hmem
        rw [Interval.stop_oneLine]
      rw [hfst, hsnd, List.append_nil]
    · rfl
  calc
    _ ~ apply (ahead ++ intervals) directive := apply_perm List.perm_append_comm directive
    _ ~ stopBy ahead directive ++ apply intervals directive := apply_append_perm hline
    _ ~ ahead ++ apply intervals directive := hstop.append_right _
    _ ~ _ := List.perm_append_comm

def IsSorted (intervals : Intervals) : Prop :=
  intervals.Pairwise fun a b => a.startLine ≤ b.startLine

theorem isSorted_insert {intervals : Intervals} (hsorted : intervals.IsSorted)
    (hlines : ∀ interval ∈ intervals, ∃ n, interval.startLine = .ofNat n) {interval : Interval}
    (hline : ∃ n, interval.startLine = .ofNat n) : (insert intervals interval).IsSorted := by
  obtain ⟨own, hown⟩ := hline
  induction intervals with
  | nil => simp [insert, IsSorted]
  | cons first rest ih =>
      obtain ⟨⟨n, hn⟩, hrestLines⟩ := List.forall_mem_cons.mp hlines
      obtain ⟨hfirst, hrest⟩ := List.pairwise_cons.mp hsorted
      simp only [insert]
      split
      · next hlt =>
          have hle : own ≤ n := by
            rw [hown, hn, Number.ofNat_lt_ofNat] at hlt
            exact hlt.le
          refine List.pairwise_cons.mpr ⟨?_, hsorted⟩
          intro other hother
          rcases List.mem_cons.mp hother with rfl | hmem
          · rw [hown, hn, Number.ofNat_le_ofNat]
            exact hle
          · obtain ⟨m, hm⟩ := hrestLines other hmem
            have hnm := hfirst other hmem
            rw [hn, hm, Number.ofNat_le_ofNat] at hnm
            rw [hown, hm, Number.ofNat_le_ofNat]
            exact hle.trans hnm
      · next hlt =>
          rw [hown, hn, Number.ofNat_lt_ofNat] at hlt
          refine List.pairwise_cons.mpr ⟨?_, ih hrest hrestLines⟩
          intro other hother
          rcases List.mem_cons.mp ((insert_perm rest interval).mem_iff.mp hother) with rfl | hmem
          · rw [hn, hown, Number.ofNat_le_ofNat]
            omega
          · exact hfirst other hmem

theorem isSorted_foldl_insert {added intervals : Intervals} (hsorted : intervals.IsSorted)
    (hlines : ∀ interval ∈ intervals, ∃ n, interval.startLine = .ofNat n)
    (hadded : ∀ interval ∈ added, ∃ n, interval.startLine = .ofNat n) :
    (added.foldl insert intervals).IsSorted := by
  induction added generalizing intervals with
  | nil => exact hsorted
  | cons interval rest ih =>
      obtain ⟨hline, hrest⟩ := List.forall_mem_cons.mp hadded
      refine ih (isSorted_insert hsorted hlines hline) ?_ hrest
      intro other hother
      rcases List.mem_cons.mp ((insert_perm intervals interval).mem_iff.mp hother) with rfl | hmem
      · exact hline
      · exact hlines other hmem

theorem isSorted_apply {intervals : Intervals} (hsorted : intervals.IsSorted)
    (hlines : ∀ interval ∈ intervals, ∃ n, interval.startLine = .ofNat n)
    {directive : LineDirective} {line : Nat} (hline : directive.line = .ofNat line)
    (hexact : line < 2 ^ 53) : (apply intervals directive).IsSorted := by
  unfold apply
  cases directive.kind with
  | inline =>
      simp only [addInline]
      split
      · exact hsorted
      · exact isSorted_insert hsorted hlines ⟨line, hline⟩
  | start => exact isSorted_insert hsorted hlines ⟨line, hline⟩
  | stop =>
      refine isSorted_foldl_insert ?_ ?_ ?_
      · rw [IsSorted, List.map_map, List.pairwise_map]
        simpa only [Function.comp_apply, Interval.stop_startLine, IsSorted] using hsorted
      · intro interval hmem
        obtain ⟨_, hmem', rfl⟩ := List.mem_map.mp hmem
        obtain ⟨before, hbefore, rfl⟩ := List.mem_map.mp hmem'
        rw [Interval.stop_startLine]
        exact hlines before hbefore
      · intro interval hmem
        rw [List.filterMap_map] at hmem
        obtain ⟨before, -, hnext⟩ := List.mem_filterMap.mp hmem
        rw [Function.comp_apply, hline] at hnext
        obtain ⟨first, -, hfirst⟩ := (Interval.within_stop_snd hexact _ hnext).exists_startLine
        exact ⟨first, hfirst⟩

/-- Every interval is one that the lines up to a given one leave behind. -/
def Within (line : Nat) (intervals : Intervals) : Prop :=
  ∀ interval ∈ intervals, interval.Within line

theorem mem_apply {intervals : Intervals} {directive : LineDirective} {interval : Interval}
    (h : interval ∈ intervals.apply directive) :
    interval ∈ intervals ∨
      (directive.kind = .inline ∧ interval = .oneLine directive.line directive.targets) ∨
      (directive.kind = .start ∧ interval = .opened directive.line directive.targets) ∨
      (directive.kind = .stop ∧ ∃ old ∈ intervals,
        interval = (old.stop directive.line directive.targets).1 ∨
          (old.stop directive.line directive.targets).2 = some interval) := by
  unfold apply at h
  cases hkind : directive.kind with
  | inline =>
      simp only [hkind, addInline] at h
      split at h
      · exact Or.inl h
      · rcases List.mem_cons.mp ((insert_perm _ _).mem_iff.mp h) with rfl | hold
        · exact Or.inr (Or.inl ⟨rfl, rfl⟩)
        · exact Or.inl hold
  | start =>
      simp only [hkind] at h
      rcases List.mem_cons.mp ((insert_perm _ _).mem_iff.mp h) with rfl | hold
      · exact Or.inr (Or.inr (Or.inl ⟨rfl, rfl⟩))
      · exact Or.inl hold
  | stop =>
      simp only [hkind] at h
      refine Or.inr (Or.inr (Or.inr ⟨rfl, ?_⟩))
      rcases List.mem_append.mp ((stopAt_perm _ _ _).mem_iff.mp h) with hfst | hsnd
      · obtain ⟨old, hold, rfl⟩ := List.mem_map.mp hfst
        exact ⟨old, hold, Or.inl rfl⟩
      · obtain ⟨old, hold, hnext⟩ := List.mem_filterMap.mp hsnd
        exact ⟨old, hold, Or.inr hnext⟩

theorem within_apply {intervals : Intervals} {before line : Nat} (h : intervals.Within before)
    (hlt : before < line) (hexact : line < 2 ^ 53) {directive : LineDirective}
    (hline : directive.line = .ofNat line) : (apply intervals directive).Within line := by
  intro interval hmem
  rcases mem_apply hmem with hold | ⟨-, rfl⟩ | ⟨-, rfl⟩ | ⟨-, old, hold, rfl | hnext⟩
  · exact (h interval hold).mono hlt.le
  · rw [hline]
    exact .inline _ (by omega) le_rfl
  · rw [hline]
    exact .unclosed _ (by omega) (by omega)
  · rw [hline]
    exact Interval.within_stop_fst hlt _ (h old hold)
  · rw [hline] at hnext
    exact Interval.within_stop_snd hexact _ hnext

def ownLines (intervals : Intervals) : List Number :=
  intervals.filterMap fun interval =>
    if interval.origin = .inline then some interval.startLine else none

theorem ownLines_append (intervals others : Intervals) :
    ownLines (intervals ++ others) = ownLines intervals ++ ownLines others :=
  List.filterMap_append

theorem ownLines_perm {intervals others : Intervals} (h : intervals ~ others) :
    ownLines intervals ~ ownLines others :=
  h.filterMap _

theorem mem_ownLines {intervals : Intervals} {line : Number} :
    line ∈ ownLines intervals ↔
      ∃ interval ∈ intervals, interval.origin = .inline ∧ interval.startLine = line := by
  simp [ownLines]

theorem ownLines_stopAt (intervals : Intervals) (line : Number) (targets : Targets) :
    ownLines (stopAt intervals line targets) ~ ownLines intervals := by
  refine (ownLines_perm (stopAt_perm intervals line targets)).trans ?_
  have hnone : ownLines (intervals.filterMap fun interval =>
      (interval.stop line targets).2) = [] := by
    refine List.eq_nil_iff_forall_not_mem.mpr ?_
    intro own hmem
    obtain ⟨next, hnext, horigin, -⟩ := mem_ownLines.mp hmem
    obtain ⟨interval, -, hstop⟩ := List.mem_filterMap.mp hnext
    rw [Interval.origin_stop_snd hstop] at horigin
    simp at horigin
  rw [ownLines_append, hnone, List.append_nil, ownLines, ownLines, List.filterMap_map]
  refine List.Perm.of_eq (List.filterMap_congr ?_)
  intro interval _
  simp [Interval.stop_startLine, Interval.stop_origin]

theorem nodup_ownLines_apply {intervals : Intervals} (h : intervals.ownLines.Nodup)
    {directive : LineDirective} {number : Nat} (hline : directive.line = .ofNat number) :
    (apply intervals directive).ownLines.Nodup := by
  unfold apply
  cases directive.kind with
  | inline =>
      cases hany : intervals.any fun interval => interval.isInlineAt directive.line with
      | true => rwa [addInline_of_any _ hany]
      | false =>
          rw [(ownLines_perm (addInline_perm _ hany)).nodup_iff]
          refine List.nodup_cons.mpr ⟨?_, h⟩
          intro hmem
          obtain ⟨interval, hinterval, horigin, hstart⟩ := mem_ownLines.mp hmem
          have hfalse := List.any_eq_false.mp hany interval hinterval
          simp [Interval.isInlineAt, Interval.oneLine, horigin, hstart, hline] at hfalse
  | start => rwa [(ownLines_perm (insert_perm _ _)).nodup_iff]
  | stop => rwa [(ownLines_stopAt _ _ _).nodup_iff]

end Intervals

end Suppression

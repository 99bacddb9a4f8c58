import Suppression.Proofs.OpenRegion

namespace Suppression

open scoped List

namespace Targets

variable {span : Span} {origin : Origin} {start stop remaining : Targets}
  {directive : LineDirective} {rest directives : List LineDirective} {first last number : Nat}

/-- An open region above a span speaks for an origin down to the last line of the span. Directives
that leave the region alone, or stand on that line or below, change nothing. A stop that narrows
the region has to stand above the span, for what it leaves is a region of its own. -/
inductive Lasts (span : Span) (origin : Origin) : Targets → List LineDirective → Prop
  | nil {start : Targets} : cover start origin = true → Lasts span origin start []
  | kept {start : Targets} {directive : LineDirective} {rest : List LineDirective} :
      (directive.kind = .stop → directive.line < span.stop.line →
        stopEffect directive.targets start = .none) →
      Lasts span origin start rest → Lasts span origin start (directive :: rest)
  | narrowed {start remaining : Targets} {directive : LineDirective}
      {rest : List LineDirective} :
      directive.kind = .stop → directive.line < span.start.line →
        stopEffect directive.targets start = .narrow remaining →
      Lasts span origin remaining rest → Lasts span origin start (directive :: rest)

namespace Lasts

theorem cover (h : Lasts span origin start directives) : cover start origin = true := by
  induction h with
  | nil hcover => exact hcover
  | kept _ _ ih => exact ih
  | narrowed _ _ heffect _ ih => exact cover_of_narrow heffect ih

theorem of_below (h : Ascending number directives) (hspan : span.RunsOver first last)
    (hlast : last ≤ number) (hcover : Targets.cover start origin = true) :
    Lasts span origin start directives := by
  induction h with
  | nil => exact .nil hcover
  | cons hle _ hline _ ih =>
      refine .kept ?_ (ih (by omega))
      intro _ hlt
      rw [hline, hspan.stop_line, Number.ofNat_lt_ofNat] at hlt
      omega

theorem cons_iff_of_kind_ne (hkind : directive.kind ≠ .stop) :
    Lasts span origin start (directive :: rest) ↔ Lasts span origin start rest := by
  constructor
  · intro h
    cases h with
    | kept _ hrest => exact hrest
    | narrowed hstop _ _ _ => exact absurd hstop hkind
  · exact .kept fun hstop => absurd hstop hkind

theorem cons_iff_of_none (heffect : stopEffect directive.targets start = .none) :
    Lasts span origin start (directive :: rest) ↔ Lasts span origin start rest := by
  constructor
  · intro h
    cases h with
    | kept _ hrest => exact hrest
    | narrowed _ _ hnarrow _ => simp [heffect] at hnarrow
  · exact .kept fun _ _ => heffect

theorem cons_iff_of_close (hkind : directive.kind = .stop)
    (heffect : stopEffect directive.targets start = .close) :
    Lasts span origin start (directive :: rest) ↔
      ¬ directive.line < span.stop.line ∧ Lasts span origin start rest := by
  constructor
  · intro h
    cases h with
    | kept hnone hrest =>
        refine ⟨?_, hrest⟩
        intro hlt
        simp [heffect] at hnone
        exact hnone hkind hlt
    | narrowed _ _ hnarrow _ => simp [heffect] at hnarrow
  · rintro ⟨hbelow, hrest⟩
    exact .kept (fun _ hlt => absurd hlt hbelow) hrest

theorem cons_iff_of_narrow (hkind : directive.kind = .stop)
    (heffect : stopEffect directive.targets start = .narrow remaining) :
    Lasts span origin start (directive :: rest) ↔
      (¬ directive.line < span.stop.line ∧ Lasts span origin start rest) ∨
        (directive.line < span.start.line ∧ Lasts span origin remaining rest) := by
  constructor
  · intro h
    cases h with
    | kept hnone hrest =>
        refine Or.inl ⟨?_, hrest⟩
        intro hlt
        simp [heffect] at hnone
        exact hnone hkind hlt
    | narrowed _ hline hnarrow hrest =>
        obtain rfl := StopEffect.narrow.inj (heffect.symm.trans hnarrow)
        exact Or.inr ⟨hline, hrest⟩
  · rintro (⟨hbelow, hrest⟩ | ⟨hline, hrest⟩)
    · exact .kept (fun _ hlt => absurd hlt hbelow) hrest
    · exact .narrowed hkind hline heffect hrest

end Lasts

/-- The stops between a stop and the end of a span end the same parts of a region with and without
that stop: none of them ends a target for every analyzer, unless it is for every analyzer itself,
and where it would cut the span, none of them ends what the stop has ended before. -/
def EndAlike (span : Span) (stop start : Targets) (directives : List LineDirective) : Prop :=
  ∀ next ∈ directives, next.kind = .stop → next.line < span.stop.line →
    isWildcard next.targets = false → ∀ target ∈ start, endsTarget next.targets target = true →
      target.isWildcard = false ∧
        (¬ next.line < span.start.line → endsTarget stop target = false)

namespace EndAlike

theorem without (h : EndAlike span stop start directives) (next : Targets) :
    EndAlike span stop (without start next) directives :=
  fun later hmem hkind hlt hwildcard target htarget =>
    h later hmem hkind hlt hwildcard target (mem_without.mp htarget).1

/-- A stop that leaves alone what another one has left ends nothing of it, also if that is for every
analyzer. -/
theorem endsTarget_eq_false (h : EndAlike span stop start (directive :: rest))
    (hkind : directive.kind = .stop) (hlt : directive.line < span.stop.line)
    (heffect : stopEffect directive.targets (Targets.without start stop) = .none) :
    ∀ target ∈ Targets.without start stop, endsTarget directive.targets target = false := by
  obtain ⟨hnext, hwildcard | hsame⟩ := stopEffect_eq_none_iff.mp heffect
  · intro target hmem
    by_contra hended
    obtain ⟨hnamed, -⟩ := h directive List.mem_cons_self hkind hlt hnext target
      (mem_without.mp hmem).1 (by simpa using hended)
    rw [List.all_eq_true.mp hwildcard target hmem] at hnamed
    simp at hnamed
  · exact without_eq_self_iff.mp hsame

/-- A stop that ends something of a region, but nothing of what another one has left of it, stands
above the span. -/
theorem line_lt (h : EndAlike span stop start (directive :: rest))
    (hkind : directive.kind = .stop) (hlt : directive.line < span.stop.line)
    (heffect : stopEffect directive.targets (Targets.without start stop) = .none)
    (hdiffers : Targets.without start directive.targets ≠ start) :
    directive.line < span.start.line := by
  by_contra hline
  refine hdiffers (without_eq_self_iff.mpr ?_)
  intro target hmem
  by_contra hended
  rw [Bool.not_eq_false] at hended
  have hnext := (stopEffect_eq_none_iff.mp heffect).1
  have hkept := (h directive List.mem_cons_self hkind hlt hnext target hmem hended).2 hline
  rw [h.endsTarget_eq_false hkind hlt heffect target (mem_without.mpr ⟨hmem, hkept⟩)] at hended
  simp at hended

end EndAlike

namespace Lasts

theorem of_isWildcard {others : Targets} (hwildcard : isWildcard others = true)
    (h : Lasts span origin start directives) : Lasts span origin others directives := by
  induction h with
  | nil _ => exact .nil (cover_of_isWildcard hwildcard origin)
  | kept heffect _ ih =>
      refine .kept ?_ ih
      intro hkind hlt
      exact stopEffect_eq_none_iff.mpr
        ⟨(stopEffect_eq_none_iff.mp (heffect hkind hlt)).1, Or.inl hwildcard⟩
  | narrowed _ _ heffect _ ih =>
      obtain ⟨-, -, -, -, hnext⟩ := eq_of_narrow heffect
      exact .kept (fun _ _ => stopEffect_eq_none_iff.mpr ⟨hnext, Or.inl hwildcard⟩) ih

theorem without (h : Lasts span origin start directives)
    (hstop : Targets.cover stop origin = false) (hne : Targets.without start stop ≠ []) :
    Lasts span origin (Targets.without start stop) directives := by
  induction h with
  | nil hcover => exact .nil (by rwa [cover_without hstop hne])
  | @kept start directive rest heffect _ ih =>
      refine .kept ?_ (ih hne)
      intro hkind hlt
      obtain ⟨hnext, hstart | hsame⟩ := stopEffect_eq_none_iff.mp (heffect hkind hlt)
      · exact stopEffect_eq_none_iff.mpr ⟨hnext, Or.inl (isWildcard_without hstart stop)⟩
      · exact stopEffect_eq_none_iff.mpr ⟨hnext, Or.inr (by rw [without_comm, hsame])⟩
  | @narrowed start remaining directive rest hkind hline heffect hrest ih =>
      obtain ⟨rfl, hremaining, -, -, hnext⟩ := eq_of_narrow heffect
      have hboth := ih (without_ne_nil hstop hremaining hrest.cover)
      have hleft := without_ne_nil hstop hremaining hrest.cover
      rw [← without_comm] at hboth hleft
      by_cases hwildcard : isWildcard (Targets.without start stop) = true
      · exact .kept (fun _ _ => stopEffect_eq_none_iff.mpr ⟨hnext, Or.inl hwildcard⟩)
          (hrest.of_isWildcard hwildcard)
      · by_cases hsame : Targets.without (Targets.without start stop) directive.targets =
            Targets.without start stop
        · rw [hsame] at hboth
          exact .kept (fun _ _ => stopEffect_eq_none_iff.mpr ⟨hnext, Or.inr hsame⟩) hboth
        · rw [Bool.not_eq_true] at hwildcard
          exact .narrowed hkind hline (stopEffect_eq_narrow hnext hwildcard hsame hleft) hboth

/-- A region lasts as long as what a stop for others leaves of it, if the stops below end the same
parts of both. -/
theorem of_without (hstop : Targets.cover stop origin = false)
    (hne : Targets.without start stop ≠ []) (halike : EndAlike span stop start directives)
    (h : Lasts span origin (Targets.without start stop) directives) :
    Lasts span origin start directives := by
  generalize hleft : Targets.without start stop = left at h
  induction h generalizing start with
  | nil hcover =>
      subst hleft
      exact .nil (by rwa [cover_without hstop hne] at hcover)
  | @kept left directive rest heffect hrest ih =>
      subst hleft
      have hothers : EndAlike span stop start rest := (List.forall_mem_cons.mp halike).2
      by_cases hacts : directive.kind = .stop ∧ directive.line < span.stop.line
      · obtain ⟨hkind, hlt⟩ := hacts
        have hleft := heffect hkind hlt
        have hsame := without_eq_self_iff.mpr (halike.endsTarget_eq_false hkind hlt hleft)
        by_cases hnone : stopEffect directive.targets start = .none
        · exact .kept (fun _ _ => hnone) (ih hne hothers rfl)
        -- The stop below acts on the whole, but takes nothing of the part from it.
        · obtain ⟨hnext, -⟩ := stopEffect_eq_none_iff.mp hleft
          rw [stopEffect_eq_none_iff, not_and, not_or, Bool.not_eq_true] at hnone
          obtain ⟨hstart, hdiffers⟩ := hnone hnext
          rw [without_comm] at hsame
          have hremaining : Targets.without start directive.targets ≠ [] := by
            intro hnil
            rw [hnil] at hsame
            exact hne hsame.symm
          exact .narrowed hkind (halike.line_lt hkind hlt hleft hdiffers)
            (stopEffect_eq_narrow hnext hstart hdiffers hremaining)
            (ih (by rwa [hsame]) (hothers.without _) hsame)
      · exact .kept (fun hkind hlt => absurd ⟨hkind, hlt⟩ hacts) (ih hne hothers rfl)
  | @narrowed left remaining directive rest hkind hline heffect hrest ih =>
      subst hleft
      have hothers : EndAlike span stop start rest := (List.forall_mem_cons.mp halike).2
      obtain ⟨rfl, hremaining, hdiffers, hleft, hnext⟩ := eq_of_narrow heffect
      rw [without_comm] at hremaining
      refine .narrowed hkind hline (stopEffect_eq_narrow hnext ?_ ?_ ?_)
        (ih hremaining (hothers.without _) (without_comm _ _ _).symm)
      · by_contra hwildcard
        rw [Bool.not_eq_false] at hwildcard
        simp [isWildcard_without hwildcard] at hleft
      · intro hsame
        rw [without_comm, hsame] at hdiffers
        exact hdiffers rfl
      · intro hnil
        rw [hnil] at hremaining
        exact hremaining rfl

end Lasts

end Targets

/-- The interval of a region that a stop on some line has ended. -/
def Interval.ended (opening line : Nat) (targets : Targets) : Interval :=
  { opened (.ofNat opening) targets with endLine := .line (.ofNat line) }

namespace Intervals

open Targets

variable {span : Span} {origin : Origin} {targets remaining : Targets} {directive : LineDirective}
  {directives : List LineDirective} {first last number line : Nat}

theorem hold_opened (opening : Nat) (targets : Targets) (hspan : span.RunsOver first last) :
    hold [.opened (.ofNat opening) targets] span origin = true ↔
      opening ≤ first ∧ Targets.cover targets origin = true := by
  simp [hold, Interval.holds, Interval.opened, hspan.start_line, and_comm]

theorem hold_ended (opening line : Nat) (targets : Targets) (hspan : span.RunsOver first last) :
    hold [.ended opening line targets] span origin = true ↔
      opening ≤ first ∧ last ≤ line ∧ Targets.cover targets origin = true := by
  simp only [hold, List.any_cons, List.any_nil, Bool.or_false, Bool.and_eq_true, Interval.holds,
    Interval.ended, Interval.opened, hspan.start_line, hspan.stop_line, decide_eq_true_eq,
    Number.ofNat_le_ofNat]
  rw [and_comm, and_assoc]

theorem stopBy_opened_of_none (opening : Nat)
    (h : directive.kind = .stop → stopEffect directive.targets targets = .none) :
    stopBy [.opened (.ofNat opening) targets] directive = [.opened (.ofNat opening) targets] := by
  unfold stopBy stopAt
  split
  · next hkind => simp [Interval.stop, Interval.opened, h hkind]
  · rfl

theorem stopBy_opened_of_close (opening : Nat) (hkind : directive.kind = .stop)
    (hline : directive.line = .ofNat line)
    (h : stopEffect directive.targets targets = .close) :
    stopBy [.opened (.ofNat opening) targets] directive = [.ended opening line targets] := by
  simp [stopBy, hkind, stopAt, Interval.stop, Interval.isOpen, Interval.opened, Interval.ended,
    hline, h]

theorem stopBy_opened_of_narrow (opening : Nat) (hkind : directive.kind = .stop)
    (hline : directive.line = .ofNat line) (hexact : line < 2 ^ 53)
    (h : stopEffect directive.targets targets = .narrow remaining) :
    stopBy [.opened (.ofNat opening) targets] directive ~
      [.ended opening line targets, .opened (.ofNat (line + 1)) remaining] := by
  rw [stopBy, if_pos hkind]
  refine (stopAt_perm _ _ _).trans (List.Perm.of_eq ?_)
  simp [Interval.stop, Interval.isOpen, Interval.opened, Interval.ended, hline,
    Number.succ_ofNat hexact, h]

/-- A region that is open above some directives has a span ignored exactly if it starts on the first
line of the span or above, and lasts. -/
theorem hold_stopAll_opened (h : Ascending number directives) (hspan : span.RunsOver first last)
    {opening : Nat} (hopening : opening ≤ number) (targets : Targets) :
    (stopAll [.opened (.ofNat opening) targets] directives).hold span origin = true ↔
      opening ≤ first ∧ Lasts span origin targets directives := by
  induction directives generalizing number opening targets with
  | nil =>
      refine (hold_opened opening targets hspan).trans (and_congr_right ?_)
      intro _
      exact ⟨.nil, fun hlasts => hlasts.cover⟩
  | cons directive rest ih =>
      cases h with
      | @cons _ line _ _ hle hexact hline hrest =>
          have hended : stopAll [.ended opening line targets] rest =
              [.ended opening line targets] := stopAll_of_isOpen_eq_false rfl rest
          -- Whatever comes below the stop, the part above it is what it is.
          have hcut : (¬ directive.line < span.stop.line ∧ Lasts span origin targets rest) ↔
              last ≤ line ∧ Targets.cover targets origin = true := by
            rw [hline, hspan.stop_line, Number.ofNat_lt_ofNat, not_lt]
            refine and_congr_right fun hlast => ⟨fun hlasts => hlasts.cover, ?_⟩
            intro hcover
            exact .of_below hrest hspan (by omega) hcover
          change (stopAll (stopBy _ directive) rest).hold span origin = true ↔ _
          by_cases hkind : directive.kind = .stop
          · cases heffect : stopEffect directive.targets targets with
            | none =>
                rw [stopBy_opened_of_none opening fun _ => heffect,
                  Lasts.cons_iff_of_none heffect]
                exact ih hrest (by omega) targets
            | close =>
                rw [stopBy_opened_of_close opening hkind hline heffect, hended,
                  hold_ended _ _ _ hspan, Lasts.cons_iff_of_close hkind heffect, hcut]
            | narrow remaining =>
                have hparts := stopBy_opened_of_narrow opening hkind hline hexact heffect
                rw [hold_perm (stopAll_perm hparts rest), hold_stopAll, List.any_cons,
                  List.any_cons, List.any_nil, Bool.or_false, Bool.or_eq_true, hended,
                  hold_ended _ _ _ hspan, ih hrest le_rfl remaining,
                  Lasts.cons_iff_of_narrow hkind heffect, hcut, hline, hspan.start_line,
                  Number.ofNat_lt_ofNat, and_or_left]
                refine or_congr_right ⟨fun hbelow => ?_, fun hbelow => ?_⟩
                · exact ⟨by omega, by omega, hbelow.2⟩
                · exact ⟨by omega, hbelow.2.2⟩
          · rw [stopBy_opened_of_none opening fun hstop => absurd hstop hkind,
              Lasts.cons_iff_of_kind_ne hkind]
            exact ih hrest (by omega) targets

end Intervals

end Suppression

import Suppression.Proofs.IrrelevantDirective

/-!
Files without one of their directives. Without a start or a directive for its own line no more is
ignored. Without a stop no less is, except where the stop shelters what it leaves of a region from
the stops below, which would act on the whole region but leave alone what is left of it
(`Targets.Sheltered`).
-/

namespace Suppression

open scoped List

namespace Targets

variable {span : Span} {origin : Origin} {start stop left whole remaining : Targets}
  {directive : LineDirective} {rest directives : List LineDirective} {first last number : Nat}

/-- What a directive below leaves of an open region. -/
def after (directive : LineDirective) (start : Targets) : Option Targets :=
  if directive.kind = .stop then (stopEffect directive.targets start).left start else some start

/-- Of two regions that some stops act on, the first one is sheltered: one of the stops leaves it
alone, but parts the second one within the span or leaves nothing of it that speaks for the
origin. -/
inductive Sheltered (span : Span) (origin : Origin) : Targets → Targets → List LineDirective → Prop
  | here {left whole : Targets} {directive : LineDirective} {rest : List LineDirective} :
      directive.kind = .stop → directive.line < span.stop.line →
        stopEffect directive.targets left = .none → stopEffect directive.targets whole ≠ .none →
      (directive.line < span.start.line →
        ∀ remaining ∈ after directive whole, cover remaining origin = false) →
      Sheltered span origin left whole (directive :: rest)
  | later {left whole left' whole' : Targets} {directive : LineDirective}
      {rest : List LineDirective} :
      (directive.kind = .stop → directive.line < span.stop.line) →
        after directive left = some left' → after directive whole = some whole' →
      Sheltered span origin left' whole' rest → Sheltered span origin left whole (directive :: rest)

theorem after_of_ne (hkind : directive.kind ≠ .stop) : after directive start = some start :=
  if_neg hkind

theorem after_of_none (heffect : stopEffect directive.targets start = .none) :
    after directive start = some start := by
  unfold after
  rw [heffect]
  split <;> rfl

theorem after_of_narrow (hkind : directive.kind = .stop)
    (heffect : stopEffect directive.targets start = .narrow remaining) :
    after directive start = some remaining := by
  rw [after, if_pos hkind, heffect]
  rfl

theorem eq_narrow_of_after (hkind : directive.kind = .stop)
    (hacts : stopEffect directive.targets start ≠ .none)
    (hleft : after directive start = some remaining) :
    stopEffect directive.targets start = .narrow remaining := by
  rw [after, if_pos hkind] at hleft
  cases heffect : stopEffect directive.targets start with
  | none => exact absurd heffect hacts
  | close => simp [heffect, StopEffect.left] at hleft
  | narrow rest =>
      rw [heffect] at hleft
      rw [Option.some.inj hleft]

theorem subset_of_narrow (hnone : stopEffect stop left = .none)
    (heffect : stopEffect stop whole = .narrow remaining) (hnamed : isWildcard left = false)
    (hsubset : ∀ target ∈ left, target ∈ whole) : ∀ target ∈ left, target ∈ remaining := by
  obtain ⟨rfl, -⟩ := eq_of_narrow heffect
  intro target hmem
  rcases (stopEffect_eq_none_iff.mp hnone).2 with hwildcard | hsame
  · simp [hnamed] at hwildcard
  · exact mem_without.mpr ⟨hsubset target hmem, without_eq_self_iff.mp hsame target hmem⟩

theorem exists_narrow_of_subset (heffect : stopEffect stop left = .narrow remaining)
    (hsubset : ∀ target ∈ left, target ∈ whole) :
    stopEffect stop whole = .narrow (without whole stop) ∧
      ∀ target ∈ remaining, target ∈ without whole stop := by
  obtain ⟨rfl, hne, hdiffers, hleft, hstop⟩ := eq_of_narrow heffect
  have hkept : ∀ target ∈ without left stop, target ∈ without whole stop := by
    intro target hmem
    obtain ⟨htarget, hends⟩ := mem_without.mp hmem
    exact mem_without.mpr ⟨hsubset target htarget, hends⟩
  refine ⟨stopEffect_eq_narrow hstop ?_ ?_ ?_, hkept⟩
  · rw [isWildcard, List.all_eq_false] at hleft ⊢
    obtain ⟨target, hmem, hnamed⟩ := hleft
    exact ⟨target, hsubset target hmem, hnamed⟩
  · intro hsame
    apply hdiffers
    apply without_eq_self_iff.mpr
    intro target hmem
    exact without_eq_self_iff.mp hsame target (hsubset target hmem)
  · obtain ⟨target, hmem⟩ := List.exists_mem_of_ne_nil _ hne
    exact List.ne_nil_of_mem (hkept target hmem)

theorem cover_without_of_narrow (heffect : stopEffect stop left = .narrow remaining)
    (hsubset : ∀ target ∈ left, target ∈ whole) (hcover : cover remaining origin = true) :
    cover (without whole stop) origin = true := by
  obtain ⟨-, hkept⟩ := exists_narrow_of_subset heffect hsubset
  obtain ⟨rfl, hne, -⟩ := eq_of_narrow heffect
  obtain ⟨target, hmem, hcovers⟩ := (cover_iff hne).mp hcover
  have htarget := hkept target hmem
  exact (cover_iff (List.ne_nil_of_mem htarget)).mpr ⟨target, htarget, hcovers⟩

theorem exists_after_of_not_sheltered (hkind : directive.kind = .stop)
    (hlt : directive.line < span.stop.line) (hleft : stopEffect directive.targets left = .none)
    (hacts : stopEffect directive.targets whole ≠ .none)
    (h : ¬ Sheltered span origin left whole (directive :: directives)) :
    directive.line < span.start.line ∧
      ∃ remaining ∈ after directive whole, cover remaining origin = true := by
  by_contra hno
  apply h
  apply Sheltered.here hkind hlt hleft hacts
  intro hstart remaining hremaining
  by_contra hcovers
  rw [Bool.not_eq_false] at hcovers
  exact hno ⟨hstart, remaining, hremaining, hcovers⟩

namespace Lasts

/-- A region lasts as long as a part of it that lasts and is not sheltered. What is for every
analyzer need not be a part of it. -/
theorem of_not_sheltered (h : Lasts span origin left directives)
    (hascending : Ascending number directives) (hspan : span.RunsOver first last)
    (hcover : Targets.cover whole origin = true)
    (hsubset : isWildcard left = false → ∀ target ∈ left, target ∈ whole)
    (hsheltered : ¬ Sheltered span origin left whole directives) :
    Lasts span origin whole directives := by
  -- The whole changes on the way down: below a stop that leaves the part alone, it is what that
  -- stop leaves of it, which must then still speak for the origin.
  induction h generalizing whole number with
  | nil _ => exact .nil hcover
  | @kept left directive rest heffect _ ih =>
      cases hascending with
      | @cons _ line _ _ hle hexact hline hrest =>
          by_cases hkind : directive.kind = .stop
          · by_cases hlt : directive.line < span.stop.line
            · have hleft := heffect hkind hlt
              have hbelow {whole' : Targets} (hwhole : after directive whole = some whole') :
                  ¬ Sheltered span origin left whole' rest := by
                intro h
                exact hsheltered (.later (fun _ => hlt) (after_of_none hleft) hwhole h)
              by_cases hnone : stopEffect directive.targets whole = .none
              · exact .kept (fun _ _ => hnone)
                  (ih hrest hcover hsubset (hbelow (after_of_none hnone)))
              · -- The stop acts on the whole, but stands above the span and leaves enough of it.
                obtain ⟨hstart, remaining, hremaining, hcovers⟩ :=
                  exists_after_of_not_sheltered hkind hlt hleft hnone hsheltered
                have hwhole := eq_narrow_of_after hkind hnone hremaining
                refine .narrowed hkind hstart hwhole (ih hrest hcovers ?_ (hbelow hremaining))
                intro hnamed
                exact subset_of_narrow hleft hwhole hnamed (hsubset hnamed)
            · -- From here on no directive stands above the last line of the span.
              have hbelow : last ≤ line := by
                rw [hline, hspan.stop_line, Number.ofNat_lt_ofNat] at hlt
                omega
              exact of_below (.cons le_rfl hexact hline hrest) hspan hbelow hcover
          · refine .kept (fun hstop => absurd hstop hkind) (ih hrest hcover hsubset ?_)
            intro h
            exact hsheltered (.later (fun hstop => absurd hstop hkind) (after_of_ne hkind)
              (after_of_ne hkind) h)
  | @narrowed left remaining directive rest hkind hline heffect hlasts ih =>
      obtain ⟨-, -, -, hnamed, -⟩ := eq_of_narrow heffect
      obtain ⟨hwhole, hkept⟩ := exists_narrow_of_subset heffect (hsubset hnamed)
      have hlt : directive.line < span.stop.line := by
        obtain ⟨line, hnumber⟩ := hascending.exists_line
        rw [hnumber, hspan.start_line, Number.ofNat_lt_ofNat] at hline
        rw [hnumber, hspan.stop_line, Number.ofNat_lt_ofNat]
        exact hline.trans_le hspan.ordered
      have hcovers := cover_without_of_narrow heffect (hsubset hnamed) hlasts.cover
      refine .narrowed hkind hline hwhole
        (ih hascending.of_cons hcovers (fun _ => hkept) ?_)
      intro h
      exact hsheltered (.later (fun _ => hlt) (after_of_narrow hkind heffect)
        (after_of_narrow hkind hwhole) h)

end Lasts

theorem Sheltered.not_lasts (h : Sheltered span origin left whole directives) :
    ¬ Lasts span origin whole directives := by
  induction h with
  | here hkind hlt _ hacts hgone =>
      intro hlasts
      cases hlasts with
      | kept hnone _ => exact hacts (hnone hkind hlt)
      | narrowed _ hstart heffect hrest =>
          have hsilent := hgone hstart _ (after_of_narrow hkind heffect)
          simp [hrest.cover] at hsilent
  | @later _ whole _ whole' directive rest hline _ hwhole _ ih =>
      intro hlasts
      apply ih
      cases hlasts with
      | kept hnone hrest =>
          by_cases hkind : directive.kind = .stop
          · rw [after_of_none (hnone hkind (hline hkind))] at hwhole
            rwa [← Option.some.inj hwhole]
          · rw [after_of_ne hkind] at hwhole
            rwa [← Option.some.inj hwhole]
      | narrowed hkind _ heffect hrest =>
          rw [after_of_narrow hkind heffect] at hwhole
          rwa [← Option.some.inj hwhole]

/-- Of a region that a stop narrows above the span, exactly that decides whether it lasts as long
without the stop. -/
theorem Lasts.iff_not_sheltered (h : Lasts span origin remaining directives)
    (hascending : Ascending number directives) (hspan : span.RunsOver first last)
    (heffect : stopEffect stop start = .narrow remaining) :
    Lasts span origin start directives ↔ ¬ Sheltered span origin remaining start directives := by
  constructor
  · intro hlasts hsheltered
    exact hsheltered.not_lasts hlasts
  · apply h.of_not_sheltered hascending hspan (cover_of_narrow heffect h.cover)
    obtain ⟨rfl, -⟩ := eq_of_narrow heffect
    intro _ target hmem
    exact (mem_without.mp hmem).1

end Targets

namespace Intervals

variable {intervals : Intervals} {span : Span} {origin : Origin} {directive : LineDirective}
  {later : List LineDirective} {first last line : Nat}

/-- The stop narrows an open region above the span, and shelters what it leaves of the region, which
has the span ignored, from the stops below. -/
def Shelters (directive : LineDirective) (intervals : Intervals) (later : List LineDirective)
    (span : Span) (origin : Origin) : Prop :=
  directive.line < span.start.line ∧ ∃ region ∈ intervals, region.isOpen = true ∧
    ∃ remaining, Targets.stopEffect directive.targets region.targets = .narrow remaining ∧
      Targets.Lasts span origin remaining later ∧
        Targets.Sheltered span origin remaining region.targets later

theorem ignore_applyAll_cons_of_ne (hwithin : intervals.Within line)
    (h : Ascending (line + 1) (directive :: later)) (hkind : directive.kind ≠ .stop)
    {range : Range} (hignore : (applyAll intervals later).ignore range origin = true) :
    (applyAll intervals (directive :: later)).ignore range origin = true := by
  have hperm := applyAll_cons_perm hwithin h
  have hsame : stopAll intervals (directive :: later) = stopAll intervals later := by
    rw [stopAll, List.foldl_cons, stopBy_of_ne hkind]
    rfl
  rw [hsame] at hperm
  unfold ignore at hignore ⊢
  cases hspan : range.span with
  | none =>
      simp only [hspan, mention_applyAll hwithin h.of_cons, Bool.or_eq_true] at hignore
      simp only [mention_perm hperm, mention_append, mention_stopAll, Bool.or_eq_true]
      rcases hignore with habove | hbelow
      · exact Or.inl habove
      · exact Or.inr (Or.inr hbelow)
  | some span =>
      simp only [hspan, hold_applyAll hwithin h.of_cons, Bool.or_eq_true] at hignore
      simp only [hold_perm hperm, hold_append, Bool.or_eq_true]
      rcases hignore with habove | hbelow
      · exact Or.inl habove
      · exact Or.inr (Or.inr hbelow)

theorem applyAll_cons_perm_of_stop (hwithin : intervals.Within line)
    (h : Ascending (line + 1) (directive :: later)) (hkind : directive.kind = .stop) :
    applyAll intervals (directive :: later) ~
      stopAll intervals (directive :: later) ++ applyAll [] later := by
  have hnone : apply [] directive = [] := by
    simp [apply, hkind, stopAt]
  have hperm := applyAll_cons_perm hwithin h
  rwa [hnone, stopAll_nil, List.nil_append] at hperm

theorem mention_applyAll_cons_of_stop (hwithin : intervals.Within line)
    (h : Ascending (line + 1) (directive :: later)) (hkind : directive.kind = .stop) :
    (applyAll intervals (directive :: later)).mention origin =
      (applyAll intervals later).mention origin := by
  rw [mention_perm (applyAll_cons_perm_of_stop hwithin h hkind), mention_append, mention_stopAll,
    mention_applyAll hwithin h.of_cons]

theorem hold_applyAll_of_stop (hwithin : intervals.Within line)
    (h : Ascending (line + 1) (directive :: later)) (hkind : directive.kind = .stop)
    (hspan : span.RunsOver first last)
    (hhold : (applyAll intervals (directive :: later)).hold span origin = true) :
    (applyAll intervals later).hold span origin = true ∨
      Shelters directive intervals later span origin := by
  rw [or_iff_not_imp_right]
  intro hshelters
  rw [hold_perm (applyAll_cons_perm_of_stop hwithin h hkind), hold_append, Bool.or_eq_true]
    at hhold
  rw [hold_applyAll hwithin h.of_cons, Bool.or_eq_true]
  -- The regions that start below are the same, so only those that the stop finds open matter.
  refine hhold.imp_left (hold_stopAll_imp hwithin h h.of_cons hspan ?_)
  intro region hmem hopen hlasts
  cases hlasts with
  | kept _ hrest => exact hrest
  | @narrowed _ remaining _ _ _ hline heffect hrest =>
      apply (hrest.iff_not_sheltered h.of_cons hspan heffect).mpr
      intro hsheltered
      exact hshelters ⟨hline, region, hmem, hopen, remaining, heffect, hrest, hsheltered⟩

end Intervals

namespace Tracker

/-- Without a start or a directive for its own line nothing becomes ignored. Without a stop nothing
stops being ignored, but below a stop that shelters a region. -/
theorem Reached.isIgnored_of_removal {matcher : Matcher} {tree tree' : FileTree}
    {tracker tracker' : Tracker} (h : tracker.Reached matcher tree)
    (h' : tracker'.Reached matcher tree') {range : Range} (haccepted : range.Accepted)
    (hexact : range.IsExact) {text text' : String}
    (htext : tree.readText range.file = .ok text)
    (htext' : tree'.readText range.file = .ok text') {above below : List (List Char)}
    {line line' : List Char} (hlines : Text.fileLines text.toList = above ++ line :: below)
    (hlines' : Text.fileLines text'.toList = above ++ line' :: below ∨
      below = [] ∧ Text.fileLines text'.toList = above) {directive : Directive}
    (hdirective : matcher (String.ofList line) = .ok (some directive))
    (hblank : matcher (String.ofList line') = .ok none) {earlier later : List LineDirective}
    (hearlier : matcher.inLinesFrom 1 above = .ok earlier)
    (hlater : matcher.inLinesFrom (above.length + 2) below = .ok later) (origin : Origin) :
    ∃ kept replaced, (tracker.isIgnored tree range origin).1 = .ok kept ∧
      (tracker'.isIgnored tree' range origin).1 = .ok replaced ∧
      (directive.kind ≠ .stop → replaced = true → kept = true) ∧
      (directive.kind = .stop → kept = true → replaced = true ∨ ∃ span ∈ range.span,
        Intervals.Shelters (directive.onLine (above.length + 1)) (Intervals.applyAll [] earlier)
          later span origin) := by
  obtain ⟨hwithin, hascending, hkept, hreplaced⟩ := h.isIgnored_replaced h' haccepted hexact htext
    htext' hlines hlines' hdirective hblank hearlier hlater origin
  refine ⟨_, _, hkept, hreplaced, ?_, ?_⟩
  · intro hkind
    exact Intervals.ignore_applyAll_cons_of_ne hwithin hascending hkind
  · intro hkind hignore
    unfold Intervals.ignore at hignore ⊢
    cases hspan : range.span with
    | none =>
        left
        rw [hspan] at hignore
        rwa [← Intervals.mention_applyAll_cons_of_stop hwithin hascending hkind]
    | some span =>
        obtain ⟨first, last, hruns⟩ := haccepted.runsOver hspan
        rw [hspan] at hignore
        refine (Intervals.hold_applyAll_of_stop hwithin hascending hkind hruns hignore).imp id ?_
        intro hshelters
        exact ⟨span, rfl, hshelters⟩

theorem Reached.isIgnored_of_removal_narrowing :
    let text := "# start ignoring pylint mypy\n# stop ignoring pylint\n\n"
    let text' := "# start ignoring pylint mypy\n\n\n"
    let range := { file := "a.py", span := some ⟨⟨3, 0⟩, ⟨3, 7⟩⟩ }
    ∃ kept replaced,
      (isIgnored { settings := {} } (.single "a.py" text) range { analyzer := "mypy" }).1 =
        .ok kept ∧
      (isIgnored { settings := {} } (.single "a.py" text') range { analyzer := "mypy" }).1 =
        .ok replaced ∧
      (kept = true → replaced = true) := by
  intro text text' range
  have hstart : Reached .standard (.single "a.py" text) { settings := {} } :=
    .fresh (FileTree.holdable_single (by decide +kernel)) rfl
  have hstart' : Reached .standard (.single "a.py" text') { settings := {} } :=
    .fresh (FileTree.holdable_single (by decide +kernel)) rfl
  have hbetween : Range.between "a.py" ⟨3, 0⟩ ⟨3, 7⟩ = .ok range := by decide
  have hlines : Text.fileLines text.toList =
      ["# start ignoring pylint mypy".toList] ++ "# stop ignoring pylint".toList :: [[]] := by
    decide +kernel
  have hlines' : Text.fileLines text'.toList =
      ["# start ignoring pylint mypy".toList] ++ [] :: [[]] := by
    decide +kernel
  have hdirective : Matcher.standard (String.ofList "# stop ignoring pylint".toList) =
      .ok (some ⟨.stop, [{ analyzer := "pylint" }]⟩) := by decide +kernel
  have habove : Matcher.standard.inLinesFrom 1 ["# start ignoring pylint mypy".toList] =
      .ok [⟨⟨.start, [{ analyzer := "pylint" }, { analyzer := "mypy" }]⟩, 1⟩] := by
    decide +kernel
  have hbelow : Matcher.standard.inLinesFrom 3 [[]] = .ok [] := by decide +kernel
  obtain ⟨kept, replaced, hkept, hreplaced, -, hstop⟩ :=
    hstart.isIgnored_of_removal hstart' (.between hbetween) (by decide)
      (FileTree.readText_single_script text) (FileTree.readText_single_script text') hlines
      (Or.inl hlines') hdirective (by decide +kernel) habove hbelow { analyzer := "mypy" }
  refine ⟨kept, replaced, hkept, hreplaced, ?_⟩
  intro hignored
  rcases hstop rfl hignored with hsame | ⟨_, _, _, _, _, _, _, _, _, hsheltered⟩
  · exact hsame
  · cases hsheltered

/-- A stop that leaves nothing but `all` shelters it from stops that name `all` among others, and
one that has ended a target shelters a span from being parted where that target is named again. -/
theorem freshAnswer_sheltered :
    Matcher.standard "# stop ignoring mypy" =
        .ok (some ⟨.stop, [{ analyzer := "mypy" }]⟩) ∧ Matcher.standard "" = .ok none ∧
      (freshAnswer
            "# start ignoring all mypy\n# stop ignoring mypy\n# stop ignoring all mypy\n\n" 4 4
            "mypy" = .ok true ∧
        freshAnswer "# start ignoring all mypy\n\n# stop ignoring all mypy\n\n" 4 4 "mypy" =
          .ok false) ∧
      (freshAnswer
            "# start ignoring mypy flake8\n# stop ignoring mypy\n\n# stop ignoring mypy\n\n" 3 5
            "flake8" = .ok true ∧
        freshAnswer "# start ignoring mypy flake8\n\n\n# stop ignoring mypy\n\n" 3 5 "flake8" =
          .ok false) := by
  refine ⟨by decide +kernel, by decide +kernel, ?_, ?_⟩
  · exact ⟨freshAnswer_eq (by decide) (by decide) (by decide +kernel),
      freshAnswer_eq (by decide) (by decide) (by decide +kernel)⟩
  · exact ⟨freshAnswer_eq (by decide) (by decide) (by decide +kernel),
      freshAnswer_eq (by decide) (by decide) (by decide +kernel)⟩

end Tracker

end Suppression

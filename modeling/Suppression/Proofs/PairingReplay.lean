import Suppression.Pairing
import Suppression.Proofs.LineSweep
import Suppression.Proofs.TargetKey

namespace Suppression

/-- A directive that does not pair up with the intervals that the directives above it have made: a
stop that leaves all of them as they are, or a start with the key of one that is still open. -/
def Intervals.Unpaired (intervals : Intervals) (directive : LineDirective) : Prop :=
  match directive.kind with
  | .stop => intervals.apply directive = intervals
  | .start => ∃ interval ∈ intervals, interval.isOpen = true ∧
      Targets.key interval.targets = Targets.key directive.targets
  | .inline => False

instance (intervals : Intervals) (directive : LineDirective) :
    Decidable (intervals.Unpaired directive) := by
  unfold Intervals.Unpaired
  split <;> infer_instance

namespace Intervals

variable {intervals : Intervals} {opened : List Targets}

theorem stopAt_eq_self_iff {line : Number} {stop : Targets} :
    intervals.stopAt line stop = intervals ↔
      ∀ interval ∈ intervals, interval.isOpen = true →
        Targets.stopEffect stop interval.targets = .none := by
  have halone {interval : Interval} : interval.stop line stop = (interval, none) ↔
      (interval.isOpen = true → Targets.stopEffect stop interval.targets = .none) := by
    cases hopen : interval.isOpen with
    | false => simp [Interval.stop, hopen]
    | true =>
        cases heffect : Targets.stopEffect stop interval.targets with
        | none => simp [Interval.stop, hopen, heffect]
        | close =>
            simp only [Interval.stop, hopen, heffect, if_true, Prod.mk.injEq, and_true,
              reduceCtorEq, imp_false, not_true_eq_false, iff_false]
            intro hsame
            rw [← hsame] at hopen
            simp [Interval.isOpen] at hopen
        | narrow remaining => simp [Interval.stop, hopen, heffect]
  simp only [← halone]
  have hfst (intervals : Intervals) : (intervals.map (Interval.stop line stop)).map Prod.fst =
      intervals.map id ↔ ∀ interval ∈ intervals, (interval.stop line stop).1 = interval := by
    rw [List.map_map, List.map_inj_left]
    rfl
  have hsnd : (intervals.map (Interval.stop line stop)).filterMap Prod.snd = [] ↔
      ∀ interval ∈ intervals, (interval.stop line stop).2 = none := by
    rw [List.filterMap_map, List.filterMap_eq_nil_iff]
    rfl
  constructor
  · intro hsame
    -- Nothing goes on after the stop, since that would make the list longer.
    have hlength := (stopAt_perm intervals line stop).length_eq
    rw [hsame, List.length_append, List.length_map, Nat.left_eq_add, List.length_eq_zero_iff,
      List.filterMap_eq_nil_iff] at hlength
    rw [stopAt, hsnd.mpr hlength, List.foldl_nil] at hsame
    have hself := (hfst intervals).mp (hsame.trans (List.map_id intervals).symm)
    intro interval hmem
    exact Prod.ext (hself interval hmem) (hlength interval hmem)
  · intro hall
    have hnothing := hsnd.mpr fun interval hmem => congrArg Prod.snd (hall interval hmem)
    have hself := (hfst intervals).mpr fun interval hmem => congrArg Prod.fst (hall interval hmem)
    rw [stopAt, hnothing, List.foldl_nil, hself, List.map_id]

end Intervals

namespace Pairing

variable {starts : List OpenStart} {opened : List Targets} {intervals : Intervals}
  {directives : List LineDirective}

/-- The open starts have the keys of the open target lists, and all lists are plain. -/
structure Mirrors (starts : List OpenStart) (opened : List Targets) : Prop where
  startPlain : ∀ start ∈ starts, start.targets.ArePlain
  openPlain : ∀ targets ∈ opened, targets.ArePlain
  keys : ∀ key, (∃ start ∈ starts, Targets.key start.targets = key) ↔
    ∃ targets ∈ opened, Targets.key targets = key

theorem Mirrors.nil : Mirrors [] [] :=
  ⟨by simp, by simp, by simp⟩

theorem mem_filterMap_stopOne {stop : Targets} {start : OpenStart} :
    start ∈ starts.filterMap (stopOne stop) ↔ ∃ old ∈ starts, start.line = old.line ∧
      (Targets.stopEffect stop old.targets).left old.targets = some start.targets := by
  rw [List.mem_filterMap]
  refine exists_congr fun old => and_congr_right fun _ => ?_
  rw [stopOne, Option.bind_eq_some_iff]
  constructor
  · rintro ⟨targets, hleft, heq⟩
    obtain rfl := Option.some.inj heq
    exact ⟨rfl, hleft⟩
  · rintro ⟨hline, hleft⟩
    exact ⟨start.targets, hleft, by rw [← hline]⟩

theorem Mirrors.stop (h : Mirrors starts opened) (stop : Targets) :
    Mirrors (starts.filterMap (stopOne stop))
      (opened.filterMap fun targets => (Targets.stopEffect stop targets).left targets) where
  startPlain := by
    intro start hstart
    obtain ⟨old, hold, -, hleft⟩ := mem_filterMap_stopOne.mp hstart
    exact (h.startPlain old hold).left hleft
  openPlain := by
    intro targets htargets
    obtain ⟨old, hold, hleft⟩ := List.mem_filterMap.mp htargets
    exact (h.openPlain old hold).left hleft
  keys := by
    intro key
    constructor
    · rintro ⟨start, hstart, rfl⟩
      obtain ⟨old, hold, -, hleft⟩ := mem_filterMap_stopOne.mp hstart
      obtain ⟨targets, htargets, hkey⟩ := (h.keys _).mp ⟨old, hold, rfl⟩
      have hsame :=
        Targets.left_key (h.openPlain targets htargets) (h.startPlain old hold) hkey stop
      rw [hleft, Option.map_some, Option.map_eq_some_iff] at hsame
      obtain ⟨rest, hrest, hrestkey⟩ := hsame
      exact ⟨rest, List.mem_filterMap.mpr ⟨targets, htargets, hrest⟩, hrestkey⟩
    · rintro ⟨rest, hrest, rfl⟩
      obtain ⟨targets, htargets, hleft⟩ := List.mem_filterMap.mp hrest
      obtain ⟨old, hold, hkey⟩ := (h.keys _).mpr ⟨targets, htargets, rfl⟩
      have hsame :=
        Targets.left_key (h.startPlain old hold) (h.openPlain targets htargets) hkey stop
      rw [hleft, Option.map_some, Option.map_eq_some_iff] at hsame
      obtain ⟨left, hleft, hleftkey⟩ := hsame
      exact ⟨⟨old.line, left⟩, mem_filterMap_stopOne.mpr ⟨old, hold, rfl, hleft⟩, hleftkey⟩

theorem step_start (starts : List OpenStart) {directive : LineDirective}
    (hkind : directive.kind = .start) :
    (∃ start ∈ starts, Targets.key start.targets = Targets.key directive.targets) ∧
        (∃ since, step starts directive =
          (starts, some (.duplicateStart directive.line directive.targets since))) ∨
      (¬ ∃ start ∈ starts, Targets.key start.targets = Targets.key directive.targets) ∧
        step starts directive = (starts ++ [⟨directive.line, directive.targets⟩], none) := by
  cases hfind : starts.find? fun start =>
      Targets.key start.targets == Targets.key directive.targets with
  | some start =>
      refine Or.inl ⟨⟨start, List.mem_of_find?_eq_some hfind, ?_⟩, start.line, ?_⟩
      · simpa using List.find?_some hfind
      · simp [step, hkind, hfind]
  | none =>
      refine Or.inr ⟨?_, by simp [step, hkind, hfind]⟩
      rintro ⟨start, hstart, hkey⟩
      simpa [hkey] using List.find?_eq_none.mp hfind start hstart

theorem Mirrors.start (h : Mirrors starts opened) {directive : LineDirective}
    (hkind : directive.kind = .start) (hplain : directive.targets.ArePlain) :
    Mirrors (step starts directive).1 (opened ++ [directive.targets]) := by
  have hopen : ∀ targets ∈ opened ++ [directive.targets], targets.ArePlain := by
    intro targets hmem
    rcases List.mem_append.mp hmem with hold | hnew
    · exact h.openPlain targets hold
    · rwa [List.mem_singleton.mp hnew]
  rcases step_start starts hkind with ⟨hknown, since, hstep⟩ | ⟨-, hstep⟩
  · rw [hstep]
    refine ⟨h.startPlain, hopen, fun key => ?_⟩
    rw [h.keys]
    constructor
    · rintro ⟨targets, hmem, hkey⟩
      exact ⟨targets, List.mem_append_left _ hmem, hkey⟩
    · rintro ⟨targets, hmem, rfl⟩
      rcases List.mem_append.mp hmem with hold | hnew
      · exact ⟨targets, hold, rfl⟩
      · rw [List.mem_singleton.mp hnew]
        exact (h.keys _).mp hknown
  · rw [hstep]
    refine ⟨?_, hopen, fun key => ?_⟩
    · intro start hmem
      rcases List.mem_append.mp hmem with hold | hnew
      · exact h.startPlain start hold
      · rwa [List.mem_singleton.mp hnew]
    · simp only [List.mem_append, List.mem_singleton, or_and_right, exists_or, exists_eq_left,
        h.keys key]

/-- The step lemma of the pairing check: its starts go on having the keys of the open lists. -/
theorem Mirrors.step (h : Mirrors starts opened) {directive : LineDirective}
    (hplain : directive.targets.ArePlain) :
    Mirrors (step starts directive).1 (Sweep.below opened (some directive.toDirective)) := by
  obtain ⟨⟨kind, targets⟩, line⟩ := directive
  cases kind with
  | start => exact h.start rfl hplain
  | stop => exact h.stop targets
  | inline => exact h

def startsAfter (starts : List OpenStart) (directives : List LineDirective) : List OpenStart :=
  directives.foldl (fun starts directive => (Pairing.step starts directive).1) starts

/-- What is reported of each of some directives, where anything is. -/
def reportsFrom (starts : List OpenStart) : List LineDirective → List (Option PairingProblem)
  | [] => []
  | directive :: rest =>
      (Pairing.step starts directive).2 :: reportsFrom (Pairing.step starts directive).1 rest

theorem problemsFrom_eq_reduceOption (starts : List OpenStart) (directives : List LineDirective) :
    problemsFrom starts directives = (reportsFrom starts directives).reduceOption := by
  induction directives generalizing starts with
  | nil => rfl
  | cons directive rest ih =>
      rw [reportsFrom, problemsFrom]
      simp only [ih]
      cases (Pairing.step starts directive).2 <;> rfl

theorem reportsFrom_append (starts : List OpenStart) (before after : List LineDirective) :
    reportsFrom starts (before ++ after) =
      reportsFrom starts before ++ reportsFrom (startsAfter starts before) after := by
  induction before generalizing starts with
  | nil => rfl
  | cons directive rest ih =>
      rw [List.cons_append, reportsFrom, ih]
      rfl

theorem length_reportsFrom (starts : List OpenStart) (directives : List LineDirective) :
    (reportsFrom starts directives).length = directives.length := by
  induction directives generalizing starts with
  | nil => rfl
  | cons directive rest ih => rw [reportsFrom, List.length_cons, ih, List.length_cons]

def Follows (starts : List OpenStart) (intervals : Intervals) : Prop :=
  ∃ opened, intervals.Opens opened ∧ Mirrors starts opened

theorem Follows.nil : Follows [] [] :=
  ⟨[], by simp [Intervals.Opens], .nil⟩

theorem Follows.step (h : Follows starts intervals) {directive : LineDirective}
    (hplain : directive.targets.ArePlain) :
    Follows (step starts directive).1 (intervals.apply directive) := by
  obtain ⟨opened, hopens, hmirrors⟩ := h
  exact ⟨_, hopens.apply directive, hmirrors.step hplain⟩

/-- The run lemma: the starts that stay open have the keys of the intervals that stay open. -/
theorem Follows.run (h : Follows starts intervals)
    (hplain : ∀ directive ∈ directives, directive.targets.ArePlain) :
    Follows (startsAfter starts directives) (intervals.applyAll directives) := by
  induction directives generalizing starts intervals with
  | nil => exact h
  | cons directive rest ih =>
      obtain ⟨hfirst, hrest⟩ := List.forall_mem_cons.mp hplain
      exact ih (h.step hfirst) hrest

theorem Follows.exists_start_iff (h : Follows starts intervals) (key : Wide) :
    (∃ start ∈ starts, Targets.key start.targets = key) ↔
      ∃ interval ∈ intervals, interval.isOpen = true ∧ Targets.key interval.targets = key := by
  obtain ⟨opened, hopens, hmirrors⟩ := h
  rw [hmirrors.keys]
  constructor
  · rintro ⟨targets, hmem, hkey⟩
    obtain ⟨interval, hinterval, hopen, rfl⟩ := (hopens targets).mp hmem
    exact ⟨interval, hinterval, hopen, hkey⟩
  · rintro ⟨interval, hinterval, hopen, hkey⟩
    exact ⟨_, (hopens _).mpr ⟨interval, hinterval, hopen, rfl⟩, hkey⟩

theorem Follows.endsAny_iff (h : Follows starts intervals) (line : Number) (stop : Targets) :
    endsAny stop starts = false ↔ intervals.stopAt line stop = intervals := by
  obtain ⟨opened, hopens, hmirrors⟩ := h
  rw [Intervals.stopAt_eq_self_iff, endsAny, List.any_eq_false]
  simp only [bne_iff_ne, ne_eq, not_not]
  constructor
  · intro hnone interval hmem hopen
    have htargets := (hopens _).mpr ⟨interval, hmem, hopen, rfl⟩
    obtain ⟨start, hstart, hkey⟩ := (hmirrors.keys _).mpr ⟨_, htargets, rfl⟩
    exact Targets.stopEffect_eq_none_of_key (hmirrors.startPlain start hstart)
      (hmirrors.openPlain _ htargets) hkey (hnone start hstart)
  · intro hnone start hstart
    obtain ⟨targets, htargets, hkey⟩ := (hmirrors.keys _).mp ⟨start, hstart, rfl⟩
    obtain ⟨interval, hmem, hopen, rfl⟩ := (hopens targets).mp htargets
    exact Targets.stopEffect_eq_none_of_key (hmirrors.openPlain _ htargets)
      (hmirrors.startPlain start hstart) hkey (hnone interval hmem hopen)

/-- What is reported of a directive agrees with what it does to the intervals above it. -/
structure Agrees (report : Option PairingProblem) (intervals : Intervals)
    (directive : LineDirective) : Prop where
  stop : report = some (.unmatchedStop directive.line directive.targets) ↔
    directive.kind = .stop ∧ intervals.apply directive = intervals
  start : (∃ since, report = some (.duplicateStart directive.line directive.targets since)) ↔
    directive.kind = .start ∧ ∃ interval ∈ intervals, interval.isOpen = true ∧
      Targets.key interval.targets = Targets.key directive.targets
  unpaired : report.isSome = true ↔ intervals.Unpaired directive

theorem Follows.agrees (h : Follows starts intervals) (directive : LineDirective) :
    Agrees (Pairing.step starts directive).2 intervals directive := by
  cases hkind : directive.kind with
  | start =>
      have hknown := h.exists_start_iff (Targets.key directive.targets)
      rcases step_start starts hkind with ⟨hin, since, hstep⟩ | ⟨hout, hstep⟩
      · have hopen := hknown.mp hin
        constructor <;> simp [hstep, hkind, Intervals.Unpaired, hopen]
      · have hopen := hknown.not.mp hout
        constructor
        · simp [hstep, hkind]
        · rw [hstep]
          simpa [hkind] using hopen
        · rw [hstep]
          simpa [hkind, Intervals.Unpaired] using hopen
  | stop =>
      have happly : intervals.apply directive =
          intervals.stopAt directive.line directive.targets := by
        simp [Intervals.apply, hkind]
      have hends := h.endsAny_iff directive.line directive.targets
      rw [← happly] at hends
      cases hany : endsAny directive.targets starts with
      | true =>
          have hchanges : ¬ intervals.apply directive = intervals := by simpa [hany] using hends
          constructor <;> simp [Pairing.step, hkind, hany, Intervals.Unpaired, hchanges]
      | false =>
          have hsame := hends.mp hany
          constructor <;> simp [Pairing.step, hkind, hany, Intervals.Unpaired, hsame]
  | inline => constructor <;> simp [Pairing.step, hkind, Intervals.Unpaired]

theorem Follows.length_problemsFrom (h : Follows starts intervals)
    (hplain : ∀ directive ∈ directives, directive.targets.ArePlain) :
    (problemsFrom starts directives).length =
      (List.finRange directives.length).countP fun index : Fin directives.length =>
        (intervals.applyAll (directives.take index)).Unpaired directives[index] := by
  induction directives generalizing starts intervals with
  | nil => rfl
  | cons directive rest ih =>
      obtain ⟨hfirst, hrest⟩ := List.forall_mem_cons.mp hplain
      have hreport := (h.agrees directive).unpaired
      have hrest := ih (h.step hfirst) hrest
      change _ = (List.finRange (rest.length + 1)).countP _
      rw [List.finRange_succ, List.countP_cons, List.countP_map, problemsFrom]
      simp only [List.length_append, hrest]
      rw [Nat.add_comm]
      congr 1
      cases hproblem : (Pairing.step starts directive).2 with
      | none => simp_all [Intervals.applyAll]
      | some problem => simp_all [Intervals.applyAll]

/-- The pairing check agrees with the intervals. Of each directive it reports what the intervals of
the directives above it tell, and it reports nothing else: the number of problems is that of the
directives that do not pair up. -/
theorem problems_spec {directives : List LineDirective}
    (hflat : ∀ directive ∈ directives, ∃ text, Grammar.flat? text = some directive.targets) :
    problems directives = (reportsFrom [] directives).reduceOption ∧
      (∀ before directive after, directives = before ++ directive :: after →
        ∃ report, (reportsFrom [] directives)[before.length]? = some report ∧
          Agrees report (Intervals.applyAll [] before) directive) ∧
      (problems directives).length =
        (List.finRange directives.length).countP fun index : Fin directives.length =>
          (Intervals.applyAll [] (directives.take index)).Unpaired directives[index] := by
  have hplain : ∀ directive ∈ directives, directive.targets.ArePlain := by
    intro directive hmem
    obtain ⟨text, htext⟩ := hflat directive hmem
    exact Grammar.arePlain_of_flat? htext
  refine ⟨problemsFrom_eq_reduceOption [] directives, ?_, Follows.nil.length_problemsFrom hplain⟩
  rintro before directive after rfl
  refine ⟨(Pairing.step (startsAfter [] before) directive).2, ?_, ?_⟩
  · rw [reportsFrom_append, List.getElem?_append_right (length_reportsFrom _ _).le,
      length_reportsFrom, Nat.sub_self]
    rfl
  · apply (Follows.nil.run fun other hother => ?_).agrees
    exact hplain other (List.mem_append_left _ hother)

theorem problems_spec_repeatedStart :
    let first : LineDirective := ⟨⟨.start, [{ analyzer := "mypy" }]⟩, .ofNat 1⟩
    let again : LineDirective := ⟨⟨.start, [{ analyzer := "MyPy" }]⟩, .ofNat 2⟩
    let other : LineDirective := ⟨⟨.stop, [{ analyzer := "pylint" }]⟩, .ofNat 3⟩
    (∀ directive ∈ [first, again, other],
        ∃ text, Grammar.flat? text = some directive.targets) ∧
      (∃ report, (reportsFrom [] [first, again, other])[1]? = some report ∧
        Agrees report (Intervals.applyAll [] [first]) again) ∧
      (problems [first, again, other]).length = 2 := by
  intro first again other
  have hflat : ∀ directive ∈ [first, again, other],
      ∃ text, Grammar.flat? text = some directive.targets := by
    simp only [List.forall_mem_cons, List.not_mem_nil, false_implies, implies_true, and_true]
    exact ⟨⟨"mypy".toList, by decide +kernel⟩, ⟨"MyPy".toList, by decide +kernel⟩,
      ⟨"pylint".toList, by decide +kernel⟩⟩
  obtain ⟨-, hagrees, hlength⟩ := problems_spec hflat
  exact ⟨hflat, hagrees [first] again [other] rfl, hlength.trans (by decide +kernel)⟩

end Pairing

end Suppression

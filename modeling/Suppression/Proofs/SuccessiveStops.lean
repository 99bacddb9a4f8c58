import Suppression.Proofs.StopEffect

namespace Suppression

theorem Target.ends_of_isWildcard {stop target : Target} (h : target.isWildcard = true) :
    stop.ends target = stop.isWildcard := by
  simp only [isWildcard, Bool.and_eq_true, beq_iff_eq, Option.isNone_iff_eq_none] at h
  obtain ⟨hname, hrule⟩ := h
  rw [ends, isWildcard, hname, hrule]
  cases stop.rule <;> rfl

namespace Targets

variable {a b stop start rest : Targets} {origin : Origin}

/-- What a stop keeps open of a start. -/
def leftBy (stop start : Targets) : Option Targets :=
  (stopEffect stop start).left start

theorem leftBy_of_isWildcard (hstop : isWildcard stop = false) (hstart : isWildcard start = true) :
    leftBy stop start = some start := by
  rw [leftBy, stopEffect_eq_none_iff.mpr ⟨hstop, Or.inl hstart⟩]
  rfl

theorem leftBy_of_named (hstop : isWildcard stop = false) (hstart : isWildcard start = false) :
    leftBy stop start =
      if without start stop = [] then none else some (without start stop) := by
  rw [leftBy, stopEffect_spec, if_neg (by simp [hstop])]
  by_cases hsame : without start stop = start
  · rw [if_pos (Or.inr hsame), hsame, if_neg (ne_nil_of_isWildcard_eq_false hstart)]
    rfl
  · rw [if_neg (by simp [hstart, hsame])]
    split <;> rfl

theorem leftBy_congr (ha : isWildcard a = false) (hb : isWildcard b = false)
    (h : without start a = without start b) : leftBy a start = leftBy b start := by
  rw [leftBy, leftBy, stopEffect_spec, stopEffect_spec, ha, hb, h]

theorem cover_of_leftBy (h : leftBy stop start = some rest) (hrest : cover rest origin = true) :
    cover start origin = true := by
  unfold leftBy at h
  cases heffect : stopEffect stop start with
  | none =>
      rw [heffect] at h
      rwa [Option.some.inj h]
  | close => simp [heffect, StopEffect.left] at h
  | narrow remaining =>
      rw [heffect] at h
      apply cover_of_narrow heffect
      rwa [Option.some.inj h]

theorem exists_leftBy_of_cover (hstop : cover stop origin = false)
    (hstart : cover start origin = true) :
    ∃ rest, leftBy stop start = some rest ∧ cover rest origin = true := by
  have hnamed := isWildcard_of_cover_eq_false hstop
  cases hwildcard : isWildcard start with
  | true => exact ⟨start, leftBy_of_isWildcard hnamed hwildcard, hstart⟩
  | false =>
      have hne := without_ne_nil hstop (ne_nil_of_isWildcard_eq_false hwildcard) hstart
      refine ⟨without start stop, ?_, ?_⟩
      · rw [leftBy_of_named hnamed hwildcard, if_neg hne]
      · rw [cover_without hstop hne, hstart]

theorem without_without_self (start stop : Targets) :
    without (without start stop) stop = without start stop := by
  apply without_eq_self_iff.mpr
  intro target hmem
  exact (mem_without.mp hmem).2

theorem stopEffect_of_leftBy (hstop : isWildcard stop = false)
    (h : leftBy stop start = some rest) : stopEffect stop rest = .none := by
  apply stopEffect_eq_none_iff.mpr
  refine ⟨hstop, ?_⟩
  cases hwildcard : isWildcard start with
  | true =>
      rw [leftBy_of_isWildcard hstop hwildcard] at h
      left
      rwa [← Option.some.inj h]
  | false =>
      rw [leftBy_of_named hstop hwildcard] at h
      split at h
      · exact nomatch h
      · right
        rw [← Option.some.inj h, without_without_self]

/-- A stop widens nothing: what is left speaks for origins only that the start speaks for, and is
never the empty list that would speak for all. It ends only what it names: for an origin that it
does not speak for, all is as before. Made again, it leaves alone what it has left. -/
theorem leftBy_spec (stop start : Targets) (origin : Origin) :
    (∀ rest, leftBy stop start = some rest → cover rest origin = true →
        cover start origin = true) ∧
      (∀ remaining, stopEffect stop start = .narrow remaining → remaining ≠ []) ∧
      (cover stop origin = false → (cover start origin = true ↔
        ∃ rest, leftBy stop start = some rest ∧ cover rest origin = true)) ∧
      (isWildcard stop = false → ∀ rest, leftBy stop start = some rest →
        stopEffect stop rest = .none) := by
  refine ⟨fun rest => cover_of_leftBy, ?_, ?_, fun hstop rest => stopEffect_of_leftBy hstop⟩
  · intro remaining hnarrow
    obtain ⟨rfl, hne, -⟩ := eq_of_narrow hnarrow
    exact hne
  · intro hstop
    constructor
    · exact exists_leftBy_of_cover hstop
    · rintro ⟨rest, hrest, hcover⟩
      exact cover_of_leftBy hrest hcover

/-- A stop for one rule of one analyzer, seen by an origin that it does not speak for. -/
theorem leftBy_spec_otherRule :
    let stop : Targets := [{ analyzer := "Flake8", rule := some "E501" }]
    let start : Targets := [{ analyzer := "flake8", rule := some "E501" }, { analyzer := "ALL" }]
    let origin : Origin := { analyzer := "mypy", rule := some "E501" }
    stopEffect stop start = .narrow [{ analyzer := "ALL" }] ∧
      (∃ rest, leftBy stop start = some rest ∧ cover rest origin = true) ∧
      stopEffect stop [{ analyzer := "ALL" }] = .none := by
  intro stop start origin
  obtain ⟨-, -, hcover, hagain⟩ := leftBy_spec stop start origin
  refine ⟨by decide +kernel, ?_, ?_⟩
  · exact (hcover (by decide +kernel)).mp (by decide +kernel)
  · exact hagain (by decide +kernel) _ (by decide +kernel)

theorem isWildcard_append_eq_false (ha : isWildcard a = false) (b : Targets) :
    isWildcard (a ++ b) = false := by
  rw [isWildcard] at ha ⊢
  rw [List.all_append, ha, Bool.false_and]

theorem without_append (start a b : Targets) :
    without start (a ++ b) = without (without start a) b := by
  unfold without
  rw [List.filter_filter]
  congr 1
  funext target
  rw [List.any_append, Bool.not_or, Bool.and_comm]

/-- The first of two stops leaves of a start nothing but bare `all`, which is among what the second
one names. -/
structure HidesAll (first second start : Targets) : Prop where
  named : isWildcard start = false
  left : without start first ≠ []
  onlyAll : isWildcard (without start first) = true
  namesAll : ∃ target ∈ second, target.isWildcard = true

theorem endsTarget_of_isWildcard {target : Target} (h : target.isWildcard = true) :
    endsTarget stop target = true ↔ ∃ other ∈ stop, other.isWildcard = true := by
  simp only [endsTarget, List.any_eq_true, Target.ends_of_isWildcard h]

theorem without_eq_nil_of_isWildcard (h : isWildcard start = true)
    (hall : ∃ target ∈ stop, target.isWildcard = true) : without start stop = [] := by
  apply List.eq_nil_iff_forall_not_mem.mpr
  intro target hmem
  obtain ⟨hstart, hkept⟩ := mem_without.mp hmem
  rw [isWildcard, List.all_eq_true] at h
  rw [(endsTarget_of_isWildcard (h target hstart)).mpr hall] at hkept
  exact absurd hkept (by simp)

theorem without_eq_self_of_isWildcard (h : isWildcard start = true)
    (hnone : ¬ ∃ target ∈ stop, target.isWildcard = true) : without start stop = start := by
  apply without_eq_self_iff.mpr
  intro target hmem
  rw [isWildcard, List.all_eq_true] at h
  rwa [← endsTarget_of_isWildcard (h target hmem), Bool.not_eq_true] at hnone

namespace HidesAll

theorem leftBy_bind (h : HidesAll a b start) (ha : isWildcard a = false)
    (hb : isWildcard b = false) :
    (leftBy a start).bind (leftBy b) = some (without start a) := by
  rw [leftBy_of_named ha h.named, if_neg h.left, Option.bind_some,
    leftBy_of_isWildcard hb h.onlyAll]

theorem leftBy_append (h : HidesAll a b start) (ha : isWildcard a = false) :
    leftBy (a ++ b) start = none := by
  rw [leftBy_of_named (isWildcard_append_eq_false ha b) h.named, without_append,
    without_eq_nil_of_isWildcard h.onlyAll h.namesAll, if_pos rfl]

theorem not_swap (h : HidesAll a b start) : ¬ HidesAll b a start := by
  rintro ⟨-, hleft, honly, -⟩
  obtain ⟨target, hmem⟩ := List.exists_mem_of_ne_nil _ hleft
  rw [isWildcard, List.all_eq_true] at honly
  have hends := (endsTarget_of_isWildcard (honly target hmem)).mpr h.namesAll
  rw [(mem_without.mp hmem).2] at hends
  exact absurd hends (by simp)

end HidesAll

theorem leftBy_bind_of_not_hidesAll (ha : isWildcard a = false) (hb : isWildcard b = false)
    (h : ¬ HidesAll a b start) : (leftBy a start).bind (leftBy b) = leftBy (a ++ b) start := by
  have hab := isWildcard_append_eq_false ha b
  cases hstart : isWildcard start with
  | true =>
      rw [leftBy_of_isWildcard ha hstart, leftBy_of_isWildcard hab hstart]
      exact leftBy_of_isWildcard hb hstart
  | false =>
      by_cases hnil : without start a = []
      · rw [leftBy_of_named ha hstart, leftBy_of_named hab hstart, without_append, hnil]
        rfl
      · rw [leftBy_of_named ha hstart, if_neg hnil, Option.bind_some]
        cases honly : isWildcard (without start a) with
        | true =>
            -- Bare `all` is left by both stops, since the second one does not name it.
            have hkept : without (without start a) b = without start a := by
              apply without_eq_self_of_isWildcard honly
              intro hall
              exact h ⟨hstart, hnil, honly, hall⟩
            rw [leftBy_of_isWildcard hb honly, leftBy_of_named hab hstart, without_append, hkept,
              if_neg hnil]
        | false => rw [leftBy_of_named hb honly, leftBy_of_named hab hstart, without_append]

theorem leftBy_append_comm (ha : isWildcard a = false) (hb : isWildcard b = false)
    (start : Targets) : leftBy (a ++ b) start = leftBy (b ++ a) start := by
  apply leftBy_congr (isWildcard_append_eq_false ha b) (isWildcard_append_eq_false hb a)
  rw [without_append, without_append, without_comm]

theorem HidesAll.leftBy_bind_ne_swap (h : HidesAll a b start) (ha : isWildcard a = false)
    (hb : isWildcard b = false) :
    (leftBy a start).bind (leftBy b) ≠ (leftBy b start).bind (leftBy a) := by
  rw [h.leftBy_bind ha hb, leftBy_bind_of_not_hidesAll hb ha h.not_swap,
    leftBy_append_comm hb ha, h.leftBy_append ha]
  exact nofun

/-- Two stops, neither for every analyzer, leave what one stop for the targets of both leaves, and
can be exchanged, unless one of them hides bare `all` from the other. Then what it leaves stays open
after both, while one stop for the targets of both would close the start. -/
theorem leftBy_bind_spec (ha : isWildcard a = false) (hb : isWildcard b = false)
    (start : Targets) :
    ((leftBy a start).bind (leftBy b) = leftBy (a ++ b) start ↔ ¬ HidesAll a b start) ∧
      (HidesAll a b start → (leftBy a start).bind (leftBy b) = some (without start a) ∧
        leftBy (a ++ b) start = none) ∧
      ((leftBy a start).bind (leftBy b) = (leftBy b start).bind (leftBy a) ↔
        ¬ HidesAll a b start ∧ ¬ HidesAll b a start) := by
  refine ⟨⟨?_, leftBy_bind_of_not_hidesAll ha hb⟩, ?_, ?_, ?_⟩
  · intro hsame hhides
    rw [hhides.leftBy_bind ha hb, hhides.leftBy_append ha] at hsame
    exact nomatch hsame
  · intro hhides
    exact ⟨hhides.leftBy_bind ha hb, hhides.leftBy_append ha⟩
  · intro hsame
    constructor
    · intro hhides
      exact hhides.leftBy_bind_ne_swap ha hb hsame
    · intro hhides
      exact hhides.leftBy_bind_ne_swap hb ha hsame.symm
  · rintro ⟨hfirst, hsecond⟩
    rw [leftBy_bind_of_not_hidesAll ha hb hfirst, leftBy_bind_of_not_hidesAll hb ha hsecond,
      leftBy_append_comm ha hb]

theorem leftBy_bind_spec_oneByOne :
    let first : Targets := [{ analyzer := "pylint" }]
    let second : Targets := [{ analyzer := "Flake8" }, { analyzer := "all" }]
    let start : Targets := [{ analyzer := "PyLint", rule := some "W1" },
      { analyzer := "flake8", rule := some "E501" }, { analyzer := "all" }, { analyzer := "mypy" }]
    (leftBy first start).bind (leftBy second) = leftBy (first ++ second) start ∧
      (leftBy first start).bind (leftBy second) = (leftBy second start).bind (leftBy first) ∧
      leftBy (first ++ second) start = some [{ analyzer := "mypy" }] := by
  intro first second start
  have hfirst : ¬ HidesAll first second start := fun h => absurd h.onlyAll (by decide +kernel)
  have hsecond : ¬ HidesAll second first start := fun h => absurd h.onlyAll (by decide +kernel)
  obtain ⟨hsame, -, hswap⟩ := @leftBy_bind_spec first second (by decide +kernel)
    (by decide +kernel) start
  exact ⟨hsame.mpr hfirst, hswap.mpr ⟨hfirst, hsecond⟩, by decide +kernel⟩

/-- Of `all` and another target, a stop for the other one leaves bare `all`, which a stop that names
it among others no longer ends. -/
theorem leftBy_bind_hiddenAll :
    let first : Targets := [{ analyzer := "mypy" }]
    let second : Targets := [{ analyzer := "all" }, { analyzer := "pylint" }]
    let start : Targets := [{ analyzer := "all" }, { analyzer := "mypy" }]
    isWildcard first = false ∧ isWildcard second = false ∧
      (leftBy first start).bind (leftBy second) = some [{ analyzer := "all" }] ∧
      leftBy (first ++ second) start = none ∧ (leftBy second start).bind (leftBy first) = none := by
  decide +kernel

end Targets

end Suppression

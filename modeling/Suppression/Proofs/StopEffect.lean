import Mathlib.Data.List.Basic
import Suppression.Target

namespace Suppression

namespace Target

theorem covers_of_ends {stop target : Target} {origin : Origin} (hends : stop.ends target = true)
    (h : target.covers origin = true) : stop.covers origin = true := by
  simp only [ends, covers, Bool.and_eq_true, Bool.or_eq_true, beq_iff_eq] at hends h ⊢
  obtain ⟨hname, hrule⟩ := hends
  rw [hname]
  refine ⟨h.1, ?_⟩
  rcases hrule with hnone | hsame
  · exact Or.inl hnone
  · rw [hsame]
    exact h.2

theorem covers_of_isWildcard {target : Target} (h : target.isWildcard = true) (origin : Origin) :
    target.covers origin = true := by
  simp only [isWildcard, covers, Bool.and_eq_true, Bool.or_eq_true] at h ⊢
  exact ⟨Or.inl h.1, Or.inl h.2⟩

end Target

namespace Targets

variable {stop start : Targets} {origin : Origin}

def endsTarget (stop : Targets) (target : Target) : Bool :=
  stop.any fun other => other.ends target

theorem mem_without {target : Target} :
    target ∈ without start stop ↔ target ∈ start ∧ endsTarget stop target = false := by
  simp [without, endsTarget]

theorem cover_of_endsTarget {target : Target} (h : endsTarget stop target = true)
    (hcovers : target.covers origin = true) : cover stop origin = true := by
  obtain ⟨other, hmem, hends⟩ := List.any_eq_true.mp h
  rw [cover, Bool.or_eq_true, List.any_eq_true]
  exact Or.inr ⟨other, hmem, Target.covers_of_ends hends hcovers⟩

theorem cover_iff (hne : start ≠ []) :
    cover start origin = true ↔ ∃ target ∈ start, target.covers origin = true := by
  simp [cover, hne]

theorem cover_of_isWildcard (h : isWildcard start = true) (origin : Origin) :
    cover start origin = true := by
  cases start with
  | nil => rfl
  | cons target rest =>
      rw [isWildcard, List.all_cons, Bool.and_eq_true] at h
      exact (cover_iff (by simp)).mpr
        ⟨target, List.mem_cons_self, Target.covers_of_isWildcard h.1 origin⟩

/-- What a stop that is not for every analyzer leaves of a start. -/
theorem stopEffect_spec (stop start : Targets) :
    stopEffect stop start =
      if isWildcard stop = true then .close
      else if isWildcard start = true ∨ without start stop = start then .none
      else if without start stop = [] then .close
      else .narrow (without start stop) := by
  have hlength : (without start stop).length = start.length ↔ without start stop = start := by
    constructor
    · intro h
      exact (List.filter_sublist).eq_of_length h
    · intro h
      rw [h]
  unfold stopEffect
  simp only [hlength, List.isEmpty_iff]
  by_cases hstop : isWildcard stop = true
  · simp [hstop]
  · by_cases hstart : isWildcard start = true
    · simp [hstop, hstart]
    · simp [hstop, hstart]

theorem without_comm (stop next start : Targets) :
    without (without start stop) next = without (without start next) stop := by
  simp only [without, List.filter_filter]
  congr 1
  funext target
  rw [Bool.and_comm]

theorem cover_without (hstop : cover stop origin = false) (hne : without start stop ≠ []) :
    cover (without start stop) origin = cover start origin := by
  have hstart : start ≠ [] := by
    rintro rfl
    exact hne rfl
  rw [Bool.eq_iff_iff, cover_iff hne, cover_iff hstart]
  constructor
  · rintro ⟨target, hmem, hcovers⟩
    exact ⟨target, (mem_without.mp hmem).1, hcovers⟩
  · rintro ⟨target, hmem, hcovers⟩
    refine ⟨target, mem_without.mpr ⟨hmem, ?_⟩, hcovers⟩
    by_contra hends
    rw [Bool.not_eq_false] at hends
    rw [cover_of_endsTarget hends hcovers] at hstop
    exact absurd hstop (by simp)

theorem without_ne_nil (hstop : cover stop origin = false) (hne : start ≠ [])
    (h : cover start origin = true) : without start stop ≠ [] := by
  obtain ⟨target, hmem, hcovers⟩ := (cover_iff hne).mp h
  refine List.ne_nil_of_mem (mem_without.mpr ⟨hmem, ?_⟩)
  by_contra hends
  rw [Bool.not_eq_false] at hends
  rw [cover_of_endsTarget hends hcovers] at hstop
  exact absurd hstop (by simp)

theorem without_eq_self_iff :
    without start stop = start ↔ ∀ target ∈ start, endsTarget stop target = false := by
  simp [without, endsTarget]

theorem isWildcard_without (h : isWildcard start = true) (stop : Targets) :
    isWildcard (without start stop) = true := by
  rw [isWildcard, List.all_eq_true] at h ⊢
  intro target hmem
  exact h target (mem_without.mp hmem).1

theorem ne_nil_of_isWildcard_eq_false (h : isWildcard start = false) : start ≠ [] := by
  rintro rfl
  simp [isWildcard] at h

theorem stopEffect_eq_none_iff : stopEffect stop start = .none ↔
    isWildcard stop = false ∧ (isWildcard start = true ∨ without start stop = start) := by
  rw [stopEffect_spec]
  split_ifs with hstop hnone hclose <;> simp_all

theorem stopEffect_eq_close_iff : stopEffect stop start = .close ↔
    isWildcard stop = true ∨ (isWildcard start = false ∧ without start stop = []) := by
  rw [stopEffect_spec]
  split_ifs with hstop hnone hclose
  · simp [hstop]
  · simp only [reduceCtorEq, false_iff, hstop, not_or, not_and]
    refine ⟨id, ?_⟩
    intro hstart hnil
    rcases hnone with hwildcard | hsame
    · simp [hstart] at hwildcard
    · exact ne_nil_of_isWildcard_eq_false hstart (hsame.symm.trans hnil)
  · simp_all
  · simp [hstop, hclose]

theorem stopEffect_eq_narrow (hstop : isWildcard stop = false) (hstart : isWildcard start = false)
    (hdiffers : without start stop ≠ start) (hne : without start stop ≠ []) :
    stopEffect stop start = .narrow (without start stop) := by
  simp [stopEffect_spec, hstop, hstart, hdiffers, hne]

theorem eq_of_narrow {remaining : Targets} (h : stopEffect stop start = .narrow remaining) :
    remaining = without start stop ∧ without start stop ≠ [] ∧ without start stop ≠ start ∧
      isWildcard start = false ∧ isWildcard stop = false := by
  rw [stopEffect_spec] at h
  split_ifs at h with hstop hnone hclose
  obtain rfl := StopEffect.narrow.inj h
  rw [not_or, Bool.not_eq_true] at hnone
  exact ⟨rfl, hclose, hnone.2, hnone.1, Bool.not_eq_true _ ▸ hstop⟩

theorem cover_of_narrow {remaining : Targets} (h : stopEffect stop start = .narrow remaining)
    (hremaining : cover remaining origin = true) : cover start origin = true := by
  obtain ⟨rfl, hne, -, hstart, -⟩ := eq_of_narrow h
  obtain ⟨target, hmem, hcovers⟩ := (cover_iff hne).mp hremaining
  exact (cover_iff (ne_nil_of_isWildcard_eq_false hstart)).mpr
    ⟨target, (mem_without.mp hmem).1, hcovers⟩

theorem isWildcard_of_cover_eq_false (h : cover stop origin = false) : isWildcard stop = false := by
  by_contra hwildcard
  rw [Bool.not_eq_false] at hwildcard
  rw [cover_of_isWildcard hwildcard] at h
  exact absurd h (by simp)

end Targets

end Suppression

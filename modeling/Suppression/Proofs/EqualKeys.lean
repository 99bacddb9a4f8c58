import Suppression.Proofs.TargetKey

namespace Suppression

inductive StopEffect.Alike : StopEffect → StopEffect → Prop
  | none : Alike .none .none
  | close : Alike .close .close
  | narrow {remaining others : Targets} (h : Targets.key remaining = Targets.key others) :
      Alike (.narrow remaining) (.narrow others)

theorem Target.covers_eq_of_mark {target other : Target} (h : target.mark = other.mark)
    (origin : Origin) : target.covers origin = other.covers origin := by
  obtain ⟨hname, hrule⟩ := Prod.mk.inj h
  rw [covers, covers, hname, hrule]

theorem Target.ends_eq_of_mark {target other : Target} (h : target.mark = other.mark)
    (ended : Target) : target.ends ended = other.ends ended := by
  obtain ⟨hname, hrule⟩ := Prod.mk.inj h
  rw [ends, ends, hname, hrule]

namespace Targets

variable {a b : Targets}

theorem Match.any_eq (h : Match a b) {p : Target → Bool}
    (hp : ∀ target other : Target, target.mark = other.mark → p target = p other) :
    a.any p = b.any p := by
  have hsub {a b : Targets} (h : Match a b) (hany : a.any p = true) : b.any p = true := by
    obtain ⟨target, htarget, hholds⟩ := List.any_eq_true.mp hany
    obtain ⟨other, hother, hmark⟩ := List.mem_map.mp ((h _).mp (List.mem_map_of_mem htarget))
    exact List.any_eq_true.mpr ⟨other, hother, (hp other target hmark).trans hholds⟩
  exact Bool.eq_iff_iff.mpr ⟨hsub h, hsub h.symm⟩

theorem Match.cover (h : Match a b) (origin : Origin) : cover a origin = cover b origin := by
  have hempty : a.isEmpty = b.isEmpty := by
    rw [Bool.eq_iff_iff, List.isEmpty_iff, List.isEmpty_iff]
    exact ⟨h.eq_nil, h.symm.eq_nil⟩
  rw [Targets.cover, Targets.cover, hempty,
    h.any_eq fun _ _ hmark => Target.covers_eq_of_mark hmark origin]

theorem Match.without_stop (h : Match a b) (start : Targets) :
    Targets.without start a = Targets.without start b := by
  unfold Targets.without
  congr 1
  funext target
  rw [h.any_eq fun _ _ hmark => Target.ends_eq_of_mark hmark target]

theorem cover_eq_of_key (ha : a.ArePlain) (hb : b.ArePlain) (h : key a = key b)
    (origin : Origin) : cover a origin = cover b origin := by
  rcases (key_eq_iff ha hb).mp h with ⟨hwa, hwb⟩ | hmatch
  · rw [cover_of_isWildcard hwa, cover_of_isWildcard hwb]
  · exact hmatch.cover origin

theorem alike_of_key (ha : a.ArePlain) (hb : b.ArePlain) (h : key a = key b) (stop : Targets) :
    (stopEffect stop a).Alike (stopEffect stop b) := by
  have hleft := left_key ha hb h stop
  cases heffect : stopEffect stop a with
  | none =>
      rw [stopEffect_eq_none_of_key ha hb h heffect]
      exact .none
  | close =>
      cases hother : stopEffect stop b with
      | close => exact .close
      | none => simp [heffect, hother, StopEffect.left] at hleft
      | narrow others => simp [heffect, hother, StopEffect.left] at hleft
  | narrow remaining =>
      cases hother : stopEffect stop b with
      | none =>
          rw [stopEffect_eq_none_of_key hb ha h.symm hother] at heffect
          cases heffect
      | close => simp [heffect, hother, StopEffect.left] at hleft
      | narrow others =>
          apply StopEffect.Alike.narrow
          simpa [heffect, hother, StopEffect.left] using hleft

theorem stopEffect_eq_of_key (ha : a.ArePlain) (hb : b.ArePlain) (h : key a = key b)
    (start : Targets) : stopEffect a start = stopEffect b start := by
  rcases (key_eq_iff ha hb).mp h with ⟨hwa, hwb⟩ | hmatch
  · rw [stopEffect_eq_close_iff.mpr (Or.inl hwa), stopEffect_eq_close_iff.mpr (Or.inl hwb)]
  · rw [stopEffect_spec, stopEffect_spec, hmatch.isWildcard, hmatch.without_stop]

/-- Two lists that the flat grammar gives have one key just if both are for every analyzer or both
name the same analyzers, in small letters, each with the same rules or without one. Nothing but the
key then counts: the lists speak for the same origins, every stop does to both the same kind of
thing and leaves lists of one key, and as stops they do the same. -/
theorem key_spec {text other : List Char} (ha : Grammar.flat? text = some a)
    (hb : Grammar.flat? other = some b) :
    (key a = key b ↔ isWildcard a = true ∧ isWildcard b = true ∨
      ∀ mark, mark ∈ a.map Target.mark ↔ mark ∈ b.map Target.mark) ∧
    (key a = key b → (∀ origin, cover a origin = cover b origin) ∧
      (∀ stop, (stopEffect stop a).Alike (stopEffect stop b)) ∧
      ∀ start, stopEffect a start = stopEffect b start) := by
  have hplain := Grammar.arePlain_of_flat? ha
  have hplain' := Grammar.arePlain_of_flat? hb
  refine ⟨key_eq_iff hplain hplain', fun h => ⟨?_, ?_, ?_⟩⟩
  · exact cover_eq_of_key hplain hplain' h
  · exact alike_of_key hplain hplain' h
  · exact stopEffect_eq_of_key hplain hplain' h

/-- Order, repetitions and the letter case of analyzers do not count. -/
theorem key_spec_otherOrder :
    let a : Targets := [{ analyzer := "mypy" }, { analyzer := "Flake8", rule := some "E501" }]
    let b : Targets := [{ analyzer := "flake8", rule := some "E501" }, { analyzer := "MyPy" },
      { analyzer := "mypy" }]
    let stop : Targets := [{ analyzer := "FLAKE8" }]
    Grammar.flat? " mypy Flake8(E501)".toList = some a ∧
      Grammar.flat? " flake8(E501), MyPy mypy".toList = some b ∧ key a = key b ∧
      (stopEffect stop a).Alike (stopEffect stop b) ∧
      stopEffect stop b = .narrow [{ analyzer := "MyPy" }, { analyzer := "mypy" }] := by
  intro a b stop
  have ha : Grammar.flat? " mypy Flake8(E501)".toList = some a := by decide +kernel
  have hb : Grammar.flat? " flake8(E501), MyPy mypy".toList = some b := by decide +kernel
  have hmarks : a.map Target.mark =
      ([("mypy", none), ("flake8", some "E501")] : List (Wide × Option Wide)) := by decide +kernel
  have hmarks' : b.map Target.mark =
      ([("flake8", some "E501"), ("mypy", none), ("mypy", none)] :
        List (Wide × Option Wide)) := by decide +kernel
  obtain ⟨hiff, hsame⟩ := key_spec ha hb
  have hkey : key a = key b := by
    apply hiff.mpr (Or.inr fun mark => ?_)
    rw [hmarks, hmarks']
    simp only [List.mem_cons, List.not_mem_nil, or_false, or_self]
    exact or_comm
  exact ⟨ha, hb, hkey, (hsame hkey).2.1 stop, by decide +kernel⟩

end Targets

end Suppression

import Mathlib.Data.List.Sort
import Suppression.Text.Wide

namespace Suppression.Text

theorem unitsLe_trans {a b c : List Nat} (hab : unitsLe a b = true) (hbc : unitsLe b c = true) :
    unitsLe a c = true := by
  induction a generalizing b c with
  | nil => simp [unitsLe]
  | cons first rest ih =>
      rcases b with - | ⟨second, others⟩
      · simp [unitsLe] at hab
      · rcases c with - | ⟨third, last⟩
        · simp [unitsLe] at hbc
        · simp only [unitsLe] at hab hbc ⊢
          by_cases hfirst : first = second
          · subst hfirst
            by_cases hsecond : first = third
            · simp only [hsecond, if_true] at hab hbc ⊢
              exact ih hab hbc
            · simpa [hsecond] using hbc
          · rw [if_neg hfirst, decide_eq_true_eq] at hab
            by_cases hsecond : second = third
            · subst hsecond
              simpa [hfirst] using hab
            · rw [if_neg hsecond, decide_eq_true_eq] at hbc
              rw [if_neg (by omega), decide_eq_true_eq]
              exact hab.trans hbc

theorem unitsLe_total (a b : List Nat) : unitsLe a b = true ∨ unitsLe b a = true := by
  induction a generalizing b with
  | nil => simp [unitsLe]
  | cons first rest ih =>
      rcases b with - | ⟨second, others⟩
      · simp [unitsLe]
      · by_cases heq : first = second
        · simpa [unitsLe, heq] using ih others
        · simp only [unitsLe, heq, Ne.symm heq, if_false, decide_eq_true_eq]
          omega

theorem unitsLe_antisymm {a b : List Nat} (hab : unitsLe a b = true) (hba : unitsLe b a = true) :
    a = b := by
  induction a generalizing b with
  | nil =>
      rcases b with - | ⟨second, others⟩
      · rfl
      · simp [unitsLe] at hba
  | cons first rest ih =>
      rcases b with - | ⟨second, others⟩
      · simp [unitsLe] at hab
      · by_cases heq : first = second
        · simp only [unitsLe, heq, if_true] at hab hba
          rw [heq, ih hab hba]
        · simp only [unitsLe, heq, Ne.symm heq, if_false, decide_eq_true_eq] at hab hba
          omega

end Suppression.Text

namespace Suppression

namespace Letter

theorem joined_charUnits (c : Char) (rest : List Letter) :
    joined ((Text.charUnits c).map ofUnit ++ rest) = char c :: joined rest := by
  have hvalid : c.toNat < 0xd800 ∨ 0xdfff < c.toNat ∧ c.toNat < 0x110000 := c.valid
  unfold Text.charUnits
  split_ifs with hplain
  · have hunit : ofUnit c.toNat = char c := by
      rw [ofUnit, dif_neg (by omega), dif_neg (by omega), Char.ofNat_toNat]
    rw [List.map_singleton, hunit]
    rfl
  · have hlow : (c.toNat - 0x10000) % 0x400 < 1024 := Nat.mod_lt _ (by decide)
    have hhigh : (c.toNat - 0x10000) / 0x400 < 1024 := by omega
    have hpair : 0x10000 + (c.toNat - 0x10000) / 0x400 * 0x400 + (c.toNat - 0x10000) % 0x400 =
        c.toNat := by omega
    generalize (c.toNat - 0x10000) / 0x400 = a at hhigh hpair ⊢
    generalize (c.toNat - 0x10000) % 0x400 = b at hlow hpair ⊢
    have hfirst : ofUnit (0xd800 + a) = half (.high ⟨a, hhigh⟩) :=
      ofUnit_unit (.high ⟨a, hhigh⟩)
    have hsecond : ofUnit (0xdc00 + b) = half (.low ⟨b, hlow⟩) :=
      ofUnit_unit (.low ⟨b, hlow⟩)
    rw [List.map_cons, List.map_singleton, hfirst, hsecond, List.cons_append,
      List.singleton_append, joined_cons, joined_cons]
    simp [cons, hpair]

theorem joined_units (letters : List Letter) :
    joined ((letters.flatMap units).map ofUnit) = joined letters := by
  induction letters with
  | nil => rfl
  | cons letter rest ih =>
      rw [List.flatMap_cons, List.map_append]
      cases letter with
      | half h =>
          rw [units, List.map_singleton, ofUnit_unit, List.singleton_append, joined_cons, ih,
            joined_cons]
      | char c =>
          rw [units, joined_charUnits, ih]
          rfl

end Letter

namespace Wide

open scoped List

theorem units_injective {a b : Wide} (h : a.units = b.units) : a = b := by
  have hletters (wide : Wide) : Letter.joined (wide.units.map Letter.ofUnit) = wide.letters := by
    have hunits : wide.units = wide.letters.flatMap Letter.units := by
      cases wide with
      | text content => simp [units, letters, Text.units, List.flatMap_map, Letter.units]
      | torn letters _ => rfl
    rw [hunits, Letter.joined_units, joined_letters]
  rw [← ofLetters_letters a, ← hletters a, h, hletters b, ofLetters_letters]

theorem le_trans (a b c : Wide) (hab : le a b = true) (hbc : le b c = true) :
    le a c = true :=
  Text.unitsLe_trans hab hbc

theorem le_total (a b : Wide) : (le a b || le b a) = true := by
  rw [Bool.or_eq_true]
  exact Text.unitsLe_total (units a) (units b)

theorem le_antisymm {a b : Wide} (hab : le a b = true) (hba : le b a = true) : a = b :=
  units_injective (Text.unitsLe_antisymm hab hba)

theorem sort_perm (texts : List Wide) : sort texts ~ texts :=
  List.mergeSort_perm texts le

theorem mem_sort {text : Wide} {texts : List Wide} : text ∈ sort texts ↔ text ∈ texts :=
  (sort_perm texts).mem_iff

theorem sort_eq_of_perm {texts others : List Wide} (h : texts ~ others) :
    sort texts = sort others := by
  have hperm : sort texts ~ sort others :=
    (sort_perm texts).trans (h.trans (sort_perm others).symm)
  have hsorted (texts : List Wide) : (sort texts).Pairwise fun a b => le a b = true :=
    List.pairwise_mergeSort le_trans le_total texts
  exact hperm.eq_of_pairwise (fun _ _ _ _ => le_antisymm) (hsorted texts) (hsorted others)

end Wide

end Suppression

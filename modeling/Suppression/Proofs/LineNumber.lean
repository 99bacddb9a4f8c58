import Suppression.Proofs.HeldNumber
import Suppression.Range

namespace Suppression.Number

@[simp] theorem ofNat_inj {m n : Nat} : ofNat m = ofNat n ↔ m = n := by
  simp [ofNat]

@[simp] theorem ofNat_le_ofNat {m n : Nat} : ofNat m ≤ ofNat n ↔ m ≤ n :=
  finite_le_finite.trans Rat.natCast_le_natCast

@[simp] theorem same_ofNat (m n : Nat) : (ofNat m).same (ofNat n) = decide (m = n) := by
  simp [same, ofNat]

@[simp] theorem toNat_ofNat (n : Nat) : (ofNat n).toNat = n := by
  change (((n : Int) : Rat).floor).toNat = n
  rw [Rat.floor_intCast, Int.toNat_natCast]

@[simp] theorem max_ofNat (m n : Nat) : (ofNat m).max (ofNat n) = ofNat (Max.max m n) := by
  change (if ofNat m < ofNat n then ofNat n else ofNat m) = _
  split
  · next h => rw [Nat.max_eq_right (ofNat_lt_ofNat.mp h).le]
  · next h => rw [Nat.max_eq_left (Nat.le_of_not_lt fun hlt => h (ofNat_lt_ofNat.mpr hlt))]

theorem succ_ofNat {n : Nat} (h : n < 2 ^ 53) : (ofNat n).succ = ofNat (n + 1) := by
  have hcast : ((n + 1 : Nat) : Rat) = (n : Rat) + 1 := by push_cast; rfl
  change nearest ((n : Rat) + 1) = _
  rw [← hcast]
  exact nearest_natCast h

theorem exists_ofNat_of_isInteger {number : Number} (hinteger : number.isInteger = true)
    {least : Nat} (hleast : ¬ number < ofNat least) : ∃ n, least ≤ n ∧ number = ofNat n := by
  cases number with
  | nan => simp [isInteger] at hinteger
  | infinite negative => simp [isInteger] at hinteger
  | finite value =>
      have hden : value.den = 1 := by simpa [isInteger] using hinteger
      have hvalue : (value.num : Rat) = value := (Rat.den_eq_one_iff value).mp hden
      have hle : ((least : Int) : Rat) ≤ (value.num : Rat) := by
        rw [hvalue]
        simpa [ofNat] using hleast
      have hnum : (least : Int) ≤ value.num := Rat.intCast_le_intCast.mp hle
      obtain ⟨n, hn⟩ := Int.eq_ofNat_of_zero_le (show 0 ≤ value.num by omega)
      refine ⟨n, by omega, ?_⟩
      rw [← hvalue, hn]
      rfl

def isFinite : Number → Bool
  | finite _ => true
  | _ => false

theorem exists_ofNat_of_hasNoFraction {number : Number} (h : number.hasNoFraction = true)
    (hfinite : number.isFinite = true) {least : Nat} (hleast : ofNat least ≤ number) :
    ∃ n, least ≤ n ∧ number = ofNat n := by
  cases number with
  | nan => simp [isFinite] at hfinite
  | infinite negative => simp [isFinite] at hfinite
  | finite value =>
      refine exists_ofNat_of_isInteger (show (finite value).isInteger = true from h) ?_
      rw [ofNat, finite_lt_finite, not_lt]
      exact finite_le_finite.mp hleast

end Suppression.Number

namespace Suppression.Position

theorem exists_ofNat_of_isLine {number : Number} (h : isLine number = true) :
    ∃ n, 1 ≤ n ∧ number = .ofNat n := by
  simp only [isLine, Bool.and_eq_true, Bool.not_eq_true', decide_eq_false_iff_not] at h
  exact Number.exists_ofNat_of_isInteger h.1 h.2

theorem exists_ofNat_of_isColumn {number : Number} (h : isColumn number = true) :
    ∃ n, number = .ofNat n := by
  simp only [isColumn, Bool.and_eq_true, Bool.not_eq_true', decide_eq_false_iff_not] at h
  obtain ⟨n, -, hn⟩ := Number.exists_ofNat_of_isInteger h.1 h.2
  exact ⟨n, hn⟩

theorem isLine_ofNat {n : Nat} (h : 1 ≤ n) : isLine (.ofNat n) = true := by
  have hlt : ¬ Number.ofNat n < Number.ofNat 1 := fun hlt =>
    absurd (Number.ofNat_lt_ofNat.mp hlt) (Nat.not_lt.mpr h)
  simp only [isLine, Number.isInteger_ofNat, Bool.true_and, Bool.not_eq_true',
    decide_eq_false_iff_not]
  exact hlt

theorem isColumn_ofNat (n : Nat) : isColumn (.ofNat n) = true := by
  have hlt : ¬ Number.ofNat n < Number.ofNat 0 := by simp
  simp only [isColumn, Number.isInteger_ofNat, Bool.true_and, Bool.not_eq_true',
    decide_eq_false_iff_not]
  exact hlt

end Suppression.Position

import Mathlib.Algebra.Order.Field.Power
import Mathlib.Algebra.Order.Field.Rat
import Mathlib.Tactic.FieldSimp
import Mathlib.Tactic.NormNum
import Mathlib.Tactic.Positivity
import Suppression.Number.Decimal

namespace Suppression.Number

/-- Rounding leaves the number as it is; only a finite one is ever rounded. -/
def IsHeld (number : Number) : Prop :=
  ∀ value, number = finite value → nearest value = number

theorem isHeld_finite {value : ℚ} : (finite value).IsHeld ↔ nearest value = finite value := by
  constructor
  · intro h
    exact h value rfl
  · rintro h _ ⟨⟩
    exact h

theorem isHeld_infinite (negative : Bool) : (infinite negative).IsHeld := by
  rintro _ ⟨⟩

theorem two_zpow_eq (exponent : Int) :
    (2 : ℚ) ^ exponent = 2 ^ exponent.toNat / 2 ^ (-exponent).toNat := by
  rcases Int.le_total 0 exponent with h | h
  · obtain ⟨k, rfl⟩ := Int.eq_ofNat_of_zero_le h
    simp
  · obtain ⟨k, rfl⟩ := Int.exists_eq_neg_ofNat h
    simp

variable {num den : Nat}

theorem inUnits_pos (hden : 0 < den) (exponent : Int) : 0 < (inUnits num den exponent).2 :=
  Nat.mul_pos hden (Nat.pow_pos (by decide))

theorem inUnits_eq (hden : 0 < den) (exponent : Int) :
    ((inUnits num den exponent).1 : ℚ) =
      num / den / 2 ^ exponent * (inUnits num den exponent).2 := by
  have hden' : (den : ℚ) ≠ 0 := Nat.cast_ne_zero.mpr hden.ne'
  change ((num * 2 ^ (-exponent).toNat : Nat) : ℚ) = _ * ((den * 2 ^ exponent.toNat : Nat) : ℚ)
  rw [two_zpow_eq]
  push_cast
  field_simp

theorem mul_le_inUnits (hden : 0 < den) (exponent : Int) (count : Nat) :
    count * (inUnits num den exponent).2 ≤ (inUnits num den exponent).1 ↔
      (count : ℚ) * 2 ^ exponent ≤ num / den := by
  have hone : (0 : ℚ) < (inUnits num den exponent).2 := Nat.cast_pos.mpr (inUnits_pos hden _)
  have hunit : (0 : ℚ) < 2 ^ exponent := by positivity
  rw [← @Nat.cast_le ℚ, Nat.cast_mul, inUnits_eq hden, mul_le_mul_iff_left₀ hone,
    le_div_iff₀ hunit]

theorem quotient_bounds (hnum : 0 < num) (hden : 0 < den) :
    (2 : ℚ) ^ ((num.log2 : Int) - den.log2 - 1) ≤ num / den ∧
      (num : ℚ) / den < 2 ^ ((num.log2 : Int) - den.log2 + 1) := by
  have hden' : (0 : ℚ) < den := Nat.cast_pos.mpr hden
  have hnumLow : (2 : ℚ) ^ num.log2 ≤ num := by exact_mod_cast Nat.log2_self_le hnum.ne'
  have hdenLow : (2 : ℚ) ^ den.log2 ≤ den := by exact_mod_cast Nat.log2_self_le hden.ne'
  have hnumHigh : (num : ℚ) < 2 ^ (num.log2 + 1) := by exact_mod_cast Nat.lt_log2_self
  have hdenHigh : (den : ℚ) < 2 ^ (den.log2 + 1) := by exact_mod_cast Nat.lt_log2_self
  constructor
  · calc
      (2 : ℚ) ^ ((num.log2 : Int) - den.log2 - 1) = 2 ^ num.log2 / 2 ^ (den.log2 + 1) := by
        rw [sub_sub, zpow_sub₀ two_ne_zero]
        rfl
      _ ≤ num / den := by gcongr
  · calc
      (num : ℚ) / den < 2 ^ (num.log2 + 1) / 2 ^ den.log2 := by gcongr
      _ = 2 ^ ((num.log2 : Int) - den.log2 + 1) := by
        rw [sub_add_eq_add_sub, zpow_sub₀ two_ne_zero]
        rfl

/-- The spacing is no finer than the finest, the value is less than 2^53 of its units, and it is at
least 2^52 of them unless the spacing is the finest. -/
theorem spacing_bounds (hnum : 0 < num) (hden : 0 < den) :
    -1074 ≤ spacing num den ∧ (num : ℚ) / den < 2 ^ (53 + spacing num den) ∧
      (spacing num den = -1074 ∨ (2 : ℚ) ^ (52 + spacing num den) ≤ num / den) := by
  obtain ⟨hlow, hhigh⟩ := quotient_bounds hnum hden
  have hpow {small large : Int} (h : small ≤ large) : (2 : ℚ) ^ small ≤ 2 ^ large :=
    zpow_le_zpow_right₀ (by norm_num) h
  have hshift (guess : Int) : ((2 ^ 53 : Nat) : ℚ) * 2 ^ guess = 2 ^ (53 + guess) := by
    rw [zpow_add₀ two_ne_zero]
    norm_cast
  obtain ⟨guess, hguess⟩ : ∃ guess : Int,
      Max.max ((num.log2 : Int) - den.log2 - 53) (-1074) = guess := ⟨_, rfl⟩
  have hcompare := @mul_le_inUnits num den hden guess (2 ^ 53)
  rw [hshift] at hcompare
  have hspacing : spacing num den =
      if (2 : ℚ) ^ (53 + guess) ≤ num / den then guess + 1 else guess := by
    simp only [spacing, hguess]
    exact if_congr hcompare rfl rfl
  rw [hspacing]
  split
  · next hlarge =>
      refine ⟨by omega, hhigh.trans_le (hpow (by omega)), Or.inr ?_⟩
      rwa [show 52 + (guess + 1) = 53 + guess by omega]
  · next hsmall =>
      refine ⟨by omega, not_le.mp hsmall, ?_⟩
      rcases eq_or_ne guess (-1074) with hleast | hmore
      · exact Or.inl hleast
      · exact Or.inr ((hpow (by omega)).trans hlow)

theorem roundDiv_mul (count : Nat) (hden : 0 < den) : roundDiv (count * den) den = count := by
  simp [roundDiv, Nat.mul_div_cancel _ hden, hden]

theorem roundDiv_le {limit : Nat} (h : num < limit * den) : roundDiv num den ≤ limit := by
  have hfloor : num / den < limit := Nat.div_lt_of_lt_mul (by rwa [Nat.mul_comm])
  simp only [roundDiv]
  split
  · exact hfloor.le
  · split
    · exact hfloor
    · have := Nat.mod_lt (num / den) (show 0 < 2 by decide)
      omega

/-- The exponent of the spacing around a value. -/
def exponentOf (value : ℚ) : Int :=
  spacing value.num.natAbs value.den

/-- How many units of its spacing a value is, rounded. -/
def significandOf (value : ℚ) : Nat :=
  roundDiv (inUnits value.num.natAbs value.den (exponentOf value)).1
    (inUnits value.num.natAbs value.den (exponentOf value)).2

theorem natAbs_div_den (value : ℚ) : (value.num.natAbs : ℚ) / value.den = |value| := by
  conv_rhs => rw [← Rat.num_div_den value, abs_div, Nat.abs_cast]
  rw [Nat.cast_natAbs, Int.cast_abs]

theorem mkRat_units (significand : Nat) (exponent : Int) :
    mkRat ((significand * Nat.pow 2 exponent.toNat : Nat) : Int) (Nat.pow 2 (-exponent).toNat) =
      significand * 2 ^ exponent := by
  rw [Rat.mkRat_eq_div, two_zpow_eq, ← mul_div_assoc]
  simp only [Nat.pow_eq]
  push_cast
  rfl

theorem mul_le_units (limit significand : Nat) (exponent : Int) :
    limit * Nat.pow 2 (-exponent).toNat ≤ significand * Nat.pow 2 exponent.toNat ↔
      (limit : ℚ) ≤ significand * 2 ^ exponent := by
  rw [two_zpow_eq, ← mul_div_assoc, le_div_iff₀ (by positivity)]
  simp only [Nat.pow_eq]
  exact_mod_cast Iff.rfl

/-- No finite number reaches this power of two. -/
@[irreducible]
def overflow : Nat :=
  Nat.pow 2 1024

/-- The magnitude to which a value is rounded. -/
def roundedOf (value : ℚ) : ℚ :=
  significandOf value * 2 ^ exponentOf value

theorem nearest_eq (value : ℚ) : nearest value =
    if (overflow : ℚ) ≤ roundedOf value then infinite (decide (value < 0))
    else finite (if value < 0 then -roundedOf value else roundedOf value) := by
  have hunfold : nearest value =
      if overflow * Nat.pow 2 (-exponentOf value).toNat ≤
        significandOf value * Nat.pow 2 (exponentOf value).toNat then
          infinite (decide (value.num < 0))
      else if value.num < 0 then
        finite (mkRat (-(significandOf value * Nat.pow 2 (exponentOf value).toNat : Nat))
          (Nat.pow 2 (-exponentOf value).toNat))
      else
        finite (mkRat (significandOf value * Nat.pow 2 (exponentOf value).toNat : Nat)
          (Nat.pow 2 (-exponentOf value).toNat)) := by
    -- The power itself is too large to be computed.
    unfold nearest overflow
    generalize Nat.pow 2 1024 = limit
    rfl
  simp only [hunfold, mul_le_units, Rat.num_neg, ← Rat.neg_mkRat, mkRat_units]
  rw [← apply_ite finite]
  rfl

theorem roundedOf_of_units {value : ℚ} {units : Nat}
    (h : units * 2 ^ exponentOf value = |value|) : roundedOf value = |value| := by
  have hone := @inUnits_pos value.num.natAbs _ value.den_pos (exponentOf value)
  have hparts : (inUnits value.num.natAbs value.den (exponentOf value)).1 =
      units * (inUnits value.num.natAbs value.den (exponentOf value)).2 := by
    rw [← @Nat.cast_inj ℚ, Nat.cast_mul, inUnits_eq value.den_pos, natAbs_div_den, ← h,
      mul_div_cancel_right₀ _ (by positivity)]
  rw [roundedOf, significandOf, hparts, roundDiv_mul units hone, h]

theorem exponentOf_bounds (value : ℚ) : -1074 ≤ exponentOf value ∧
    |value| < 2 ^ (53 + exponentOf value) ∧
      (value = 0 ∨ exponentOf value = -1074 ∨ 2 ^ (52 + exponentOf value) ≤ |value|) := by
  rcases eq_or_ne value 0 with rfl | hvalue
  · have hexponent : -1074 ≤ exponentOf 0 := by decide +kernel
    rw [abs_zero]
    exact ⟨hexponent, by positivity, Or.inl rfl⟩
  · have hnum : 0 < value.num.natAbs := Int.natAbs_pos.mpr (Rat.num_ne_zero.mpr hvalue)
    have hbounds := spacing_bounds hnum value.den_pos
    rw [natAbs_div_den] at hbounds
    exact ⟨hbounds.1, hbounds.2.1, Or.inr hbounds.2.2⟩

theorem significandOf_le (value : ℚ) : significandOf value ≤ 2 ^ 53 := by
  obtain ⟨-, hhigh, -⟩ := exponentOf_bounds value
  refine roundDiv_le (not_le.mp fun hle => ?_)
  have hlarge := (mul_le_inUnits value.den_pos (exponentOf value) (2 ^ 53)).mp hle
  rw [natAbs_div_den] at hlarge
  rw [zpow_add₀ two_ne_zero] at hhigh
  exact absurd hhigh (not_lt.mpr hlarge)

/-- At most 2^53 units of a spacing that is not too fine are a whole number of units of the spacing
around their sum, be it a coarser one. -/
theorem exists_units {value : ℚ} {units : Nat} {exponent : Int} (hunits : units ≤ 2 ^ 53)
    (hexponent : -1074 ≤ exponent) (h : |value| = units * 2 ^ exponent) :
    ∃ count : Nat, count * 2 ^ exponentOf value = |value| := by
  rcases eq_or_ne value 0 with rfl | hvalue
  · exact ⟨0, by simp⟩
  rcases Int.lt_or_le exponent (exponentOf value) with hcoarse | hfine
  · -- Only the carry that fills the units makes the spacing coarser, and by one step only.
    have hlow := ((exponentOf_bounds value).2.2.resolve_left hvalue).resolve_left (by omega)
    have hhigh : |value| ≤ 2 ^ (53 + exponent) := by
      rw [h, zpow_add₀ two_ne_zero]
      gcongr
      exact_mod_cast hunits
    have hle : 52 + exponentOf value ≤ 53 + exponent :=
      (zpow_le_zpow_iff_right₀ (by norm_num : (1 : ℚ) < 2)).mp (hlow.trans hhigh)
    have hnext : 53 + exponent = 52 + exponentOf value := by omega
    refine ⟨2 ^ 52, ?_⟩
    calc
      ((2 ^ 52 : Nat) : ℚ) * 2 ^ exponentOf value = 2 ^ (52 + exponentOf value) := by
        rw [zpow_add₀ two_ne_zero]
        norm_cast
      _ = |value| := le_antisymm hlow (hnext ▸ hhigh)
  · obtain ⟨k, rfl⟩ := Int.exists_add_of_le hfine
    refine ⟨units * 2 ^ k, ?_⟩
    rw [h, zpow_add₀ two_ne_zero, zpow_natCast, Nat.cast_mul, Nat.cast_pow, Nat.cast_ofNat,
      mul_assoc, mul_comm (2 ^ k)]

theorem nearest_of_units {value : ℚ} {units : Nat} {exponent : Int} (hunits : units ≤ 2 ^ 53)
    (hexponent : -1074 ≤ exponent) (h : |value| = units * 2 ^ exponent)
    (hlimit : |value| < overflow) : nearest value = finite value := by
  obtain ⟨count, hcount⟩ := exists_units hunits hexponent h
  rw [nearest_eq, roundedOf_of_units hcount, if_neg (not_le.mpr hlimit)]
  split
  · next hneg => rw [abs_of_neg hneg, neg_neg]
  · next hnonneg => rw [abs_of_nonneg (not_lt.mp hnonneg)]

theorem lt_overflow {n : Nat} (h : n ≤ 2 ^ 53) : n < overflow := by
  have hlt : 53 < 1024 := by decide
  unfold overflow
  generalize 1024 = limit at hlt
  exact h.trans_lt (Nat.pow_lt_pow_right (by decide) hlt)

theorem nearest_natCast {n : Nat} (h : n ≤ 2 ^ 53) : nearest (n : ℚ) = ofNat n := by
  have habs : |(n : ℚ)| = n := Nat.abs_cast n
  refine @nearest_of_units n n 0 h (by decide) ?_ ?_
  · rw [habs, zpow_zero, mul_one]
  · rw [habs]
    exact Nat.cast_lt.mpr (lt_overflow h)

theorem isHeld_ofNat {n : Nat} (h : n ≤ 2 ^ 53) : (ofNat n).IsHeld :=
  isHeld_finite.mpr (nearest_natCast h)

theorem le_roundDiv {count : Nat} (hden : 0 < den) (h : count * den ≤ num) :
    count ≤ roundDiv num den := by
  have hfloor : count ≤ num / den := (Nat.le_div_iff_mul_le hden).mpr h
  simp only [roundDiv]
  split
  · exact hfloor
  · split
    · omega
    · omega

theorem le_roundedOf {value : ℚ} {count : Nat} (h : count * 2 ^ exponentOf value ≤ |value|) :
    count * 2 ^ exponentOf value ≤ roundedOf value := by
  have hone := @inUnits_pos value.num.natAbs _ value.den_pos (exponentOf value)
  rw [← natAbs_div_den, ← mul_le_inUnits value.den_pos] at h
  have hcount : (count : ℚ) ≤ significandOf value := Nat.cast_le.mpr (le_roundDiv hone h)
  exact mul_le_mul_of_nonneg_right hcount (by positivity)

theorem cast_pow_two (exponent : Nat) :
    ((Nat.pow 2 exponent : Nat) : ℚ) = 2 ^ (exponent : Int) := by
  rw [zpow_natCast]
  exact Nat.cast_pow 2 exponent

theorem overflow_eq : (overflow : ℚ) = 2 ^ ((1024 : Nat) : Int) := by
  unfold overflow
  generalize 1024 = exponent
  exact cast_pow_two exponent

theorem overflow_le_ten_pow {exponent : Nat} (h : 400 ≤ exponent) : overflow ≤ 10 ^ exponent := by
  have htwo : overflow ≤ 2 ^ (3 * exponent) := by
    have hle : 1024 ≤ 3 * exponent := by omega
    unfold overflow
    generalize 1024 = limit at hle
    exact Nat.pow_le_pow_right (by decide) hle
  calc
    overflow ≤ (2 ^ 3) ^ exponent := (Nat.pow_mul 2 3 exponent) ▸ htwo
    _ ≤ 10 ^ exponent := Nat.pow_le_pow_left (by decide) exponent

theorem nearest_of_overflow_le {value : ℚ} (h : overflow ≤ value) :
    nearest value = infinite false := by
  have hvalue : 0 < value := h.trans_lt' (by rw [overflow_eq]; positivity)
  have hpow {small large : Int} : (2 : ℚ) ^ small ≤ 2 ^ large ↔ small ≤ large :=
    zpow_le_zpow_iff_right₀ (by norm_num)
  obtain ⟨-, hhigh, hlow⟩ := exponentOf_bounds value
  have habs : |value| = value := abs_of_pos hvalue
  rw [habs] at hhigh hlow
  rw [overflow_eq] at h
  have hexponent : 1024 ≤ 53 + exponentOf value := hpow.mp (h.trans hhigh.le)
  have hrounded : (overflow : ℚ) ≤ roundedOf value := by
    rw [overflow_eq]
    rcases Int.le_total (exponentOf value) (1024 : Nat) with hle | hge
    · obtain ⟨k, hk⟩ := Int.exists_add_of_le hle
      have hunits : ((2 ^ k : Nat) : ℚ) * 2 ^ exponentOf value = 2 ^ ((1024 : Nat) : Int) := by
        rw [hk, add_comm, zpow_add₀ two_ne_zero, Nat.cast_pow, zpow_natCast, Nat.cast_ofNat]
      rw [← hunits]
      refine le_roundedOf ?_
      rwa [hunits, habs]
    · have hlow := (hlow.resolve_left hvalue.ne').resolve_left (by omega)
      have hunits : ((2 ^ 52 : Nat) : ℚ) * 2 ^ exponentOf value = 2 ^ (52 + exponentOf value) := by
        rw [zpow_add₀ two_ne_zero]
        norm_cast
      refine (hpow.mpr (by omega)).trans (hunits ▸ le_roundedOf ?_)
      rwa [hunits, habs]
  rw [nearest_eq, if_pos hrounded, decide_eq_false (not_lt.mpr hvalue.le)]

theorem isHeld_nearest (value : ℚ) : (nearest value).IsHeld := by
  rw [nearest_eq]
  split
  · exact isHeld_infinite _
  · next hlimit =>
      have habs : |if value < 0 then -roundedOf value else roundedOf value| = roundedOf value := by
        have hpos : 0 ≤ roundedOf value := by unfold roundedOf; positivity
        split
        · rw [abs_neg, abs_of_nonneg hpos]
        · exact abs_of_nonneg hpos
      refine isHeld_finite.mpr (nearest_of_units (significandOf_le value)
        (exponentOf_bounds value).1 habs ?_)
      rw [habs]
      exact not_le.mp hlimit

end Suppression.Number

theorem Suppression.Decimal.isHeld_toNumber (d : Decimal) : d.toNumber.IsHeld := by
  unfold toNumber
  split
  · exact Number.isHeld_ofNat (Nat.zero_le _)
  · split
    · exact Number.isHeld_infinite _
    · split
      · exact Number.isHeld_ofNat (Nat.zero_le _)
      · exact Number.isHeld_nearest _

import Mathlib.Data.List.TakeWhile
import Suppression.Number.Shortest
import Suppression.Proofs.JsonReading
import Suppression.Proofs.LineNumber

namespace Suppression

namespace Decimal

theorem dropTrailingZeros_eq (coefficient : Nat) (exponent : Int) :
    ∃ shorter zeros : Nat, coefficient = shorter * 10 ^ zeros ∧
      dropTrailingZeros coefficient exponent false = ⟨false, shorter, exponent + zeros⟩ := by
  obtain ⟨zeros, hzeros⟩ : ∃ zeros : Nat,
      ((Nat.toDigits 10 coefficient).reverse.takeWhile (· == '0')).length = zeros := ⟨_, rfl⟩
  have hdivides : 10 ^ zeros ∣ coefficient := by
    obtain ⟨front, hfront⟩ : ∃ front, Nat.toDigits 10 coefficient =
        front ++ List.replicate zeros '0' := by
      have htake : (Nat.toDigits 10 coefficient).reverse.takeWhile (· == '0') =
          List.replicate zeros '0' := by
        refine List.eq_replicate_iff.mpr ⟨hzeros, ?_⟩
        intro c hc
        simpa using List.mem_takeWhile_imp hc
      refine ⟨((Nat.toDigits 10 coefficient).reverse.dropWhile (· == '0')).reverse, ?_⟩
      rw [← List.reverse_inj, List.reverse_append, List.reverse_reverse, List.reverse_replicate,
        ← htake, List.takeWhile_append_dropWhile]
    have hvalue := @Nat.ofDigitChars_ten_toDigits coefficient
    rw [hfront, Nat.ofDigitChars_append, Nat.ofDigitChars_replicate_zero] at hvalue
    exact ⟨_, hvalue.symm⟩
  refine ⟨coefficient / 10 ^ zeros, zeros, (Nat.div_mul_cancel hdivides).symm, ?_⟩
  simp only [dropTrailingZeros, hzeros]
  rfl

theorem toNumber_natural (coefficient exponent : Nat) :
    toNumber ⟨false, coefficient, exponent⟩ =
      .nearest ((coefficient * 10 ^ exponent : Nat) : ℚ) := by
  have hone : Nat.pow 10 0 = 1 := rfl
  have hvalue : toRat ⟨false, coefficient, exponent⟩ = (coefficient * 10 ^ exponent : Nat) := by
    simp only [toRat, Int.toNat_natCast, Int.toNat_neg_natCast, hone, Bool.false_eq_true, if_false,
      Rat.mkRat_one]
    rfl
  simp only [toNumber, hvalue]
  rcases Nat.eq_zero_or_pos coefficient with rfl | hpos
  · rw [if_pos rfl, Nat.zero_mul]
    exact (Number.nearest_natCast (Nat.zero_le _)).symm
  · rw [if_neg hpos.ne', if_neg (by omega : ¬ (exponent : Int) + _ < -400)]
    split
    · next hlarge =>
        have hoverflow : Number.overflow ≤ coefficient * 10 ^ exponent :=
          (Number.overflow_le_ten_pow (by omega)).trans (Nat.le_mul_of_pos_left _ hpos)
        exact (Number.nearest_of_overflow_le (Nat.cast_le.mpr hoverflow)).symm
    · rfl

theorem toNumber_dropTrailingZeros (coefficient exponent : Nat) :
    ∃ shorter exponent' : Nat,
      dropTrailingZeros coefficient exponent false = ⟨false, shorter, exponent'⟩ ∧
        toNumber ⟨false, shorter, exponent'⟩ = toNumber ⟨false, coefficient, exponent⟩ := by
  obtain ⟨shorter, zeros, hzeros, hshorter⟩ := dropTrailingZeros_eq coefficient exponent
  refine ⟨shorter, exponent + zeros, ?_, ?_⟩
  · rw [hshorter]
    push_cast
    rfl
  · rw [toNumber_natural, toNumber_natural, hzeros, pow_add, mul_assoc, mul_comm (10 ^ exponent)]

theorem magnitude_natCast {n : Nat} (hpos : 0 < n) :
    magnitude n 1 = (Nat.toDigits 10 n).length := by
  simp [magnitude, Nat.succ_le_iff.mpr hpos]

theorem isSome_ofWidth? {n : Nat} (hpos : 0 < n) (h : toNumber ⟨false, n, 0⟩ = .ofNat n) :
    (ofWidth? n 1 (Nat.toDigits 10 n).length).isSome = true := by
  have hexact : toNumber ⟨false, n, 0⟩ = .finite (mkRat n 1) := by
    rw [h, Rat.mkRat_one]
    rfl
  have hround : Number.roundDiv n 1 = n := by
    simpa using Number.roundDiv_mul n one_pos
  have hone : Nat.pow 10 0 = 1 := rfl
  simp only [ofWidth?, magnitude_natCast hpos, sub_self, neighbours, neg_zero, Int.toNat_zero,
    hone, mul_one, Nat.div_one, hround, if_true, hexact, decide_true]
  rfl

theorem exists_of_ofWidth? {n width : Nat} (hpos : 0 < n)
    (hwidth : width ≤ (Nat.toDigits 10 n).length) {decimal : Decimal}
    (h : ofWidth? n 1 width = some decimal) :
    ∃ coefficient exponent : Nat, decimal = ⟨false, coefficient, exponent⟩ ∧
      decimal.toNumber = .ofNat n := by
  obtain ⟨zeros, hzeros⟩ := Nat.exists_eq_add_of_le' hwidth
  have hexponent : magnitude n 1 - (width : Int) = (zeros : Int) := by
    rw [magnitude_natCast hpos]
    omega
  have hvalue : Number.finite (mkRat n 1) = .ofNat n := by
    rw [Rat.mkRat_one]
    rfl
  have hfound : ∃ coefficient : Nat, toNumber ⟨false, coefficient, zeros⟩ = .ofNat n ∧
      dropTrailingZeros coefficient zeros false = decimal := by
    simp only [ofWidth?, hexponent, hvalue, decide_eq_true_eq] at h
    split at h
    · next hreads => exact ⟨_, hreads, Option.some.inj h⟩
    · split at h
      · next hreads => exact ⟨_, hreads, Option.some.inj h⟩
      · simp at h
  obtain ⟨coefficient, hreads, rfl⟩ := hfound
  obtain ⟨shorter, exponent, hshorter, hnumber⟩ := toNumber_dropTrailingZeros coefficient zeros
  refine ⟨shorter, exponent, hshorter, ?_⟩
  rw [hshorter, hnumber, hreads]

theorem exists_shortest {n : Nat} (hpos : 0 < n) (h : (Number.ofNat n).IsHeld) :
    ∃ coefficient exponent : Nat, shortest n 1 = ⟨false, coefficient, exponent⟩ ∧
      (shortest n 1).toNumber = .ofNat n := by
  have hexact : toNumber ⟨false, n, 0⟩ = .ofNat n := by
    rw [← Nat.cast_zero, toNumber_natural, pow_zero, mul_one]
    exact Number.isHeld_finite.mp h
  cases hfirst : (List.range' 1 17).findSome? (ofWidth? n 1) with
  | none =>
      have hshortest : shortest n 1 = dropTrailingZeros n 0 false := by
        have hlog : Nat.log2 1 = 0 := by decide
        have hone : Nat.pow 5 0 = 1 := rfl
        rw [shortest, hfirst, Option.getD_none, exactly, hlog, hone, mul_one]
        rfl
      obtain ⟨shorter, exponent, hshorter, hnumber⟩ := toNumber_dropTrailingZeros n 0
      refine ⟨shorter, exponent, hshortest.trans hshorter, ?_⟩
      rw [hshortest]
      exact (congrArg toNumber hshorter).trans (hnumber.trans hexact)
  | some decimal =>
      have hshortest : shortest n 1 = decimal := by
        rw [shortest, hfirst, Option.getD_some]
      -- A spelling with more digits than the number has is not tried.
      obtain ⟨before, width, after, hrange, hwidth, hnone⟩ := List.findSome?_eq_some_iff.mp hfirst
      obtain ⟨tried, htried, rfl, hnext⟩ := List.range'_eq_append_iff.mp hrange
      obtain ⟨rfl, -⟩ := List.range'_eq_cons_iff.mp hnext.symm
      rw [Nat.mul_one] at hwidth
      have hle : 1 + tried ≤ (Nat.toDigits 10 n).length := by
        by_contra hmore
        have hlength := @Nat.length_toDigits_pos 10 n
        have hsome := isSome_ofWidth? hpos hexact
        rw [hnone _ (List.mem_range'_1.mpr (by omega))] at hsome
        simp at hsome
      rw [hshortest]
      exact exists_of_ofWidth? hpos hle hwidth

theorem spanDigits_append {digits tail : List Char} (hdigits : ∀ c ∈ digits, c.isDigit = true)
    (htail : ∀ c ∈ tail.head?, c.isDigit = false) :
    spanDigits (digits ++ tail) = (digits, tail) := by
  have htake : tail.takeWhile Char.isDigit = [] ∧ tail.dropWhile Char.isDigit = tail := by
    cases tail with
    | nil => exact ⟨rfl, rfl⟩
    | cons c rest => simp [htail c rfl]
  rw [spanDigits, List.span_eq_takeWhile_dropWhile,
    List.takeWhile_append_of_pos hdigits, List.dropWhile_append_of_pos hdigits, htake.1, htake.2,
    List.append_nil]

/-- A number without a sign is read in three parts: the digits that come first, of which there is
no superfluous zero, the fraction and the exponent. -/
theorem ofJson?_unsigned {first : Char} {rest tail fraction after : List Char} {point : Bool}
    (hdigits : ∀ c ∈ first :: rest, c.isDigit = true) (hzero : first = '0' → rest = [])
    (htail : ∀ c ∈ tail.head?, c.isDigit = false)
    (hfraction : spanFraction tail = (point, fraction, after))
    (hpoint : point = true → fraction ≠ []) :
    ofJson? (first :: rest ++ tail) = assemble? false (first :: rest) fraction after := by
  have hminus : first ≠ '-' := by
    rintro rfl
    simpa using hdigits '-' List.mem_cons_self
  have hleading : ((first :: rest).head? == some '0' && decide (1 < (first :: rest).length)) =
      false := by
    by_cases h : first = '0'
    · simp [h, hzero h]
    · simp [h]
  have hmissing : (point && fraction.isEmpty) = false := by
    cases point with
    | false => rfl
    | true => simpa using hpoint rfl
  unfold ofJson?
  split
  next negative text hsign =>
    split at hsign
    · next heq => exact absurd (List.cons.inj heq).1 hminus
    · obtain ⟨rfl, rfl⟩ := Prod.mk.inj hsign
      simp only [spanDigits_append hdigits htail, hfraction, hleading, hmissing, List.isEmpty_cons,
        Bool.or_false, Bool.false_eq_true, if_false]

theorem ofJson?_digits {first : Char} {rest : List Char}
    (hdigits : ∀ c ∈ first :: rest, c.isDigit = true) (hzero : first = '0' → rest = []) :
    ofJson? (first :: rest) = some ⟨false, Nat.ofDigitChars 10 (first :: rest) 0, 0⟩ := by
  have hread := @ofJson?_unsigned first rest [] [] [] false hdigits hzero (by simp) rfl (by simp)
  rwa [List.append_nil] at hread

/-- The digits after the first one, behind a point if there are any. -/
def pointed (digits : List Char) : List Char :=
  if digits = [] then [] else '.' :: digits

theorem ofJson?_scientific {first : Char} {rest exponent : List Char}
    (hdigits : ∀ c ∈ first :: rest, c.isDigit = true)
    (hexponent : ∀ c ∈ exponent, c.isDigit = true) (hsome : exponent ≠ []) :
    ofJson? (first :: (pointed rest ++ 'e' :: '+' :: exponent)) =
      some ⟨false, Nat.ofDigitChars 10 (first :: rest) 0,
        (Nat.ofDigitChars 10 exponent 0 : Int) - rest.length⟩ := by
  obtain ⟨hfirst, hrest⟩ := List.forall_mem_cons.mp hdigits
  obtain ⟨point, hfraction, hpoint, htail⟩ : ∃ point,
      spanFraction (pointed rest ++ 'e' :: '+' :: exponent) =
        (point, rest, 'e' :: '+' :: exponent) ∧ (point = true → rest ≠ []) ∧
          ∀ c ∈ (pointed rest ++ 'e' :: '+' :: exponent).head?, c.isDigit = false := by
    unfold pointed
    split
    · next hnone =>
        subst hnone
        exact ⟨false, rfl, by simp, by simp⟩
    · next hpoint =>
        have hspan := @spanDigits_append rest ('e' :: '+' :: exponent) hrest (by simp)
        refine ⟨true, ?_, fun _ => hpoint, by simp⟩
        simp only [List.cons_append, spanFraction, hspan]
  have hread := @ofJson?_unsigned first [] _ rest _ point (by simpa using hfirst) (fun _ => rfl)
    htail hfraction hpoint
  have hspan : spanDigits exponent = (exponent, []) := by
    simpa using @spanDigits_append exponent [] hexponent (by simp)
  have hscale : readExponent? ('e' :: '+' :: exponent) =
      some (1 * (readDigits 0 exponent : Int), []) := by
    obtain ⟨c, others, rfl⟩ := List.exists_cons_of_ne_nil hsome
    simp only [readExponent?, true_or, if_true, hspan]
  have hdigits' : readDigits (readDigits 0 [first]) rest =
      Nat.ofDigitChars 10 (first :: rest) 0 := rfl
  have hexponent' : readDigits 0 exponent = Nat.ofDigitChars 10 exponent 0 := rfl
  rw [List.singleton_append] at hread
  rw [hread]
  simp only [assemble?, hscale, hdigits', hexponent', one_mul]

theorem head?_toDigits {n : Nat} (hpos : 0 < n) : (Nat.toDigits 10 n).head? ≠ some '0' := by
  have hdigit : ∀ d < 10, 0 < d → Nat.digitChar d ≠ '0' := by decide
  induction n using Nat.strongRecOn with
  | ind n ih =>
      rw [Nat.toDigits_eq_if (by decide)]
      split
      · next hlt => simpa using hdigit n hlt hpos
      · next hge =>
          rw [List.head?_append_of_ne_nil _ Nat.toDigits_ne_nil]
          exact ih (n / 10) (by omega) (by omega)

theorem coefficient_pos {coefficient exponent n : Nat} (hpos : 0 < n)
    (h : toNumber ⟨false, coefficient, exponent⟩ = .ofNat n) : 0 < coefficient := by
  refine Nat.pos_of_ne_zero ?_
  rintro rfl
  exact hpos.ne (Number.ofNat_inj.mp h)

end Decimal

namespace Layout

theorem write_natural (exponent : Nat) {coefficient : Nat} {first : Char} {rest : List Char}
    (hdigits : Nat.toDigits 10 coefficient = first :: rest) :
    standard.write ⟨false, coefficient, exponent⟩ =
        String.ofList (first :: (rest ++ List.replicate exponent '0')) ∨
      standard.write ⟨false, coefficient, exponent⟩ = String.ofList
        (first :: (Decimal.pointed rest ++ 'e' :: '+' ::
          Nat.toDigits 10 (exponent + rest.length))) := by
  have hleading : (exponent : Int) + (first :: rest).length - 1 =
      ((exponent + rest.length : Nat) : Int) := by
    rw [List.length_cons]
    omega
  have hsmall : ¬ ((exponent + rest.length : Nat) : Int) < standard.leastPositional := by
    simp only [standard]
    omega
  have hsign : ¬ ((exponent + rest.length : Nat) : Int) < 0 := by omega
  simp only [write, hdigits, hleading, hsmall, hsign, false_or, if_false, Int.natCast_nonneg,
    if_true, Int.toNat_natCast, Int.natAbs_natCast]
  split
  · right
    have hpointed : (if 1 < (first :: rest).length then '.' :: rest else []) =
        Decimal.pointed rest := by
      cases rest <;> rfl
    have hexponent : toString (exponent + rest.length) =
        String.ofList (Nat.toDigits 10 (exponent + rest.length)) := rfl
    rw [← String.toList_inj]
    simp only [hexponent, String.toList_append, String.toList_ofList, List.drop_succ_cons,
      List.drop_zero, List.take_succ_cons, List.take_zero, hpointed, List.append_assoc,
      List.singleton_append]
    rfl
  · left
    rfl

theorem isNumberChar_of_isDigit {c : Char} (h : c.isDigit = true) : Json.isNumberChar c = true := by
  simp [Json.isNumberChar, h]

theorem isNumberChar_of_mem_scientific {rest exponent : List Char}
    (hrest : ∀ c ∈ rest, c.isDigit = true) (hexponent : ∀ c ∈ exponent, c.isDigit = true) :
    ∀ c ∈ Decimal.pointed rest ++ 'e' :: '+' :: exponent, Json.isNumberChar c = true := by
  have hpointed : ∀ c ∈ Decimal.pointed rest, Json.isNumberChar c = true := by
    unfold Decimal.pointed
    split
    · simp
    · exact List.forall_mem_cons.mpr ⟨rfl, fun c hc => isNumberChar_of_isDigit (hrest c hc)⟩
  intro c hc
  simp only [List.mem_append, List.mem_cons] at hc
  rcases hc with hc | rfl | rfl | hc
  · exact hpointed c hc
  · rfl
  · rfl
  · exact isNumberChar_of_isDigit (hexponent c hc)

theorem exists_decimal_of_write (exponent : Nat) {coefficient : Nat} (hpos : 0 < coefficient) :
    ∃ first rest decimal,
      (standard.write ⟨false, coefficient, exponent⟩).toList = first :: rest ∧
        first.isDigit = true ∧ (∀ c ∈ rest, Json.isNumberChar c = true) ∧
          Decimal.ofJson? (first :: rest) = some decimal ∧
            decimal.toNumber = Decimal.toNumber ⟨false, coefficient, exponent⟩ := by
  have hdecimal (n : Nat) : ∀ c ∈ Nat.toDigits 10 n, c.isDigit = true :=
    fun c hc => Nat.isDigit_of_mem_toDigits (by decide) (by decide) hc
  obtain ⟨first, rest, hdigits⟩ := List.exists_cons_of_ne_nil
    (Nat.toDigits_ne_nil : Nat.toDigits 10 coefficient ≠ [])
  have hall : ∀ c ∈ first :: rest, c.isDigit = true := hdigits ▸ hdecimal coefficient
  have hvalue : Nat.ofDigitChars 10 (first :: rest) 0 = coefficient := by
    rw [← hdigits, Nat.ofDigitChars_ten_toDigits]
  have hfirst : first ≠ '0' := by
    rintro rfl
    have hhead := Decimal.head?_toDigits hpos
    rw [hdigits] at hhead
    exact hhead rfl
  obtain ⟨hfirstDigit, hrest⟩ := List.forall_mem_cons.mp hall
  rcases write_natural exponent hdigits with hplain | hscaled
  · -- The digits are followed by zeros.
    have hzeros : ∀ c ∈ first :: (rest ++ List.replicate exponent '0'), c.isDigit = true := by
      intro c hc
      rw [← List.cons_append, List.mem_append] at hc
      rcases hc with hc | hc
      · exact hall c hc
      · rw [List.eq_of_mem_replicate hc]
        rfl
    have hread := Decimal.ofJson?_digits hzeros fun h => absurd h hfirst
    rw [← List.cons_append, Nat.ofDigitChars_append, hvalue, Nat.ofDigitChars_replicate_zero,
      mul_comm, List.cons_append] at hread
    refine ⟨first, _, _, by rw [hplain, String.toList_ofList], hfirstDigit, ?_, hread, ?_⟩
    · exact fun c hc => isNumberChar_of_isDigit (hzeros c (List.mem_cons_of_mem _ hc))
    · rw [← Nat.cast_zero, Decimal.toNumber_natural, Decimal.toNumber_natural, pow_zero, mul_one]
  · -- The point stands after the first digit, and the exponent makes up for it.
    have hread :=
      Decimal.ofJson?_scientific hall (hdecimal (exponent + rest.length)) Nat.toDigits_ne_nil
    have hscale : ((exponent + rest.length : Nat) : Int) - rest.length = exponent := by omega
    rw [hvalue, Nat.ofDigitChars_ten_toDigits, hscale] at hread
    exact ⟨first, _, _, by rw [hscaled, String.toList_ofList], hfirstDigit,
      isNumberChar_of_mem_scientific hrest (hdecimal _), hread, rfl⟩

end Layout

theorem Json.numberReads_of_isHeld {n : Nat} (h : (Number.ofNat n).IsHeld) :
    NumberReads (.ofNat n) := by
  rcases Nat.eq_zero_or_pos n with rfl | hpos
  · exact ⟨'0', [], ⟨false, 0, 0⟩, by decide, Or.inl rfl, by simp, by decide, by decide⟩
  · obtain ⟨coefficient, exponent, hshortest, hnumber⟩ := Decimal.exists_shortest hpos h
    rw [hshortest] at hnumber
    have htext : writeNumber (.ofNat n) = Layout.standard.write ⟨false, coefficient, exponent⟩ := by
      have hnum : (n : ℚ).num ≠ 0 := by
        rw [Rat.num_natCast]
        omega
      have hsign : ¬ (n : ℚ).num < 0 := by
        rw [Rat.num_natCast]
        omega
      simp only [writeNumber, Number.ofNat, Number.text, hnum, hsign, if_false]
      rw [Rat.num_natCast, Rat.den_natCast, Int.natAbs_natCast, hshortest]
    obtain ⟨first, rest, decimal, hwrite, hfirst, hrest, hread, hdecimal⟩ :=
      Layout.exists_decimal_of_write exponent (Decimal.coefficient_pos hpos hnumber)
    exact ⟨first, rest, decimal, htext ▸ hwrite, Or.inl hfirst, hrest, hread,
      hdecimal.trans hnumber⟩

theorem Json.numberReads_ofNat {n : Nat} (h : n ≤ 2 ^ 53) : NumberReads (.ofNat n) :=
  numberReads_of_isHeld (Number.isHeld_ofNat h)

end Suppression

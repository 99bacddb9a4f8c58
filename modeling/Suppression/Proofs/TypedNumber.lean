import Suppression.Number.Literal
import Suppression.Proofs.FormattedTargets
import Suppression.Proofs.NaturalText

namespace Suppression

namespace Decimal

variable {text : List Char} {decimal : Decimal}

theorem ite_assemble? {negative point leadingZero : Bool} {whole fraction rest : List Char}
    (h : (if whole.isEmpty || leadingZero || (point && fraction.isEmpty) then none
      else assemble? negative whole fraction rest) = some decimal) :
    (if whole.isEmpty && fraction.isEmpty then none
      else assemble? negative whole fraction rest) = some decimal := by
  split at h
  · exact nomatch h
  · rename_i hgrammar
    simp only [Bool.or_eq_true, not_or] at hgrammar
    rw [if_neg (by simp [hgrammar.1.1])]
    exact h

theorem ofSigned?_of_ofJson? (h : ofJson? text = some decimal) :
    ofSigned? text = some decimal := by
  cases text with
  | nil => exact nomatch h
  | cons c rest =>
      by_cases hminus : c = '-'
      · subst hminus
        exact ite_assemble? h
      · by_cases hplus : c = '+'
        · subst hplus
          exact nomatch h
        · rw [ofJson?] at h
          · rw [ofSigned?]
            · exact ite_assemble? h
            · simp [hminus]
            · simp [hplus]
          · simp [hminus]

end Decimal

theorem Json.isBlank_of_isNumberChar {c : Char} (h : isNumberChar c = true) :
    Text.isBlank c = false := by
  simp only [isNumberChar, Bool.or_eq_true, beq_iff_eq] at h
  rcases h with ((((hdigit | rfl) | rfl) | rfl) | rfl) | rfl
  · simp only [Char.isDigit, Bool.and_eq_true, decide_eq_true_eq, ge_iff_le, UInt32.le_iff_toNat_le]
      at hdigit
    have hlow : 48 ≤ c.toNat := hdigit.1
    have hhigh : c.toNat ≤ 57 := hdigit.2
    simp only [Text.isBlank, Bool.or_eq_false_iff, Bool.and_eq_false_iff, beq_eq_false_iff_ne,
      decide_eq_false_iff_not]
    omega
  all_goals decide

namespace Number

variable {first : Char} {rest : List Char} {decimal : Decimal}

theorem ofTyped_of_ofJson? (hrest : ∀ c ∈ rest, Json.isNumberChar c = true)
    (h : Decimal.ofJson? (first :: rest) = some decimal) :
    ofTyped (first :: rest) = decimal.toNumber := by
  have hsecond {c : Char} {more : List Char} (hc : Json.isNumberChar c = false) :
      first :: rest ≠ '0' :: c :: more := by
    rintro heq
    obtain ⟨-, rfl⟩ := List.cons.inj heq
    exact absurd (hrest c List.mem_cons_self) (by simp [hc])
  have hword (word : List Char) (hletter : ∃ c ∈ word.drop 1, Json.isNumberChar c = false) :
      first :: rest ≠ word := by
    rintro rfl
    obtain ⟨c, hmem, hc⟩ := hletter
    exact absurd (hrest c hmem) (by simp [hc])
  unfold ofTyped
  split
  case h_1 heq => exact nomatch heq
  case h_8 =>
    rw [if_neg, if_neg (hword _ ⟨'I', by decide, by decide⟩), Decimal.ofSigned?_of_ofJson? h]
    rintro (h | h)
    · exact hword _ ⟨'n', by decide, by decide⟩ h
    · exact hword _ ⟨'I', by decide, by decide⟩ h
  all_goals exact absurd ‹_› (hsecond rfl)

theorem ofText_of_numberReads {number : Number} (h : Json.NumberReads number) :
    ofText (Json.writeNumber number) = number := by
  obtain ⟨first, rest, decimal, htext, hfirst, hrest, hread, hnumber⟩ := h
  have hends : ∀ c, c ∈ (first :: rest).head? ∨ c ∈ (first :: rest).getLast? →
      Text.isBlank c = false := by
    have hall : ∀ c ∈ first :: rest, Text.isBlank c = false := by
      intro c hc
      rcases List.mem_cons.mp hc with rfl | hc
      · rcases hfirst with hdigit | rfl
        · exact Json.isBlank_of_isNumberChar (by simp [Json.isNumberChar, hdigit])
        · decide
      · exact Json.isBlank_of_isNumberChar (hrest c hc)
    rintro c (hc | hc)
    · exact hall c (List.mem_of_mem_head? hc)
    · exact hall c (List.mem_of_getLast? hc)
  rw [ofText, htext, Text.trimChars_eq_self hends, ofTyped_of_ofJson? hrest hread, hnumber]

theorem not_lt_of_finite_le {least : ℚ} {number : Number} (h : finite least ≤ number) :
    ¬ number < finite least := by
  cases number with
  | nan => exact nofun
  | infinite negative =>
      cases negative with
      | false => exact nofun
      | true => exact nomatch h
  | finite value => simpa using h

theorem eq_neg_one_of_isInteger {number : Number} (hinteger : number.isInteger = true)
    (hleast : finite (-1) ≤ number) (hnegative : number < ofNat 0) : number = finite (-1) := by
  cases number with
  | nan => exact nomatch hinteger
  | infinite negative => exact nomatch hinteger
  | finite value =>
      have hden : value.den = 1 := by simpa [isInteger] using hinteger
      have hvalue : (value.num : ℚ) = value := (Rat.den_eq_one_iff value).mp hden
      rw [finite_le_finite, ← hvalue] at hleast
      rw [ofNat, finite_lt_finite, ← hvalue] at hnegative
      have hlow : -1 ≤ value.num := by exact_mod_cast hleast
      have hhigh : value.num < 0 := by exact_mod_cast hnegative
      have hnum : value.num = -1 := by omega
      rw [← hvalue, hnum]
      rfl

theorem ofText_text {number : Number} (hheld : number.IsHeld) (hinteger : number.isInteger = true)
    (hleast : finite (-1) ≤ number) : ofText number.text = number := by
  have hreads : Json.NumberReads number := by
    by_cases hnegative : number < ofNat 0
    · obtain rfl := eq_neg_one_of_isInteger hinteger hleast hnegative
      exact ⟨'-', ['1'], ⟨true, 1, 0⟩, by decide +kernel, Or.inr rfl,
        List.forall_mem_singleton.mpr (by decide), by decide +kernel, by decide +kernel⟩
    · obtain ⟨n, -, rfl⟩ := exists_ofNat_of_isInteger hinteger hnegative
      exact Json.numberReads_of_isHeld hheld
  cases number with
  | nan => exact nomatch hinteger
  | infinite negative => exact nomatch hinteger
  | finite value =>
      have htext : (finite value).text = Json.writeNumber (finite value) := rfl
      rw [htext, ofText_of_numberReads hreads]

end Number

end Suppression

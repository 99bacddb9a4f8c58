import Mathlib.Data.List.Basic
import Suppression.Text.Utf8

namespace Suppression.Text

namespace Utf8State

def readAll (state : Utf8State) (bytes : List UInt8) : Utf8State :=
  bytes.foldl (fun state byte => state.step byte.toNat) state

def count (state : Utf8State) : Nat :=
  state.read.length + state.unfinished.toList.length

theorem count_lead_le (read : List Char) (byte : Nat) :
    (lead read byte).count ≤ read.length + 1 := by
  unfold lead
  split_ifs <;> simp [count]

theorem count_step_le (state : Utf8State) (byte : Nat) :
    (state.step byte).count ≤ state.count + 1 := by
  obtain ⟨read, unfinished⟩ := state
  cases unfinished with
  | none =>
      have h := count_lead_le read byte
      simpa [step, count] using h
  | some part =>
      have h := count_lead_le (replacement :: read) byte
      simp only [step]
      split_ifs
      · simp [count]
      · simp [count]
      · simpa [count] using h

theorem count_readAll_le (state : Utf8State) (bytes : List UInt8) :
    (state.readAll bytes).count ≤ state.count + bytes.length := by
  induction bytes generalizing state with
  | nil => simp [readAll]
  | cons byte rest ih =>
      calc
        _ ≤ (state.step byte.toNat).count + rest.length := ih _
        _ ≤ state.count + 1 + rest.length := Nat.add_le_add_right (count_step_le _ _) _
        _ = state.count + (byte :: rest).length := by rw [List.length_cons]; omega

theorem length_finish (state : Utf8State) : state.finish.length = state.count := by
  obtain ⟨read, unfinished⟩ := state
  cases unfinished <;> simp [finish, count]

section step

variable {read : List Char} {value missing low high byte : Nat}

theorem step_lead_one (h : byte < 0x80) :
    step { read } byte = { read := Char.ofNat byte :: read } := by
  simp [step, lead, h]

theorem step_lead_two (hlow : 0xc2 ≤ byte) (hhigh : byte ≤ 0xdf) :
    step { read } byte = { read, unfinished := some ⟨byte - 0xc0, 1, 0x80, 0xbf⟩ } := by
  simp [step, lead, hlow, hhigh, show ¬ byte < 0x80 by omega]

theorem step_lead_three (hlow : 0xe0 ≤ byte) (hhigh : byte ≤ 0xef) :
    step { read } byte = { read, unfinished := some ⟨byte - 0xe0, 2,
      if byte = 0xe0 then 0xa0 else 0x80, if byte = 0xed then 0x9f else 0xbf⟩ } := by
  simp [step, lead, hlow, hhigh, show ¬ byte < 0x80 by omega, show ¬ byte ≤ 0xdf by omega]

theorem step_lead_four (hlow : 0xf0 ≤ byte) (hhigh : byte ≤ 0xf4) :
    step { read } byte = { read, unfinished := some ⟨byte - 0xf0, 3,
      if byte = 0xf0 then 0x90 else 0x80, if byte = 0xf4 then 0x8f else 0xbf⟩ } := by
  simp [step, lead, hlow, hhigh, show ¬ byte < 0x80 by omega, show ¬ byte ≤ 0xdf by omega,
    show ¬ byte ≤ 0xef by omega]

theorem step_next (hlow : low ≤ byte) (hhigh : byte ≤ high) (hmissing : missing ≠ 1) :
    step { read, unfinished := some ⟨value, missing, low, high⟩ } byte =
      { read, unfinished := some ⟨value * 64 + (byte - 0x80), missing - 1, 0x80, 0xbf⟩ } := by
  simp [step, hlow, hhigh, hmissing]

theorem step_last (hlow : low ≤ byte) (hhigh : byte ≤ high) :
    step { read, unfinished := some ⟨value, 1, low, high⟩ } byte =
      { read := Char.ofNat (value * 64 + (byte - 0x80)) :: read } := by
  simp [step, hlow, hhigh]

end step

theorem readAll_encodeChar (read : List Char) (c : Char) :
    readAll { read } (String.utf8EncodeChar c) = { read := c :: read } := by
  have hvalid : c.val.toNat < 0xd800 ∨ 0xdfff < c.val.toNat ∧ c.val.toNat < 0x110000 := c.valid
  have hbyte {n : Nat} (h : n < 256) : (UInt8.ofNat n).toNat = n := by
    rw [UInt8.toNat_ofNat', Nat.mod_eq_of_lt h]
  have hread {n : Nat} (h : n = c.val.toNat) :
      ({ read := Char.ofNat n :: read } : Utf8State) = { read := c :: read } := by
    rw [h]
    exact congrArg (fun c => ({ read := c :: read } : Utf8State)) c.ofNat_toNat
  simp only [String.utf8EncodeChar]
  generalize c.val.toNat = v at hvalid hread ⊢
  split_ifs with h1 h2 h3
  · simp only [readAll, List.foldl_cons, List.foldl_nil]
    rw [hbyte (by omega), step_lead_one (by omega)]
    exact hread rfl
  · simp only [readAll, List.foldl_cons, List.foldl_nil]
    rw [hbyte (by omega), hbyte (by omega), step_lead_two (by omega) (by omega),
      step_last (by omega) (by omega)]
    exact hread (by omega)
  · simp only [readAll, List.foldl_cons, List.foldl_nil]
    rw [hbyte (by omega), hbyte (by omega), hbyte (by omega),
      step_lead_three (by omega) (by omega),
      step_next (by split_ifs <;> omega) (by split_ifs <;> omega) (by omega),
      step_last (by omega) (by omega)]
    exact hread (by omega)
  · simp only [readAll, List.foldl_cons, List.foldl_nil]
    rw [hbyte (by omega), hbyte (by omega), hbyte (by omega), hbyte (by omega),
      step_lead_four (by omega) (by omega),
      step_next (by split_ifs <;> omega) (by split_ifs <;> omega) (by omega),
      step_next (by omega) (by omega) (by omega), step_last (by omega) (by omega)]
    exact hread (by omega)

theorem readAll_flatMap_encodeChar (read chars : List Char) :
    readAll { read } (chars.flatMap String.utf8EncodeChar) = { read := chars.reverse ++ read } := by
  induction chars generalizing read with
  | nil => rfl
  | cons c rest ih =>
      rw [List.flatMap_cons, readAll, List.foldl_append]
      change readAll (readAll { read } (String.utf8EncodeChar c)) _ = _
      rw [readAll_encodeChar, ih]
      simp

end Utf8State

theorem length_decodeUtf8_le (bytes : List UInt8) : (decodeUtf8 bytes).length ≤ bytes.length := by
  have h := Utf8State.count_readAll_le {} bytes
  rw [← Utf8State.length_finish] at h
  simpa [decodeUtf8, Utf8State.readAll, Utf8State.count] using h

theorem toList_loop (bytes : ByteArray) (i : Nat) (before : List UInt8) :
    ByteArray.toList.loop bytes i before = before.reverse ++ bytes.data.toList.drop i := by
  fun_induction ByteArray.toList.loop bytes i before with
  | case1 i before hlt ih =>
      have hsize : i < bytes.data.toList.length := hlt
      have hget : bytes.get! i = bytes.data.toList[i] := by
        rw [Array.getElem_toList]
        exact getElem!_pos bytes.data i hlt
      rw [ih, List.reverse_cons, List.append_assoc, List.drop_eq_getElem_cons hsize, hget]
      rfl
  | case2 i before hge =>
      have hsize : bytes.data.toList.length ≤ i := Nat.le_of_not_lt hge
      rw [List.drop_of_length_le hsize, List.append_nil]

theorem encodeUtf8_eq_flatMap (text : String) :
    encodeUtf8 text = text.toList.flatMap String.utf8EncodeChar := by
  rw [encodeUtf8, String.toUTF8_eq_toByteArray, ← String.utf8Encode_toList, ByteArray.toList,
    toList_loop, List.utf8Encode, List.toList_data_toByteArray]
  rfl

theorem decodeUtf8_encodeUtf8 (text : String) : decodeUtf8 (encodeUtf8 text) = text := by
  have h := Utf8State.readAll_flatMap_encodeChar [] text.toList
  rw [decodeUtf8, encodeUtf8_eq_flatMap]
  change String.ofList (Utf8State.finish (Utf8State.readAll {} _)) = text
  rw [h]
  simp [Utf8State.finish]

end Suppression.Text

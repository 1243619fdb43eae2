import Blockflow.Text.Utf8
import Mathlib.Data.List.Basic

/-!
# Bytes of texts that are read back

A character is written in one to four bytes.  The first byte says how many follow, and only a
character of one byte has a byte below 128.  So the bytes of a text are read back as the text, and
its line ends and carriage returns are where these bytes are.

* `Utf8.encode_ofList` — the bytes of a text, character by character.
* `Utf8.decodeChars_encodeChar` — a character is read back.
* **`Utf8.decode_encode`** — a text is read back.
* `Utf8.mem_encodeChar_iff` — where the byte of a character below 128 is found.
-/

namespace Blockflow.Utf8

open String (utf8EncodeChar)

variable {c : Char} {cs : List Char} {rest : List UInt8}

/-! ## Bytes of characters -/

lemma toList_loop (bs : ByteArray) (i : Nat) (r : List UInt8) :
    ByteArray.toList.loop bs i r = r.reverse ++ bs.data.toList.drop i := by
  fun_induction ByteArray.toList.loop bs i r with
  | case1 i r h ih =>
      have hi : i < bs.data.toList.length := by simpa using h
      rw [ih, List.drop_eq_getElem_cons hi]
      simp [ByteArray.get!, h]
  | case2 i r h =>
      rw [List.drop_eq_nil_of_le (by simpa using Nat.le_of_not_lt h), List.append_nil]

/-- The bytes of a text are those of its characters. -/
lemma encode_ofList (cs : List Char) : encode (String.ofList cs) = cs.flatMap utf8EncodeChar := by
  rw [encode, String.toUTF8_eq_toByteArray, String.toByteArray_ofList, List.utf8Encode,
    ByteArray.toList, toList_loop]
  simp

/-! ## Reading back -/

lemma follow_zero (low high bits : Nat) (bs : List UInt8) :
    follow 0 low high bits bs = (Char.ofNat bits, bs) := by
  cases bs <;> rfl

/-- A byte within the bounds adds six bits. -/
lemma follow_succ {low high n : Nat} (count bits : Nat) (hlow : low ≤ n) (hhigh : n ≤ high)
    (hn : n < 256) :
    follow (count + 1) low high bits (UInt8.ofNat n :: rest) =
      follow count 0x80 0xBF (bits * 64 + (n - 0x80)) rest := by
  have hbyte : (UInt8.ofNat n).toNat = n := Nat.mod_eq_of_lt hn
  simp [follow, hbyte, hlow, hhigh]

lemma lead?_of_two : ∀ q < 30, lead? (194 + q) = some (1, 0x80, 0xBF, 2 + q) := by decide

lemma lead?_of_three : ∀ q < 16, lead? (224 + q) =
    some (2, if q = 0 then 0xA0 else 0x80, if q = 13 then 0x9F else 0xBF, q) := by decide

lemma lead?_of_four : ∀ q < 5, lead? (240 + q) =
    some (3, if q = 0 then 0x90 else 0x80, if q = 4 then 0x8F else 0xBF, q) := by decide

/-- A first byte of several is read with those that follow. -/
lemma next_of_lead? {n count low high bits : Nat} (hn : 0x80 ≤ n) (hbyte : n < 256)
    (hlead : lead? n = some (count, low, high, bits)) :
    next (UInt8.ofNat n) rest = follow count low high bits rest := by
  have htoNat : (UInt8.ofNat n).toNat = n := Nat.mod_eq_of_lt hbyte
  rw [next, htoNat, if_neg (Nat.not_lt.mpr hn), hlead]

/-- **A character is read back**, whatever follows it. -/
lemma decodeChars_encodeChar (c : Char) (rest : List UInt8) :
    decodeChars (utf8EncodeChar c ++ rest) = c :: decodeChars rest := by
  have hvalid : c.toNat < 0xD800 ∨ 0xDFFF < c.toNat ∧ c.toNat < 0x110000 := c.valid
  have hc : Char.ofNat c.toNat = c := Char.ofNat_toNat c
  suffices h : ∃ b bs, utf8EncodeChar c = b :: bs ∧ next b (bs ++ rest) = (c, rest) by
    obtain ⟨b, bs, hbytes, hnext⟩ := h
    rw [hbytes, List.cons_append, decodeChars, hnext]
  generalize hv : c.toNat = v at *
  have hval : c.val.toNat = v := hv
  simp only [utf8EncodeChar, hval]
  split_ifs with h₁ h₂ h₃
  · refine ⟨_, _, rfl, ?_⟩
    have htoNat : (UInt8.ofNat v).toNat = v := Nat.mod_eq_of_lt (by omega)
    rw [next, htoNat, if_pos (by omega), hc, List.nil_append]
  · refine ⟨_, _, rfl, ?_⟩
    have hlead := lead?_of_two (v / 64 - 2) (by omega)
    have hfirst : v / 64 % 32 + 192 = 194 + (v / 64 - 2) := by omega
    rw [hfirst, next_of_lead? (by omega) (by omega) hlead, List.cons_append, List.nil_append,
      follow_succ 0 _ (by omega) (by omega) (by omega), follow_zero]
    rw [show (2 + (v / 64 - 2)) * 64 + (v % 64 + 128 - 128) = v by omega, hc]
  · refine ⟨_, _, rfl, ?_⟩
    have hlead := lead?_of_three (v / 4096) (by omega)
    have hfirst : v / 4096 % 16 + 224 = 224 + v / 4096 := by omega
    rw [hfirst, next_of_lead? (by omega) (by omega) hlead, List.cons_append, List.cons_append,
      List.nil_append, follow_succ 1 _ (by split_ifs <;> omega) (by split_ifs <;> omega) (by omega),
      follow_succ 0 _ (by omega) (by omega) (by omega), follow_zero]
    rw [show (v / 4096 * 64 + (v / 64 % 64 + 128 - 128)) * 64 + (v % 64 + 128 - 128) = v by omega,
      hc]
  · refine ⟨_, _, rfl, ?_⟩
    have hlead := lead?_of_four (v / 262144) (by omega)
    have hfirst : v / 262144 % 8 + 240 = 240 + v / 262144 := by omega
    rw [hfirst, next_of_lead? (by omega) (by omega) hlead, List.cons_append, List.cons_append,
      List.cons_append, List.nil_append,
      follow_succ 2 _ (by split_ifs <;> omega) (by split_ifs <;> omega) (by omega),
      follow_succ 1 _ (by omega) (by omega) (by omega),
      follow_succ 0 _ (by omega) (by omega) (by omega), follow_zero]
    rw [show ((v / 262144 * 64 + (v / 4096 % 64 + 128 - 128)) * 64 +
      (v / 64 % 64 + 128 - 128)) * 64 + (v % 64 + 128 - 128) = v by omega, hc]

/-- **A text is read back from its bytes.** -/
theorem decode_encode (s : String) : decode (encode s) = s := by
  suffices h : ∀ cs : List Char, decodeChars (cs.flatMap utf8EncodeChar) = cs by
    rw [← String.ofList_toList (s := s), encode_ofList, decode, h]
  intro cs
  induction cs with
  | nil => rw [List.flatMap_nil, decodeChars]
  | cons c cs ih => rw [List.flatMap_cons, decodeChars_encodeChar, ih]

/-! ## Bytes of single characters -/

/-- **The byte of a character below 128** stands only for that character. -/
lemma mem_encodeChar_iff {a : Char} (ha : a.toNat < 128) :
    UInt8.ofNat a.toNat ∈ utf8EncodeChar c ↔ c = a := by
  have hbyte : ∀ n < 256, UInt8.ofNat a.toNat = UInt8.ofNat n ↔ n = a.toNat := by
    intro n hn
    rw [← UInt8.toNat_inj, UInt8.toNat_ofNat_of_lt' (Nat.lt_trans ha (by decide)),
      UInt8.toNat_ofNat_of_lt' hn, eq_comm]
  rw [← Char.toNat_inj]
  have hval : c.val.toNat = c.toNat := rfl
  simp only [utf8EncodeChar, hval]
  split_ifs with h₁ h₂ h₃
  · rw [List.mem_singleton, hbyte _ (by omega)]
  · simp only [List.mem_cons, List.not_mem_nil, or_false]
    rw [hbyte _ (by omega), hbyte _ (by omega)]
    omega
  · simp only [List.mem_cons, List.not_mem_nil, or_false]
    rw [hbyte _ (by omega), hbyte _ (by omega), hbyte _ (by omega)]
    omega
  · simp only [List.mem_cons, List.not_mem_nil, or_false]
    rw [hbyte _ (by omega), hbyte _ (by omega), hbyte _ (by omega), hbyte _ (by omega)]
    omega

end Blockflow.Utf8

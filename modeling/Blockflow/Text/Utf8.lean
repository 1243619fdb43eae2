/-!
# Bytes of texts

Bodies arrive as bytes.  What is not the encoding of a character is shown as the replacement
character, one for each longest beginning of an encoding that breaks off.

* `Utf8.encode` — the bytes of a text.
* **`Utf8.decode`** — the text of any bytes.
-/

namespace Blockflow.Utf8

/-- The bytes of a text. -/
def encode (s : String) : List UInt8 := s.toUTF8.toList

/-- The character shown for what is no encoding. -/
def replacement : Char := '\uFFFD'

/-- What a first byte of several announces: how many bytes follow, the bounds of the next one,
and the bits it contributes. -/
def lead? (b : Nat) : Option (Nat × Nat × Nat × Nat) :=
  if 0xC2 ≤ b && b ≤ 0xDF then some (1, 0x80, 0xBF, b - 0xC0)
  else if b = 0xE0 then some (2, 0xA0, 0xBF, 0)
  else if b = 0xED then some (2, 0x80, 0x9F, b - 0xE0)
  else if 0xE1 ≤ b && b ≤ 0xEF then some (2, 0x80, 0xBF, b - 0xE0)
  else if b = 0xF0 then some (3, 0x90, 0xBF, 0)
  else if b = 0xF4 then some (3, 0x80, 0x8F, b - 0xF0)
  else if 0xF1 ≤ b && b ≤ 0xF3 then some (3, 0x80, 0xBF, b - 0xF0)
  else none

/-- The character whose encoding goes on with `count` bytes, the first of them within bounds, and
the bytes behind it; where the encoding breaks off, the replacement and the bytes from there. -/
def follow (count low high bits : Nat) : List UInt8 → Char × List UInt8
  | [] => if count = 0 then (Char.ofNat bits, []) else (replacement, [])
  | b :: rest =>
    match count with
    | 0 => (Char.ofNat bits, b :: rest)
    | count + 1 =>
      if low ≤ b.toNat && b.toNat ≤ high then
        follow count 0x80 0xBF (bits * 64 + (b.toNat - 0x80)) rest
      else (replacement, b :: rest)

/-- Reading on never lengthens the rest. -/
theorem length_follow_le (count low high bits : Nat) (bs : List UInt8) :
    (follow count low high bits bs).2.length ≤ bs.length := by
  induction bs generalizing count low high bits with
  | nil => simp only [follow]; split <;> simp
  | cons b rest ih =>
    cases count with
    | zero => simp [follow]
    | succ n =>
      simp only [follow]
      split
      · exact Nat.le_succ_of_le (ih ..)
      · simp

/-- The first character of some bytes and the bytes behind it. -/
def next (b : UInt8) (rest : List UInt8) : Char × List UInt8 :=
  if b.toNat < 0x80 then (Char.ofNat b.toNat, rest)
  else
    match lead? b.toNat with
    | some (count, low, high, bits) => follow count low high bits rest
    | none => (replacement, rest)

/-- A character takes at least one byte. -/
theorem length_next_le (b : UInt8) (rest : List UInt8) :
    (next b rest).2.length ≤ rest.length := by
  unfold next
  split
  · exact Nat.le_refl _
  · split
    · exact length_follow_le ..
    · exact Nat.le_refl _

/-- The characters of any bytes. -/
def decodeChars : List UInt8 → List Char
  | [] => []
  | b :: rest =>
    have := length_next_le b rest
    (next b rest).1 :: decodeChars (next b rest).2
termination_by bs => bs.length

/-- **The text of any bytes.** -/
def decode (bs : List UInt8) : String := String.ofList (decodeChars bs)

end Blockflow.Utf8

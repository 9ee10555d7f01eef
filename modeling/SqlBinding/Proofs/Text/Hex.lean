import SqlBinding.Text.Hex
import SqlBinding.Text.Utf8

/-!
# Hexadecimal text read back

The digits of bytes are read as those bytes. They are read from the UTF-8 bytes of a text, which for
ASCII characters are the codes of the characters.
-/

set_option autoImplicit false

namespace SqlBinding.Text

/-- An ASCII character is one byte of UTF-8, its code. -/
theorem utf8EncodeChar_of_lt {c : Char} (h : c.toNat < 128) :
    String.utf8EncodeChar c = [c.toUInt8] := by
  have hcode : c.val.toNat ≤ 0x7f := Nat.le_of_lt_succ h
  unfold String.utf8EncodeChar
  exact if_pos hcode

/-- The UTF-8 bytes of an ASCII text are the codes of its characters. -/
theorem Utf8.encode_of_lt {cs : List Char} (h : ∀ c ∈ cs, c.toNat < 128) :
    Utf8.encode (String.ofList cs) = cs.map Char.toUInt8 := by
  have hbytes : Utf8.encode (String.ofList cs) = cs.flatMap String.utf8EncodeChar := by
    simp [Utf8.encode, List.utf8Encode]
  rw [hbytes]
  clear hbytes
  induction cs with
  | nil => rfl
  | cons c cs ih =>
    rw [List.flatMap_cons, utf8EncodeChar_of_lt (h c (by simp)), ih fun d hd => h d (by simp [hd])]
    rfl

namespace Hex

/-- A digit has the value that it is the digit of. -/
theorem value?_digit {n : Nat} (h : n < 16) : value? (digit n).toUInt8 = some n := by
  decide +revert

/-- The digits are ASCII characters. -/
theorem digit_lt {n : Nat} (h : n < 16) : (digit n).toNat < 128 := by
  decide +revert

/-- A byte is written in two digits. -/
theorem digits_lt (b : UInt8) : b.toNat / 16 < 16 ∧ b.toNat % 16 < 16 := by
  have := b.toNat_lt
  omega

/-- Bytes are written in ASCII characters. -/
theorem lt_of_mem_encode {bytes : List UInt8} {c : Char} (h : c ∈ encode bytes) :
    c.toNat < 128 := by
  obtain ⟨b, -, hc⟩ := List.mem_flatMap.1 h
  have hdigit : c = digit (b.toNat / 16) ∨ c = digit (b.toNat % 16) := by simpa [ofByte] using hc
  rcases hdigit with rfl | rfl
  · exact digit_lt (digits_lt b).1
  · exact digit_lt (digits_lt b).2

/-- Pairs of digits are read as the bytes that they were written for. -/
theorem decodePairs_encode (position : Nat) (bytes : List UInt8) :
    decodePairs position ((encode bytes).map Char.toUInt8) = .ok bytes := by
  induction bytes generalizing position with
  | nil => rfl
  | cons b bytes ih =>
    have hbyte : UInt8.ofNat (16 * (b.toNat / 16) + b.toNat % 16) = b := by
      rw [Nat.div_add_mod, UInt8.ofNat_toNat]
    have hpair : (encode (b :: bytes)).map Char.toUInt8 =
        (digit (b.toNat / 16)).toUInt8 :: (digit (b.toNat % 16)).toUInt8 ::
          (encode bytes).map Char.toUInt8 := rfl
    rw [hpair, decodePairs, value?_digit (digits_lt b).1, value?_digit (digits_lt b).2]
    simp only [ih, Except.map, hbyte]

/-- The text of bytes is twice as long as they are. -/
theorem length_encode (bytes : List UInt8) : (encode bytes).length = 2 * bytes.length := by
  induction bytes with
  | nil => rfl
  | cons b bytes ih =>
    have hpair : encode (b :: bytes) = ofByte b ++ encode bytes := rfl
    simp only [hpair, List.length_append, ih, ofByte, List.length_cons, List.length_nil]
    omega

/-- Bytes are read back from the text they are written in. -/
theorem decode_encode (bytes : List UInt8) :
    decode ((encode bytes).map Char.toUInt8) = .ok bytes := by
  have heven : ¬ ((encode bytes).map Char.toUInt8).length % 2 = 1 := by
    rw [List.length_map, length_encode]
    omega
  rw [decode, if_neg heven, decodePairs_encode]

end Hex

end SqlBinding.Text

/-!
# UTF-8 text

The bytes of a text, the text of well-formed bytes, and the readable text of bytes that may be
malformed, in which every maximal malformed part shows as one replacement character.
-/

set_option autoImplicit false

namespace SqlBinding.Text.Utf8

/-- The UTF-8 bytes of a text. -/
def encode (s : String) : List UInt8 := s.toUTF8.data.toList

/-- The text that well-formed bytes spell. -/
def decode? (bytes : List UInt8) : Option String := String.fromUTF8? ⟨bytes.toArray⟩

/-- The character that stands for a malformed part. -/
def replacement : Char := '\uFFFD'

/-- A character of which some bytes are still to come: how many, the range that the next of them
must lie in, and the number spelled so far. -/
structure Pending where
  count : Nat
  low : Nat
  high : Nat
  value : Nat

/-- The first byte of a character: the character itself, what must follow, or nothing. -/
def lead (b : UInt8) : Char ⊕ Option Pending :=
  let n := b.toNat
  if n < 0x80 then .inl (Char.ofNat n)
  else if 0xc2 ≤ n ∧ n ≤ 0xdf then .inr (some ⟨1, 0x80, 0xbf, n - 0xc0⟩)
  else if 0xe0 ≤ n ∧ n ≤ 0xef then
    let low := if n = 0xe0 then 0xa0 else 0x80
    let high := if n = 0xed then 0x9f else 0xbf
    .inr (some ⟨2, low, high, n - 0xe0⟩)
  else if 0xf0 ≤ n ∧ n ≤ 0xf4 then
    let low := if n = 0xf0 then 0x90 else 0x80
    let high := if n = 0xf4 then 0x8f else 0xbf
    .inr (some ⟨3, low, high, n - 0xf0⟩)
  else .inr none

/-- The text of the bytes after an unfinished character, if there is one. -/
def readableFrom : Option Pending → List UInt8 → List Char
  | none, [] => []
  | some _, [] => [replacement]
  | none, b :: rest =>
    match lead b with
    | .inl c => c :: readableFrom none rest
    | .inr (some p) => readableFrom (some p) rest
    | .inr none => replacement :: readableFrom none rest
  | some p, b :: rest =>
    if p.low ≤ b.toNat ∧ b.toNat ≤ p.high then
      let value := 64 * p.value + (b.toNat - 0x80)
      if p.count ≤ 1 then Char.ofNat value :: readableFrom none rest
      else readableFrom (some ⟨p.count - 1, 0x80, 0xbf, value⟩) rest
    else
      replacement :: match lead b with
        | .inl c => c :: readableFrom none rest
        | .inr (some q) => readableFrom (some q) rest
        | .inr none => replacement :: readableFrom none rest

/-- The readable text of bytes that may be malformed. -/
def readable (bytes : List UInt8) : String := String.ofList (readableFrom none bytes)

end SqlBinding.Text.Utf8

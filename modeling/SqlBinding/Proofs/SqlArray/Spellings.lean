import SqlBinding.Proofs.Outcome
import SqlBinding.Proofs.SqlArray.Elements
import SqlBinding.SqlArray.Bytea.Scan

/-!
# Spellings of byte strings

In either form a byte string is spelled byte by byte, and it is read exactly from its spellings. No
spelling in the older form begins like the hexadecimal one: behind a backslash it has another
backslash or an octal digit.
-/

set_option autoImplicit false

namespace SqlBinding

open Text

/-! ### Hexadecimal digits of either case -/

namespace Text.Hex

/-- Whether a byte is the code of the hexadecimal digit of a number, in lowercase or uppercase. -/
def IsDigit (code : UInt8) (n : Nat) : Prop :=
  n < 16 ∧ (code = (digit n).toUInt8 ∨ code = (digit n).toUpper.toUInt8)

/-- The codes of the hexadecimal digits in lowercase. -/
theorem toNat_digit {n : Nat} (h : n < 16) :
    (digit n).toUInt8.toNat = if n < 10 then 48 + n else 87 + n := by
  decide +revert

/-- The codes of the hexadecimal digits in uppercase. -/
theorem toNat_upper_digit {n : Nat} (h : n < 16) :
    (digit n).toUpper.toUInt8.toNat = if n < 10 then 48 + n else 55 + n := by
  decide +revert

/-- A code has the value of the digit that it stands for. -/
theorem value?_eq_some_iff {code : UInt8} {n : Nat} : value? code = some n ↔ IsDigit code n := by
  constructor
  · intro h
    unfold value? at h
    have hlt : n < 16 := by grind
    refine ⟨hlt, ?_⟩
    rw [← UInt8.toNat_inj, ← UInt8.toNat_inj, toNat_digit hlt, toNat_upper_digit hlt]
    grind
  · rintro ⟨hlt, rfl | rfl⟩
    · exact value?_digit hlt
    · decide +revert

end Text.Hex

namespace SqlArray.Bytea

/-- Whether a text is made of spellings of bytes, one behind the other. -/
inductive Spelled (Spells : UInt8 → List UInt8 → Prop) : List UInt8 → List UInt8 → Prop
  | nil : Spelled Spells [] []
  | cons {b : UInt8} {piece bytes text : List UInt8} (hb : Spells b piece)
    (hbytes : Spelled Spells bytes text) : Spelled Spells (b :: bytes) (piece ++ text)

/-- The code of an octal digit. -/
def octalDigit (n : Nat) : UInt8 := (Nat.digitChar n).toUInt8

/-- How a byte is spelled in the older form. -/
inductive SpellsEscaped : UInt8 → List UInt8 → Prop
  | plain {b : UInt8} (hb : b ≠ backslash) : SpellsEscaped b [b]
  | doubled : SpellsEscaped backslash [backslash, backslash]
  | octal {b : UInt8} {x y z : Nat} (hx : x < 8) (hy : y < 8) (hz : z < 8)
    (hb : b.toNat = 64 * x + 8 * y + z) :
    SpellsEscaped b [backslash, octalDigit x, octalDigit y, octalDigit z]

/-- How a byte is spelled in the hexadecimal form. -/
inductive SpellsHex : UInt8 → List UInt8 → Prop
  | pair {b high low : UInt8} {x y : Nat} (hx : Hex.IsDigit high x) (hy : Hex.IsDigit low y)
    (hb : b.toNat = 16 * x + y) : SpellsHex b [high, low]

/-- A byte is made from its number. -/
theorem ofNat_eq_iff {n : Nat} {b : UInt8} (h : n < 256) : UInt8.ofNat n = b ↔ b.toNat = n := by
  rw [← UInt8.toNat_inj, UInt8.toNat_ofNat', Nat.mod_eq_of_lt h, eq_comm]

/-! ### The hexadecimal form -/

/-- Digits that are decoded spell the bytes that they are decoded to. -/
theorem spelled_of_decodePairs {position : Nat} {digits bytes : List UInt8}
    (h : Hex.decodePairs position digits = .ok bytes) : Spelled SpellsHex bytes digits := by
  fun_induction Hex.decodePairs position digits generalizing bytes with
  | case1 =>
    cases h
    exact .nil
  | case2 => cases h
  | case3 => cases h
  | case4 => cases h
  | case5 position high low rest x y hy hx ih =>
    obtain ⟨tail, htail, rfl⟩ := Outcome.map_eq_ok_iff.1 h
    rw [Hex.value?_eq_some_iff] at hx hy
    have hlt : 16 * x + y < 256 := by
      have hhigh := hx.1
      have hlow := hy.1
      omega
    exact .cons (.pair hx hy ((ofNat_eq_iff hlt).1 rfl)) (ih htail)

/-- Digits that spell bytes are decoded to these. -/
theorem Spelled.decodePairs {digits bytes : List UInt8} (h : Spelled SpellsHex bytes digits)
    (position : Nat) : Hex.decodePairs position digits = .ok bytes := by
  induction h generalizing position with
  | nil => rfl
  | @cons b piece bytes text hb _ ih =>
    cases hb with
    | @pair high low x y hx hy hb =>
      have hbyte : UInt8.ofNat (16 * x + y) = b := by rw [← hb, UInt8.ofNat_toNat]
      show Hex.decodePairs position (high :: low :: text) = .ok (b :: bytes)
      rw [Hex.decodePairs, Hex.value?_eq_some_iff.2 hx, Hex.value?_eq_some_iff.2 hy]
      simp only [ih, Except.map, hbyte]

/-- Every byte is spelled in two digits. -/
theorem Spelled.length_hex {digits bytes : List UInt8} (h : Spelled SpellsHex bytes digits) :
    digits.length = 2 * bytes.length := by
  induction h with
  | nil => rfl
  | cons hb _ ih =>
    cases hb
    simp only [List.length_append, List.length_cons, List.length_nil, ih]
    omega

/-- Digits are decoded exactly to the bytes they spell. -/
theorem decode_eq_ok_iff_spelled {digits bytes : List UInt8} :
    Hex.decode digits = .ok bytes ↔ Spelled SpellsHex bytes digits := by
  unfold Hex.decode
  constructor
  · intro h
    split at h
    · cases h
    · exact spelled_of_decodePairs h
  · intro h
    have heven : ¬ digits.length % 2 = 1 := by
      rw [h.length_hex]
      omega
    rw [if_neg heven]
    exact h.decodePairs 0

/-! ### The older form -/

/-- A code is read as the octal digit that it stands for. -/
theorem octalDigit?_eq_some_iff {code : UInt8} {n : Nat} :
    octalDigit? code = some n ↔ n < 8 ∧ code = octalDigit n := by
  have hdigit {n : Nat} (h : n < 8) : (octalDigit n).toNat = 48 + n := by decide +revert
  unfold octalDigit?
  constructor
  · intro h
    have hlt : n < 8 := by grind
    refine ⟨hlt, ?_⟩
    rw [← UInt8.toNat_inj, hdigit hlt]
    grind
  · rintro ⟨hlt, rfl⟩
    rw [hdigit hlt]
    grind

/-- Three octal digits are read as the byte that they stand for. -/
theorem octalByte?_eq_some_iff {a b c byte : UInt8} :
    octalByte? a b c = some byte ↔ ∃ x y z, (x < 8 ∧ a = octalDigit x) ∧
      (y < 8 ∧ b = octalDigit y) ∧ (z < 8 ∧ c = octalDigit z) ∧
      byte.toNat = 64 * x + 8 * y + z := by
  simp only [octalByte?, Option.bind_eq_bind, Option.bind_eq_some_iff, octalDigit?_eq_some_iff]
  constructor
  · rintro ⟨x, hx, y, hy, z, hz, h⟩
    split at h
    · rename_i hlt
      exact ⟨x, y, z, hx, hy, hz, (ofNat_eq_iff hlt).1 (Option.some.inj h)⟩
    · cases h
  · rintro ⟨x, y, z, hx, hy, hz, hbyte⟩
    have hlt : 64 * x + 8 * y + z < 256 := hbyte ▸ byte.toNat_lt
    refine ⟨x, hx, y, hy, z, hz, ?_⟩
    rw [if_pos hlt, (ofNat_eq_iff hlt).2 hbyte]

/-- An octal digit is no backslash and does not mark the hexadecimal form. -/
theorem octalDigit_ne {n : Nat} (h : n < 8) :
    octalDigit n ≠ backslash ∧ octalDigit n ≠ hexMark := by
  decide +revert

/-- Any byte but a backslash is read as itself. -/
theorem readEscaped_plain {b : UInt8} (hb : b ≠ backslash) (offset : Nat) (text : List UInt8) :
    readEscaped offset (b :: text) = (readEscaped (offset + 1) text).map (b :: ·) := by
  rw [readEscaped.eq_def]
  exact if_neg hb

/-- Two backslashes are read as one. -/
theorem readEscaped_doubled (offset : Nat) (text : List UInt8) :
    readEscaped offset (backslash :: backslash :: text) =
      (readEscaped (offset + 2) text).map (backslash :: ·) := by
  rw [readEscaped.eq_def]
  rfl

/-- A text that is read in the older form spells the bytes that it is read as. -/
theorem spelled_of_readEscaped {offset : Nat} {text bytes : List UInt8}
    (h : readEscaped offset text = .ok bytes) : Spelled SpellsEscaped bytes text := by
  fun_induction readEscaped offset text generalizing bytes with
  | case1 =>
    cases h
    exact .nil
  | case2 => cases h
  | case3 offset after ih =>
    obtain ⟨tail, htail, rfl⟩ := Outcome.map_eq_ok_iff.1 h
    exact .cons .doubled (ih htail)
  | case4 offset c hc d e more byte hoctal ih =>
    obtain ⟨tail, htail, rfl⟩ := Outcome.map_eq_ok_iff.1 h
    obtain ⟨x, y, z, ⟨hx, rfl⟩, ⟨hy, rfl⟩, ⟨hz, rfl⟩, hbyte⟩ := octalByte?_eq_some_iff.1 hoctal
    exact .cons (.octal hx hy hz hbyte) (ih htail)
  | case5 => cases h
  | case6 => cases h
  | case7 offset b rest hb ih =>
    obtain ⟨tail, htail, rfl⟩ := Outcome.map_eq_ok_iff.1 h
    exact .cons (.plain hb) (ih htail)

/-- A text that spells bytes in the older form is read as these. -/
theorem Spelled.readEscaped {text bytes : List UInt8} (h : Spelled SpellsEscaped bytes text)
    (offset : Nat) : readEscaped offset text = .ok bytes := by
  induction h generalizing offset with
  | nil => rfl
  | @cons b piece bytes text hb _ ih =>
    cases hb with
    | plain hb =>
      show Bytea.readEscaped offset (b :: text) = .ok (b :: bytes)
      rw [readEscaped_plain hb, ih]
      rfl
    | doubled =>
      show Bytea.readEscaped offset (backslash :: backslash :: text) = .ok (backslash :: bytes)
      rw [readEscaped_doubled, ih]
      rfl
    | @octal _ x y z hx hy hz hb =>
      have hoctal : octalByte? (octalDigit x) (octalDigit y) (octalDigit z) = some b :=
        octalByte?_eq_some_iff.2 ⟨x, y, z, ⟨hx, rfl⟩, ⟨hy, rfl⟩, ⟨hz, rfl⟩, hb⟩
      show Bytea.readEscaped offset
        (backslash :: octalDigit x :: octalDigit y :: octalDigit z :: text) = .ok (b :: bytes)
      rw [Bytea.readEscaped, if_pos rfl]
      simp only [if_neg (octalDigit_ne hx).1, hoctal, ih, Except.map]

/-- A spelling in the older form does not begin like the hexadecimal form. -/
theorem Spelled.not_hex {text bytes : List UInt8} (h : Spelled SpellsEscaped bytes text) :
    ¬ [backslash, hexMark] <+: text := by
  rintro ⟨digits, hdigits⟩
  cases h with
  | nil => cases hdigits
  | cons hb _ =>
    cases hb with
    | plain hb => exact hb (List.cons.inj hdigits).1.symm
    | doubled => cases (List.cons.inj (List.cons.inj hdigits).2).1
    | octal hx => exact (octalDigit_ne hx).2 (List.cons.inj (List.cons.inj hdigits).2).1.symm

/-! ### Either form -/

/-- Behind the mark of the hexadecimal form its digits are decoded. -/
theorem read_hex (digits : List UInt8) :
    read (backslash :: hexMark :: digits) = (Hex.decode digits).mapError .hex := by
  rw [read, if_pos ⟨rfl, rfl⟩]
  cases Hex.decode digits with
  | ok bytes => rfl
  | error fault => rfl

/-- Without the mark of the hexadecimal form a text is read in the older one. -/
theorem read_escaped {text : List UInt8} (h : ¬ [backslash, hexMark] <+: text) :
    read text = readEscaped 0 text := by
  unfold read
  split
  · rename_i a b rest
    rw [if_neg]
    rintro ⟨rfl, rfl⟩
    exact h (List.prefix_append [backslash, hexMark] rest)
  · rfl

/-! ### The loop -/

namespace Scan

/-- Behind a part of a text stands the rest. -/
theorem getElem?_behind (front rest : List UInt8) (k : Nat) :
    (front ++ rest)[front.length + k]? = rest[k]? := by
  rw [List.getElem?_append_right (Nat.le_add_right _ _), Nat.add_sub_cancel_left]

/-- A step at the end of the text. -/
theorem step_end (src out : List UInt8) : step src ⟨src.length, out⟩ = .stop (.ok out) :=
  if_neg (Nat.lt_irrefl _)

/-- A step at a position of the text finds the byte there. -/
theorem step_cons (front rest out : List UInt8) (b : UInt8) :
    step (front ++ b :: rest) ⟨front.length, out⟩ =
      if b ≠ backslash then .next ⟨front.length + 1, out ++ [b]⟩
      else if rest[0]? = some backslash then .next ⟨front.length + 2, out ++ [backslash]⟩
      else (octalBehind? (b :: rest) 0).elim (.stop (.error (.badEscape front.length))) fun x =>
        .next ⟨front.length + 4, out ++ [x]⟩ := by
  have hlt : front.length < (front ++ b :: rest).length := by
    rw [List.length_append, List.length_cons]
    omega
  have hbyte : (front ++ b :: rest)[front.length]? = some b := getElem?_behind front (b :: rest) 0
  have hnext : (front ++ b :: rest)[front.length + 1]? = rest[0]? :=
    getElem?_behind front (b :: rest) 1
  have hoctal : octalBehind? (front ++ b :: rest) front.length = octalBehind? (b :: rest) 0 := by
    simp only [octalBehind?, getElem?_behind, Nat.zero_add]
  simp only [step, if_pos hlt, hbyte, hnext, hoctal]
  cases octalBehind? (b :: rest) 0 with
  | none => rfl
  | some x => rfl

/-- A byte in front of the result comes behind the bytes that were read before. -/
theorem map_cons_append (b : UInt8) (out : List UInt8) (result : Result) :
    (result.map (b :: ·)).map (out ++ ·) = result.map ((out ++ [b]) ++ ·) := by
  cases result with
  | error fault => rfl
  | ok bytes => exact congrArg Except.ok (List.append_cons out b bytes)

/-- A step that puts a byte behind those read so far goes on behind the piece that spells it. -/
theorem Yields.of_step (piece : List UInt8) {front after out : List UInt8} {b : UInt8}
    {result : Result}
    (hstep : step (front ++ (piece ++ after)) ⟨front.length, out⟩ =
      .next ⟨front.length + piece.length, out ++ [b]⟩)
    (hafter : Yields ((front ++ piece) ++ after) (.next ⟨(front ++ piece).length, out ++ [b]⟩)
      (result.map ((out ++ [b]) ++ ·))) :
    Yields (front ++ (piece ++ after)) (.next ⟨front.length, out⟩)
      ((result.map (b :: ·)).map (out ++ ·)) := by
  apply Yields.next
  rw [hstep, map_cons_append, ← List.length_append, ← List.append_assoc]
  exact hafter

/-- A step that stops yields its result. -/
theorem Yields.of_stop {src : List UInt8} {s : State} {result : Result}
    (hstep : step src s = .stop result) : Yields src (.next s) result := by
  apply Yields.next
  rw [hstep]
  exact .stop result

/-- From any position of the text, the loop ends with what it holds in front of what reading the
rest results in. -/
theorem yields_readEscaped {offset : Nat} (front rest out : List UInt8)
    (hoffset : front.length = offset) :
    Yields (front ++ rest) (.next ⟨front.length, out⟩)
      ((readEscaped offset rest).map (out ++ ·)) := by
  -- What has been read moves from the rest to the front, whose length stays the position.
  fun_induction readEscaped offset rest generalizing front out with
  | case1 =>
    rw [List.append_nil]
    exact .of_stop (by rw [step_end, Except.map, List.append_nil])
  | case2 offset =>
    subst hoffset
    exact .of_stop (by simp [step_cons, octalBehind?, Except.map])
  | case3 offset after ih =>
    refine .of_step [backslash, backslash] ?_ (ih _ _ ?_)
    · simp [step_cons]
    · simp [hoffset]
  | case4 offset c hc d e more byte hoctal ih =>
    refine .of_step [backslash, c, d, e] ?_ (ih _ _ ?_)
    · simp [step_cons, hc, octalBehind?, hoctal]
    · simp [hoffset]
  | case5 offset c hc d e more hoctal =>
    subst hoffset
    exact .of_stop (by simp [step_cons, hc, octalBehind?, hoctal, Except.map])
  | case6 offset c after hc hshort =>
    subst hoffset
    have hoctal : octalBehind? (backslash :: c :: after) 0 = none := by
      match after, hshort with
      | [], _ | [_], _ => rfl
      | d :: e :: more, hshort => exact absurd rfl (hshort d e more)
    exact .of_stop (by simp [step_cons, hc, hoctal, Except.map])
  | case7 offset b rest hb ih =>
    refine .of_step [b] ?_ (ih _ _ ?_)
    · simp [step_cons, hb]
    · simp [hoffset]

/-- The loop ends with one result. -/
theorem Yields.unique {src : List UInt8} {s : Step} {r r' : Result} (h : Yields src s r)
    (h' : Yields src s r') : r = r' := by
  induction h with
  | stop =>
    cases h'
    rfl
  | next _ ih =>
    cases h' with
    | next h' => exact ih h'

/-- A text with the mark of the hexadecimal form is read at once. -/
theorem start_hex (digits : List UInt8) :
    start (backslash :: hexMark :: digits) = .stop (read (backslash :: hexMark :: digits)) := by
  have htake : (backslash :: hexMark :: digits).take 2 = [backslash, hexMark] := rfl
  have hdrop : (backslash :: hexMark :: digits).drop 2 = digits := rfl
  rw [read_hex, start, if_pos htake, hdrop]
  cases Hex.decode digits with
  | ok bytes => rfl
  | error fault => rfl

/-- Any other text is read from its beginning on. -/
theorem start_escaped {src : List UInt8} (h : ¬ [backslash, hexMark] <+: src) :
    start src = .next ⟨0, []⟩ := by
  rw [start, if_neg]
  intro htake
  exact h (htake ▸ List.take_prefix 2 src)

/-- The loop ends, without a fault, with what reading results in. -/
theorem yields_read (src : List UInt8) : Yields src (start src) (read src) := by
  by_cases hmark : [backslash, hexMark] <+: src
  · obtain ⟨digits, rfl⟩ := hmark
    show Yields _ (start (backslash :: hexMark :: digits)) _
    rw [start_hex]
    exact .stop _
  · have hread : (readEscaped 0 src).map ([] ++ ·) = read src := by
      rw [read_escaped hmark]
      cases readEscaped 0 src with
      | ok bytes => rfl
      | error fault => rfl
    have hyields : Yields src (.next ⟨0, []⟩) ((readEscaped 0 src).map ([] ++ ·)) :=
      yields_readEscaped [] src [] rfl
    rw [start_escaped hmark, ← hread]
    exact hyields

end Scan

/-- Whatever the text, the loop ends in one way, in which every byte it asks for is in range. Behind
the mark of the hexadecimal form a text is read exactly from the spellings of a byte string in that
form, and any other text exactly from those in the older one. So a spelling in the older form is
never taken for hexadecimal digits, and what is written is read back. -/
theorem read_accepts_spellings (text bytes : List UInt8) :
    (∀ result, Scan.Yields text (Scan.start text) result ↔ result = read text) ∧
      (∀ digits, text = backslash :: hexMark :: digits →
        (read text = .ok bytes ↔ Spelled SpellsHex bytes digits)) ∧
      (¬ [backslash, hexMark] <+: text →
        (read text = .ok bytes ↔ Spelled SpellsEscaped bytes text)) ∧
      (Spelled SpellsEscaped bytes text → read text = .ok bytes) ∧
      read (Utf8.encode (String.ofList (write bytes))) = .ok bytes := by
  have hescaped (hmark : ¬ [backslash, hexMark] <+: text) :
      read text = .ok bytes ↔ Spelled SpellsEscaped bytes text := by
    rw [read_escaped hmark]
    exact ⟨spelled_of_readEscaped, fun h => h.readEscaped 0⟩
  refine ⟨fun result => ⟨fun h => h.unique (Scan.yields_read text), ?_⟩, ?_, hescaped, ?_,
    read_write bytes⟩
  · rintro rfl
    exact Scan.yields_read text
  · rintro digits rfl
    rw [read_hex, ← decode_eq_ok_iff_spelled]
    cases Hex.decode digits with
    | ok decoded => simp [Except.mapError]
    | error fault => simp [Except.mapError]
  · intro h
    exact (hescaped h.not_hex).2 h

/-- A doubled backslash in front of what looks like hexadecimal digits, and an octal escape; and
digits of either case. -/
theorem read_accepts_doubled_backslash :
    let text : List UInt8 := [92, 92, 120, 52, 49, 92, 51, 55, 55]
    ¬ [backslash, hexMark] <+: text ∧ Spelled SpellsEscaped [92, 120, 52, 49, 255] text ∧
      read text = .ok [92, 120, 52, 49, 255] ∧
      Spelled SpellsHex [222, 173] [68, 101, 97, 68] := by
  intro text
  have hmark : ¬ [backslash, hexMark] <+: text := by decide
  have hread : read text = .ok [92, 120, 52, 49, 255] := by decide
  refine ⟨hmark, ?_, hread, ?_⟩
  · exact ((read_accepts_spellings text _).2.2.1 hmark).1 hread
  · exact ((read_accepts_spellings (92 :: 120 :: [68, 101, 97, 68]) _).2.1 _ rfl).1 (by decide)

end SqlArray.Bytea

end SqlBinding

import Mathlib
import SealedMail.Proofs.ArmorBlocks

/-! # Decoding the UTF-8 form of a text

The decoder reads one character at a time (`Utf8.step`): the lead byte fixes the width, the
second byte must lie in the range the lead byte allows, and later bytes must be continuation
bytes; the character is the payload bits of the lead byte followed by six bits of each later
byte. For each width there is one lemma saying what `step` returns when the bytes are right
(`step_two`, `step_three`, `step_four`; one-byte characters are `step_ascii`).

The UTF-8 form of a character is such a sequence. Its bytes, as numbers, are fixed by its code
point (`toNat_utf8EncodeChar`), and a code point is never a surrogate and never above U+10FFFF,
which is what keeps the second byte of a three- or four-byte form inside its narrowed range.
So `step` reads every character back from its own bytes, whatever surrounds them
(`step_utf8EncodeChar`), and the decoder, strict or lossy, gives back every text from its
UTF-8 form (`decode_toUTF8`, `decodeLossy_toUTF8`).
-/

namespace SealedMail.Utf8

/-! ## Bit fields -/

theorem and_low_bits {a n : Nat} (m : Nat) (small : a < 2 ^ n) : (a + 2 ^ n * m) &&& (2 ^ n - 1) = a := by
  rw [Nat.and_two_pow_sub_one_eq_mod, Nat.add_mul_mod_self_left, Nat.mod_eq_of_lt small]

theorem and_lead_two {a : Nat} (small : a < 32) : (a + 0xc0) &&& 0x1f = a := and_low_bits (n := 5) 6 small

theorem and_lead_three {a : Nat} (small : a < 16) : (a + 0xe0) &&& 0x0f = a := and_low_bits (n := 4) 14 small

theorem and_lead_four {a : Nat} (small : a < 8) : (a + 0xf0) &&& 0x07 = a := and_low_bits (n := 3) 30 small

theorem and_cont {a : Nat} (small : a < 64) : (a + 0x80) &&& 0x3f = a := and_low_bits (n := 6) 2 small

theorem isCont_of_toNat {x : UInt8} {a : Nat} (small : a < 64) (byte : x.toNat = a + 0x80) : isCont x = true := by
  have masked : (x &&& 0xc0).toNat = 0x80 := by
    have bits : ∀ a < 64, (a + 0x80) &&& 0xc0 = 0x80 := by decide
    rw [UInt8.toNat_and, byte]
    exact bits a small
  simp [isCont, ← UInt8.toNat_inj, masked]

/-! ## One character by its width -/

theorem step_two {b : ByteArray} {i : Nat} (lead : 0xc2 ≤ (b.get! i).toNat ∧ (b.get! i).toNat ≤ 0xdf)
    (cont : 0x80 ≤ (b.get! (i + 1)).toNat ∧ (b.get! (i + 1)).toNat ≤ 0xbf) (inside : i + 1 < b.size) :
    step b i = .char (Char.ofNat (((b.get! i).toNat &&& 0x1f) * 64 + ((b.get! (i + 1)).toNat &&& 0x3f))) 2 := by
  have notAscii : ¬ (b.get! i).toNat < 128 := by omega
  have range : secondRange (b.get! i) = (0x80, 0xbf) := by
    simp only [secondRange]
    split_ifs <;> simp_all
  simp [step, range, UInt8.lt_iff_toNat_lt, UInt8.le_iff_toNat_le, notAscii, lead, cont, step.good, inside]

theorem step_three {b : ByteArray} {i : Nat} (lead : 0xe0 ≤ (b.get! i).toNat ∧ (b.get! i).toNat ≤ 0xef)
    (second : (secondRange (b.get! i)).1 ≤ b.get! (i + 1) ∧ b.get! (i + 1) ≤ (secondRange (b.get! i)).2)
    (third : isCont (b.get! (i + 2)) = true) (inside : i + 2 < b.size) :
    step b i = .char (Char.ofNat ((((b.get! i).toNat &&& 0x0f) * 64 + ((b.get! (i + 1)).toNat &&& 0x3f)) * 64 +
      ((b.get! (i + 2)).toNat &&& 0x3f))) 3 := by
  have notAscii : ¬ (b.get! i).toNat < 128 := by omega
  have notTwo : ¬ (b.get! i).toNat ≤ 223 := by omega
  have near : i + 1 < b.size := by omega
  simp [step, UInt8.lt_iff_toNat_lt, UInt8.le_iff_toNat_le, notAscii, notTwo, lead, step.good, inside, third, second,
    near, List.range_succ]

theorem step_four {b : ByteArray} {i : Nat} (lead : 0xf0 ≤ (b.get! i).toNat ∧ (b.get! i).toNat ≤ 0xf4)
    (second : (secondRange (b.get! i)).1 ≤ b.get! (i + 1) ∧ b.get! (i + 1) ≤ (secondRange (b.get! i)).2)
    (third : isCont (b.get! (i + 2)) = true) (fourth : isCont (b.get! (i + 3)) = true) (inside : i + 3 < b.size) :
    step b i = .char (Char.ofNat (((((b.get! i).toNat &&& 0x07) * 64 + ((b.get! (i + 1)).toNat &&& 0x3f)) * 64 +
      ((b.get! (i + 2)).toNat &&& 0x3f)) * 64 + ((b.get! (i + 3)).toNat &&& 0x3f))) 4 := by
  have notAscii : ¬ (b.get! i).toNat < 128 := by omega
  have notTwo : ¬ (b.get! i).toNat ≤ 223 := by omega
  have notThree : ¬ (b.get! i).toNat ≤ 239 := by omega
  have near : i + 1 < b.size := by omega
  have near2 : i + 2 < b.size := by omega
  simp [step, UInt8.lt_iff_toNat_lt, UInt8.le_iff_toNat_le, notAscii, notTwo, notThree, lead, step.good, inside,
    third, fourth, second, near, near2, List.range_succ]

/-! ## Code points read back from their bytes -/

section CodePoint

variable {b : ByteArray} {i v : Nat}

theorem step_codePoint_two (low : 0x7f < v) (high : v ≤ 0x7ff) (x0 : (b.get! i).toNat = v / 64 + 0xc0)
    (x1 : (b.get! (i + 1)).toNat = v % 64 + 0x80) (inside : i + 1 < b.size) :
    step b i = .char (Char.ofNat v) 2 := by
  rw [step_two (by omega) (by omega) inside, x0, x1, and_lead_two (by omega), and_cont (by omega), Nat.div_add_mod']

/-- A three-byte form: the lead byte E0 admits no overlong form and ED no surrogate, so a code
point that is not a surrogate always meets the narrowed range. -/
theorem step_codePoint_three (low : 0x7ff < v) (high : v ≤ 0xffff) (notSurrogate : v < 0xd800 ∨ 0xdfff < v)
    (x0 : (b.get! i).toNat = v / 4096 + 0xe0) (x1 : (b.get! (i + 1)).toNat = v / 64 % 64 + 0x80)
    (x2 : (b.get! (i + 2)).toNat = v % 64 + 0x80) (inside : i + 2 < b.size) :
    step b i = .char (Char.ofNat v) 3 := by
  have second : (secondRange (b.get! i)).1 ≤ b.get! (i + 1) ∧ b.get! (i + 1) ≤ (secondRange (b.get! i)).2 := by
    simp only [secondRange, beq_iff_eq, ← UInt8.toNat_inj, x0, UInt8.reduceToNat]
    split_ifs <;> simp only [UInt8.le_iff_toNat_le, x1, UInt8.reduceToNat] <;> omega
  rw [step_three (by omega) second (isCont_of_toNat (by omega) x2) inside, x0, x1, x2,
    and_lead_three (by omega), and_cont (by omega), and_cont (by omega)]
  have value : (v / 4096 * 64 + v / 64 % 64) * 64 + v % 64 = v := by omega
  rw [value]

/-- A four-byte form: the lead byte F0 admits no overlong form and F4 nothing above U+10FFFF. -/
theorem step_codePoint_four (low : 0xffff < v) (high : v < 0x110000)
    (x0 : (b.get! i).toNat = v / 262144 + 0xf0) (x1 : (b.get! (i + 1)).toNat = v / 4096 % 64 + 0x80)
    (x2 : (b.get! (i + 2)).toNat = v / 64 % 64 + 0x80) (x3 : (b.get! (i + 3)).toNat = v % 64 + 0x80)
    (inside : i + 3 < b.size) :
    step b i = .char (Char.ofNat v) 4 := by
  have second : (secondRange (b.get! i)).1 ≤ b.get! (i + 1) ∧ b.get! (i + 1) ≤ (secondRange (b.get! i)).2 := by
    simp only [secondRange, beq_iff_eq, ← UInt8.toNat_inj, x0, UInt8.reduceToNat]
    split_ifs <;> simp only [UInt8.le_iff_toNat_le, x1, UInt8.reduceToNat] <;> omega
  rw [step_four (by omega) second (isCont_of_toNat (by omega) x2) (isCont_of_toNat (by omega) x3) inside,
    x0, x1, x2, x3, and_lead_four (by omega), and_cont (by omega), and_cont (by omega), and_cont (by omega)]
  have value : ((v / 262144 * 64 + v / 4096 % 64) * 64 + v / 64 % 64) * 64 + v % 64 = v := by omega
  rw [value]

end CodePoint

/-! ## Characters read back from their UTF-8 form -/

/-- The bytes of a character's UTF-8 form, as numbers, by its code point. -/
theorem toNat_utf8EncodeChar (c : Char) : (String.utf8EncodeChar c).map UInt8.toNat =
    if c.val.toNat ≤ 0x7f then [c.val.toNat]
    else if c.val.toNat ≤ 0x7ff then [c.val.toNat / 64 + 0xc0, c.val.toNat % 64 + 0x80]
    else if c.val.toNat ≤ 0xffff then
      [c.val.toNat / 4096 + 0xe0, c.val.toNat / 64 % 64 + 0x80, c.val.toNat % 64 + 0x80]
    else [c.val.toNat / 262144 + 0xf0, c.val.toNat / 4096 % 64 + 0x80, c.val.toNat / 64 % 64 + 0x80,
      c.val.toNat % 64 + 0x80] := by
  have valid : c.val.toNat < 0xd800 ∨ 0xdfff < c.val.toNat ∧ c.val.toNat < 0x110000 := c.valid
  simp only [String.utf8EncodeChar]
  split_ifs <;> simp only [List.map_cons, List.map_nil, UInt8.toNat_ofNat', List.cons.injEq, Nat.reducePow, and_true] <;> omega

theorem utf8Size_eq_ite (c : Char) : c.utf8Size = if c.val.toNat ≤ 0x7f then 1 else if c.val.toNat ≤ 0x7ff then 2
    else if c.val.toNat ≤ 0xffff then 3 else 4 := by
  simp only [Char.utf8Size, UInt32.le_iff_toNat_le]
  rfl

/-- A character is read back from its UTF-8 form, whatever stands before and after it. -/
theorem step_utf8EncodeChar (pre post : ByteArray) (c : Char) :
    step (pre ++ ((String.utf8EncodeChar c).toByteArray ++ post)) pre.size = .char c c.utf8Size := by
  -- the bytes of the form, as numbers, stand from `pre.size` on
  have byte : ∀ k (h : k < ((String.utf8EncodeChar c).map UInt8.toNat).length),
      ((pre ++ ((String.utf8EncodeChar c).toByteArray ++ post)).get! (pre.size + k)).toNat =
        ((String.utf8EncodeChar c).map UInt8.toNat)[k] := by
    intro k h
    rw [List.length_map] at h
    rw [Bytes.get!_append_size_add, Bytes.get!_append_left (by simpa using h), Bytes.get!_toByteArray h,
      List.getElem_map]
  have inside : pre.size + ((String.utf8EncodeChar c).map UInt8.toNat).length ≤
      (pre ++ ((String.utf8EncodeChar c).toByteArray ++ post)).size := by
    simp [ByteArray.size_append]
  generalize pre ++ ((String.utf8EncodeChar c).toByteArray ++ post) = b at byte inside
  generalize pre.size = i at byte inside
  simp only [toNat_utf8EncodeChar] at byte inside
  have valid : c.val.toNat < 0xd800 ∨ 0xdfff < c.val.toNat ∧ c.val.toNat < 0x110000 := c.valid
  have char : Char.ofNat c.val.toNat = c := Char.ofNat_toNat c
  rw [utf8Size_eq_ite]
  split_ifs at byte inside ⊢
  all_goals
    have lead := byte 0 (by simp)
    rw [Nat.add_zero, List.getElem_cons_zero] at lead
    simp only [List.length_cons, List.length_nil] at inside
  · rw [step_ascii (by rw [UInt8.lt_iff_toNat_lt, lead]; show c.val.toNat < 128; omega), lead, char]
  · rw [step_codePoint_two (by omega) (by omega) lead (byte 1 (by simp)) (by omega), char]
  · rw [step_codePoint_three (by omega) (by omega) (by omega) lead (byte 1 (by simp)) (byte 2 (by simp)) (by omega),
      char]
  · rw [step_codePoint_four (by omega) (by omega) lead (byte 1 (by simp)) (byte 2 (by simp)) (byte 3 (by simp))
      (by omega), char]

/-! ## Texts read back -/

/-- Decoding from the start of the UTF-8 form of characters, after any prefix, gives the
characters, strict or lossy. -/
theorem decodeFrom_utf8Encode (lossy : Bool) (l : List Char) (pre : ByteArray) (acc : Array Char) :
    decodeFrom (pre ++ l.utf8Encode) lossy pre.size acc = .ok (acc ++ l.toArray) := by
  -- induction on the characters, the prefix growing by the form of each one read
  induction l generalizing pre acc with
  | nil =>
    rw [decodeFrom, List.utf8Encode_nil, ByteArray.append_empty, dif_neg (Nat.lt_irrefl _)]
    simp
  | cons c l ih =>
    have inside : pre.size < (pre ++ (c :: l).utf8Encode).size := by
      rw [List.utf8Encode_cons, List.utf8Encode_singleton, ByteArray.size_append, ByteArray.size_append,
        List.size_toByteArray, String.length_utf8EncodeChar]
      have := c.utf8Size_pos
      omega
    rw [decodeFrom, dif_pos inside, List.utf8Encode_cons, List.utf8Encode_singleton, step_utf8EncodeChar]
    dsimp only
    rw [if_neg (Nat.pos_iff_ne_zero.mp c.utf8Size_pos), ← ByteArray.append_assoc]
    have next := ih (pre ++ (String.utf8EncodeChar c).toByteArray) (acc.push c)
    rw [ByteArray.size_append, List.size_toByteArray, String.length_utf8EncodeChar] at next
    rw [next]
    simp

theorem decodeFrom_toUTF8 (lossy : Bool) (s : String) : decodeFrom s.toUTF8 lossy 0 #[] = .ok s.toList.toArray := by
  have start := decodeFrom_utf8Encode lossy s.toList ByteArray.empty #[]
  rw [ByteArray.empty_append, String.utf8Encode_toList, ByteArray.size_empty, Array.empty_append] at start
  rw [String.toUTF8_eq_toByteArray, start]

/-- Every text decodes from its UTF-8 form. -/
theorem decode_toUTF8 (s : String) : decode s.toUTF8 = .ok s := by
  rw [decode, decodeFrom_toUTF8]
  simp [Except.map, String.ofList_toList]

/-- Every text decodes lossily from its UTF-8 form, with nothing replaced. -/
theorem decodeLossy_toUTF8 (s : String) : decodeLossy s.toUTF8 = s := by
  rw [decodeLossy, decodeFrom_toUTF8]
  simp [String.ofList_toList]

end SealedMail.Utf8

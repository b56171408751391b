import Mathlib
import SealedMail.Text.Base64
import SealedMail.Proofs.ByteStrings

/-! # Base64 text, a group at a time

The encoder walks its input by index and pushes four symbols per whole group of three bytes,
then pads what is left. `encode_toList` says the same thing by recursion on the bytes: the text
is `encodeList` of them, four symbols (`quad`) for each group of three, and a padded group for
the one or two bytes at the end. Readers of base64 work on the bytes of that text, where each
symbol's byte reads back as its value (`value?_symbol`), so a group is recovered from the number
its symbols spell; four symbols alone read back as the three bytes they encode
(`decodeBytes_encodeList_three`).
-/

namespace SealedMail.Base64

/-! ## The encoder as a recursion on groups -/

/-- The four symbols of a 24-bit group. -/
def quad (n : Nat) : List Char := [symbol (n / 262144), symbol (n / 4096), symbol (n / 64), symbol n]

/-- Base64 text of a list of bytes, a group of three bytes at a time. -/
def encodeList : List UInt8 → List Char
  | a :: b :: c :: rest => quad (a.toNat * 65536 + b.toNat * 256 + c.toNat) ++ encodeList rest
  | [a, b] => (quad (a.toNat * 65536 + b.toNat * 256)).take 3 ++ ['=']
  | [a] => (quad (a.toNat * 65536)).take 2 ++ ['=', '=']
  | [] => []

theorem encodeList_append {l : List UInt8} (whole : l.length % 3 = 0) (r : List UInt8) :
    encodeList (l ++ r) = encodeList l ++ encodeList r := by
  fun_induction encodeList l with
  | case1 a b c rest ih =>
    simp only [List.length_cons] at whole
    simp only [List.cons_append, encodeList, ih (by omega), List.append_assoc]
  | case2 a b => simp at whole
  | case3 a => simp at whole
  | case4 => rfl

theorem toList_foldl_quad (N : Nat → Nat) (init : String) (l : List Nat) :
    (l.foldl (fun s a => (((s.push (symbol (N a / 262144))).push (symbol (N a / 4096))).push
      (symbol (N a / 64))).push (symbol (N a))) init).toList = init.toList ++ l.flatMap (fun a => quad (N a)) := by
  induction l generalizing init with
  | nil => simp
  | cons a rest ih => simp [ih, quad]

/-- The value of the `i`-th group of three bytes. -/
def groupValue (b : ByteArray) (i : Nat) : Nat :=
  (b.get! (3 * i)).toNat * 65536 + (b.get! (3 * i + 1)).toNat * 256 + (b.get! (3 * i + 2)).toNat

theorem encodeList_eq_flatMap (b : ByteArray) {k : Nat} (within : 3 * k ≤ b.size) :
    encodeList b.data.toList = (List.range' 0 k).flatMap (fun i => quad (groupValue b i)) ++
      encodeList (b.data.toList.drop (3 * k)) := by
  induction k with
  | zero => simp
  | succ k ih =>
    have split : b.data.toList.drop (3 * k) =
        b.get! (3 * k) :: b.get! (3 * k + 1) :: b.get! (3 * k + 2) :: b.data.toList.drop (3 * (k + 1)) := by
      rw [Bytes.drop_eq_get!_cons (by omega), Bytes.drop_eq_get!_cons (by omega), Bytes.drop_eq_get!_cons (by omega)]
      rfl
    rw [ih (by omega), split, encodeList, List.range'_concat, List.flatMap_append, List.append_assoc]
    simp [groupValue]

theorem encode_toList (b : ByteArray) : (encode b).toList = encodeList b.data.toList := by
  have loop := toList_foldl_quad (groupValue b) "" (List.range' 0 (b.size / 3))
  simp only [groupValue] at loop
  have whole : 3 * (b.size / 3) ≤ b.size := by omega
  have ended : b.data.toList.drop (b.size) = [] := by simp
  rw [encodeList_eq_flatMap b whole]
  simp only [encode, Std.Legacy.Range.forIn_eq_forIn_range', List.forIn_pure_yield_eq_foldl, pure_bind,
    Std.Legacy.Range.size, Nat.sub_zero, Nat.add_sub_cancel, Nat.div_one]
  -- after the whole groups come no byte, one or two
  by_cases one : b.size - 3 * (b.size / 3) = 1
  · have tail : b.data.toList.drop (3 * (b.size / 3)) = [b.get! (3 * (b.size / 3))] := by
      rw [Bytes.drop_eq_get!_cons (by omega), show 3 * (b.size / 3) + 1 = b.size by omega, ended]
    simp [one, tail, loop, encodeList, quad, groupValue]
  · by_cases two : b.size - 3 * (b.size / 3) = 2
    · have tail : b.data.toList.drop (3 * (b.size / 3)) =
          [b.get! (3 * (b.size / 3)), b.get! (3 * (b.size / 3) + 1)] := by
        rw [Bytes.drop_eq_get!_cons (by omega), Bytes.drop_eq_get!_cons (by omega),
          show 3 * (b.size / 3) + 1 + 1 = b.size by omega, ended]
      simp [two, tail, loop, encodeList, quad, groupValue]
    · have tail : b.data.toList.drop (3 * (b.size / 3)) = [] := by
        rw [show 3 * (b.size / 3) = b.size by omega, ended]
      simp [one, two, tail, loop, encodeList, groupValue]

theorem length_encodeList (l : List UInt8) : (encodeList l).length = 4 * ((l.length + 2) / 3) := by
  fun_induction encodeList l with
  | case1 a b c rest ih =>
    simp only [List.length_append, quad, List.length_cons, List.length_nil, ih]
    omega
  | case2 a b => simp [quad]
  | case3 a => simp [quad]
  | case4 => rfl

/-- An encoding of some bytes starts with a symbol. -/
theorem encodeList_cons (x : UInt8) (l : List UInt8) : ∃ v rest, encodeList (x :: l) = symbol v :: rest := by
  match l with
  | [] => exact ⟨_, _, rfl⟩
  | [y] => exact ⟨_, _, rfl⟩
  | y :: z :: rest => exact ⟨_, _, rfl⟩

/-! ## Symbols and their values -/

set_option maxRecDepth 10000 in
theorem value?_alphabet : ∀ j < 64, value? (alphabet.getD j 'A').toUInt8 = some j := by decide

/-- The byte of a symbol reads back as the symbol's value. -/
theorem value?_symbol (v : Nat) : value? (symbol v).toUInt8 = some (v % 64) :=
  value?_alphabet (v % 64) (Nat.mod_lt v (by decide))

set_option maxRecDepth 10000 in
theorem alphabet_ascii : ∀ j < 64, (alphabet.getD j 'A').toNat < 128 := by decide

/-- Symbols are ASCII characters. -/
theorem symbol_ascii (v : Nat) : (symbol v).toNat < 128 :=
  alphabet_ascii (v % 64) (Nat.mod_lt v (by decide))

/-- Every character of an encoding is padding or a symbol. -/
theorem mem_encodeList {c : Char} {l : List UInt8} (mem : c ∈ encodeList l) : c = '=' ∨ ∃ v, c = symbol v := by
  fun_induction encodeList l with
  | case1 a b c' rest ih =>
    simp only [List.mem_append, quad, List.mem_cons, List.not_mem_nil, or_false] at mem
    rcases mem with (rfl | rfl | rfl | rfl) | inRest
    all_goals first | exact .inr ⟨_, rfl⟩ | exact ih inRest
  | case2 a b =>
    simp only [quad, List.take_succ_cons, List.take_zero, List.cons_append, List.nil_append, List.mem_cons,
      List.not_mem_nil, or_false] at mem
    rcases mem with rfl | rfl | rfl | rfl
    all_goals first | exact .inl rfl | exact .inr ⟨_, rfl⟩
  | case3 a =>
    simp only [quad, List.take_succ_cons, List.take_zero, List.cons_append, List.nil_append, List.mem_cons,
      List.not_mem_nil, or_false] at mem
    rcases mem with rfl | rfl | rfl | rfl
    all_goals first | exact .inl rfl | exact .inr ⟨_, rfl⟩
  | case4 => simp at mem

/-- Four symbols read as the 24-bit number they spell. -/
theorem decodeBytes_quad {x0 x1 x2 x3 : UInt8} {v0 v1 v2 v3 : Nat} (h0 : value? x0 = some v0)
    (h1 : value? x1 = some v1) (h2 : value? x2 = some v2) (h3 : value? x3 = some v3) :
    decodeBytes ⟨#[x0, x1, x2, x3]⟩ = .ok (emitGroup ByteArray.empty (((v0 * 64 + v1) * 64 + v2) * 64 + v3) 4) := by
  -- padding has no value, so none of the four is padding
  have n0 : x0 ≠ 61 := by rintro rfl; simp [value?] at h0
  have n1 : x1 ≠ 61 := by rintro rfl; simp [value?] at h1
  have n2 : x2 ≠ 61 := by rintro rfl; simp [value?] at h2
  have n3 : x3 ≠ 61 := by rintro rfl; simp [value?] at h3
  simp [decodeBytes, decodeSuffix, Std.Legacy.Range.forIn_eq_forIn_range', ByteArray.get!, ByteArray.size,
    List.range', List.forIn_cons, Nat.mod_one, Bytes.emptyWithCapacity_eq, h0, h1, h2, h3, n0, n1, n2, n3]
  rfl

theorem toUInt8_of_mod {n : Nat} {x : UInt8} (h : n % 256 = x.toNat) : n.toUInt8 = x := by
  apply UInt8.toNat_inj.mp
  simp [h]

/-- Four six-bit digits spell a 24-bit number again. -/
theorem digits_spell {n : Nat} (small : n < 16777216) :
    ((n / 262144 % 64 * 64 + n / 4096 % 64) * 64 + n / 64 % 64) * 64 + n % 64 = n := by
  omega

/-- The three bytes of a 24-bit group, read back from its number. -/
theorem bytes_of_group (a b c : UInt8) :
    ((a.toNat * 65536 + b.toNat * 256 + c.toNat) / 65536).toUInt8 = a ∧
      ((a.toNat * 65536 + b.toNat * 256 + c.toNat) / 256).toUInt8 = b ∧
      (a.toNat * 65536 + b.toNat * 256 + c.toNat).toUInt8 = c := by
  have ba := a.toNat_lt
  have bb := b.toNat_lt
  have bc := c.toNat_lt
  exact ⟨toUInt8_of_mod (by omega), toUInt8_of_mod (by omega), toUInt8_of_mod (by omega)⟩

theorem group_lt (a b c : UInt8) : a.toNat * 65536 + b.toNat * 256 + c.toNat < 16777216 := by
  have ba := a.toNat_lt
  have bb := b.toNat_lt
  have bc := c.toNat_lt
  omega

theorem emitGroup_three (n : Nat) :
    emitGroup ByteArray.empty n 4 = ⟨#[(n / 65536).toUInt8, (n / 256).toUInt8, n.toUInt8]⟩ := by
  have byte (m : Nat) : (m % 256).toUInt8 = m.toUInt8 := toUInt8_of_mod (by simp)
  simp only [emitGroup, Nat.sub_self, Nat.mul_zero, Nat.shiftLeft_zero, List.range_succ, List.range_zero,
    List.nil_append, List.foldl_append, List.foldl_cons, List.foldl_nil, Nat.shiftRight_eq_div_pow]
  norm_num [byte]
  rfl

/-- The four symbols of three bytes read back as the three bytes. -/
theorem decodeBytes_encodeList_three (x y z : UInt8) :
    decodeBytes ⟨((encodeList [x, y, z]).map Char.toUInt8).toArray⟩ = .ok ⟨#[x, y, z]⟩ := by
  simp only [encodeList, quad, List.map_cons, List.map_nil, List.append_nil]
  rw [decodeBytes_quad (value?_symbol _) (value?_symbol _) (value?_symbol _) (value?_symbol _), emitGroup_three,
    digits_spell (group_lt x y z)]
  obtain ⟨high, middle, low⟩ := bytes_of_group x y z
  rw [high, middle, low]

end SealedMail.Base64

import Mathlib
import SealedMail.Config
import SealedMail.Proofs.ArmorBlocks
import SealedMail.Proofs.Utf8Decoding

/-! # Header fields of armored blocks

The armor reader takes header fields off a block one by one: a field ends where the first colon
after it is followed by a line break or a blank. A field line `key: value` whose key is not empty
and holds no colon, and whose value holds no line break, is therefore read as one field
(`Armor.fieldsRead_single`), however the value ends; and a line whose key and value hold no header
mark opens no block (`Armor.markFree_single`). The comment of an engine's configuration is
written as such a line, so blocks written with it read back (`Armor.readAll_write_armorHeaders`).
-/

namespace SealedMail

namespace Utf8

/-! ## ASCII characters in UTF-8 -/

theorem toNat_toUInt8_of_ascii {c : Char} (ascii : c.toNat < 128) : c.toUInt8.toNat = c.toNat := by
  simp only [Char.toUInt8, UInt32.toNat_toUInt8, Char.toNat_val]
  omega

/-- A byte below 128 in the UTF-8 form of a character is all of it: the character's code. -/
theorem toNat_of_mem_utf8EncodeChar {c : Char} {b : UInt8} (mem : b ∈ String.utf8EncodeChar c)
    (ascii : b.toNat < 128) : c.toNat = b.toNat := by
  have mapped := List.mem_map_of_mem (f := UInt8.toNat) mem
  rw [toNat_utf8EncodeChar] at mapped
  split_ifs at mapped <;> simp only [Char.toNat_val] at * <;> simp at mapped <;> omega

/-- The byte of an ASCII character stands in the UTF-8 form of characters only where the
character does. -/
theorem mem_of_ascii_mem_utf8Encode {l : List Char} {c : Char} (ascii : c.toNat < 128)
    (mem : c.toUInt8 ∈ l.utf8Encode.data.toList) : c ∈ l := by
  induction l with
  | nil => simp at mem
  | cons x l ih =>
    rw [List.utf8Encode_cons, List.utf8Encode_singleton, ByteArray.data_append, Array.toList_append] at mem
    rcases List.mem_append.mp mem with here | later
    · have same := toNat_of_mem_utf8EncodeChar (by simpa using here) (by rw [toNat_toUInt8_of_ascii ascii]; exact ascii)
      rw [toNat_toUInt8_of_ascii ascii] at same
      rw [Char.toNat_inj.mp same]
      exact List.mem_cons_self
    · exact List.mem_cons_of_mem x (ih later)

theorem mem_of_ascii_mem_toUTF8 {s : String} {c : Char} (ascii : c.toNat < 128)
    (mem : c.toUInt8 ∈ s.toUTF8.data.toList) : c ∈ s.toList := by
  rw [String.toUTF8_eq_toByteArray, ← String.utf8Encode_toList] at mem
  exact mem_of_ascii_mem_utf8Encode ascii mem

/-- The UTF-8 form of a text is the forms of its characters. -/
theorem toUTF8_toList (s : String) : s.toUTF8.data.toList = s.toList.utf8Encode.data.toList := by
  rw [String.toUTF8_eq_toByteArray, ← String.utf8Encode_toList]

/-- Characters whose UTF-8 form ends with a colon byte end with the colon character. -/
theorem colon_last {l : List Char} {W : List UInt8} (ends : l.utf8Encode.data.toList = W ++ [58]) :
    ∃ cs, l = cs ++ [':'] ∧ cs.utf8Encode.data.toList = W := by
  rcases List.eq_nil_or_concat l with rfl | ⟨cs, x, rfl⟩
  · simp at ends
  · rw [List.concat_eq_append, List.utf8Encode_append, List.utf8Encode_singleton, ByteArray.data_append,
      Array.toList_append, Bytes.toByteArray_data_toList] at ends
    -- the form of the last character is not empty, so the colon byte is its last
    have nonempty : String.utf8EncodeChar x ≠ [] := by
      intro empty
      have size := String.length_utf8EncodeChar x
      rw [empty, List.length_nil] at size
      exact absurd size.symm (Nat.pos_iff_ne_zero.mp x.utf8Size_pos)
    obtain ⟨front, b, split⟩ := (List.eq_nil_or_concat (String.utf8EncodeChar x)).resolve_left nonempty
    rw [List.concat_eq_append] at split
    rw [split, ← List.append_assoc] at ends
    obtain ⟨before, last⟩ := List.append_inj' ends rfl
    obtain rfl : b = 58 := List.singleton_inj.mp last
    -- an ASCII byte in a character's form is the whole character
    have member : (58 : UInt8) ∈ String.utf8EncodeChar x := by
      rw [split]
      exact List.mem_append_right _ (List.mem_singleton_self 58)
    have colon : x = ':' := Char.toNat_inj.mp (toNat_of_mem_utf8EncodeChar member (by decide))
    subst colon
    have single : String.utf8EncodeChar ':' = [] ++ [58] := by decide
    obtain rfl : [] = front := List.append_cancel_right (single.symm.trans split)
    exact ⟨cs, List.concat_eq_append, by rw [← before, List.append_nil]⟩

end Utf8

namespace Armor

section Fields

variable {u : ByteArray} {j : Nat}

/-- With `pat` starting nowhere from `j` on, the search finds nothing. -/
theorem findFrom_eq_none {pat : ByteArray} (nonempty : 0 < pat.size)
    (never : ∀ k, j ≤ k → ¬ pat.data.toList <+: u.data.toList.drop k) : findFrom u pat j = none := by
  unfold findFrom
  rw [List.find?_eq_none]
  intro k member found
  obtain ⟨low, -⟩ := List.mem_range'_1.mp member
  exact never k low ((Bytes.matchesAt_iff nonempty).mp found)

/-- The first place from `j` on where `pat` starts is what the search finds. -/
theorem findFrom_eq_some {pat : ByteArray} (nonempty : 0 < pat.size) {k : Nat} (le : j ≤ k)
    (here : pat.data.toList <+: u.data.toList.drop k)
    (before : ∀ m, j ≤ m → m < k → ¬ pat.data.toList <+: u.data.toList.drop m) : findFrom u pat j = some k := by
  have inside : k < u.size := by
    have long := here.length_le
    simp only [List.length_drop, Bytes.length_toList] at long
    omega
  unfold findFrom
  rw [List.find?_eq_some_iff_append]
  refine ⟨(Bytes.matchesAt_iff nonempty).mpr here, List.range' j (k - j), List.range' (k + 1) (u.size - (k + 1)),
    ?_, ?_⟩
  · have split := @List.range'_append j (k - j) (u.size - k) 1
    rw [show j + 1 * (k - j) = k by omega, show k - j + (u.size - k) = u.size - j by omega,
      show u.size - k = (u.size - (k + 1)) + 1 by omega, List.range'_succ] at split
    exact split.symm
  · intro m member
    obtain ⟨low, high⟩ := List.mem_range'_1.mp member
    rw [Bool.not_eq_true', ← Bool.not_eq_true, Bytes.matchesAt_iff nonempty]
    exact before m low (by omega)

/-- In a header field line `key: value` followed by text without a colon, a colon stands either
right after the key, before the space, or inside the value, followed by a byte of the value or,
when the value ends with it, by the line feed. -/
theorem colon_in_line {K V rest : List UInt8} (keyFree : (58 : UInt8) ∉ K) (restFree : (58 : UInt8) ∉ rest)
    {m : Nat} {y : UInt8} {r : List UInt8} (at_ : (K ++ 58 :: 32 :: (V ++ 10 :: rest)).drop m = 58 :: y :: r) :
    (m = K.length ∧ y = 32) ∨
      (K.length + 2 ≤ m ∧ (y ∈ V ∨ (y = 10 ∧ ∃ W, V = W ++ [58] ∧ m = K.length + 2 + W.length))) := by
  rcases Nat.lt_or_ge m K.length with inKey | afterKey
  · -- a byte of the key is no colon
    rw [List.drop_append_of_le_length inKey.le, List.drop_eq_getElem_cons inKey, List.cons_append] at at_
    exact absurd ((List.cons.inj at_).1 ▸ List.getElem_mem inKey) keyFree
  obtain ⟨i, rfl⟩ : ∃ i, m = K.length + i := ⟨m - K.length, by omega⟩
  rw [List.drop_append, List.drop_eq_nil_of_le (by omega), List.nil_append, Nat.add_sub_cancel_left] at at_
  rcases i with _ | _ | i
  · exact .inl ⟨by omega, (List.cons.inj (List.cons.inj at_).2).1.symm⟩
  · cases at_
  · -- past the colon and the space: the value, the line feed and the text after the line
    refine .inr ⟨by omega, ?_⟩
    rw [List.drop_succ_cons, List.drop_succ_cons] at at_
    rcases Nat.lt_or_ge i V.length with inValue | afterValue
    · -- a colon of the value: what follows is the value's next byte or the line feed
      rw [List.drop_append_of_le_length inValue.le, List.drop_eq_getElem_cons inValue, List.cons_append] at at_
      obtain ⟨colon, next⟩ := List.cons.inj at_
      rcases Nat.lt_or_ge (i + 1) V.length with more | last
      · rw [List.drop_eq_getElem_cons more, List.cons_append] at next
        exact .inl ((List.cons.inj next).1 ▸ List.getElem_mem more)
      · rw [List.drop_eq_nil_of_le last, List.nil_append] at next
        refine .inr ⟨(List.cons.inj next).1.symm, V.take i, ?_, by simp; omega⟩
        have whole := List.take_append_drop i V
        rw [List.drop_eq_getElem_cons inValue, List.drop_eq_nil_of_le last, colon] at whole
        exact whole.symm
    · rw [List.drop_append, List.drop_eq_nil_of_le afterValue, List.nil_append] at at_
      rcases Nat.eq_or_lt_of_le afterValue with same | beyond
      · rw [← same, Nat.sub_self, List.drop_zero] at at_
        cases at_
      · -- a byte of the text after the line, which holds no colon
        obtain ⟨n, hn⟩ : ∃ n, i - V.length = n + 1 := ⟨i - V.length - 1, by omega⟩
        rw [hn, List.drop_succ_cons] at at_
        exact absurd (List.mem_of_mem_drop (at_ ▸ List.mem_cons_self)) restFree

/-- The bytes after a colon pair found from `j` on, as the bytes of the line from `j`. -/
theorem line_pair {K V rest : List UInt8} (layout : u.data.toList.drop j = K ++ 58 :: 32 :: (V ++ 10 :: rest))
    {k : Nat} (low : j ≤ k) {y : UInt8} {s : List UInt8} (pre : [58, y] ++ s <+: u.data.toList.drop k) :
    ∃ r, (K ++ 58 :: 32 :: (V ++ 10 :: rest)).drop (k - j) = 58 :: y :: r := by
  obtain ⟨t, whole⟩ := pre
  refine ⟨s ++ t, ?_⟩
  rw [← layout, List.drop_drop, Nat.add_sub_cancel' low, ← whole]
  simp

/-- A header field line `key: value` followed by text without a colon is read as one field up to
its line feed, when the key is text with no colon and the value text with no line break. A value
that ends with a colon is found through `:\n` first, with the key running up to that colon, and
the field still ends at the same line feed. -/
theorem field_of_line {K V rest : List UInt8} (layout : u.data.toList.drop j = K ++ 58 :: 32 :: (V ++ 10 :: rest))
    (keyed : K ≠ []) (keyFree : (58 : UInt8) ∉ K) (lf : (10 : UInt8) ∉ V) (cr : (13 : UInt8) ∉ V)
    (restFree : (58 : UInt8) ∉ rest) (keyText : isText K.toByteArray) (valueText : isText V.toByteArray)
    (colonEnd : ∀ W, V = W ++ [58] → isText (K ++ 58 :: 32 :: W).toByteArray) :
    field u j = some (j + K.length + V.length + 3) := by
  have crlf : ":\r\n".toUTF8.data.toList = [58, 13] ++ [10] := by decide
  have colonLf : ":\n".toUTF8.data.toList = [58, 10] ++ [] := by decide
  have colonSpace : ": ".toUTF8.data.toList = [58, 32] ++ [] := by decide
  have shifted : ∀ m, u.data.toList.drop (j + m) = (K ++ 58 :: 32 :: (V ++ 10 :: rest)).drop m := fun m => by
    rw [← List.drop_drop, layout]
  have atSpace : u.data.toList.drop (j + K.length + 1) = 32 :: (V ++ 10 :: rest) := by
    rw [Nat.add_assoc, shifted, ← List.drop_drop, List.drop_left]
    rfl
  have atValue : u.data.toList.drop (j + K.length + 2) = V ++ 10 :: rest := by
    rw [show j + K.length + 2 = j + K.length + 1 + 1 by omega, Bytes.drop_succ_of_drop atSpace]
  have atEnd : u.data.toList.drop (j + K.length + 2 + V.length) = 10 :: rest := by
    rw [Bytes.drop_add_of_drop atValue]
  obtain ⟨inside, -⟩ := Bytes.get!_of_drop atEnd
  -- no line holds a colon followed by a carriage return
  have noCrLf : findFrom u ":\r\n".toUTF8 j = none := findFrom_eq_none (by decide) fun k low pre => by
    rw [crlf] at pre
    obtain ⟨r, at_⟩ := line_pair layout low pre
    rcases colon_in_line keyFree restFree at_ with ⟨-, bad⟩ | ⟨-, inV | ⟨bad, -⟩⟩
    · exact absurd bad (by decide)
    · exact cr inV
    · exact absurd bad (by decide)
  by_cases plain : ∃ W, V = W ++ [58]
  · -- the value ends with a colon: the key runs up to it and the field ends at the line feed after it
    obtain ⟨W, ends⟩ := plain
    have atColon : u.data.toList.drop (j + K.length + 2 + W.length) = 58 :: 10 :: rest := by
      rw [Bytes.drop_add_of_drop (show u.data.toList.drop (j + K.length + 2) = W ++ (58 :: 10 :: rest) by
        rw [atValue, ends, List.append_assoc]; rfl)]
    have colonFound : findFrom u ":\n".toUTF8 j = some (j + K.length + 2 + W.length) := by
      refine findFrom_eq_some (by decide) (by omega) ?_ fun m low high pre => ?_
      · rw [colonLf, atColon]
        exact ⟨rest, rfl⟩
      · rw [colonLf] at pre
        obtain ⟨r, at_⟩ := line_pair layout low pre
        rcases colon_in_line keyFree restFree at_ with ⟨-, bad⟩ | ⟨-, inV | ⟨-, W', ends', same⟩⟩
        · exact absurd bad (by decide)
        · exact lf inV
        · obtain rfl : W' = W := List.append_cancel_right (ends'.symm.trans ends)
          omega
    have keyBytes : u.extract j (j + K.length + 2 + W.length) = (K ++ 58 :: 32 :: W).toByteArray :=
      Bytes.eq_of_toList (by
        have whole : K ++ 58 :: 32 :: (V ++ 10 :: rest) = (K ++ 58 :: 32 :: W) ++ (58 :: 10 :: rest) := by
          rw [ends]
          simp
        rw [Bytes.toList_extract, layout, whole, Bytes.toByteArray_data_toList, List.take_left' (by simp; omega)])
    obtain ⟨-, feedByte⟩ := Bytes.get!_of_drop (Bytes.drop_succ_of_drop atColon)
    have broken := lineBreak_lf (Bytes.drop_succ_of_drop atColon)
    have length : V.length = W.length + 1 := by rw [ends, List.length_append, List.length_singleton]
    simp only [field, List.findSome?_cons, noCrLf, colonFound, Option.filter_none, Option.filter_some,
      show j + K.length + 2 + W.length > j by omega, decide_true, if_true]
    simp only [bind, Option.bind, keyBytes, colonEnd W ends, Bool.not_true, Bool.false_eq_true, if_false, feedByte,
      show ((10 : UInt8) == 32) = false by decide, broken, Except.toOption]
    congr 1
    omega
  · -- otherwise the key ends at the first colon, right before the space
    have noLf : findFrom u ":\n".toUTF8 j = none := findFrom_eq_none (by decide) fun k low pre => by
      rw [colonLf] at pre
      obtain ⟨r, at_⟩ := line_pair layout low pre
      rcases colon_in_line keyFree restFree at_ with ⟨-, bad⟩ | ⟨-, inV | ⟨-, W, ends, -⟩⟩
      · exact absurd bad (by decide)
      · exact lf inV
      · exact plain ⟨W, ends⟩
    have space : findFrom u ": ".toUTF8 j = some (j + K.length) := by
      refine findFrom_eq_some (by decide) (by omega) ?_ fun m low high pre => ?_
      · rw [colonSpace, ← List.drop_drop, layout, List.drop_left]
        exact ⟨V ++ 10 :: rest, rfl⟩
      · rw [colonSpace] at pre
        obtain ⟨r, at_⟩ := line_pair layout low pre
        rcases colon_in_line keyFree restFree at_ with ⟨same, -⟩ | ⟨after, -⟩ <;> omega
    have keyBytes : u.extract j (j + K.length) = K.toByteArray := Bytes.eq_of_toList (by
      rw [Bytes.toList_extract, layout, Nat.add_sub_cancel_left, List.take_left, Bytes.toByteArray_data_toList])
    have valueBytes : u.extract (j + K.length + 2) (j + K.length + 2 + V.length) = V.toByteArray :=
      Bytes.eq_of_toList (by
        rw [Bytes.toList_extract, atValue, Nat.add_sub_cancel_left, List.take_left, Bytes.toByteArray_data_toList])
    -- the value runs to the line feed, since it holds neither line break
    have scanned : skipWhile u (fun x => x != 10 && x != 13) (j + K.length + 1 + 1) = j + K.length + 2 + V.length := by
      rw [skipWhile_eq, show j + K.length + 1 + 1 = j + K.length + 2 by omega, atValue,
        List.takeWhile_append_of_pos (fun a member => by
          have : a ≠ 10 := fun h => lf (h ▸ member)
          have : a ≠ 13 := fun h => cr (h ▸ member)
          simp_all)]
      simp
    obtain ⟨-, spaceByte⟩ := Bytes.get!_of_drop atSpace
    have broken := lineBreak_lf atEnd
    have positive : 0 < K.length := List.length_pos_of_ne_nil keyed
    simp only [field, List.findSome?_cons, noCrLf, noLf, space, Option.filter_none, Option.filter_some,
      show j + K.length > j by omega, decide_true, if_true]
    simp only [bind, Option.bind, keyBytes, keyText, Bool.not_true, Bool.false_eq_true, if_false, spaceByte,
      beq_self_eq_true, if_true, scanned, valueBytes, valueText, Bool.or_false,
      show ¬ (j + K.length + 2 + V.length ≥ u.size) by omega, decide_false, broken, Except.toOption]
    congr 1
    omega

/-- A header field line `key: value` is read as header fields to its end, when the key is text with
no colon and the value text with no line break. -/
theorem fieldsRead_line {K V : List UInt8} (keyed : K ≠ []) (keyFree : (58 : UInt8) ∉ K) (lf : (10 : UInt8) ∉ V)
    (cr : (13 : UInt8) ∉ V) (keyText : isText K.toByteArray) (valueText : isText V.toByteArray)
    (colonEnd : ∀ W, V = W ++ [58] → isText (K ++ 58 :: 32 :: W).toByteArray) :
    FieldsRead (K ++ 58 :: 32 :: (V ++ [10])) := by
  intro u j rest layout restFree
  have line : u.data.toList.drop j = K ++ 58 :: 32 :: (V ++ 10 :: rest) := by
    rw [layout]
    simp
  have one := field_of_line line keyed keyFree lf cr restFree keyText valueText colonEnd
  have length : (K ++ 58 :: 32 :: (V ++ [10])).length = K.length + V.length + 3 := by
    simp
    omega
  -- after the line no colon is left, so no second field is read
  have none : field u (j + K.length + V.length + 3) = none := field_of_absent (by
    rw [show j + K.length + V.length + 3 = j + (K ++ 58 :: 32 :: (V ++ [10])).length by rw [length]; omega,
      ← List.drop_drop, layout, List.drop_left]
    exact restFree)
  have size := Bytes.size_of_drop layout (by simp)
  obtain ⟨n, fuel⟩ : ∃ n, u.size - j + 1 = n + 1 + 1 := ⟨u.size - j - 1, by simp at size; omega⟩
  unfold fields
  rw [fuel, fields.go, one]
  dsimp only
  rw [if_pos (by omega), length]
  rw [fields.go, none]
  dsimp only
  omega

end Fields

section Single

/-- The bytes of one header field line. -/
theorem fieldLines_single (key value : String) :
    fieldLines [(key, value)] = key.toUTF8.data.toList ++ 58 :: 32 :: (value.toUTF8.data.toList ++ [10]) := by
  have colonSpace : ": ".toUTF8.data.toList = [58, 32] := by decide
  have feed : "\n".toUTF8.data.toList = [10] := by decide
  simp only [fieldLines, List.map_cons, List.map_nil, String.join_cons, String.join_nil, String.append_empty,
    toUTF8_append, ByteArray.data_append, Array.toList_append, colonSpace, feed, List.append_assoc,
    List.cons_append, List.nil_append]

/-- A header field whose key is not empty and holds no colon, and whose value holds no line break,
is read as one field whatever text without a colon follows it. -/
theorem fieldsRead_single {key value : String} (keyed : key.toList ≠ []) (keyFree : ':' ∉ key.toList)
    (lf : '\n' ∉ value.toList) (cr : '\r' ∉ value.toList) : FieldsRead (fieldLines [(key, value)]) := by
  have colonSpace : ": ".toUTF8.data.toList = [58, 32] := by decide
  have text : ∀ s : String, isText s.toUTF8.data.toList.toByteArray := fun s => by
    rw [show s.toUTF8.data.toList.toByteArray = s.toUTF8 from Bytes.eq_of_toList (Bytes.toByteArray_data_toList _)]
    rw [isText, Utf8.decode_toUTF8]
    rfl
  rw [fieldLines_single]
  refine fieldsRead_line ?_ ?_ ?_ ?_ (text key) (text value) ?_
  · -- the first character of the key gives its first byte
    obtain ⟨c, cs, chars⟩ := List.exists_cons_of_ne_nil keyed
    rw [Utf8.toUTF8_toList, chars, List.utf8Encode_cons, List.utf8Encode_singleton, ByteArray.data_append,
      Array.toList_append, Bytes.toByteArray_data_toList]
    intro empty
    have size := String.length_utf8EncodeChar c
    rw [List.append_eq_nil_iff.mp empty |>.1, List.length_nil] at size
    exact absurd size.symm (Nat.pos_iff_ne_zero.mp c.utf8Size_pos)
  · exact fun member => keyFree (Utf8.mem_of_ascii_mem_toUTF8 (c := ':') (by decide) member)
  · exact fun member => lf (Utf8.mem_of_ascii_mem_toUTF8 (c := '\n') (by decide) member)
  · exact fun member => cr (Utf8.mem_of_ascii_mem_toUTF8 (c := '\r') (by decide) member)
  · -- a value that ends with a colon byte ends with the colon character, and the key runs up to it
    intro W ends
    rw [Utf8.toUTF8_toList] at ends
    obtain ⟨cs, chars, front⟩ := Utf8.colon_last ends
    have whole : key.toUTF8.data.toList ++ 58 :: 32 :: W = (key ++ ": " ++ String.ofList cs).toUTF8.data.toList := by
      rw [toUTF8_append, toUTF8_append, ByteArray.data_append, Array.toList_append, ByteArray.data_append,
        Array.toList_append, colonSpace, Utf8.toUTF8_toList (String.ofList cs), String.toList_ofList, front]
      simp
    rw [whole]
    exact text _

/-- Bytes that start with a byte other than a dash, followed by bytes that start no header mark,
start no header mark. -/
theorem MarkFree.cons {b : UInt8} {B : List UInt8} (head : b ≠ 45) (after : MarkFree B) : MarkFree (b :: B) := by
  intro j within rest pre
  have marked : beginMark.data.toList = 45 :: "-----BEGIN PGP ".toUTF8.data.toList.tail := by decide
  cases j with
  | zero =>
    rw [List.drop_zero, marked, List.cons_append, List.cons_prefix_cons] at pre
    exact head pre.1.symm
  | succ j =>
    rw [List.drop_succ_cons] at pre
    exact after j (by simp at within; omega) rest pre

/-- Bytes holding no header mark, then a byte the mark does not hold, then bytes that start no
mark, start no mark: a mark cannot run across the byte. -/
theorem MarkFree.of_stop {A B : List UInt8} {b : UInt8} (noMark : ¬ beginMark.data.toList <:+: A)
    (stop : b ∉ beginMark.data.toList) (after : MarkFree B) : MarkFree (A ++ b :: B) := by
  intro j within rest pre
  rcases Nat.lt_or_ge j A.length with inA | afterA
  · rw [List.drop_append_of_le_length inA.le, List.append_assoc, List.cons_append] at pre
    -- a mark reaching past the end of `A` would hold the stop byte
    have fits : beginMark.data.toList.length ≤ (A.drop j).length := by
      by_contra long
      have reaches : A.drop j ++ [b] <+: beginMark.data.toList :=
        List.prefix_of_prefix_length_le ⟨B ++ rest, by simp⟩ pre
          (by rw [List.length_append, List.length_singleton]; omega)
      exact stop (reaches.subset (by simp))
    exact noMark ((List.prefix_of_prefix_length_le pre (List.prefix_append _ _) fits).isInfix.trans
      (List.drop_suffix j A).isInfix)
  · have dash : b ≠ 45 := fun same => stop (by rw [same]; decide)
    rw [List.drop_append, List.drop_eq_nil_of_le (by omega), List.nil_append] at pre
    exact MarkFree.cons dash after (j - A.length) (by simp at within ⊢; omega) rest pre

/-- The line of a header field whose key and value hold no header mark starts no mark. -/
theorem markFree_single {key value : String} (keyFree : ¬ beginMark.data.toList <:+: key.toUTF8.data.toList)
    (valueFree : ¬ beginMark.data.toList <:+: value.toUTF8.data.toList) : MarkFree (fieldLines [(key, value)]) := by
  rw [fieldLines_single]
  exact MarkFree.of_stop keyFree (by decide)
    (MarkFree.cons (by decide) (MarkFree.of_stop valueFree (by decide) markFree_nil))

/-- A header field the reader carries as one field and whose line opens no block: a key that is
not empty and holds no colon, a value with no line break, and the header mark in neither. -/
structure FieldFits (h : String × String) : Prop where
  keyed : h.1.toList ≠ []
  keyFree : ':' ∉ h.1.toList
  lf : '\n' ∉ h.2.toList
  cr : '\r' ∉ h.2.toList
  keyUnmarked : ¬ beginMark.data.toList <:+: h.1.toUTF8.data.toList
  valueUnmarked : ¬ beginMark.data.toList <:+: h.2.toUTF8.data.toList

/-- The field lines of at most one fitting header are read to their end. -/
theorem fieldsRead_of_fits {h : Option (String × String)} (fits : ∀ f ∈ h, FieldFits f) :
    FieldsRead (fieldLines h.toList) := by
  cases h with
  | none =>
    rw [Option.toList_none, fieldLines_nil]
    exact fieldsRead_nil
  | some f =>
    have fit := fits f (Option.mem_some_self f)
    exact fieldsRead_single fit.keyed fit.keyFree fit.lf fit.cr

/-- The field lines of at most one fitting header start no block. -/
theorem markFree_of_fits {h : Option (String × String)} (fits : ∀ f ∈ h, FieldFits f) :
    MarkFree (fieldLines h.toList) := by
  cases h with
  | none =>
    rw [Option.toList_none, fieldLines_nil]
    exact markFree_nil
  | some f =>
    have fit := fits f (Option.mem_some_self f)
    exact markFree_single fit.keyUnmarked fit.valueUnmarked

end Single

/-- An engine's armor comment that the reader carries as one header field: it holds no line break
and no header mark. -/
def CommentFits (c : EngineConfig) : Prop :=
  ∀ text, c.armorComment = some text →
    '\n' ∉ text.toList ∧ '\r' ∉ text.toList ∧ ¬ beginMark.data.toList <:+: text.toUTF8.data.toList

/-- A key, message or signature block written with the headers of an engine whose comment fits
reads back as the one block it is. -/
theorem readAll_write_armorHeaders {kind : BlockKind} (simple : kind.carriesPackets = true) {c : EngineConfig}
    (fits : CommentFits c) (d : ByteArray) :
    readAll (write kind c.armorHeaders d).toUTF8 = .ok [⟨kind, d⟩] := by
  -- the headers are the comment, when there is one, as its one field
  have headers : c.armorHeaders = (c.armorComment.map (("Comment", ·))).toList := by
    cases comment : c.armorComment <;> simp [EngineConfig.armorHeaders, comment]
  have fit : ∀ f ∈ c.armorComment.map (("Comment", ·)), FieldFits f := by
    intro f member
    obtain ⟨text, comment, rfl⟩ := Option.mem_map.mp member
    obtain ⟨lf, cr, free⟩ := fits text comment
    -- what is left is about the key `Comment` alone
    refine ⟨?_, ?_, lf, cr, ?_, free⟩ <;> dsimp only <;> decide
  rw [headers]
  exact readAll_write_fields simple (markFree_of_fits fit) (fieldsRead_of_fits fit) d

end Armor

end SealedMail

import Mathlib
import SealedMail.Proofs.ArmorWriting

/-! # Armored blocks one after another

Armored text is read block by block: a block runs from one header mark `-----BEGIN PGP ` to the
next. A block that opens with the mark and holds it nowhere else (`Armor.OpensBlock`) is
therefore read as it stands from any text it opens (`Armor.readAll_append`), and blocks of that
kind read back one by one from their concatenation (`Armor.readAll_concat`). Every written key,
message or signature block is such a block (`Armor.opensBlock_write`): between its header and footer lines stand only
base64 symbols, line feeds and the padding sign, none of which is a dash.

Written blocks are also ASCII (`Armor.write_ascii`), and ASCII bytes always decode as UTF-8
(`Utf8.decode_ascii`); text that opens with a block looks armored (`Armor.isArmored_of_opens`).
-/

namespace SealedMail

/-! ## ASCII bytes as UTF-8 -/

namespace Utf8

theorem step_ascii {b : ByteArray} {i : Nat} (ascii : b.get! i < 128) :
    step b i = .char (Char.ofNat (b.get! i).toNat) 1 := by
  simp [step, ascii]

/-- Bytes below 128 all decode, one character each. -/
theorem decodeFrom_ascii {b : ByteArray} (ascii : ∀ x ∈ b.data.toList, x < 128) (i : Nat) (acc : Array Char) :
    ∃ cs, decodeFrom b false i acc = .ok cs := by
  -- a byte inside the input is ASCII, so it reads as one character
  have single : ∀ i < b.size, step b i = .char (Char.ofNat (b.get! i).toNat) 1 := fun i inside => by
    apply step_ascii
    rw [Bytes.get!_eq_getElem inside]
    exact ascii _ (Array.getElem_mem_toList inside)
  fun_induction decodeFrom b false i acc with
  | case1 | case5 | case7 => exact ⟨_, rfl⟩
  | case2 _ _ _ _ _ _ _ ih => exact ih
  | case3 _ _ _ _ _ lossy => cases lossy
  | case4 i _ inside n read => rw [single i inside] at read; cases read
  | case6 i _ inside read => rw [single i inside] at read; cases read

theorem decode_ascii {b : ByteArray} (ascii : ∀ x ∈ b.data.toList, x < 128) : ∃ s, decode b = .ok s := by
  obtain ⟨cs, decoded⟩ := decodeFrom_ascii ascii 0 #[]
  exact ⟨_, by rw [decode, decoded]; rfl⟩

end Utf8

/-! ## Texts as bytes -/

theorem toUTF8_append (s t : String) : (s ++ t).toUTF8 = s.toUTF8 ++ t.toUTF8 :=
  String.toByteArray_append

theorem toUTF8_join (ss : List String) : (String.join ss).toUTF8 = Bytes.concat (ss.map String.toUTF8) := by
  induction ss with
  | nil => rfl
  | cons s ss ih =>
    rw [String.join_cons, List.map_cons, Bytes.concat_cons, ← ih, toUTF8_append]

theorem Bytes.mem_concat {x : UInt8} {bs : List ByteArray} (member : x ∈ (Bytes.concat bs).data.toList) :
    ∃ b ∈ bs, x ∈ b.data.toList := by
  induction bs with
  | nil => simp at member
  | cons b bs ih =>
    rw [Bytes.concat_cons, ByteArray.data_append, Array.toList_append, List.mem_append] at member
    rcases member with here | later
    · exact ⟨b, List.mem_cons_self, here⟩
    · obtain ⟨b', inside, there⟩ := ih later
      exact ⟨b', List.mem_cons_of_mem b inside, there⟩

namespace Armor

/-! ## Where blocks start -/

/-- No position of the bytes starts the header mark, whatever follows them. -/
def MarkFree (l : List UInt8) : Prop :=
  ∀ j < l.length, ∀ rest, ¬ beginMark.data.toList <+: l.drop j ++ rest

theorem markFree_nil : MarkFree [] := fun j within => absurd within (Nat.not_lt_zero j)

theorem MarkFree.append {l m : List UInt8} (left : MarkFree l) (right : MarkFree m) : MarkFree (l ++ m) := by
  intro j within rest
  by_cases inLeft : j < l.length
  · rw [List.drop_append_of_le_length (by omega), List.append_assoc]
    exact left j inLeft _
  · rw [List.drop_append, List.drop_eq_nil_of_le (by omega), List.nil_append]
    simp only [List.length_append] at within
    exact right (j - l.length) (by omega) rest

/-- Bytes with no dash start no header mark. -/
theorem markFree_of_no_dash {l : List UInt8} (noDash : ∀ y ∈ l, y ≠ 45) : MarkFree l := by
  intro j within rest pre
  have marked : beginMark.data.toList = 45 :: "-----BEGIN PGP ".toUTF8.data.toList.tail := by decide
  rw [marked, List.drop_eq_getElem_cons within, List.cons_append, List.cons_prefix_cons] at pre
  exact noDash _ (List.getElem_mem within) pre.1.symm

/-- Whether no position of the bytes starts the header mark: at each position the remaining bytes
and the mark disagree somewhere. -/
def markFreeCheck (l : List UInt8) : Bool :=
  (List.range l.length).all fun j =>
    !(l.drop j).isPrefixOf beginMark.data.toList && !beginMark.data.toList.isPrefixOf (l.drop j)

theorem markFree_of_check {l : List UInt8} (checked : markFreeCheck l = true) : MarkFree l := by
  intro j within rest pre
  have both := List.all_eq_true.mp checked j (List.mem_range.mpr within)
  simp only [Bool.and_eq_true, Bool.not_eq_true'] at both
  have shorter : ¬ l.drop j <+: beginMark.data.toList := fun p => by
    rw [← List.isPrefixOf_iff_prefix] at p
    simp [p] at both
  have longer : ¬ beginMark.data.toList <+: l.drop j := fun p => by
    rw [← List.isPrefixOf_iff_prefix] at p
    simp [p] at both
  rcases List.prefix_or_prefix_of_prefix pre (List.prefix_append (l.drop j) rest) with markFirst | restFirst
  · exact longer markFirst
  · exact shorter restFirst

/-- Text that starts with the header mark and starts it nowhere else. -/
structure OpensBlock (l : List UInt8) : Prop where
  opens : beginMark.data.toList <+: l
  once : MarkFree l.tail

theorem beginMark_size : beginMark.size = 15 := by decide

theorem matchesAt_append_right (a b : ByteArray) (j : Nat) :
    Bytes.matchesAt (a ++ b) beginMark (a.size + j) = Bytes.matchesAt b beginMark j := by
  have shifted : (a ++ b).data.toList.drop (a.size + j) = b.data.toList.drop j := by
    rw [ByteArray.data_append, Array.toList_append, ← Bytes.length_toList a, List.drop_append, List.drop_eq_nil_of_le (by omega),
      List.nil_append, Nat.add_sub_cancel_left]
  rw [Bool.eq_iff_iff, Bytes.matchesAt_iff (by rw [beginMark_size]; decide), Bytes.matchesAt_iff
    (by rw [beginMark_size]; decide), shifted]

/-- A block that opens the text is the first block, and the blocks after it are those of the rest
of the text. -/
theorem blockStarts_append {a b : ByteArray} (opens : OpensBlock a.data.toList) :
    blockStarts (a ++ b) = 0 :: (blockStarts b).map (a.size + ·) := by
  have marked : 0 < a.size := by
    have := opens.opens.length_le
    rw [Bytes.length_toList, Bytes.length_toList, beginMark_size] at this
    omega
  obtain ⟨n, sized⟩ : ∃ n, a.size = n + 1 := ⟨a.size - 1, by omega⟩
  -- inside the first block the mark stands only at its start
  have first : Bytes.matchesAt (a ++ b) beginMark 0 = true := by
    rw [Bytes.matchesAt_iff (by rw [beginMark_size]; decide), List.drop_zero, ByteArray.data_append,
      Array.toList_append]
    exact opens.opens.trans (List.prefix_append _ _)
  have inside : ∀ j < n, Bytes.matchesAt (a ++ b) beginMark (j + 1) = false := by
    intro j within
    rw [Bool.eq_false_iff, ne_eq, Bytes.matchesAt_iff (by rw [beginMark_size]; decide), ByteArray.data_append,
      Array.toList_append, List.drop_append_of_le_length (by rw [Bytes.length_toList]; omega), Nat.add_comm j 1,
      ← List.drop_drop, List.drop_one]
    exact opens.once j (by rw [List.length_tail, Bytes.length_toList]; omega) _
  have firstPart : (List.range a.size).filter (Bytes.matchesAt (a ++ b) beginMark) = [0] := by
    rw [sized, List.range_succ_eq_map, List.filter_cons_of_pos first, List.filter_map,
      List.filter_eq_nil_iff.mpr fun j member => by simpa using inside j (List.mem_range.mp member)]
    rfl
  rw [blockStarts, ByteArray.size_append, List.range_add, List.filter_append, firstPart, List.filter_map]
  simp only [List.singleton_append, blockStarts]
  congr 2
  apply List.filter_congr
  intro j _
  exact matchesAt_append_right a b j

theorem blockStarts_empty : blockStarts ByteArray.empty = [] := rfl

theorem extract_append_right (a b : ByteArray) (s e : Nat) :
    (a ++ b).extract (a.size + s) (a.size + e) = b.extract s e := by
  apply Bytes.eq_of_toList
  rw [Bytes.toList_extract, Bytes.toList_extract, ByteArray.data_append, Array.toList_append,
    ← Bytes.length_toList a, List.drop_append, List.drop_eq_nil_of_le (by omega), List.nil_append,
    Nat.add_sub_cancel_left, Nat.add_sub_add_left]

theorem extract_append_left (a b : ByteArray) : (a ++ b).extract 0 a.size = a := by
  apply Bytes.eq_of_toList
  rw [Bytes.toList_extract, List.drop_zero, Nat.sub_zero, ByteArray.data_append, Array.toList_append,
    ← Bytes.length_toList a, List.take_left' rfl]

/-- The spans between block starts, shifted, are the spans of the shifted starts. -/
theorem zip_shift (k n : Nat) (starts : List Nat) :
    (starts.map (k + ·)).zip ((starts.map (k + ·)).drop 1 ++ [k + n]) =
      (starts.zip (starts.drop 1 ++ [n])).map (Prod.map (k + ·) (k + ·)) := by
  rw [← List.map_drop, ← List.map_singleton (f := (k + ·)), ← List.map_append, List.zip_map]

/-- Reading text that opens with a block: the block is read first, then the blocks of the rest,
as long as the rest is empty or opens with a block too. -/
theorem readAll_append {a b : ByteArray} (opens : OpensBlock a.data.toList)
    (next : b.size = 0 ∨ (blockStarts b).head? = some 0) :
    readAll (a ++ b) = (do let x ← readBlock a; let xs ← readAll b; pure (x :: xs)) := by
  unfold readAll
  simp only []
  rw [blockStarts_append opens, ByteArray.size_append, List.drop_one, List.tail_cons]
  rcases next with empty | starts
  · -- nothing follows the block
    have none : blockStarts b = [] := by simp [blockStarts, empty]
    simp only [none, List.map_nil, List.nil_append, List.zip_cons_cons, List.zip_nil_left, List.mapM_cons,
      List.mapM_nil, List.drop_nil, empty, Nat.add_zero, extract_append_left]
  · -- the next block starts right after this one
    obtain ⟨later, starts⟩ := List.head?_eq_some_iff.mp starts
    have spans := zip_shift a.size b.size (blockStarts b)
    rw [starts] at spans ⊢
    simp only [List.map_cons, Nat.add_zero, List.drop_one, List.tail_cons, List.cons_append, List.zip_cons_cons] at spans ⊢
    rw [spans, List.mapM_cons, List.mapM_map]
    simp only [extract_append_left, Function.comp_def, Prod.map, extract_append_right]

/-- The header line of a key, message or signature block opens with the header mark, and neither
it (after its first byte) nor the footer line start it again. -/
theorem keyLines_marks {kind : BlockKind} (simple : kind.carriesPackets = true) :
    beginMark.data.toList <+: "-----".toUTF8.data.toList ++ ("BEGIN ".toUTF8.data.toList ++ kind.label.toUTF8.data.toList) ∧
      markFreeCheck ("----".toUTF8.data.toList ++ ("BEGIN ".toUTF8.data.toList ++ (kind.label.toUTF8.data.toList ++
        ("-----".toUTF8.data.toList ++ [10])))) = true ∧
      markFreeCheck (10 :: ("-----END " ++ kind.label ++ "-----\n").toUTF8.data.toList) = true := by
  cases kind <;> first | decide | simp [BlockKind.carriesPackets] at simple

/-- A key, message or signature block written with header field lines that hold no header mark
opens with the mark and holds it nowhere else. -/
theorem opensBlock_write_fields {kind : BlockKind} (simple : kind.carriesPackets = true) {hs : List (String × String)}
    (free : MarkFree (fieldLines hs)) (d : ByteArray) : OpensBlock (write kind hs d).toUTF8.data.toList := by
  obtain ⟨marked, headFree, footFree⟩ := keyLines_marks simple
  have dashes : "-----".toUTF8.data.toList = 45 :: "----".toUTF8.data.toList := by decide
  -- between the field lines and the footer line stand a blank line, base64 symbols, line feeds
  -- and the padding sign
  have body : MarkFree (10 :: ("\n".intercalate (chunksOf 64 (Base64.encodeList d.data.toList))).toUTF8.data.toList ++
      10 :: 61 :: (Base64.encodeList [(Crc24.checksum d / 65536).toUInt8, (Crc24.checksum d / 256).toUInt8,
        (Crc24.checksum d).toUInt8]).map Char.toUInt8) := by
    apply markFree_of_no_dash
    intro y member
    simp only [List.cons_append, List.mem_cons, List.mem_append] at member
    rcases member with rfl | inBody | rfl | rfl | inSum
    · decide
    · exact (body_bytes_mem inBody).2.1
    · decide
    · decide
    · exact (checksum_bytes_mem inSum).2.1
  rw [write_symbols_fields]
  constructor
  · refine marked.trans ?_
    simp only [← List.append_assoc]
    exact (List.prefix_append _ _).trans (List.prefix_append _ _)
  · nth_rewrite 1 [dashes]
    rw [List.cons_append, List.tail_cons]
    have whole := (markFree_of_check headFree).append (free.append (body.append (markFree_of_check footFree)))
    simp only [List.append_assoc, List.cons_append, List.nil_append] at whole
    exact whole

/-- A written key, message or signature block opens with the header mark and holds it nowhere else. -/
theorem opensBlock_write {kind : BlockKind} (simple : kind.carriesPackets = true) (d : ByteArray) :
    OpensBlock (write kind [] d).toUTF8.data.toList :=
  opensBlock_write_fields simple (by rw [fieldLines_nil]; exact markFree_nil) d

/-- Blocks that each open with the header mark and hold it nowhere else read back one by one from
their concatenation. -/
theorem readAll_concat (blocks : List ByteArray) (opens : ∀ a ∈ blocks, OpensBlock a.data.toList) :
    readAll (Bytes.concat blocks) = blocks.mapM readBlock := by
  induction blocks with
  | nil => rfl
  | cons a rest ih =>
    have next : (Bytes.concat rest).size = 0 ∨ (blockStarts (Bytes.concat rest)).head? = some 0 := by
      cases rest with
      | nil => exact .inl rfl
      | cons a' rest' =>
        rw [Bytes.concat_cons, blockStarts_append (opens a' (by simp))]
        exact .inr rfl
    rw [Bytes.concat_cons, readAll_append (opens a List.mem_cons_self) next,
      ih (fun a' member => opens a' (List.mem_cons_of_mem a member)), List.mapM_cons]

/-- A key, message or signature block written with header field lines that hold no header mark
and that the reader takes as fields reads back, alone, as its kind and data. -/
theorem readAll_write_fields {kind : BlockKind} (simple : kind.carriesPackets = true) {hs : List (String × String)}
    (free : MarkFree (fieldLines hs)) (read : FieldsRead (fieldLines hs)) (d : ByteArray) :
    readAll (write kind hs d).toUTF8 = .ok [⟨kind, d⟩] := by
  have single := readAll_concat [(write kind hs d).toUTF8] (fun a member => by
    rw [List.mem_singleton.mp member]
    exact opensBlock_write_fields simple free d)
  have block := readBlock_write_fields_append simple read d ByteArray.empty (by simp)
  rw [ByteArray.append_empty] at block
  rw [Bytes.concat_cons, Bytes.concat_nil, ByteArray.append_empty] at single
  rw [single, List.mapM_cons, List.mapM_nil, block]
  rfl

/-! ## Looking armored, and ASCII -/

theorem occursIn_of_prefix {pat l : List UInt8} (pre : pat <+: l) : Bytes.occursIn pat l = true := by
  cases l with
  | nil => rw [List.prefix_nil.mp pre]; rfl
  | cons x rest => simp [Bytes.occursIn, List.isPrefixOf_iff_prefix.mpr pre]

/-- Text that opens with the header mark looks armored. -/
theorem isArmored_of_opens {t : ByteArray} (opens : beginMark.data.toList <+: t.data.toList) : isArmored t = true := by
  apply occursIn_of_prefix
  rw [List.prefix_take_iff]
  exact ⟨opens, by rw [Bytes.length_toList, beginMark_size]; omega⟩

set_option maxRecDepth 10000 in
theorem isBodyByte_ascii : ∀ x : UInt8, isBodyByte x = true → x < 128 := by
  decide

set_option maxRecDepth 10000 in
theorem keyLines_ascii {kind : BlockKind} (simple : kind.carriesPackets = true) :
    (∀ x ∈ kind.label.toUTF8.data.toList, x < 128) ∧
      ∀ x ∈ ("-----END " ++ kind.label ++ "-----\n").toUTF8.data.toList, x < 128 := by
  cases kind <;> first | decide | simp [BlockKind.carriesPackets] at simple

set_option maxRecDepth 10000 in
/-- Every byte of a written key, message or signature block is ASCII. -/
theorem write_ascii {kind : BlockKind} (simple : kind.carriesPackets = true) (d : ByteArray) :
    ∀ x ∈ (write kind [] d).toUTF8.data.toList, x < 128 := by
  obtain ⟨label, footer⟩ := keyLines_ascii simple
  have dashes : ∀ x ∈ "-----".toUTF8.data.toList, x < 128 := by decide
  have opening : ∀ x ∈ "BEGIN ".toUTF8.data.toList, x < 128 := by decide
  intro x member
  rw [write_symbols] at member
  simp only [List.mem_append, List.mem_cons] at member
  rcases member with inDashes | inOpening | inLabel | inDashes | rfl | rfl | inBody | rfl | rfl | inSum | rfl | inFooter
  · exact dashes x inDashes
  · exact opening x inOpening
  · exact label x inLabel
  · exact dashes x inDashes
  · decide
  · decide
  · exact isBodyByte_ascii x (body_bytes_mem inBody).1
  · decide
  · decide
  · exact isBodyByte_ascii x (checksum_bytes_mem inSum).1
  · decide
  · exact footer x inFooter

end Armor

end SealedMail

import Mathlib
import SealedMail.Armor.Reader
import SealedMail.Proofs.Base64Groups

/-! # Reading an armored block

The armor reader moves a position through the text. Each of its rules is described here by the
bytes that remain at the position (`t.data.toList.drop i`): a literal that those bytes start with
is matched (`literal_of_startsWith`), a line feed is a line break (`lineBreak_lf`), text with no colon
holds no header fields (`fields_of_absent`), and the label of a key, message or signature block
reads as its kind (`kindAt_of_carriesPackets`). Body symbols are decoded a group of four at a time (`groupAt_whole`,
`groupAt_two`, `groupAt_one`), so the symbols of an encoding followed by padding decode back to
the encoded bytes (`decodeGroups_encoded`), and a checksum line of four symbols reads back as the
number its three bytes spell (`readFooter_written`).

`readBlock_of_layout` puts these together: a block whose header reads, whose body bytes are the
base64 of some data and then the checksum symbols, and whose footer line names the header's
kind, reads as that data whenever the checksum symbols spell the data's checksum.
-/

namespace SealedMail

namespace Bytes

/-! ## The remaining bytes -/

theorem toList_extract (t : ByteArray) (i j : Nat) :
    (t.extract i j).data.toList = (t.data.toList.drop i).take (j - i) := by
  simp [ByteArray.data_extract, Array.toList_extract, List.extract_eq_take_drop]

theorem eq_of_toList {a b : ByteArray} (same : a.data.toList = b.data.toList) : a = b :=
  ByteArray.ext (Array.toList_inj.mp same)

/-- The first of the remaining bytes is the byte at the position. -/
theorem get!_of_drop {t : ByteArray} {i : Nat} {x : UInt8} {r : List UInt8} (h : t.data.toList.drop i = x :: r) :
    i < t.size ∧ t.get! i = x := by
  have inside : i < t.size := by
    by_contra outside
    rw [List.drop_eq_nil_of_le (by simpa using Nat.le_of_not_lt outside)] at h
    cases h
  rw [drop_eq_get!_cons inside] at h
  exact ⟨inside, (List.cons.inj h).1⟩

theorem drop_succ_of_drop {t : ByteArray} {i : Nat} {x : UInt8} {r : List UInt8} (h : t.data.toList.drop i = x :: r) :
    t.data.toList.drop (i + 1) = r := by
  rw [← List.drop_drop, h, List.drop_one, List.tail_cons]

theorem length_toList (b : ByteArray) : b.data.toList.length = b.size := by simp

theorem take_size_of_prefix {pat : ByteArray} {l : List UInt8} (pre : pat.data.toList <+: l) :
    l.take pat.size = pat.data.toList := by
  rw [List.prefix_iff_eq_take.mp pre, length_toList]

/-- A byte among the remaining ones, read by its place. -/
theorem get!_of_drop_append {t : ByteArray} {i : Nat} {l r : List UInt8} (h : t.data.toList.drop i = l ++ r)
    {k : Nat} (within : k < l.length) : t.get! (i + k) = l[k] := by
  have shifted : t.data.toList.drop (i + k) = l[k] :: (l.drop (k + 1) ++ r) := by
    rw [← List.drop_drop, h, List.drop_append_of_le_length (by omega), List.drop_eq_getElem_cons within,
      List.cons_append]
  exact (get!_of_drop shifted).2

theorem drop_add_of_drop {t : ByteArray} {i : Nat} {l r : List UInt8} (h : t.data.toList.drop i = l ++ r) :
    t.data.toList.drop (i + l.length) = r := by
  rw [← List.drop_drop, h, List.drop_left]

theorem size_of_drop {t : ByteArray} {i : Nat} {l : List UInt8} (h : t.data.toList.drop i = l) (nonempty : l ≠ []) :
    t.size = i + l.length := by
  have len := congrArg List.length h
  have some := List.length_pos_of_ne_nil nonempty
  simp only [List.length_drop, length_toList] at len
  omega

theorem matchesAt_iff {t pat : ByteArray} {j : Nat} (nonempty : 0 < pat.size) :
    matchesAt t pat j = true ↔ pat.data.toList <+: t.data.toList.drop j := by
  unfold matchesAt
  rw [Bool.and_eq_true, decide_eq_true_iff, equal_iff]
  constructor
  · rintro ⟨-, same⟩
    rw [← same, toList_extract]
    exact List.take_prefix _ _
  · intro pre
    have room : pat.size ≤ t.size - j := by simpa using pre.length_le
    refine ⟨by omega, eq_of_toList ?_⟩
    rw [toList_extract, Nat.add_sub_cancel_left, take_size_of_prefix pre]

end Bytes

namespace BlockKind

/-- The kinds of block that hold OpenPGP packets: keys, messages and signatures. -/
def carriesPackets : BlockKind → Bool
  | .publicKey | .privateKey | .message | .signature => true
  | _ => false

theorem carriesPackets_of_isKey {kind : BlockKind} (key : kind.isKey = true) : kind.carriesPackets = true := by
  cases kind <;> simp_all [isKey, carriesPackets]

end BlockKind

namespace Armor

/-! ## The bytes of symbols -/

set_option maxRecDepth 10000 in
/-- A base64 symbol is a body byte and none of the bytes that delimit the other parts of a block:
blanks, line breaks, dashes, colons and padding. -/
theorem symbol_bytes : ∀ x : UInt8, (Base64.value? x).isSome = true →
    isBodyByte x = true ∧ x ≠ 9 ∧ x ≠ 10 ∧ x ≠ 13 ∧ x ≠ 32 ∧ x ≠ 45 ∧ x ≠ 58 ∧ x ≠ 61 := by
  decide

theorem symbol_byte (v : Nat) : isBodyByte (Base64.symbol v).toUInt8 = true ∧ (Base64.symbol v).toUInt8 ≠ 9 ∧
    (Base64.symbol v).toUInt8 ≠ 10 ∧ (Base64.symbol v).toUInt8 ≠ 13 ∧ (Base64.symbol v).toUInt8 ≠ 32 ∧
    (Base64.symbol v).toUInt8 ≠ 45 ∧ (Base64.symbol v).toUInt8 ≠ 58 ∧ (Base64.symbol v).toUInt8 ≠ 61 :=
  symbol_bytes _ (by simp [Base64.value?_symbol])

/-! ## The reader on the remaining bytes -/

section Remaining

variable {t : ByteArray} {i : Nat}

theorem literal_of_startsWith {lit : String} (pre : lit.toUTF8.data.toList <+: t.data.toList.drop i) :
    literal t i lit = .ok (i + lit.toUTF8.size) := by
  have room : lit.toUTF8.size ≤ t.size - i := by simpa using pre.length_le
  have same : t.extract i (i + lit.toUTF8.size) = lit.toUTF8.extract 0 lit.toUTF8.size := by
    apply Bytes.eq_of_toList
    rw [Bytes.toList_extract, Bytes.toList_extract, Nat.add_sub_cancel_left, Bytes.take_size_of_prefix pre,
      List.drop_zero, Nat.sub_zero, ← Bytes.length_toList, List.take_length]
  simp only [literal, min_eq_right room, same, Bytes.equal_iff, if_true, Nat.not_lt.mpr room, if_false]

/-- A literal that disagrees with bytes the text starts with, where neither is a prefix of the
other, fails its rule, however far the text goes on. -/
theorem literal_of_apart {lit : String} {w : List UInt8} (pre : w <+: t.data.toList.drop i)
    (longer : ¬ lit.toUTF8.data.toList <+: w) (shorter : ¬ w <+: lit.toUTF8.data.toList) :
    literal t i lit = .error (.rule (restAt t i) "Tag") := by
  have unequal : ¬ t.extract i (i + min (t.size - i) lit.toUTF8.size) =
      lit.toUTF8.extract 0 (min (t.size - i) lit.toUTF8.size) := by
    intro same
    have lists := congrArg (fun b : ByteArray => b.data.toList) same
    simp only [Bytes.toList_extract, Nat.add_sub_cancel_left, List.drop_zero, Nat.sub_zero] at lists
    by_cases room : lit.toUTF8.size ≤ t.size - i
    · -- the whole literal stands at the position, so one of it and `w` is a prefix of the other
      rw [min_eq_right room, ← Bytes.length_toList lit.toUTF8, List.take_length] at lists
      rcases List.prefix_or_prefix_of_prefix (lists ▸ List.take_prefix _ _) pre with within | beyond
      exacts [longer within, shorter beyond]
    · -- the text ends inside the literal, and `w` is a prefix of the literal
      rw [min_eq_left (by omega), List.take_of_length_le (by simp)] at lists
      exact shorter (pre.trans (lists ▸ List.take_prefix _ _))
  simp only [literal, Bytes.equal_iff, unequal, if_false]

theorem lineBreak_lf {r : List UInt8} (h : t.data.toList.drop i = 10 :: r) : lineBreak t i = .ok (i + 1) := by
  obtain ⟨inside, byte⟩ := Bytes.get!_of_drop h
  simp [lineBreak, byte, Nat.not_le.mpr inside]

theorem lineBreak_other {x : UInt8} {r : List UInt8} (h : t.data.toList.drop i = x :: r) (notLf : x ≠ 10)
    (notCr : x ≠ 13) : lineBreak t i = .error (.rule (restAt t i) "CrLf") := by
  obtain ⟨inside, byte⟩ := Bytes.get!_of_drop h
  simp [lineBreak, byte, Nat.not_le.mpr inside, notLf, notCr]

theorem skipWhile_go (p : UInt8 → Bool) (n : Nat) :
    ∀ j, t.size - j = n → skipWhile.go t p j n = j + ((t.data.toList.drop j).takeWhile p).length := by
  induction n with
  | zero =>
    intro j ended
    have : t.data.toList.drop j = [] := List.drop_eq_nil_of_le (by simp; omega)
    simp [skipWhile.go, this]
  | succ n ih =>
    intro j left
    rw [Bytes.drop_eq_get!_cons (by omega), skipWhile.go, List.takeWhile_cons]
    by_cases holds : p (t.get! j) = true
    · simp only [holds, if_true, List.length_cons, ih (j + 1) (by omega)]
      omega
    · simp [holds]

theorem skipWhile_eq (p : UInt8 → Bool) (i : Nat) :
    skipWhile t p i = i + ((t.data.toList.drop i).takeWhile p).length :=
  skipWhile_go p (t.size - i) i rfl

theorem findFrom_of_absent {pat : ByteArray} {x : UInt8} (first : pat.data.toList.head? = some x)
    (absent : x ∉ t.data.toList.drop i) : findFrom t pat i = none := by
  unfold findFrom
  rw [List.find?_eq_none]
  intro j member found
  obtain ⟨low, high⟩ := List.mem_range'_1.mp member
  have nonempty : 0 < pat.size := by
    rw [← Bytes.length_toList]
    exact List.length_pos_of_ne_nil (by rintro h; simp [h] at first)
  obtain ⟨rest, whole⟩ := (Bytes.matchesAt_iff nonempty).mp found
  obtain ⟨tail, split⟩ := List.head?_eq_some_iff.mp first
  apply absent
  have atJ : x ∈ t.data.toList.drop j := by
    rw [← whole, split]
    simp
  rw [show j = i + (j - i) by omega, ← List.drop_drop] at atJ
  exact List.mem_of_mem_drop atJ

theorem field_of_absent (absent : (58 : UInt8) ∉ t.data.toList.drop i) : field t i = none := by
  have none_of : ∀ p : String, p.toUTF8.data.toList.head? = some 58 → findFrom t p.toUTF8 i = none :=
    fun p first => findFrom_of_absent first absent
  have noKey : [":\r\n", ":\n", ": "].findSome? (fun p => (findFrom t p.toUTF8 i).filter (· > i)) = none := by
    simp only [List.findSome?_cons, none_of ":\r\n" (by decide), none_of ":\n" (by decide), none_of ": " (by decide),
      Option.filter_none, List.findSome?_nil]
  simp only [field, noKey]
  rfl

/-- Text with no colon from `i` on holds no header fields there. -/
theorem fields_of_absent (absent : (58 : UInt8) ∉ t.data.toList.drop i) : fields t i = i := by
  simp [fields, fields.go, field_of_absent absent]

/-- Bytes that the reader takes as header fields, to their end, whatever text without a colon
follows them. -/
def FieldsRead (fieldBytes : List UInt8) : Prop :=
  ∀ (u : ByteArray) (j : Nat) (rest : List UInt8), u.data.toList.drop j = fieldBytes ++ rest →
    (58 : UInt8) ∉ rest → fields u j = j + fieldBytes.length

theorem fieldsRead_nil : FieldsRead [] := fun _ _ _ layout absent => by
  rw [List.nil_append] at layout
  rw [fields_of_absent (by rw [layout]; exact absent), List.length_nil, Nat.add_zero]

theorem blankLines_go_lf {j k : Nat} {r : List UInt8} (h : t.data.toList.drop j = 10 :: r) :
    blankLines.go t j (k + 1) = blankLines.go t (j + 1) k := by
  obtain ⟨inside, -⟩ := Bytes.get!_of_drop h
  simp [blankLines.go, skipWhile_eq, h, Nat.not_le.mpr inside, lineBreak_lf h]

theorem blankLines_go_stop {j k : Nat} {x : UInt8} {r : List UInt8} (h : t.data.toList.drop j = x :: r)
    (notSpace : x ≠ 32) (notTab : x ≠ 9) (notLf : x ≠ 10) (notCr : x ≠ 13) : blankLines.go t j (k + 1) = .ok j := by
  obtain ⟨inside, -⟩ := Bytes.get!_of_drop h
  simp [blankLines.go, skipWhile_eq, h, Nat.not_le.mpr inside, lineBreak_other h notLf notCr, notSpace, notTab]

/-- The label of a block that holds packets, closed by its dashes, reads as its kind: every label
tried before it disagrees with the text early on, `PGP MESSAGE, PART ` included. -/
theorem kindAt_of_carriesPackets {kind : BlockKind} (simple : kind.carriesPackets = true)
    (pre : kind.label.toUTF8.data.toList ++ "-----".toUTF8.data.toList <+: t.data.toList.drop i) :
    kindAt t i = .ok (kind, i + kind.label.toUTF8.size) := by
  have found := literal_of_startsWith ((List.prefix_append _ _).trans pre)
  have apart : ∀ lit : String, ¬ lit.toUTF8.data.toList <+: kind.label.toUTF8.data.toList ++ "-----".toUTF8.data.toList →
      ¬ kind.label.toUTF8.data.toList ++ "-----".toUTF8.data.toList <+: lit.toUTF8.data.toList →
      literal t i lit = .error (.rule (restAt t i) "Tag") :=
    fun _ longer shorter => literal_of_apart pre longer shorter
  cases kind
  case publicKey => simp only [kindAt, List.cons_append, kindAt.go, found, Except.map]
  case privateKey =>
    simp only [kindAt, List.cons_append, kindAt.go, apart BlockKind.publicKey.label (by decide) (by decide),
      found, Except.map]
  case message =>
    simp only [kindAt, List.cons_append, List.nil_append, kindAt.go, laterLabels, List.map_cons, partLabel, bind,
      Except.bind,
      apart BlockKind.publicKey.label (by decide) (by decide), apart BlockKind.privateKey.label (by decide) (by decide),
      apart "PGP MESSAGE, PART " (by decide) (by decide), found, Except.map]
  case signature =>
    simp only [kindAt, List.cons_append, List.nil_append, kindAt.go, laterLabels, List.map_cons, partLabel, bind,
      Except.bind,
      apart BlockKind.publicKey.label (by decide) (by decide), apart BlockKind.privateKey.label (by decide) (by decide),
      apart "PGP MESSAGE, PART " (by decide) (by decide), apart BlockKind.message.label (by decide) (by decide),
      found, Except.map]
  all_goals simp [BlockKind.carriesPackets] at simple

end Remaining

/-! ## Groups of symbols -/

section Groups

variable {s : ByteArray} {i : Nat}

theorem value?_of_padding : Base64.value? 61 = none := by decide

/-- The four bytes at a position, read by `groupAt`. -/
theorem get!_four {x0 x1 x2 x3 : UInt8} {r : List UInt8} (h : s.data.toList.drop i = x0 :: x1 :: x2 :: x3 :: r) :
    s.get! i = x0 ∧ s.get! (i + 1) = x1 ∧ s.get! (i + 2) = x2 ∧ s.get! (i + 3) = x3 := by
  have at_ (k : Nat) (within : k < 4) := Bytes.get!_of_drop_append (l := [x0, x1, x2, x3]) (r := r) h within
  exact ⟨at_ 0 (by decide), at_ 1 (by decide), at_ 2 (by decide), at_ 3 (by decide)⟩

theorem groupAt_whole {a b c : UInt8} {r : List UInt8}
    (h : s.data.toList.drop i = (Base64.encodeList [a, b, c]).map Char.toUInt8 ++ r) :
    groupAt s i = some ⟨#[a, b, c]⟩ := by
  obtain ⟨g0, g1, g2, g3⟩ := get!_four h
  obtain ⟨high, middle, low⟩ := Base64.bytes_of_group a b c
  simp only [groupAt, Nat.add_zero, g0, g1, g2, g3, Base64.value?_symbol, Base64.digits_spell (Base64.group_lt a b c),
    high, middle, low]

theorem groupAt_two {a b : UInt8} {r : List UInt8}
    (h : s.data.toList.drop i = (Base64.encodeList [a, b]).map Char.toUInt8 ++ r) :
    groupAt s i = some ⟨#[a, b]⟩ := by
  obtain ⟨g0, g1, g2, g3⟩ := get!_four h
  have ba := a.toNat_lt
  have bb := b.toNat_lt
  have padding : '='.toUInt8 = 61 := rfl
  -- the third symbol leaves its last two bits clear, and the three spell the two bytes
  have clear : (a.toNat * 65536 + b.toNat * 256) / 64 % 64 % 4 = 0 := by omega
  have spelled : ((a.toNat * 65536 + b.toNat * 256) / 262144 % 64 * 64 + (a.toNat * 65536 + b.toNat * 256) / 4096 % 64) *
      64 + (a.toNat * 65536 + b.toNat * 256) / 64 % 64 = a.toNat * 1024 + b.toNat * 4 := by omega
  have high : ((a.toNat * 1024 + b.toNat * 4) / 1024).toUInt8 = a := Base64.toUInt8_of_mod (by omega)
  have low : ((a.toNat * 1024 + b.toNat * 4) / 4).toUInt8 = b := Base64.toUInt8_of_mod (by omega)
  simp only [groupAt, Nat.add_zero, g0, g1, g2, g3, padding, Base64.value?_symbol, value?_of_padding, clear, spelled,
    high, low]
  rfl

theorem groupAt_one {a : UInt8} {r : List UInt8}
    (h : s.data.toList.drop i = (Base64.encodeList [a]).map Char.toUInt8 ++ r) :
    groupAt s i = some ⟨#[a]⟩ := by
  obtain ⟨g0, g1, g2, g3⟩ := get!_four h
  have ba := a.toNat_lt
  have padding : '='.toUInt8 = 61 := rfl
  -- the second symbol leaves its last four bits clear, and the two spell the byte
  have clear : a.toNat * 65536 / 4096 % 64 % 16 = 0 := by omega
  have spelled : a.toNat * 65536 / 262144 % 64 * 64 + a.toNat * 65536 / 4096 % 64 = a.toNat * 16 := by omega
  have byte : (a.toNat * 16 / 16).toUInt8 = a := Base64.toUInt8_of_mod (by omega)
  simp only [groupAt, Nat.add_zero, g0, g1, g2, g3, padding, Base64.value?_symbol, value?_of_padding, clear, spelled,
    byte]
  rfl

theorem groupAt_padding {r : List UInt8} (h : s.data.toList.drop i = 61 :: r) : groupAt s i = none := by
  have first := (Bytes.get!_of_drop h).2
  simp [groupAt, first, value?_of_padding]

theorem decodeGroups_go_padding {out : ByteArray} {r : List UInt8} (h : s.data.toList.drop i = 61 :: r) (fuel : Nat) :
    decodeGroups.go s i out fuel = (out, i) := by
  cases fuel with
  | zero => rfl
  | succ fuel => simp [decodeGroups.go, groupAt_padding h]

theorem decodeGroups_go_step {out g : ByteArray} (found : groupAt s i = some g) (room : i + 4 ≤ s.size) (fuel : Nat) :
    decodeGroups.go s i out (fuel + 1) = decodeGroups.go s (i + 4) (out ++ g) fuel := by
  rw [decodeGroups.go, if_neg (by omega), found]

/-- The symbols of an encoding followed by padding decode to the encoded bytes, and decoding
stops at the padding. -/
theorem decodeGroups_go_encoded (d : List UInt8) (i : Nat) (out : ByteArray) (r : List UInt8) (fuel : Nat)
    (layout : s.data.toList.drop i = (Base64.encodeList d).map Char.toUInt8 ++ 61 :: r)
    (enough : (Base64.encodeList d).length / 4 ≤ fuel) :
    decodeGroups.go s i out fuel = (out ++ d.toByteArray, i + (Base64.encodeList d).length) := by
  -- one group of the encoding at a time; each group takes one unit of fuel
  fun_induction Base64.encodeList d generalizing i out fuel with
  | case1 a b c rest ih =>
    have group : s.data.toList.drop i = (Base64.encodeList [a, b, c]).map Char.toUInt8 ++
        ((Base64.encodeList rest).map Char.toUInt8 ++ 61 :: r) := by
      rw [layout]
      simp [Base64.encodeList]
    have next := Bytes.drop_add_of_drop group
    have size := Bytes.size_of_drop layout (by simp)
    simp only [Base64.encodeList, Base64.quad, List.append_nil, List.length_map, List.length_cons, List.length_nil,
      List.length_append] at next size enough ⊢
    obtain ⟨fuel, rfl⟩ : ∃ f, fuel = f + 1 := ⟨fuel - 1, by omega⟩
    rw [decodeGroups_go_step (groupAt_whole group) (by omega), ih (i + 4) _ fuel next (by omega)]
    congr 1
    · apply Bytes.eq_of_toList
      simp
    · omega
  | case2 a b =>
    have group : s.data.toList.drop i = (Base64.encodeList [a, b]).map Char.toUInt8 ++ 61 :: r := layout
    have next := Bytes.drop_add_of_drop group
    have size := Bytes.size_of_drop layout (by simp)
    simp only [Base64.encodeList, Base64.quad, List.length_map, List.length_cons, List.length_nil,
      List.length_append, List.take_succ_cons, List.take_zero] at next size enough ⊢
    obtain ⟨fuel, rfl⟩ : ∃ f, fuel = f + 1 := ⟨fuel - 1, by omega⟩
    rw [decodeGroups_go_step (groupAt_two group) (by omega), decodeGroups_go_padding next fuel]
    rfl
  | case3 a =>
    have group : s.data.toList.drop i = (Base64.encodeList [a]).map Char.toUInt8 ++ 61 :: r := layout
    have next := Bytes.drop_add_of_drop group
    have size := Bytes.size_of_drop layout (by simp)
    simp only [Base64.encodeList, Base64.quad, List.length_map, List.length_cons, List.length_nil,
      List.length_append, List.take_succ_cons, List.take_zero] at next size enough ⊢
    obtain ⟨fuel, rfl⟩ : ∃ f, fuel = f + 1 := ⟨fuel - 1, by omega⟩
    rw [decodeGroups_go_step (groupAt_one group) (by omega), decodeGroups_go_padding next fuel]
    rfl
  | case4 =>
    rw [decodeGroups_go_padding layout fuel]
    simp [ByteArray.append_empty]

/-- The symbols of an encoding followed by padding decode to the encoded bytes. -/
theorem decodeGroups_encoded (d r : List UInt8)
    (layout : s.data.toList = (Base64.encodeList d).map Char.toUInt8 ++ 61 :: r) :
    decodeGroups s = (d.toByteArray, (Base64.encodeList d).length) := by
  have size : s.size = (Base64.encodeList d).length + (r.length + 1) := by
    rw [← Bytes.length_toList, layout]
    simp
  rw [decodeGroups, decodeGroups_go_encoded d 0 _ r _ (by simpa using layout) (by omega), ByteArray.empty_append,
    Nat.zero_add]

/-- A stray `=` is taken only with six symbols or more after the data. -/
theorem consumed_of_short {used : Nat} (short : s.size < used + 6) : consumed s used = used := by
  simp [consumed, Nat.not_le.mpr short]

end Groups

/-! ## The footer -/

section Footer

variable {f : ByteArray}

theorem literal_then {t : ByteArray} {i : Nat} {lit : String} {rest : List UInt8}
    (h : t.data.toList.drop i = lit.toUTF8.data.toList ++ rest) :
    literal t i lit = .ok (i + lit.toUTF8.size) ∧ t.data.toList.drop (i + lit.toUTF8.size) = rest := by
  refine ⟨literal_of_startsWith (by rw [h]; exact List.prefix_append _ _), ?_⟩
  have := Bytes.drop_add_of_drop h
  rwa [Bytes.length_toList] at this

theorem lineBreaks_of_other {i : Nat} {x : UInt8} {r : List UInt8} (h : f.data.toList.drop i = x :: r) (notLf : x ≠ 10)
    (notCr : x ≠ 13) : lineBreaks f i = .ok i := by
  have inside := (Bytes.get!_of_drop h).1
  obtain ⟨k, fuel⟩ : ∃ k, f.size - i + 1 = k + 1 := ⟨_, rfl⟩
  rw [lineBreaks, fuel, lineBreaks.go, lineBreak_other h notLf notCr]

theorem checksumText_of_symbols {sym : List UInt8} {x : UInt8} {r : List UInt8}
    (layout : f.data.toList = 61 :: sym ++ x :: r) (plain : ∀ y ∈ sym, y ≠ 10 ∧ y ≠ 13 ∧ y ≠ 45)
    (stops : x = 10 ∨ x = 13 ∨ x = 45) : checksumText f = .ok (some ⟨sym.toArray⟩, sym.length + 1) := by
  have first : f.get! 0 = 61 := (Bytes.get!_of_drop (i := 0) (by simpa using layout)).2
  have taken : (f.data.toList.drop 1).takeWhile (fun y => y != 10 && y != 13 && y != 45) = sym := by
    rw [layout, List.cons_append, List.drop_one, List.tail_cons, List.takeWhile_append_of_pos]
    · rcases stops with rfl | rfl | rfl <;> simp
    · intro y member
      obtain ⟨lf, cr, dash⟩ := plain y member
      simp [lf, cr, dash]
  have size : f.size = sym.length + 1 + (r.length + 1) := by
    rw [← Bytes.length_toList, layout]
    simp
    omega
  have extracted : f.extract 1 (1 + sym.length) = ⟨sym.toArray⟩ := by
    apply Bytes.eq_of_toList
    rw [Bytes.toList_extract, layout]
    simp
  simp only [checksumText, first, skipWhile_eq, taken, bne_self_eq_false, Bool.false_eq_true, if_false]
  rw [if_neg (by omega), extracted, Nat.add_comm]

theorem kindAt_then {t : ByteArray} {i : Nat} {kind : BlockKind} {rest : List UInt8}
    (simple : kind.carriesPackets = true)
    (h : t.data.toList.drop i = kind.label.toUTF8.data.toList ++ ("-----".toUTF8.data.toList ++ rest)) :
    kindAt t i = .ok (kind, i + kind.label.toUTF8.size) ∧
      t.data.toList.drop (i + kind.label.toUTF8.size) = "-----".toUTF8.data.toList ++ rest := by
  refine ⟨kindAt_of_carriesPackets simple (by rw [h, ← List.append_assoc]; exact List.prefix_append _ _), ?_⟩
  have := Bytes.drop_add_of_drop h
  rwa [Bytes.length_toList] at this

theorem footerLine_bytes (kind : BlockKind) :
    ("-----END " ++ kind.label ++ "-----\n").toUTF8.data.toList =
      [45, 45] ++ ("---END ".toUTF8.data.toList ++ (kind.label.toUTF8.data.toList ++ ("-----".toUTF8.data.toList ++ [10]))) := by
  simp only [String.toUTF8, String.toByteArray_append, ByteArray.data_append, Array.toList_append, List.append_assoc]
  rfl

theorem checksumValue_three (x y z : UInt8) :
    checksumValue ⟨#[x, y, z]⟩ = x.toNat * 65536 + y.toNat * 256 + z.toNat := by
  simp [checksumValue, Bytes.toNatBE_eq]
  ring

/-- A footer of checksum symbols and the footer line reads, whatever text follows the line. -/
theorem readFooter_written {kind : BlockKind} (simple : kind.carriesPackets = true) (x y z : UInt8) (tail : List UInt8)
    (layout : f.data.toList = 61 :: (Base64.encodeList [x, y, z]).map Char.toUInt8 ++
      (("-----END " ++ kind.label ++ "-----\n").toUTF8.data.toList ++ tail)) :
    readFooter f = .ok (some (x.toNat * 65536 + y.toNat * 256 + z.toNat), kind) := by
  rw [footerLine_bytes] at layout
  have plain : ∀ b ∈ (Base64.encodeList [x, y, z]).map Char.toUInt8, b ≠ 10 ∧ b ≠ 13 ∧ b ≠ 45 := by
    intro b member
    obtain ⟨c, mem, rfl⟩ := List.mem_map.mp member
    simp only [Base64.encodeList, Base64.quad, List.append_nil, List.mem_cons, List.not_mem_nil, or_false] at mem
    rcases mem with rfl | rfl | rfl | rfl
    all_goals
      obtain ⟨-, -, lf, cr, -, dash, -⟩ := symbol_byte _
      exact ⟨lf, cr, dash⟩
  have four : ((Base64.encodeList [x, y, z]).map Char.toUInt8).length = 4 := by
    simp [Base64.encodeList, Base64.quad]
  have text := checksumText_of_symbols (by rw [layout]; rfl) plain (Or.inr (Or.inr rfl))
  rw [four] at text
  have atDash : f.data.toList.drop 5 = [45, 45] ++ ("---END ".toUTF8.data.toList ++ (kind.label.toUTF8.data.toList ++
      ("-----".toUTF8.data.toList ++ (10 :: tail)))) := by
    rw [layout]
    simp [four]
  have breaks := lineBreaks_of_other atDash (by decide) (by decide)
  have dashLiteral : "--".toUTF8.data.toList = [45, 45] := by decide
  obtain ⟨dashes, atEnd⟩ := literal_then (show f.data.toList.drop 5 = "--".toUTF8.data.toList ++ _ by
    rw [dashLiteral]
    exact atDash)
  obtain ⟨endWord, atLabel⟩ := literal_then atEnd
  obtain ⟨label, atClose⟩ := kindAt_then simple atLabel
  obtain ⟨close, -⟩ := literal_then atClose
  have size : f.size ≠ 0 := by
    rw [← Bytes.length_toList, layout]
    simp
  simp only [readFooter, size, if_false, text, breaks, dashes, endWord, label, close, bind, Except.bind,
    Base64.decodeBytes_encodeList_three, checksumValue_three]
  rfl

end Footer


/-! ## A block -/

section Block

variable {t : ByteArray}

/-- Blank lines of bare line feeds are skipped up to the first byte that is no blank and no
line break. -/
theorem blankLines_go_feeds {x : UInt8} {r : List UInt8} (notSpace : x ≠ 32) (notTab : x ≠ 9) (notLf : x ≠ 10)
    (notCr : x ≠ 13) (feeds : List UInt8) (only : ∀ y ∈ feeds, y = 10) (j fuel : Nat)
    (layout : t.data.toList.drop j = feeds ++ x :: r) (enough : feeds.length < fuel) :
    blankLines.go t j fuel = .ok (j + feeds.length) := by
  induction feeds generalizing j fuel with
  | nil =>
    obtain ⟨fuel, rfl⟩ : ∃ f, fuel = f + 1 := ⟨fuel - 1, by simp at enough; omega⟩
    simpa using blankLines_go_stop layout notSpace notTab notLf notCr
  | cons y feeds ih =>
    obtain rfl := only y List.mem_cons_self
    obtain ⟨fuel, rfl⟩ : ∃ f, fuel = f + 1 := ⟨fuel - 1, by simp at enough; omega⟩
    rw [blankLines_go_lf layout, ih (fun z member => only z (List.mem_cons_of_mem _ member)) (j + 1) fuel
      (Bytes.drop_succ_of_drop layout) (by simp at enough; omega)]
    simp
    omega

/-- What follows the header line of a block: the bytes after its seventeen fixed bytes and label. -/
theorem drop_headerLine {kind : BlockKind} {rest : List UInt8}
    (layout : t.data.toList = "-----".toUTF8.data.toList ++ ("BEGIN ".toUTF8.data.toList ++
      (kind.label.toUTF8.data.toList ++ ("-----".toUTF8.data.toList ++ 10 :: rest)))) :
    t.data.toList.drop (17 + kind.label.toUTF8.size) = rest := by
  have five : "-----".toUTF8.data.toList.length = 5 := by decide
  have six : "BEGIN ".toUTF8.data.toList.length = 6 := by decide
  have shape : t.data.toList = ("-----".toUTF8.data.toList ++ "BEGIN ".toUTF8.data.toList ++
      kind.label.toUTF8.data.toList ++ "-----".toUTF8.data.toList ++ [10]) ++ rest := by
    rw [layout]
    simp
  rw [shape, List.drop_left']
  simp only [List.length_append, List.length_cons, List.length_nil, five, six, Bytes.length_toList]
  omega

/-- The header of a key, message or signature block whose header line is followed by the bytes of
header fields that `fields` reads to their end, then by line feeds and a byte that starts no blank
line, reads as the block's kind and ends after the line feeds. -/
theorem readHeader_of_fields {kind : BlockKind} (simple : kind.carriesPackets = true) {fieldBytes feeds : List UInt8}
    {x : UInt8} {r : List UInt8} (only : ∀ y ∈ feeds, y = 10) (notSpace : x ≠ 32) (notTab : x ≠ 9)
    (notLf : x ≠ 10) (notCr : x ≠ 13)
    (layout : t.data.toList = "-----".toUTF8.data.toList ++ ("BEGIN ".toUTF8.data.toList ++
      (kind.label.toUTF8.data.toList ++ ("-----".toUTF8.data.toList ++ 10 :: (fieldBytes ++ (feeds ++ x :: r))))))
    (read : fields t (17 + kind.label.toUTF8.size) = 17 + kind.label.toUTF8.size + fieldBytes.length) :
    readHeader t = .ok (kind, 17 + kind.label.toUTF8.size + fieldBytes.length + feeds.length) := by
  obtain ⟨dashes, atBegin⟩ := literal_then (i := 0) (by simpa using layout)
  obtain ⟨begin, atLabel⟩ := literal_then atBegin
  obtain ⟨label, atClose⟩ := kindAt_then simple atLabel
  obtain ⟨close, atBreak⟩ := literal_then atClose
  have lf := lineBreak_lf atBreak
  have five : "-----".toUTF8.size = 5 := by decide
  have six : "BEGIN ".toUTF8.size = 6 := by decide
  have lineEnd : 0 + "-----".toUTF8.size + "BEGIN ".toUTF8.size + kind.label.toUTF8.size + "-----".toUTF8.size + 1 =
      17 + kind.label.toUTF8.size := by
    omega
  have afterLine := Bytes.drop_succ_of_drop atBreak
  rw [lineEnd] at afterLine lf
  -- the fields end where the line feeds begin
  have afterFields := Bytes.drop_add_of_drop afterLine
  have size := Bytes.size_of_drop afterFields (by simp)
  have blank := blankLines_go_feeds notSpace notTab notLf notCr feeds only _
    (t.size - (17 + kind.label.toUTF8.size + fieldBytes.length) + 1) afterFields
    (by simp only [List.length_append, List.length_cons] at size; omega)
  simp only [readHeader, dashes, begin, label, close, lf, read, blankLines, blank, bind, Except.bind, pure,
    Except.pure]

/-- Dropping line breaks while copying bytes keeps the others in order. -/
theorem foldl_skip_breaks (l : List UInt8) (acc : ByteArray) :
    l.foldl (fun (acc : ByteArray) x => if x == 10 || x == 13 then acc else acc.push x) acc =
      acc ++ (l.filter fun x => !(x == 10 || x == 13)).toByteArray := by
  induction l generalizing acc with
  | nil => simp [ByteArray.append_empty]
  | cons x l ih =>
    by_cases break_ : (x == 10 || x == 13) = true
    · rw [List.foldl_cons, if_pos break_, ih, List.filter_cons_of_neg (by simp [break_])]
    · rw [List.foldl_cons, if_neg break_, ih, List.filter_cons_of_pos (by simpa using break_),
        Bytes.push_append_toByteArray]

/-- A block whose header reads, whose body bytes spell the base64 of `d` and then the checksum
symbols of three bytes, and whose footer line names the same kind, reads as `d` when the
three bytes spell the checksum of `d`, whatever text follows the footer line. -/
theorem readBlock_of_layout {kind : BlockKind} (simple : kind.carriesPackets = true) (d : ByteArray) (x y z : UInt8)
    (sum : x.toNat * 65536 + y.toNat * 256 + z.toNat = Crc24.checksum d) {start : Nat} {body tail : List UInt8}
    (header : readHeader t = .ok (kind, start))
    (layout : t.data.toList.drop start = body ++ (("-----END " ++ kind.label ++ "-----\n").toUTF8.data.toList ++ tail))
    (inBody : ∀ b ∈ body, isBodyByte b = true)
    (symbols : body.filter (fun b => !(b == 10 || b == 13)) = (Base64.encodeList d.data.toList).map Char.toUInt8 ++
      61 :: (Base64.encodeList [x, y, z]).map Char.toUInt8) :
    readBlock t = .ok ⟨kind, d⟩ := by
  -- the body runs up to the dash that starts the footer line
  have footer := footerLine_bytes kind
  have stop : skipWhile t isBodyByte start = start + body.length := by
    rw [skipWhile_eq, layout, List.takeWhile_append_of_pos inBody, footer]
    simp [isBodyByte, Base64.value?]
  have extracted : (t.extract start (start + body.length)).data.toList = body := by
    rw [Bytes.toList_extract, Nat.add_sub_cancel_left, layout, List.take_left']
    rfl
  have collected : (t.extract start (start + body.length)).foldl
      (fun (acc : ByteArray) b => if b == 10 || b == 13 then acc else acc.push b) ByteArray.empty =
      ((Base64.encodeList d.data.toList).map Char.toUInt8 ++ 61 :: (Base64.encodeList [x, y, z]).map Char.toUInt8).toByteArray := by
    rw [Bytes.foldl_eq, extracted, foldl_skip_breaks, symbols, ByteArray.empty_append]
  have four : ((Base64.encodeList [x, y, z]).map Char.toUInt8).length = 4 := by
    simp [Base64.encodeList, Base64.quad]
  have decoded := decodeGroups_encoded (s := ((Base64.encodeList d.data.toList).map Char.toUInt8 ++
    61 :: (Base64.encodeList [x, y, z]).map Char.toUInt8).toByteArray) d.data.toList _ (Bytes.toByteArray_data_toList _)
  have used : consumed ((Base64.encodeList d.data.toList).map Char.toUInt8 ++
      61 :: (Base64.encodeList [x, y, z]).map Char.toUInt8).toByteArray (Base64.encodeList d.data.toList).length =
      (Base64.encodeList d.data.toList).length :=
    consumed_of_short (by simp [four])
  have leftover : restAt ((Base64.encodeList d.data.toList).map Char.toUInt8 ++
      61 :: (Base64.encodeList [x, y, z]).map Char.toUInt8).toByteArray (Base64.encodeList d.data.toList).length =
      (61 :: (Base64.encodeList [x, y, z]).map Char.toUInt8).toByteArray := by
    apply Bytes.eq_of_toList
    simp [restAt]
  have rest : (restAt t (start + body.length)).data.toList =
      ("-----END " ++ kind.label ++ "-----\n").toUTF8.data.toList ++ tail := by
    have len := congrArg List.length layout
    simp only [List.length_drop, List.length_append, Bytes.length_toList] at len
    have fits : (("-----END " ++ kind.label ++ "-----\n").toUTF8.data.toList ++ tail).length ≤
        t.size - (start + body.length) := by
      rw [List.length_append, Bytes.length_toList]
      omega
    rw [restAt, Bytes.toList_extract, ← List.drop_drop, layout, List.drop_left, List.take_of_length_le fits]
  -- the leftover and the footer line fit the window, so the footer is read from both at once
  have small : kind.label.toUTF8.size ≤ 21 := by
    cases kind <;> first | decide | simp [BlockKind.carriesPackets] at simple
  have footerSize : ("-----END " ++ kind.label ++ "-----\n").toUTF8.data.toList.length ≤ 36 := by
    have endWord : "-----END ".toUTF8.size = 9 := by decide
    have closing : "-----\n".toUTF8.size = 6 := by decide
    rw [Bytes.length_toList]
    simp only [String.toUTF8, String.toByteArray_append, ByteArray.size_append] at small endWord closing ⊢
    omega
  have window : (((61 :: (Base64.encodeList [x, y, z]).map Char.toUInt8).toByteArray ++
      restAt t (start + body.length)).extract 0 footerWindow).data.toList =
      61 :: (Base64.encodeList [x, y, z]).map Char.toUInt8 ++ (("-----END " ++ kind.label ++ "-----\n").toUTF8.data.toList ++
        tail.take (footerWindow - 5 - ("-----END " ++ kind.label ++ "-----\n").toUTF8.data.toList.length)) := by
    have lead : (61 :: (Base64.encodeList [x, y, z]).map Char.toUInt8).length = 5 := by simp [four]
    rw [Bytes.toList_extract, List.drop_zero, ByteArray.data_append, Array.toList_append, rest,
      Bytes.toByteArray_data_toList, List.take_append, List.take_of_length_le (by rw [lead]; decide),
      List.take_append, List.take_of_length_le (by rw [lead, footerWindow]; omega), lead]
    rfl
  have read := readFooter_written simple x y z _ window
  have footed : footerOf (61 :: (Base64.encodeList [x, y, z]).map Char.toUInt8).toByteArray
      (restAt t (start + body.length)) = .ok (some (x.toNat * 65536 + y.toNat * 256 + z.toNat), kind) := by
    simp only [footerOf]
    rw [if_neg (by simp [four])]
    exact read
  simp only [readBlock, header, Except.mapError, bind, Except.bind]
  rw [stop, collected, decoded]
  have back : d.data.toList.toByteArray = d := Bytes.eq_of_toList (Bytes.toByteArray_data_toList _)
  simp only [used, leftover, footed, sum, back, bne_self_eq_false, Bool.false_eq_true, if_false]
  rfl

end Block


end Armor

end SealedMail

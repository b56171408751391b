import Mathlib
import SealedMail.Armor.Writer
import SealedMail.Proofs.ArmorReading

/-! # Armored blocks read back

The writer puts a block as ASCII text: the header line, a blank line, the base64 of the data
cut into lines of 64 characters, the checksum line and the footer line. Its bytes are therefore
laid out as `write_bytes` says, the body lines give back the encoding once their line feeds are
dropped (`body_bytes_filter`), and every byte of the body and of the checksum symbols is a body
byte that is neither a dash nor a colon (`body_bytes_mem`, `checksum_bytes_mem`). The three
checksum bytes spell the 24-bit checksum again (`Crc24.bytes_spell`).

So the reader takes a written key, message or signature block back to its kind and data,
whether the data is empty or not (`readBlock_write`).
-/

namespace SealedMail

/-! ## ASCII text -/

theorem utf8Encode_of_ascii {l : List Char} (ascii : ∀ c ∈ l, c.toNat < 128) :
    l.utf8Encode.data.toList = l.map Char.toUInt8 := by
  induction l with
  | nil => rfl
  | cons c l ih =>
    have one : c.utf8Size = 1 := by
      have small : c.val.toNat < 128 := ascii c List.mem_cons_self
      have bound : (127 : UInt32).toNat = 127 := rfl
      exact Char.utf8Size_eq_one_iff.mpr (UInt32.le_iff_toNat_le.mpr (by omega))
    rw [List.utf8Encode_cons, List.utf8Encode_singleton, String.utf8EncodeChar_eq_singleton one, ByteArray.data_append,
      Array.toList_append, ih (fun d member => ascii d (List.mem_cons_of_mem c member))]
    rfl

/-- The bytes of ASCII text are its characters' codes. -/
theorem toUTF8_of_ascii {s : String} (ascii : ∀ c ∈ s.toList, c.toNat < 128) :
    s.toUTF8.data.toList = s.toList.map Char.toUInt8 := by
  obtain ⟨l, rfl⟩ : ∃ l, s = String.ofList l := ⟨s.toList, String.ofList_toList.symm⟩
  rw [String.toList_ofList] at ascii ⊢
  rw [String.toUTF8, String.toByteArray_ofList]
  exact utf8Encode_of_ascii ascii

namespace Crc24

/-! ## The checksum -/

theorem step_lt (crc : Nat) (x : UInt8) : step crc x < 16777216 := by
  -- whatever the eight shifts leave, the register is masked to 24 bits
  have masked (c : Id Nat) : Id.run (c >>= fun s => pure (s &&& 16777215)) < 16777216 :=
    Nat.lt_of_le_of_lt Nat.and_le_right (by decide)
  exact masked _

/-- The checksum is a 24-bit number. -/
theorem checksum_lt (b : ByteArray) : checksum b < 16777216 := by
  rw [checksum, Bytes.foldl_eq]
  have run : ∀ (l : List UInt8) (init : Nat), init < 16777216 → l.foldl step init < 16777216 := by
    intro l
    induction l with
    | nil => exact fun init small => small
    | cons x l ih => exact fun init _ => ih _ (step_lt init x)
  exact run _ _ (by decide)

/-- The three bytes the writer gives a checksum spell it again. -/
theorem bytes_spell (b : ByteArray) :
    (checksum b / 65536).toUInt8.toNat * 65536 + (checksum b / 256).toUInt8.toNat * 256 + (checksum b).toUInt8.toNat =
      checksum b := by
  have small := checksum_lt b
  simp
  omega

end Crc24

namespace Armor

/-! ## Lines of a body -/

section Lines

variable {α : Type}

theorem filter_intercalate (p : α → Bool) {sep : List α} (dropped : sep.filter p = []) (xs : List (List α)) :
    (sep.intercalate xs).filter p = (xs.map (·.filter p)).flatten := by
  induction xs with
  | nil => simp
  | cons x xs ih =>
    cases xs with
    | nil => simp
    | cons y ys =>
      rw [List.intercalate_cons_cons, List.filter_append, List.filter_append, dropped, ih]
      simp

theorem mem_intercalate {c : α} {sep : List α} {xs : List (List α)} (mem : c ∈ sep.intercalate xs) :
    c ∈ sep ∨ ∃ x ∈ xs, c ∈ x := by
  induction xs with
  | nil => simp at mem
  | cons x xs ih =>
    cases xs with
    | nil => simp only [List.intercalate_singleton] at mem; exact .inr ⟨x, List.mem_cons_self, mem⟩
    | cons y ys =>
      rw [List.intercalate_cons_cons] at mem
      simp only [List.mem_append] at mem
      rcases mem with (inX | inSep) | inRest
      · exact .inr ⟨x, List.mem_cons_self, inX⟩
      · exact .inl inSep
      · rcases ih inRest with inSep | ⟨z, inZs, inZ⟩
        · exact .inl inSep
        · exact .inr ⟨z, List.mem_cons_of_mem x inZs, inZ⟩

end Lines

theorem chunksOf_go_flatten (n : Nat) (pos : 0 < n) (fuel : Nat) (cs : List Char) (enough : cs.length < fuel) :
    ((chunksOf.go n cs fuel).map String.toList).flatten = cs := by
  induction fuel generalizing cs with
  | zero => omega
  | succ fuel ih =>
    cases cs with
    | nil => rfl
    | cons c cs =>
      simp only [chunksOf.go, List.isEmpty_cons, Bool.false_eq_true, if_false, List.map_cons, List.flatten_cons,
        String.toList_ofList]
      rw [ih _ (by simp at enough ⊢; omega), List.take_append_drop]

theorem chunksOf_go_cons {n : Nat} (pos : 0 < n) (fuel : Nat) (c : Char) (cs : List Char) :
    ∃ rest, chunksOf.go n (c :: cs) (fuel + 1) = String.ofList (c :: cs.take (n - 1)) :: rest := by
  obtain ⟨m, rfl⟩ : ∃ m, n = m + 1 := ⟨n - 1, by omega⟩
  exact ⟨_, rfl⟩

/-- The body lines of a text of 64-character lines, joined by line feeds, and dropping the line
feeds gives the text back. -/
theorem body_filter {cs : List Char} (noFeed : '\n' ∉ cs) :
    ("\n".intercalate (chunksOf 64 cs)).toList.filter (· != '\n') = cs := by
  rw [String.toList_intercalate, filter_intercalate _ (by decide), List.map_map]
  have keep : ∀ x ∈ (chunksOf 64 cs).map String.toList, x.filter (· != '\n') = x := by
    intro x member
    apply List.filter_eq_self.mpr
    intro c inX
    have inCs : c ∈ cs := by
      rw [← chunksOf_go_flatten 64 (by decide) (cs.length + 1) cs (by omega)]
      exact List.mem_flatten.mpr ⟨x, member, inX⟩
    simp only [bne_iff_ne, ne_eq]
    rintro rfl
    exact noFeed inCs
  rw [← List.map_map, List.map_congr_left keep, List.map_id']
  exact chunksOf_go_flatten 64 (by decide) (cs.length + 1) cs (by omega)

theorem mem_body {c : Char} {cs : List Char} (mem : c ∈ ("\n".intercalate (chunksOf 64 cs)).toList) :
    c = '\n' ∨ c ∈ cs := by
  rw [String.toList_intercalate] at mem
  rcases mem_intercalate mem with inSep | ⟨x, member, inX⟩
  · exact .inl (by simpa using inSep)
  · refine .inr ?_
    rw [← chunksOf_go_flatten 64 (by decide) (cs.length + 1) cs (by omega)]
    exact List.mem_flatten.mpr ⟨x, member, inX⟩

theorem body_cons (c : Char) (cs : List Char) :
    ∃ rest, ("\n".intercalate (chunksOf 64 (c :: cs))).toList = c :: rest := by
  obtain ⟨chunks, split⟩ := chunksOf_go_cons (n := 64) (by decide) (c :: cs).length c cs
  rw [chunksOf, split, String.toList_intercalate]
  simp only [List.map_cons, String.toList_ofList, List.intercalate_cons_cons_left]
  exact ⟨_, rfl⟩

theorem body_nil : ("\n".intercalate (chunksOf 64 [])).toList = [] := rfl

/-! ## The characters of a body -/

/-- A body holds line feeds, padding and symbols. -/
def BodyChar (c : Char) : Prop := c = '\n' ∨ c = '=' ∨ ∃ v, c = Base64.symbol v

theorem bodyChar_of_mem_encodeList {c : Char} {l : List UInt8} (mem : c ∈ Base64.encodeList l) : BodyChar c :=
  .inr (Base64.mem_encodeList mem)

theorem bodyChar_of_mem_body {c : Char} {l : List UInt8}
    (mem : c ∈ ("\n".intercalate (chunksOf 64 (Base64.encodeList l))).toList) : BodyChar c := by
  rcases mem_body mem with feed | inText
  · exact .inl feed
  · exact bodyChar_of_mem_encodeList inText

/-- What the bytes of body characters are: ASCII, body bytes, and a line break only for the line
feed. -/
theorem BodyChar.bytes {c : Char} (body : BodyChar c) :
    c.toNat < 128 ∧ isBodyByte c.toUInt8 = true ∧ c.toUInt8 ≠ 45 ∧ c.toUInt8 ≠ 58 ∧
      ((c.toUInt8 == 10 || c.toUInt8 == 13) = true ↔ c = '\n') := by
  rcases body with rfl | rfl | ⟨v, rfl⟩
  · decide
  · decide
  · obtain ⟨isBody, -, lf, cr, -, dash, colon, -⟩ := Armor.symbol_byte v
    refine ⟨Base64.symbol_ascii v, isBody, dash, colon, ?_⟩
    constructor
    · intro broken
      simp [lf, cr] at broken
    · intro feed
      exact absurd (congrArg Char.toUInt8 feed) lf

theorem encodeList_bytes (l : List UInt8) :
    (String.ofList (Base64.encodeList l)).toUTF8.data.toList = (Base64.encodeList l).map Char.toUInt8 := by
  rw [toUTF8_of_ascii (fun c mem => ?_), String.toList_ofList]
  rw [String.toList_ofList] at mem
  exact (bodyChar_of_mem_encodeList mem).bytes.1

theorem encode_bytes (d : ByteArray) :
    (Base64.encode d).toUTF8.data.toList = (Base64.encodeList d.data.toList).map Char.toUInt8 := by
  rw [← encodeList_bytes, ← Base64.encode_toList, String.ofList_toList]

theorem body_bytes (l : List UInt8) :
    ("\n".intercalate (chunksOf 64 (Base64.encodeList l))).toUTF8.data.toList =
      ("\n".intercalate (chunksOf 64 (Base64.encodeList l))).toList.map Char.toUInt8 :=
  toUTF8_of_ascii fun _ mem => (bodyChar_of_mem_body mem).bytes.1

/-- Dropping the line breaks of a body's bytes leaves the bytes of the encoding. -/
theorem body_bytes_filter (l : List UInt8) :
    (("\n".intercalate (chunksOf 64 (Base64.encodeList l))).toUTF8.data.toList).filter
      (fun b => !(b == 10 || b == 13)) = (Base64.encodeList l).map Char.toUInt8 := by
  have noFeed : '\n' ∉ Base64.encodeList l := fun mem => by
    rcases Base64.mem_encodeList mem with padding | ⟨v, symbol⟩
    · exact absurd padding (by decide)
    · exact (symbol_byte v).2.2.1 (by rw [← symbol]; rfl)
  have same : ("\n".intercalate (chunksOf 64 (Base64.encodeList l))).toList.filter
      ((fun b => !(b == 10 || b == 13)) ∘ Char.toUInt8) =
      ("\n".intercalate (chunksOf 64 (Base64.encodeList l))).toList.filter (· != '\n') := by
    apply List.filter_congr
    intro c mem
    have breaks := (bodyChar_of_mem_body mem).bytes.2.2.2.2
    simp only [Function.comp_apply]
    by_cases feed : c = '\n'
    · subst feed
      rfl
    · have kept : (c.toUInt8 == 10 || c.toUInt8 == 13) = false := by
        cases broken : (c.toUInt8 == 10 || c.toUInt8 == 13)
        · rfl
        · exact absurd (breaks.mp broken) feed
      rw [kept]
      simp [feed]
  rw [body_bytes, List.filter_map, same, body_filter noFeed]

/-- The bytes of a body are body bytes, and none is a dash or a colon. -/
theorem body_bytes_mem {l : List UInt8} {b : UInt8}
    (member : b ∈ ("\n".intercalate (chunksOf 64 (Base64.encodeList l))).toUTF8.data.toList) :
    isBodyByte b = true ∧ b ≠ 45 ∧ b ≠ 58 := by
  rw [body_bytes] at member
  obtain ⟨c, mem, rfl⟩ := List.mem_map.mp member
  obtain ⟨-, isBody, dash, colon, -⟩ := (bodyChar_of_mem_body mem).bytes
  exact ⟨isBody, dash, colon⟩

theorem not_break {b : UInt8} (lf : b ≠ 10) (cr : b ≠ 13) : (b == 10 || b == 13) = false := by
  simp [lf, cr]

/-- The checksum symbols are body bytes, and none is a dash, a colon or a line break. -/
theorem checksum_bytes_mem {x y z b : UInt8} (member : b ∈ (Base64.encodeList [x, y, z]).map Char.toUInt8) :
    isBodyByte b = true ∧ b ≠ 45 ∧ b ≠ 58 ∧ (b == 10 || b == 13) = false := by
  obtain ⟨c, mem, rfl⟩ := List.mem_map.mp member
  simp only [Base64.encodeList, Base64.quad, List.append_nil, List.mem_cons, List.not_mem_nil, or_false] at mem
  rcases mem with rfl | rfl | rfl | rfl
  all_goals
    obtain ⟨isBody, -, lf, cr, -, dash, colon, -⟩ := symbol_byte _
    exact ⟨isBody, dash, colon, not_break lf cr⟩

/-! ## The text of a block -/

/-- The bytes of the header field lines a block is written with. -/
def fieldLines (hs : List (String × String)) : List UInt8 :=
  (String.join (hs.map fun h => h.1 ++ ": " ++ h.2 ++ "\n")).toUTF8.data.toList

theorem fieldLines_nil : fieldLines [] = [] := rfl

theorem write_bytes_fields (kind : BlockKind) (hs : List (String × String)) (d : ByteArray) :
    (write kind hs d).toUTF8.data.toList =
      "-----".toUTF8.data.toList ++ ("BEGIN ".toUTF8.data.toList ++ (kind.label.toUTF8.data.toList ++
        ("-----".toUTF8.data.toList ++ 10 :: (fieldLines hs ++ 10 ::
          (("\n".intercalate (chunksOf 64 (Base64.encode d).toList)).toUTF8.data.toList ++
          10 :: 61 :: ((Base64.encode ⟨#[(Crc24.checksum d / 65536).toUInt8, (Crc24.checksum d / 256).toUInt8,
            (Crc24.checksum d).toUInt8]⟩).toUTF8.data.toList ++
          10 :: ("-----END " ++ kind.label ++ "-----\n").toUTF8.data.toList)))))) := by
  have opening : "-----BEGIN ".toUTF8.data.toList = "-----".toUTF8.data.toList ++ "BEGIN ".toUTF8.data.toList := by
    decide
  have closing : "-----\n".toUTF8.data.toList = "-----".toUTF8.data.toList ++ [10] := by decide
  have feed : "\n".toUTF8.data.toList = [10] := by decide
  have pad : "\n=".toUTF8.data.toList = [10, 61] := by decide
  have ending : "\n-----END ".toUTF8.data.toList = 10 :: "-----END ".toUTF8.data.toList := by decide
  unfold write
  simp only [String.toUTF8] at opening closing feed pad ending ⊢
  simp only [String.toByteArray_append, ByteArray.data_append, Array.toList_append, List.append_assoc, opening,
    closing, feed, pad, ending, List.cons_append, List.nil_append]
  -- the writer's header lines are the field lines, the pair taken apart by its projections
  rfl

theorem write_bytes (kind : BlockKind) (d : ByteArray) :
    (write kind [] d).toUTF8.data.toList =
      "-----".toUTF8.data.toList ++ ("BEGIN ".toUTF8.data.toList ++ (kind.label.toUTF8.data.toList ++
        ("-----".toUTF8.data.toList ++ 10 :: 10 :: (("\n".intercalate (chunksOf 64 (Base64.encode d).toList)).toUTF8.data.toList ++
          10 :: 61 :: ((Base64.encode ⟨#[(Crc24.checksum d / 65536).toUInt8, (Crc24.checksum d / 256).toUInt8,
            (Crc24.checksum d).toUInt8]⟩).toUTF8.data.toList ++
          10 :: ("-----END " ++ kind.label ++ "-----\n").toUTF8.data.toList))))) := by
  rw [write_bytes_fields, fieldLines_nil, List.nil_append]

/-- The bytes of a written block with its body and checksum spelled as base64 symbols. -/
theorem write_symbols_fields (kind : BlockKind) (hs : List (String × String)) (d : ByteArray) :
    (write kind hs d).toUTF8.data.toList =
      "-----".toUTF8.data.toList ++ ("BEGIN ".toUTF8.data.toList ++ (kind.label.toUTF8.data.toList ++
        ("-----".toUTF8.data.toList ++ 10 :: (fieldLines hs ++ 10 ::
          (("\n".intercalate (chunksOf 64 (Base64.encodeList d.data.toList))).toUTF8.data.toList ++
          10 :: 61 :: ((Base64.encodeList [(Crc24.checksum d / 65536).toUInt8, (Crc24.checksum d / 256).toUInt8,
            (Crc24.checksum d).toUInt8]).map Char.toUInt8 ++
          10 :: ("-----END " ++ kind.label ++ "-----\n").toUTF8.data.toList)))))) := by
  have three : (⟨#[(Crc24.checksum d / 65536).toUInt8, (Crc24.checksum d / 256).toUInt8,
      (Crc24.checksum d).toUInt8]⟩ : ByteArray).data.toList = [(Crc24.checksum d / 65536).toUInt8,
      (Crc24.checksum d / 256).toUInt8, (Crc24.checksum d).toUInt8] := rfl
  rw [write_bytes_fields, encode_bytes, Base64.encode_toList, three]

theorem write_symbols (kind : BlockKind) (d : ByteArray) :
    (write kind [] d).toUTF8.data.toList =
      "-----".toUTF8.data.toList ++ ("BEGIN ".toUTF8.data.toList ++ (kind.label.toUTF8.data.toList ++
        ("-----".toUTF8.data.toList ++ 10 :: 10 ::
          (("\n".intercalate (chunksOf 64 (Base64.encodeList d.data.toList))).toUTF8.data.toList ++
          10 :: 61 :: ((Base64.encodeList [(Crc24.checksum d / 65536).toUInt8, (Crc24.checksum d / 256).toUInt8,
            (Crc24.checksum d).toUInt8]).map Char.toUInt8 ++
          10 :: ("-----END " ++ kind.label ++ "-----\n").toUTF8.data.toList))))) := by
  rw [write_symbols_fields, fieldLines_nil, List.nil_append]

theorem footerLine_absent {kind : BlockKind} (simple : kind.carriesPackets = true) :
    (58 : UInt8) ∉ ("-----END " ++ kind.label ++ "-----\n").toUTF8.data.toList := by
  cases kind <;> first | decide | simp [BlockKind.carriesPackets] at simple

/-! ## Reading a written block -/

/-- A key, message or signature block reads as `d` when, after its header line, header fields that
the reader takes to their end and some line feeds, its bytes are a body spelling the base64 of `d`
and the checksum symbols of `d`, and then the footer line, with any text after it. -/
theorem readBlock_of_text_fields {t : ByteArray} {kind : BlockKind} (simple : kind.carriesPackets = true)
    (d : ByteArray) {fieldBytes feeds : List UInt8} {x : UInt8} {r body tail : List UInt8} (read : FieldsRead fieldBytes)
    (only : ∀ y ∈ feeds, y = 10) (notSpace : x ≠ 32) (notTab : x ≠ 9) (notLf : x ≠ 10) (notCr : x ≠ 13)
    (absent : (58 : UInt8) ∉ x :: r)
    (layout : t.data.toList = "-----".toUTF8.data.toList ++ ("BEGIN ".toUTF8.data.toList ++
      (kind.label.toUTF8.data.toList ++ ("-----".toUTF8.data.toList ++ 10 :: (fieldBytes ++ (feeds ++ x :: r))))))
    (split : x :: r = body ++ (("-----END " ++ kind.label ++ "-----\n").toUTF8.data.toList ++ tail))
    (inBody : ∀ b ∈ body, isBodyByte b = true)
    (symbols : body.filter (fun b => !(b == 10 || b == 13)) = (Base64.encodeList d.data.toList).map Char.toUInt8 ++
      61 :: (Base64.encodeList [(Crc24.checksum d / 65536).toUInt8, (Crc24.checksum d / 256).toUInt8,
        (Crc24.checksum d).toUInt8]).map Char.toUInt8) :
    readBlock t = .ok ⟨kind, d⟩ := by
  have afterLine := drop_headerLine layout
  have fieldsEnd := read t _ _ afterLine (by
    intro member
    rcases List.mem_append.mp member with inFeeds | inRest
    · exact absurd (only 58 inFeeds) (by decide)
    · exact absent inRest)
  have header := readHeader_of_fields simple only notSpace notTab notLf notCr layout fieldsEnd
  have start : t.data.toList.drop (17 + kind.label.toUTF8.size + fieldBytes.length + feeds.length) = x :: r := by
    rw [Nat.add_assoc, ← List.drop_drop, afterLine, ← List.append_assoc, List.drop_left']
    simp
  exact readBlock_of_layout simple d _ _ _ (Crc24.bytes_spell d) header (by rw [start, split]) inBody symbols


/-- A key, message or signature block written with header fields that the reader takes to their end
reads back as its kind and data, whatever text without a colon follows it. -/
theorem readBlock_write_fields_append {kind : BlockKind} (simple : kind.carriesPackets = true)
    {hs : List (String × String)} (read : FieldsRead (fieldLines hs)) (d tail : ByteArray)
    (noColon : (58 : UInt8) ∉ tail.data.toList) :
    readBlock ((write kind hs d).toUTF8 ++ tail) = .ok ⟨kind, d⟩ := by
  have layout := write_symbols_fields kind hs d
  set sum := (Base64.encodeList [(Crc24.checksum d / 65536).toUInt8, (Crc24.checksum d / 256).toUInt8,
    (Crc24.checksum d).toUInt8]).map Char.toUInt8 with sumIs
  set foot := ("-----END " ++ kind.label ++ "-----\n").toUTF8.data.toList with footIs
  set body := ("\n".intercalate (chunksOf 64 (Base64.encodeList d.data.toList))).toUTF8.data.toList with bodyIs
  set after := tail.data.toList with afterIs
  have joined : ((write kind hs d).toUTF8 ++ tail).data.toList = (write kind hs d).toUTF8.data.toList ++ after := by
    rw [ByteArray.data_append, Array.toList_append]
  have noColon' : (58 : UInt8) ∉ sum ++ 10 :: (foot ++ after) := by
    simp only [List.mem_append, List.mem_cons, not_or]
    exact ⟨fun member => (checksum_bytes_mem member).2.2.1 rfl, by decide, footerLine_absent simple, noColon⟩
  have sumKept : sum.filter (fun b => !(b == 10 || b == 13)) = sum :=
    List.filter_eq_self.mpr fun b member => by simp only [(checksum_bytes_mem member).2.2.2, Bool.not_false]
  have sumBody : ∀ b ∈ sum, isBodyByte b = true := fun b member => (checksum_bytes_mem member).1
  have filtered : body.filter (fun b => !(b == 10 || b == 13)) = (Base64.encodeList d.data.toList).map Char.toUInt8 :=
    body_bytes_filter d.data.toList
  cases bytes : d.data.toList with
  | nil =>
    -- nothing to encode: the body is empty and a second blank line comes before the checksum
    have empty : body = [] := by
      rw [bodyIs, bytes]
      rfl
    have text : ((write kind hs d).toUTF8 ++ tail).data.toList = "-----".toUTF8.data.toList ++
        ("BEGIN ".toUTF8.data.toList ++ (kind.label.toUTF8.data.toList ++ ("-----".toUTF8.data.toList ++
          10 :: (fieldLines hs ++ ([10, 10] ++ 61 :: (sum ++ 10 :: (foot ++ after))))))) := by
      rw [joined, layout, empty]
      simp
    have split : 61 :: (sum ++ 10 :: (foot ++ after)) = (61 :: sum ++ [10]) ++ (foot ++ after) := by
      simp only [List.cons_append, List.append_assoc, List.nil_append]
    refine readBlock_of_text_fields simple d read (by simp) (by decide) (by decide) (by decide) (by decide)
      (by simpa using noColon') text split ?_ ?_
    · intro b member
      simp only [List.cons_append, List.mem_cons, List.mem_append, List.not_mem_nil, or_false] at member
      rcases member with rfl | inSum | rfl
      · rfl
      · exact sumBody b inSum
      · rfl
    · rw [bytes, List.filter_append, List.filter_cons_of_pos rfl, sumKept]
      rfl
  | cons a l =>
    -- the body starts with a symbol, right after the blank line
    obtain ⟨v, restE, encoded⟩ := Base64.encodeList_cons a l
    obtain ⟨rest, lines⟩ := body_cons (Base64.symbol v) restE
    have first : (Base64.symbol v).toUInt8 :: rest.map Char.toUInt8 = body := by
      rw [bodyIs, body_bytes, bytes, encoded, lines]
      rfl
    have text : ((write kind hs d).toUTF8 ++ tail).data.toList = "-----".toUTF8.data.toList ++
        ("BEGIN ".toUTF8.data.toList ++ (kind.label.toUTF8.data.toList ++ ("-----".toUTF8.data.toList ++
          10 :: (fieldLines hs ++ ([10] ++ (Base64.symbol v).toUInt8 ::
            (rest.map Char.toUInt8 ++ 10 :: 61 :: (sum ++ 10 :: (foot ++ after)))))))) := by
      rw [joined, layout, ← first]
      simp
    have split : (Base64.symbol v).toUInt8 :: (rest.map Char.toUInt8 ++ 10 :: 61 :: (sum ++ 10 :: (foot ++ after))) =
        (body ++ 10 :: 61 :: sum ++ [10]) ++ (("-----END " ++ kind.label ++ "-----\n").toUTF8.data.toList ++ after) := by
      rw [← first]
      simp only [List.cons_append, List.append_assoc, List.nil_append]
      rfl
    have absent : (58 : UInt8) ∉ (Base64.symbol v).toUInt8 ::
        (rest.map Char.toUInt8 ++ 10 :: 61 :: (sum ++ 10 :: (foot ++ after))) := by
      rw [split, ← footIs]
      simp only [List.append_assoc, List.cons_append, List.nil_append, List.mem_append, List.mem_cons, not_or]
      refine ⟨fun member => (body_bytes_mem member).2.2 rfl, by decide, by decide, ?_⟩
      simpa using noColon'
    obtain ⟨-, tab, lf, cr, space, -⟩ := symbol_byte v
    refine readBlock_of_text_fields simple d read (by simp) space tab lf cr absent text split ?_ ?_
    · intro b member
      simp only [List.mem_append, List.mem_cons, List.not_mem_nil, or_false] at member
      rcases member with (inBody | rfl | rfl | inSum) | rfl
      · exact (body_bytes_mem inBody).1
      · rfl
      · rfl
      · exact sumBody b inSum
      · rfl
    · rw [List.filter_append, List.filter_append, filtered, List.filter_cons_of_neg (by decide),
        List.filter_cons_of_pos rfl, sumKept, bytes, List.filter_cons_of_neg (by decide), List.filter_nil,
        List.append_nil]

/-- A key, message or signature block written without header fields reads back as its kind and
data, whatever text without a colon follows it. -/
theorem readBlock_write_append {kind : BlockKind} (simple : kind.carriesPackets = true) (d tail : ByteArray)
    (noColon : (58 : UInt8) ∉ tail.data.toList) :
    readBlock ((write kind [] d).toUTF8 ++ tail) = .ok ⟨kind, d⟩ :=
  readBlock_write_fields_append simple (by rw [fieldLines_nil]; exact fieldsRead_nil) d tail noColon

/-- A key, message or signature block written without header fields reads back as its kind and
data. -/
theorem readBlock_write {kind : BlockKind} (simple : kind.carriesPackets = true) (d : ByteArray) :
    readBlock (write kind [] d).toUTF8 = .ok ⟨kind, d⟩ := by
  simpa [ByteArray.append_empty] using readBlock_write_append simple d ByteArray.empty (by simp)

end Armor

end SealedMail

import Mathlib
import SealedMail.Proofs.ArmorFields
import SealedMail.Proofs.KeyPackets

/-! # Text around armored blocks

Armored text is cut at every header mark and each piece is read on its own, so the text after a
block belongs to the piece of that block. Text before the first block is dropped when it starts
no block (`readAll_markFree_append`). Text after a block is passed over by the footer, but the
header of the block looks for fields in the whole piece: a field is found by searching the rest
of the piece for a colon followed by a line break or a space.

So key, message and signature blocks, each with at most one header field that the reader takes
whole, read back with text around them when that text starts no block and holds no colon
(`readAll_separated`), but a line such as `A: b` after a block is taken for a field of that
block's header, after which the header runs out of text (`colon_separator_breaks_blocks`).
-/

namespace SealedMail.Armor

/-- Text that starts no block adds no block start before the starts of what follows it. -/
theorem blockStarts_markFree_append {a b : ByteArray} (free : MarkFree a.data.toList) :
    blockStarts (a ++ b) = (blockStarts b).map (a.size + ·) := by
  have before : (List.range a.size).filter (Bytes.matchesAt (a ++ b) beginMark) = [] := by
    apply List.filter_eq_nil_iff.mpr
    intro j member
    have inside := List.mem_range.mp member
    rw [Bool.not_eq_true, Bool.eq_false_iff, ne_eq, Bytes.matchesAt_iff (by rw [beginMark_size]; decide),
      ByteArray.data_append, Array.toList_append,
      List.drop_append_of_le_length (by rw [Bytes.length_toList]; exact inside.le)]
    exact free j (by rw [Bytes.length_toList]; exact inside) _
  rw [blockStarts, ByteArray.size_append, List.range_add, List.filter_append, before, List.nil_append,
    List.filter_map, blockStarts]
  congr 1
  apply List.filter_congr
  intro j _
  exact matchesAt_append_right a b j

/-- Text that starts no block is dropped before the blocks that follow it. -/
theorem readAll_markFree_append {a b : ByteArray} (free : MarkFree a.data.toList) :
    readAll (a ++ b) = readAll b := by
  unfold readAll
  simp only []
  rw [blockStarts_markFree_append free, ByteArray.size_append, zip_shift, List.mapM_map]
  simp only [Function.comp_def, Prod.map, extract_append_right]

/-- A key, message or signature block whose field lines start no block, followed by text that
starts no block, opens a piece of its own. -/
theorem opensBlock_write_append {kind : BlockKind} (simple : kind.carriesPackets = true) {hs : List (String × String)}
    (fieldsFree : MarkFree (fieldLines hs)) (d : ByteArray) {sep : ByteArray}
    (free : MarkFree sep.data.toList) : OpensBlock ((write kind hs d).toUTF8 ++ sep).data.toList := by
  have block := opensBlock_write_fields simple fieldsFree d
  have nonempty : (write kind hs d).toUTF8.data.toList ≠ [] := by
    intro empty
    have := block.opens.length_le
    rw [empty, Bytes.length_toList, beginMark_size] at this
    cases this
  rw [ByteArray.data_append, Array.toList_append]
  exact ⟨block.opens.trans (List.prefix_append _ _), by
    rw [List.tail_append_of_ne_nil nonempty]
    exact block.once.append free⟩

/-- Key, message and signature blocks, each written with at most one header field that fits,
read back in order from text in which each is followed by a separator, and the whole is preceded
by a lead, when neither lead nor separators start a block and the separators hold no colon. -/
theorem readAll_separated (lead : ByteArray)
    (blocks : List (BlockKind × Option (String × String) × ByteArray × ByteArray))
    (packets : ∀ b ∈ blocks, b.1.carriesPackets = true) (headers : ∀ b ∈ blocks, ∀ h ∈ b.2.1, FieldFits h)
    (leadFree : MarkFree lead.data.toList)
    (separated : ∀ b ∈ blocks, MarkFree b.2.2.2.data.toList ∧ (58 : UInt8) ∉ b.2.2.2.data.toList) :
    readAll (lead ++ Bytes.concat (blocks.map fun b => (write b.1 b.2.1.toList b.2.2.1).toUTF8 ++ b.2.2.2)) =
      .ok (blocks.map fun b => ⟨b.1, b.2.2.1⟩) := by
  have opens : ∀ a ∈ blocks.map (fun b => (write b.1 b.2.1.toList b.2.2.1).toUTF8 ++ b.2.2.2),
      OpensBlock a.data.toList := by
    intro a member
    obtain ⟨b, inBlocks, rfl⟩ := List.mem_map.mp member
    exact opensBlock_write_append (packets b inBlocks) (markFree_of_fits (headers b inBlocks)) b.2.2.1
      (separated b inBlocks).1
  rw [readAll_markFree_append leadFree, readAll_concat _ opens, List.mapM_map]
  apply mapM_eq_ok
  intro b inBlocks
  rw [Function.comp_apply]
  exact readBlock_write_fields_append (packets b inBlocks) (fieldsRead_of_fits (headers b inBlocks)) b.2.2.1 b.2.2.2
    (separated b inBlocks).2

/-- A public key with a comment, a message and a signature with a version line, after a line of
text and with lines of text between them, read back. -/
theorem key_message_signature_between_plain_lines :
    readAll ("Keys\n".toUTF8 ++ Bytes.concat ([(BlockKind.publicKey, some ("Comment", "key of alice"),
        ByteArray.mk #[1], "between them\n".toUTF8),
      (BlockKind.message, none, ByteArray.mk #[2], "and\n".toUTF8),
      (BlockKind.signature, some ("Version", "1"), ByteArray.mk #[3], ByteArray.empty)].map
        fun b => (write b.1 b.2.1.toList b.2.2.1).toUTF8 ++ b.2.2.2)) =
      .ok [⟨.publicKey, ByteArray.mk #[1]⟩, ⟨.message, ByteArray.mk #[2]⟩, ⟨.signature, ByteArray.mk #[3]⟩] := by
  refine readAll_separated _ _ ?_ ?_ (markFree_of_check (by decide)) ?_
  · intro b member
    simp only [List.mem_cons, List.not_mem_nil, or_false] at member
    rcases member with rfl | rfl | rfl <;> rfl
  · intro b member h inHeader
    simp only [List.mem_cons, List.not_mem_nil, or_false] at member
    -- the two headers are checked character by character
    rcases member with rfl | rfl | rfl
    · obtain rfl := Option.mem_some_iff.mp inHeader
      exact ⟨by decide, by decide, by decide, by decide, by decide, by decide⟩
    · cases inHeader
    · obtain rfl := Option.mem_some_iff.mp inHeader
      exact ⟨by decide, by decide, by decide, by decide, by decide, by decide⟩
  · intro b member
    simp only [List.mem_cons, List.not_mem_nil, or_false] at member
    rcases member with rfl | rfl | rfl
    · exact ⟨markFree_of_check (by decide), by decide⟩
    · exact ⟨markFree_of_check (by decide), by decide⟩
    · exact ⟨markFree_nil, by decide⟩

set_option maxRecDepth 20000 in
/-- A line with a colon and a space after a block is taken for a header field of the block, and
reading fails. -/
theorem colon_separator_breaks_blocks :
    (readAll ((write .publicKey [] (ByteArray.mk #[1])).toUTF8 ++ "A: b\n".toUTF8)).isOk = false := by
  with_unfolding_all decide

end SealedMail.Armor

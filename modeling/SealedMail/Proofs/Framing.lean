import Mathlib
import SealedMail.Packet.Body
import SealedMail.Proofs.ByteStrings

/-! # Reading written packets back

A packet written with a header (`Header.packet`) whose body fits the four-byte length
(`Header.maxBodyLength`), and whose tag fits the four bits of the old format when the header is
old, is framed exactly by its header (`Header.Frames`): read at its first byte, the header gives
back its format, the tag, the body length and its own size, whatever follows the header
(`Header.read_write_new` for the new format, `Header.read_write_old` for the old,
`Header.read_write_framed` for either). The header reader looks only at the bytes from its
position on, so this holds wherever the packet stands in a longer string
(`Header.read_append_size_add`).

A run of such packets is therefore split back into the same bodies, whatever they hold: the
packet reader hands each body to the body reader in turn (`PacketStream.read_writtenFramed`),
and the framing guard passes (`Header.checkFraming_writtenFramed`). For packets of the library
this reads every written packet with the reader of its own tag and format
(`Packet.readAll_write`, and `Packet.readAll_writeNew` for packets written with new headers).
-/

namespace SealedMail

namespace Header

/-! ## One header -/

theorem numberAt_eq {b : ByteArray} {i n : Nat} (h : i + n ≤ b.size) :
    numberAt b i n = some (Bytes.toNatBE (b.extract i (i + n))) := by
  rw [numberAt, if_pos h]
  rfl

/-- A body length in one byte. -/
theorem newLength_of_small {b : ByteArray} {i : Nat} {y : UInt8} (first : b[i]? = some y)
    (small : y.toNat < 192) : newLength b i = some (.fixed y.toNat, 1) := by
  simp [newLength, first, small]

/-- A body length in two bytes. -/
theorem newLength_of_pair {b : ByteArray} {i : Nat} {y z : UInt8} (first : b[i]? = some y)
    (second : b[i + 1]? = some z) (low : 192 ≤ y.toNat) (high : y.toNat < 224) :
    newLength b i = some (.fixed ((y.toNat - 192) * 256 + z.toNat + 192), 2) := by
  simp [newLength, first, second, high, show ¬ y.toNat < 192 by omega]

/-- A body length in four bytes after the marker byte 255. -/
theorem newLength_of_word {b : ByteArray} {i : Nat} (first : b[i]? = some 255) (inside : i + 5 ≤ b.size) :
    newLength b i = some (.fixed (Bytes.toNatBE (b.extract (i + 1) (i + 5))), 5) := by
  simp [newLength, first, numberAt_eq (show i + 1 + 4 ≤ b.size by omega)]

/-! ## The length bytes of a written header -/

theorem newLength_one_byte (x y : UInt8) (rest : ByteArray) (small : y.toNat < 192) :
    newLength (ByteArray.mk #[x, y] ++ rest) 1 = some (.fixed y.toNat, 1) :=
  newLength_of_small (by rw [Bytes.getElem?_append_left (by simp [ByteArray.size])]; rfl) small

theorem newLength_two_bytes (x y z : UInt8) (rest : ByteArray) (low : 192 ≤ y.toNat) (high : y.toNat < 224) :
    newLength (ByteArray.mk #[x, y, z] ++ rest) 1 = some (.fixed ((y.toNat - 192) * 256 + z.toNat + 192), 2) :=
  newLength_of_pair (by rw [Bytes.getElem?_append_left (by simp [ByteArray.size])]; rfl)
    (by rw [Bytes.getElem?_append_left (by simp [ByteArray.size])]; rfl) low high

theorem newLength_word_bytes (x a b c d : UInt8) (rest : ByteArray) :
    newLength (ByteArray.mk #[x, 255, a, b, c, d] ++ rest) 1 =
      some (.fixed (((a.toNat * 256 + b.toNat) * 256 + c.toNat) * 256 + d.toNat), 5) := by
  have word : (ByteArray.mk #[x, 255, a, b, c, d] ++ rest).extract (1 + 1) (1 + 5) = ByteArray.mk #[a, b, c, d] := by
    rw [Bytes.extract_append_of_le (show 1 + 5 ≤ (ByteArray.mk #[x, 255, a, b, c, d]).size from
      Nat.le_of_eq rfl)]
    rfl
  rw [newLength_of_word (by rw [Bytes.getElem?_append_left (by simp [ByteArray.size])]; rfl)
    (by rw [ByteArray.size_append]; exact Nat.le_add_right_of_le (Nat.le_of_eq rfl)), word, Bytes.toNatBE_eq]
  simp

/-- The first byte of a new-format header: the top two bits and the tag's six bits. -/
theorem get!_write_new (t : PacketTag) (len : Nat) (rest : ByteArray) :
    (write .new t len ++ rest).get! 0 = (0xc0 + t.toNat % 64).toUInt8 := by
  unfold write
  split_ifs <;> (rw [Bytes.get!_append_left (by simp [ByteArray.size])]; rfl)

theorem size_write_new (t : PacketTag) (len : Nat) :
    (write .new t len).size = if len < 192 then 2 else if len < 8384 then 3 else 6 := by
  unfold write
  split_ifs <;> rfl

/-- The length a new-format header writes reads back, for every length of at most four bytes. -/
theorem newLength_write (t : PacketTag) {len : Nat} (fits : len ≤ maxBodyLength) (rest : ByteArray) :
    newLength (write .new t len ++ rest) 1 = some (.fixed len, (write .new t len).size - 1) := by
  have bound : len ≤ 4294967295 := fits
  rw [size_write_new]
  unfold write
  dsimp only
  split_ifs with one two
  · rw [newLength_one_byte _ _ _ (by simp; omega)]
    simp only [Nat.toUInt8_eq, UInt8.toNat_ofNat', Nat.reducePow]
    congr
    omega
  · rw [newLength_two_bytes _ _ _ _ (by simp; omega) (by simp; omega)]
    simp only [Nat.toUInt8_eq, UInt8.toNat_ofNat', Nat.reducePow]
    congr 3
    omega
  · rw [newLength_word_bytes]
    simp only [Nat.toUInt8_eq, UInt8.toNat_ofNat', Nat.pow_eq, Nat.reducePow]
    congr 3
    omega

/-- A new-format header read at its first byte, whatever follows it. -/
theorem read_write_new (t : PacketTag) {len : Nat} (fits : len ≤ maxBodyLength) (rest : ByteArray) :
    read (write .new t len ++ rest) 0 =
      .ok ⟨.new, PacketTag.ofNat (t.toNat % 64), .fixed len, (write .new t len).size⟩ := by
  have tagged : t.toNat % 64 < 64 := Nat.mod_lt _ (by decide)
  have first : ((write .new t len ++ rest).get! 0).toNat = 192 + t.toNat % 64 := by
    rw [get!_write_new]
    simp only [Nat.toUInt8_eq, UInt8.toNat_ofNat', Nat.reducePow]
    omega
  have long : 2 ≤ (write .new t len).size := by
    rw [size_write_new]
    split_ifs <;> omega
  rw [read, first, if_neg (by omega), if_pos (by omega), Nat.zero_add, newLength_write t fits]
  simp only
  congr 2
  · congr 1
    omega
  · omega

/-! ## Old-format headers -/

theorem numberAt_append_left {head : ByteArray} (rest : ByteArray) {i n : Nat} (inside : i + n ≤ head.size) :
    numberAt (head ++ rest) i n = some (Bytes.toNatBE (head.extract i (i + n))) := by
  rw [numberAt_eq (by rw [ByteArray.size_append]; omega), Bytes.extract_append_of_le inside]

theorem size_write_old (t : PacketTag) (len : Nat) :
    (write .old t len).size = if len < 256 then 2 else if len < 65536 then 3 else 5 := by
  unfold write
  split_ifs <;> rfl

/-- The first byte of an old-format header: the top bit, the tag's four bits and the size of
the length. -/
theorem get!_write_old (t : PacketTag) (len : Nat) (rest : ByteArray) (small : t.toNat < 16) :
    ((write .old t len ++ rest).get! 0).toNat =
      128 + t.toNat * 4 + if len < 256 then 0 else if len < 65536 then 1 else 2 := by
  unfold write
  dsimp only
  split_ifs <;>
  · rw [Bytes.get!_append_left (by simp [ByteArray.size])]
    show UInt8.toNat (Nat.toUInt8 _) = _
    simp only [Nat.toUInt8_eq, UInt8.toNat_ofNat']
    omega

/-- The length an old-format header writes reads back, for every length of at most four bytes. -/
theorem numberAt_write_old (t : PacketTag) {len : Nat} (fits : len ≤ maxBodyLength) (rest : ByteArray) :
    numberAt (write .old t len ++ rest) 1 ((write .old t len).size - 1) = some len := by
  have bound : len ≤ 4294967295 := fits
  have long : 2 ≤ (write .old t len).size := by
    rw [size_write_old]
    split_ifs <;> omega
  rw [numberAt_append_left rest (by omega), size_write_old]
  unfold write
  dsimp only
  split_ifs with one two
  · have word : (ByteArray.mk #[(0x80 + t.toNat * 4).toUInt8, len.toUInt8]).extract 1 (1 + (2 - 1)) =
        ByteArray.mk #[len.toUInt8] := rfl
    rw [word, Bytes.toNatBE_eq]
    simp
    omega
  · have word : (ByteArray.mk #[(0x81 + t.toNat * 4).toUInt8, (len / 256).toUInt8, len.toUInt8]).extract 1
        (1 + (3 - 1)) = ByteArray.mk #[(len / 256).toUInt8, len.toUInt8] := rfl
    rw [word, Bytes.toNatBE_eq]
    simp
    omega
  · have word : (ByteArray.mk #[(0x82 + t.toNat * 4).toUInt8, (len / Nat.pow 2 24).toUInt8,
        (len / Nat.pow 2 16).toUInt8, (len / 256).toUInt8, len.toUInt8]).extract 1 (1 + (5 - 1)) =
        ByteArray.mk #[(len / Nat.pow 2 24).toUInt8, (len / Nat.pow 2 16).toUInt8, (len / 256).toUInt8,
          len.toUInt8] := rfl
    rw [word, Bytes.toNatBE_eq]
    simp [Nat.pow_eq]
    omega

/-- An old-format header read at its first byte, for a tag of four bits, whatever follows it. -/
theorem read_write_old (t : PacketTag) {len : Nat} (small : t.toNat < 16) (fits : len ≤ maxBodyLength)
    (rest : ByteArray) :
    read (write .old t len ++ rest) 0 =
      .ok ⟨.old, PacketTag.ofNat (t.toNat % 64), .fixed len, (write .old t len).size⟩ := by
  have number := numberAt_write_old t fits rest
  rw [read, get!_write_old t len rest small]
  rw [size_write_old] at number ⊢
  -- the low two bits of the first byte say how many length bytes follow
  by_cases one : len < 256
  · simp only [if_pos one] at number ⊢
    simp only [show ¬ 128 + t.toNat * 4 + 0 < 128 by omega, show ¬ 128 + t.toNat * 4 + 0 ≥ 192 by omega,
      show (128 + t.toNat * 4 + 0) % 4 = 0 by omega, show (128 + t.toNat * 4 + 0) / 4 % 16 = t.toNat % 64 by omega,
      if_false, Nat.zero_add]
    rw [number]
  · by_cases two : len < 65536
    · simp only [if_neg one, if_pos two] at number ⊢
      simp only [show ¬ 128 + t.toNat * 4 + 1 < 128 by omega, show ¬ 128 + t.toNat * 4 + 1 ≥ 192 by omega,
        show (128 + t.toNat * 4 + 1) % 4 = 1 by omega,
        show (128 + t.toNat * 4 + 1) / 4 % 16 = t.toNat % 64 by omega, if_false, Nat.zero_add]
      rw [number]
    · simp only [if_neg one, if_neg two] at number ⊢
      simp only [show ¬ 128 + t.toNat * 4 + 2 < 128 by omega, show ¬ 128 + t.toNat * 4 + 2 ≥ 192 by omega,
        show (128 + t.toNat * 4 + 2) % 4 = 2 by omega,
        show (128 + t.toNat * 4 + 2) / 4 % 16 = t.toNat % 64 by omega, if_false, Nat.zero_add]
      rw [number]

/-! ## Reading from a position -/

theorem numberAt_append_size_add (a b : ByteArray) (i n : Nat) :
    numberAt (a ++ b) (a.size + i) n = numberAt b i n := by
  by_cases inside : i + n ≤ b.size
  · rw [numberAt_eq (by simp [ByteArray.size_append]; omega), numberAt_eq inside, Nat.add_assoc,
      ByteArray.extract_append_size_add]
  · rw [numberAt, numberAt, if_neg (by simp [ByteArray.size_append]; omega), if_neg inside]

theorem newLength_append_size_add (a b : ByteArray) (i : Nat) :
    newLength (a ++ b) (a.size + i) = newLength b i := by
  simp only [newLength, Nat.add_assoc, Bytes.getElem?_append_size_add, numberAt_append_size_add]

/-- The header reader sees only the bytes from its position on. -/
theorem read_append_size_add (a b : ByteArray) (i : Nat) : read (a ++ b) (a.size + i) = read b i := by
  simp only [read, Nat.add_assoc, Bytes.get!_append_size_add, newLength_append_size_add,
    numberAt_append_size_add]

/-! ## Headers of either format -/

/-- What a header of format `f` frames: a body whose length fits four bytes, and for the old
format a tag of four bits. -/
def Frames (f : HeaderFormat) (t : PacketTag) (body : ByteArray) : Prop :=
  body.size ≤ maxBodyLength ∧ (f = .old → t.toNat < 16)

theorem two_le_size_write (f : HeaderFormat) (t : PacketTag) (len : Nat) : 2 ≤ (write f t len).size := by
  cases f with
  | old => rw [size_write_old]; split_ifs <;> omega
  | new => rw [size_write_new]; split_ifs <;> omega

/-- A header of either format read at its first byte gives back its format, tag and body
length, whatever follows it. -/
theorem read_write_framed (f : HeaderFormat) (t : PacketTag) {len : Nat} (fits : len ≤ maxBodyLength)
    (small : f = .old → t.toNat < 16) (rest : ByteArray) :
    read (write f t len ++ rest) 0 = .ok ⟨f, PacketTag.ofNat (t.toNat % 64), .fixed len, (write f t len).size⟩ := by
  cases f with
  | old => exact read_write_old t (small rfl) fits rest
  | new => exact read_write_new t fits rest

/-- A header read at its first byte gives back its format, tag and body length. -/
theorem read_packet_framed (f : HeaderFormat) (t : PacketTag) (body rest : ByteArray)
    (framed : Frames f t body) :
    read (packet f t body ++ rest) 0 =
      .ok ⟨f, PacketTag.ofNat (t.toNat % 64), .fixed body.size, (write f t body.size).size⟩ := by
  rw [packet, ByteArray.append_assoc]
  exact read_write_framed f t framed.1 framed.2 (body ++ rest)

/-- A header read wherever its packet stands. -/
theorem read_packet_framed_at (pre : ByteArray) (f : HeaderFormat) (t : PacketTag) (body rest : ByteArray)
    (framed : Frames f t body) :
    read (pre ++ (packet f t body ++ rest)) pre.size =
      .ok ⟨f, PacketTag.ofNat (t.toNat % 64), .fixed body.size, (write f t body.size).size⟩ := by
  have shifted := read_append_size_add pre (packet f t body ++ rest) 0
  rw [Nat.add_zero] at shifted
  rw [shifted, read_packet_framed f t body rest framed]

/-- Packets written one after another, each with its header format, tag and body. -/
def writtenFramed (frames : List (HeaderFormat × PacketTag × ByteArray)) : ByteArray :=
  Bytes.concat (frames.map fun f => packet f.1 f.2.1 f.2.2)

theorem writtenFramed_cons (f : HeaderFormat × PacketTag × ByteArray)
    (frames : List (HeaderFormat × PacketTag × ByteArray)) :
    writtenFramed (f :: frames) = packet f.1 f.2.1 f.2.2 ++ writtenFramed frames := by
  rw [writtenFramed, List.map_cons, Bytes.concat_cons]
  rfl

/-- Every written packet takes at least its two header bytes. -/
theorem length_le_size_writtenFramed (frames : List (HeaderFormat × PacketTag × ByteArray)) :
    frames.length ≤ (writtenFramed frames).size := by
  induction frames with
  | nil => simp [writtenFramed]
  | cons f frames ih =>
    have header := two_le_size_write f.1 f.2.1 f.2.2.size
    rw [writtenFramed_cons, ByteArray.size_append, packet, ByteArray.size_append, List.length_cons]
    omega

/-- The framing guard passes over a run of written packets, from any position it reaches. -/
theorem checkFraming_go_writtenFramed (pre : ByteArray) (frames : List (HeaderFormat × PacketTag × ByteArray))
    (framed : ∀ f ∈ frames, Frames f.1 f.2.1 f.2.2) (fuel : Nat) :
    checkFraming.go (pre ++ writtenFramed frames) pre.size fuel = .ok () := by
  induction frames generalizing pre fuel with
  | nil =>
    cases fuel with
    | zero => rfl
    | succ fuel => simp [checkFraming.go, writtenFramed, ByteArray.append_empty]
  | cons f frames ih =>
    cases fuel with
    | zero => rfl
    | succ fuel =>
      have header := read_packet_framed_at pre f.1 f.2.1 f.2.2 (writtenFramed frames)
        (framed f List.mem_cons_self)
      have frame : fixedFrame? (pre ++ writtenFramed (f :: frames)) pre.size =
          some ((write f.1 f.2.1 f.2.2.size).size, f.2.2.size) := by
        rw [fixedFrame?, writtenFramed_cons, header]
      have sizes : (pre ++ writtenFramed (f :: frames)).size =
          pre.size + (write f.1 f.2.1 f.2.2.size).size + f.2.2.size + (writtenFramed frames).size := by
        simp only [writtenFramed_cons, packet, ByteArray.size_append]
        omega
      have long := two_le_size_write f.1 f.2.1 f.2.2.size
      have next := ih (pre ++ packet f.1 f.2.1 f.2.2) (fun g mem => framed g (List.mem_cons_of_mem f mem)) fuel
      rw [ByteArray.append_assoc, ← writtenFramed_cons] at next
      rw [checkFraming.go, if_pos (by omega), frame]
      simp only
      rw [if_neg (by simp only [Bool.or_eq_true, decide_eq_true_eq]; omega)]
      convert next using 2
      simp only [packet, ByteArray.size_append]
      omega


theorem checkFraming_writtenFramed (frames : List (HeaderFormat × PacketTag × ByteArray))
    (framed : ∀ f ∈ frames, Frames f.1 f.2.1 f.2.2) : checkFraming (writtenFramed frames) = .ok () := by
  have run := checkFraming_go_writtenFramed ByteArray.empty frames framed (writtenFramed frames).size
  rwa [ByteArray.empty_append] at run


/-- Packets written one after another with new-format headers, each a tag and a body. -/
def written (frames : List (PacketTag × ByteArray)) : ByteArray :=
  Bytes.concat (frames.map fun f => packet .new f.1 f.2)

@[simp] theorem written_nil : written [] = ByteArray.empty := rfl

theorem written_cons (f : PacketTag × ByteArray) (frames : List (PacketTag × ByteArray)) :
    written (f :: frames) = packet .new f.1 f.2 ++ written frames := by
  rw [written, List.map_cons, Bytes.concat_cons]
  rfl

theorem written_append (fs gs : List (PacketTag × ByteArray)) :
    written (fs ++ gs) = written fs ++ written gs := by
  rw [written, List.map_append, Bytes.concat_append]
  rfl

/-- New-format packets are framed packets whose headers are all new. -/
theorem written_eq_writtenFramed (frames : List (PacketTag × ByteArray)) :
    written frames = writtenFramed (frames.map fun f => (.new, f.1, f.2)) := by
  rw [written, writtenFramed, List.map_map]
  rfl

/-- A new-format header frames every body whose length fits four bytes. -/
theorem frames_new {frames : List (PacketTag × ByteArray)} (fits : ∀ f ∈ frames, f.2.size ≤ maxBodyLength) :
    ∀ g ∈ frames.map (fun f => (HeaderFormat.new, f.1, f.2)), Frames g.1 g.2.1 g.2.2 := by
  intro g member
  obtain ⟨f, inside, rfl⟩ := List.mem_map.mp member
  exact ⟨fits f inside, fun old => nomatch old⟩

theorem checkFraming_written (frames : List (PacketTag × ByteArray))
    (fits : ∀ f ∈ frames, f.2.size ≤ maxBodyLength) : checkFraming (written frames) = .ok () := by
  rw [written_eq_writtenFramed]
  exact checkFraming_writtenFramed _ (frames_new fits)

end Header

namespace PacketStream

/-- The entry the packet reader makes of a body reader's answer: a body cut short counts as
an incomplete packet. -/
def settle {α : Type} : PacketResult α → PacketResult α
  | .error (.incomplete _) => .error .packetIncomplete
  | r => r

/-- One packet of a written run: its entry is the body reader's answer on its body, and
reading goes on right after it. -/
theorem read_go_framed {α : Type} (parse : HeaderFormat → PacketTag → ByteArray → PacketResult α)
    (pre : ByteArray) (f : HeaderFormat) (t : PacketTag) (body rest : ByteArray) (framed : Header.Frames f t body)
    (fuel : Nat) :
    read.go parse (pre ++ (Header.packet f t body ++ rest)) pre.size (fuel + 1) =
      settle (parse f (PacketTag.ofNat (t.toNat % 64)) body) ::
        read.go parse (pre ++ (Header.packet f t body ++ rest))
          (pre.size + (Header.packet f t body).size) fuel := by
  have header := Header.read_packet_framed_at pre f t body rest framed
  have sizes : (pre ++ (Header.packet f t body ++ rest)).size =
      pre.size + (Header.write f t body.size).size + body.size + rest.size := by
    simp only [Header.packet, ByteArray.size_append]
    omega
  have long := Header.two_le_size_write f t body.size
  have bodyAt : (pre ++ (Header.packet f t body ++ rest)).extract
      (pre.size + (Header.write f t body.size).size)
      (pre.size + (Header.write f t body.size).size + body.size) = body := by
    rw [Nat.add_assoc, ByteArray.extract_append_size_add, Header.packet, ByteArray.append_assoc,
      Bytes.extract_middle]
  have after : pre.size + (Header.write f t body.size).size + body.size =
      pre.size + (Header.packet f t body).size := by
    simp only [Header.packet, ByteArray.size_append]
    omega
  rw [read.go, if_pos (by omega), header]
  simp only
  rw [if_neg (by omega), bodyAt, after]
  rfl

/-- Reading a run of written packets, from any position it reaches, gives one entry per
packet: the body reader's answer on its body. -/
theorem read_go_writtenFramed {α : Type} (parse : HeaderFormat → PacketTag → ByteArray → PacketResult α)
    (pre : ByteArray) (frames : List (HeaderFormat × PacketTag × ByteArray))
    (framed : ∀ f ∈ frames, Header.Frames f.1 f.2.1 f.2.2) (fuel : Nat) (enough : frames.length ≤ fuel) :
    read.go parse (pre ++ Header.writtenFramed frames) pre.size fuel =
      frames.map fun f => settle (parse f.1 (PacketTag.ofNat (f.2.1.toNat % 64)) f.2.2) := by
  induction frames generalizing pre fuel with
  | nil =>
    cases fuel with
    | zero => rfl
    | succ fuel => simp [read.go, Header.writtenFramed, ByteArray.append_empty]
  | cons f frames ih =>
    obtain ⟨fuel, rfl⟩ : ∃ k, fuel = k + 1 := ⟨fuel - 1, by simp at enough; omega⟩
    have next := ih (pre ++ Header.packet f.1 f.2.1 f.2.2) (fun g mem => framed g (List.mem_cons_of_mem f mem))
      fuel (by simp at enough; omega)
    rw [ByteArray.append_assoc, ByteArray.size_append] at next
    rw [Header.writtenFramed_cons, read_go_framed parse pre f.1 f.2.1 f.2.2 _ (framed f List.mem_cons_self), next,
      List.map_cons]

/-- The packet reader splits a run of written packets back into their bodies. -/
theorem read_writtenFramed {α : Type} (parse : HeaderFormat → PacketTag → ByteArray → PacketResult α)
    (frames : List (HeaderFormat × PacketTag × ByteArray)) (framed : ∀ f ∈ frames, Header.Frames f.1 f.2.1 f.2.2) :
    read parse (Header.writtenFramed frames) =
      frames.map fun f => settle (parse f.1 (PacketTag.ofNat (f.2.1.toNat % 64)) f.2.2) := by
  have run := read_go_writtenFramed parse ByteArray.empty frames framed ((Header.writtenFramed frames).size + 1)
    (by have := Header.length_le_size_writtenFramed frames; omega)
  rw [ByteArray.empty_append] at run
  exact run

/-- The packet reader splits a run of new-format packets back into their bodies. -/
theorem read_written {α : Type} (parse : HeaderFormat → PacketTag → ByteArray → PacketResult α)
    (frames : List (PacketTag × ByteArray)) (fits : ∀ f ∈ frames, f.2.size ≤ Header.maxBodyLength) :
    read parse (Header.written frames) =
      frames.map fun f => settle (parse .new (PacketTag.ofNat (f.1.toNat % 64)) f.2) := by
  rw [Header.written_eq_writtenFramed, read_writtenFramed _ _ (Header.frames_new fits), List.map_map]
  rfl

end PacketStream

/-- The tag of a packet reads back from the six bits a new-format header keeps. -/
theorem Packet.ofNat_tag (p : Packet) : PacketTag.ofNat (p.tag.toNat % 64) = p.tag := by
  cases p <;> rfl

/-- The frames of packets written with new-format headers. -/
theorem Packet.concat_writeNew (ps : List Packet) :
    Bytes.concat (ps.map Packet.writeNew) = Header.written (ps.map fun p => (p.tag, p.body)) := by
  rw [Header.written, List.map_map]
  rfl

/-- Reading packets written with new-format headers gives each body to the reader of its own
tag. -/
theorem Packet.readAll_writeNew (ps : List Packet) (fits : ∀ p ∈ ps, p.body.size ≤ Header.maxBodyLength) :
    Packet.readAll (Bytes.concat (ps.map Packet.writeNew)) =
      ps.map fun p => PacketStream.settle (Packet.read .new p.tag p.body) := by
  rw [Packet.concat_writeNew, Packet.readAll, PacketStream.read_written _ _ (by simpa using fits),
    List.map_map]
  exact List.map_congr_left fun p _ => by simp [Packet.ofNat_tag]

/-- The frames of packets written with the header format each carries. -/
theorem Packet.concat_write (ps : List Packet) :
    Bytes.concat (ps.map Packet.write) = Header.writtenFramed (ps.map fun p => (p.format, p.tag, p.body)) := by
  rw [Header.writtenFramed, List.map_map]
  rfl

/-- Reading packets written with their own header formats gives each body to the reader of its
own tag and format. -/
theorem Packet.readAll_write (ps : List Packet) (framed : ∀ p ∈ ps, Header.Frames p.format p.tag p.body) :
    Packet.readAll (Bytes.concat (ps.map Packet.write)) =
      ps.map fun p => PacketStream.settle (Packet.read p.format p.tag p.body) := by
  rw [Packet.concat_write, Packet.readAll, PacketStream.read_writtenFramed _ _ (by simpa using framed),
    List.map_map]
  exact List.map_congr_left fun p _ => by simp [Packet.ofNat_tag]

end SealedMail

import Mathlib
import SealedMail.Proofs.Framing

/-! # The framing guard on written packets and on their prefixes

The framing guard (`Header.checkFraming`) walks packet headers from the start of the input and
fails only where a body with a fixed length runs past the end. Two facts about the header
reader carry its behaviour on written packets. A header it reads is read from the header's own
bytes alone: the same header is read once more bytes follow (`Header.read_append_of_ok`), and
every byte it read lies in the input (`Header.read_fixed_le_size`). So a prefix that cuts a
header gives no frame, and the walk stops there quietly; a prefix that holds a whole header
gives the header's frame.

For packets written one after another (`Packet.write`), with bodies that fit the four-byte
length and tags that fit the old format where the header is old, the guard therefore passes,
its walk steps from each packet boundary to the next with the header size and body length of
the packet there, and on a prefix it fails exactly when the prefix ends inside a body whose
header it holds whole (`Packet.framing_guard_on_written`).
-/

namespace SealedMail

theorem Bytes.extract_zero_of_size_le {a : ByteArray} {m : Nat} (h : a.size ≤ m) : a.extract 0 m = a := by
  rw [ByteArray.extract_eq_extract_append_extract a.size (Nat.zero_le _) h, ByteArray.extract_zero_size,
    ByteArray.extract_eq_empty_iff.mpr (by omega), ByteArray.append_empty]

/-- A prefix that holds all of `a` is `a` followed by a prefix of `b`. -/
theorem Bytes.extract_zero_append_of_le {a b : ByteArray} {m : Nat} (h : a.size ≤ m) :
    (a ++ b).extract 0 m = a ++ b.extract 0 (m - a.size) := by
  rw [ByteArray.extract_append, Bytes.extract_zero_of_size_le h, Nat.zero_sub]

namespace Header

/-! ## The header reader reads only its header -/

theorem numberAt_le_size {b : ByteArray} {i n v : Nat} (present : numberAt b i n = some v) : i + n ≤ b.size := by
  unfold numberAt at present
  split at present
  · assumption
  · cases present

theorem numberAt_append_of_some {b : ByteArray} (c : ByteArray) {i n v : Nat} (present : numberAt b i n = some v) :
    numberAt (b ++ c) i n = some v := by
  have inside := numberAt_le_size present
  rw [numberAt_append_left c inside, ← numberAt_eq inside, present]

/-- A body length read from `b` is read from its bytes alone: it lies in `b`, and the same
length is read once more bytes follow. -/
theorem newLength_of_some {b : ByteArray} {i : Nat} {r : BodyLength × Nat} (present : newLength b i = some r) :
    i + r.2 ≤ b.size ∧ ∀ c, newLength (b ++ c) i = some r := by
  cases first : b[i]? with
  | none => simp [newLength, first] at present
  | some y =>
    have inside : i < b.size := (getElem?_eq_some_iff.mp first).1
    have first' (c : ByteArray) : (b ++ c)[i]? = some y := by rw [Bytes.getElem?_append_left inside, first]
    -- the first length byte says how many bytes follow it
    by_cases one : y.toNat < 192
    · simp only [newLength, first, Option.map_some, Option.bind_eq_bind, Option.bind_some, one, if_true,
        Option.some.injEq] at present
      subst present
      exact ⟨by simpa using inside, fun c => by simp [newLength, first' c, one]⟩
    by_cases two : y.toNat < 224
    · cases second : b[i + 1]? with
      | none => simp [newLength, first, one, two, second] at present
      | some z =>
        have inside₂ : i + 1 < b.size := (getElem?_eq_some_iff.mp second).1
        simp only [newLength, first, second, Option.map_some, Option.bind_eq_bind, Option.bind_some, one, two,
          if_false, if_true, Option.some.injEq] at present
        subst present
        refine ⟨by simp only; omega, fun c => ?_⟩
        simp [newLength, first' c, Bytes.getElem?_append_left inside₂, second, one, two]
    by_cases chunk : y.toNat < 255
    · simp only [newLength, first, Option.map_some, Option.bind_eq_bind, Option.bind_some, one, two, chunk,
        if_false, if_true, Option.some.injEq] at present
      subst present
      exact ⟨by simpa using inside, fun c => by simp [newLength, first' c, one, two, chunk]⟩
    · cases word : numberAt b (i + 1) 4 with
      | none => simp [newLength, first, one, two, chunk, word] at present
      | some n =>
        have fits := numberAt_le_size word
        simp only [newLength, first, word, Option.map_some, Option.bind_eq_bind, Option.bind_some, one, two,
          chunk, if_false, Option.some.injEq] at present
        subst present
        exact ⟨by simp only; omega,
          fun c => by simp [newLength, first' c, one, two, chunk, numberAt_append_of_some c word]⟩

/-- A header starts at a byte inside the input. -/
theorem lt_size_of_read_ok {b : ByteArray} {i : Nat} {h : Header} (ok : read b i = .ok h) : i < b.size := by
  by_contra outside
  rw [read, Bytes.get!_of_size_le (by omega)] at ok
  cases ok

/-- A header read from `b` is read from its bytes alone: the same header is read once more
bytes follow. -/
theorem read_append_of_ok {b : ByteArray} (c : ByteArray) {i : Nat} {h : Header} (ok : read b i = .ok h) :
    read (b ++ c) i = .ok h := by
  have first := Bytes.get!_append_left (b := c) (lt_size_of_read_ok ok)
  unfold read at ok ⊢
  rw [first]
  dsimp only at ok ⊢
  -- a first byte without its top bit is no header
  split_ifs at ok ⊢
  · cases length : newLength b (i + 1) with
    | none => rw [length] at ok; cases ok
    | some r => rw [length] at ok; rw [(newLength_of_some length).2 c]; exact ok
  · -- one, two or four length bytes follow, or none for a length to the end
    split at ok
    case h_4 => exact ok
    all_goals
      split at ok
      · rename_i n number
        rw [numberAt_append_of_some c number]
        exact ok
      · cases ok

/-- Every byte of a header with a fixed length lies in the input. -/
theorem read_fixed_le_size {b : ByteArray} {i : Nat} {f : HeaderFormat} {t : PacketTag} {n size : Nat}
    (ok : read b i = .ok ⟨f, t, .fixed n, size⟩) : i + size ≤ b.size := by
  unfold read at ok
  dsimp only at ok
  split_ifs at ok
  · cases length : newLength b (i + 1) with
    | none => rw [length] at ok; cases ok
    | some r =>
      rw [length] at ok
      obtain ⟨-, -, -, rfl⟩ := Header.mk.inj (Except.ok.inj ok)
      have := (newLength_of_some length).1
      omega
  · split at ok
    case h_4 =>
      obtain ⟨-, -, length, -⟩ := Header.mk.inj (Except.ok.inj ok)
      cases length
    all_goals
      split at ok
      · rename_i n' number
        obtain ⟨-, -, -, rfl⟩ := Header.mk.inj (Except.ok.inj ok)
        have := numberAt_le_size number
        omega
      · cases ok

theorem fixedFrame?_eq_some_iff {b : ByteArray} {i size n : Nat} :
    fixedFrame? b i = some (size, n) ↔ ∃ f t, read b i = .ok ⟨f, t, .fixed n, size⟩ := by
  unfold fixedFrame?
  split
  · rename_i f t n' size' ok
    simp only [Option.some.injEq, Prod.mk.injEq, ok, Except.ok.injEq, Header.mk.injEq, BodyLength.fixed.injEq]
    constructor
    · rintro ⟨rfl, rfl⟩
      exact ⟨f, t, rfl, rfl, rfl, rfl⟩
    · rintro ⟨-, -, -, -, rfl, rfl⟩
      exact ⟨rfl, rfl⟩
  · rename_i other
    simp only [reduceCtorEq, false_iff, not_exists]
    intro f t ok
    exact other f t n size ok

theorem fixedFrame?_append_of_some {b : ByteArray} (c : ByteArray) {i size n : Nat}
    (framed : fixedFrame? b i = some (size, n)) : fixedFrame? (b ++ c) i = some (size, n) := by
  obtain ⟨f, t, ok⟩ := fixedFrame?_eq_some_iff.mp framed
  exact fixedFrame?_eq_some_iff.mpr ⟨f, t, read_append_of_ok c ok⟩

theorem fixedFrame?_le_size {b : ByteArray} {i size n : Nat} (framed : fixedFrame? b i = some (size, n)) :
    i + size ≤ b.size := by
  obtain ⟨f, t, ok⟩ := fixedFrame?_eq_some_iff.mp framed
  exact read_fixed_le_size ok

/-! ## One step of the walk -/

theorem checkFraming_go_of_size_le {b : ByteArray} {pos : Nat} (past : b.size ≤ pos) (fuel : Nat) :
    checkFraming.go b pos fuel = .ok () := by
  cases fuel with
  | zero => rfl
  | succ fuel => simp [checkFraming.go, Nat.not_lt.mpr past]

theorem checkFraming_go_of_none {b : ByteArray} {pos : Nat} (none : fixedFrame? b pos = none) (fuel : Nat) :
    checkFraming.go b pos (fuel + 1) = .ok () := by
  unfold checkFraming.go
  split_ifs <;> simp [none]

/-- At a framed position the walk fails when the body runs past the end, and else goes on
right after the body. -/
theorem checkFraming_go_of_frame {b : ByteArray} {pos size n : Nat} (frame : fixedFrame? b pos = some (size, n))
    (fuel : Nat) :
    checkFraming.go b pos (fuel + 1) =
      if b.size < pos + size + n then .error .packetIncomplete else checkFraming.go b (pos + size + n) fuel := by
  have header := fixedFrame?_le_size frame
  have long : pos < b.size := by
    obtain ⟨f, t, ok⟩ := fixedFrame?_eq_some_iff.mp frame
    exact lt_size_of_read_ok ok
  rw [checkFraming.go, if_pos long, frame]
  simp only
  by_cases runsPast : b.size < pos + size + n
  · rw [if_pos (by simp only [Bool.or_eq_true, decide_eq_true_eq]; omega), if_pos runsPast]
  · rw [if_neg (by simp only [Bool.or_eq_true, decide_eq_true_eq]; omega), if_neg runsPast]

end Header

/-! ## Written packets -/

namespace Packet

/-- The size of the header a packet is written with. -/
def headerSize (p : Packet) : Nat := (Header.write p.format p.tag p.body.size).size

theorem size_write (p : Packet) : p.write.size = p.headerSize + p.body.size := by
  rw [write, Header.packet, ByteArray.size_append, headerSize]

theorem two_le_headerSize (p : Packet) : 2 ≤ p.headerSize := Header.two_le_size_write _ _ _

theorem concat_cons_write (p : Packet) (ps : List Packet) :
    Bytes.concat ((p :: ps).map write) = p.write ++ Bytes.concat (ps.map write) := by
  rw [List.map_cons, Bytes.concat_cons]

/-- A packet's header, read wherever the packet stands, gives its header size and body length. -/
theorem fixedFrame?_write {p : Packet} (framed : Header.Frames p.format p.tag p.body) (pre rest : ByteArray) :
    Header.fixedFrame? (pre ++ (p.write ++ rest)) pre.size = some (p.headerSize, p.body.size) := by
  rw [Header.fixedFrame?, write, Header.read_packet_framed_at pre _ _ _ rest framed]
  rfl

/-- Whether a length `m` of the written packets ends strictly inside the body of one of them,
after the whole of its header. -/
def EndsInsideBody (ps : List Packet) (m : Nat) : Prop :=
  ∃ before p after, ps = before ++ p :: after ∧
    (Bytes.concat (before.map write)).size + p.headerSize ≤ m ∧ m < (Bytes.concat (before.map write)).size + p.write.size

theorem not_endsInsideBody_nil (m : Nat) : ¬ EndsInsideBody [] m := by
  rintro ⟨before, p, after, split, -⟩
  simp at split

/-- A length ends inside the body of the first packet, or reaches past that packet and ends
inside a body of the others. -/
theorem endsInsideBody_cons (p : Packet) (ps : List Packet) (m : Nat) :
    EndsInsideBody (p :: ps) m ↔
      (p.headerSize ≤ m ∧ m < p.write.size) ∨ (p.write.size ≤ m ∧ EndsInsideBody ps (m - p.write.size)) := by
  constructor
  · rintro ⟨before, q, after, split, low, high⟩
    cases before with
    | nil =>
      obtain ⟨rfl, -⟩ := List.cons.inj split
      simp only [List.map_nil, Bytes.concat_nil, ByteArray.size_empty, Nat.zero_add] at low high
      exact .inl ⟨low, high⟩
    | cons r before =>
      obtain ⟨rfl, rest⟩ := List.cons.inj split
      rw [concat_cons_write, ByteArray.size_append] at low high
      have header := q.two_le_headerSize
      refine .inr ⟨by omega, before, q, after, rest, by omega, by omega⟩
  · rintro (⟨low, high⟩ | ⟨past, before, q, after, rest, low, high⟩)
    · exact ⟨[], p, ps, rfl, by simpa using low, by simpa using high⟩
    · refine ⟨p :: before, q, after, by rw [rest]; rfl, ?_, ?_⟩ <;>
        (rw [concat_cons_write, ByteArray.size_append]; omega)

open scoped Classical in
/-- The framing guard on any prefix of written packets, from any packet boundary it reaches:
it fails exactly when the prefix ends inside a body whose header it holds whole. A prefix that
cuts a header gives no frame there, so the walk stops and passes. -/
theorem checkFraming_go_prefix (pre : ByteArray) (ps : List Packet)
    (framed : ∀ p ∈ ps, Header.Frames p.format p.tag p.body) {m : Nat}
    (inside : m ≤ (Bytes.concat (ps.map write)).size) (fuel : Nat) (enough : m ≤ fuel) :
    Header.checkFraming.go (pre ++ (Bytes.concat (ps.map write)).extract 0 m) pre.size fuel =
      if EndsInsideBody ps m then .error .packetIncomplete else .ok () := by
  induction ps generalizing pre m fuel with
  | nil =>
    obtain rfl : m = 0 := by simpa using inside
    rw [if_neg (not_endsInsideBody_nil 0)]
    exact Header.checkFraming_go_of_size_le (by simp) fuel
  | cons p ps ih =>
    rw [concat_cons_write] at inside ⊢
    rw [ByteArray.size_append] at inside
    have header := p.two_le_headerSize
    have whole := p.size_write
    have frame := fixedFrame?_write (framed p List.mem_cons_self)
    rw [if_congr (endsInsideBody_cons p ps m) rfl rfl]
    -- the prefix ends at the boundary, inside the header, inside the body, or past the packet
    by_cases empty : m = 0
    · subst empty
      rw [if_neg (by omega)]
      exact Header.checkFraming_go_of_size_le (by simp) fuel
    obtain ⟨fuel, rfl⟩ : ∃ k, fuel = k + 1 := ⟨fuel - 1, by omega⟩
    by_cases cut : m < p.headerSize
    · -- a cut header gives no frame: the frame it would give is the whole packet's, which does not fit
      rw [if_neg (by omega)]
      apply Header.checkFraming_go_of_none
      cases prefixFrame : Header.fixedFrame? (pre ++ (p.write ++ Bytes.concat (ps.map write)).extract 0 m) pre.size with
      | none => rfl
      | some r =>
        obtain ⟨size, len⟩ := r
        have fits := Header.fixedFrame?_le_size prefixFrame
        have extended := Header.fixedFrame?_append_of_some
          ((p.write ++ Bytes.concat (ps.map write)).extract m (p.write ++ Bytes.concat (ps.map write)).size) prefixFrame
        rw [ByteArray.append_assoc, ← ByteArray.extract_eq_extract_append_extract m (Nat.zero_le m)
          (by rw [ByteArray.size_append]; exact inside),
          ByteArray.extract_zero_size, frame, Option.some.injEq, Prod.mk.injEq] at extended
        obtain ⟨rfl, -⟩ := extended
        simp only [ByteArray.size_append, ByteArray.size_extract] at fits
        omega
    have layout : pre ++ (p.write ++ Bytes.concat (ps.map write)).extract 0 m =
        pre ++ (Header.write p.format p.tag p.body.size ++ (p.body ++ Bytes.concat (ps.map write)).extract 0
          (m - p.headerSize)) := by
      rw [write, Header.packet, ByteArray.append_assoc, Bytes.extract_zero_append_of_le (by rw [← headerSize]; omega)]
      rfl
    have prefixFrame : Header.fixedFrame? (pre ++ (p.write ++ Bytes.concat (ps.map write)).extract 0 m) pre.size =
        some (p.headerSize, p.body.size) := by
      have ok := Header.read_write_framed p.format p.tag (framed p List.mem_cons_self).1
        (framed p List.mem_cons_self).2 ((p.body ++ Bytes.concat (ps.map write)).extract 0 (m - p.headerSize))
      have shifted := Header.read_append_size_add pre
        (Header.write p.format p.tag p.body.size ++ (p.body ++ Bytes.concat (ps.map write)).extract 0 (m - p.headerSize)) 0
      rw [Nat.add_zero, ok] at shifted
      rw [layout, Header.fixedFrame?, shifted]
      rfl
    have size : (pre ++ (p.write ++ Bytes.concat (ps.map write)).extract 0 m).size = pre.size + m := by
      simp only [ByteArray.size_append, ByteArray.size_extract]
      omega
    rw [Header.checkFraming_go_of_frame prefixFrame, size]
    by_cases body : m < p.write.size
    · -- the prefix ends inside the body
      rw [if_pos (by omega), if_pos (.inl ⟨by omega, body⟩)]
    · -- the prefix holds the whole packet: the walk goes on at the next boundary
      have later : (p.headerSize ≤ m ∧ m < p.write.size) ∨ (p.write.size ≤ m ∧ EndsInsideBody ps (m - p.write.size)) ↔
          EndsInsideBody ps (m - p.write.size) := by
        rw [or_iff_right (by omega), and_iff_right (by omega)]
      rw [if_neg (by omega), if_congr later rfl rfl]
      have next := ih (pre ++ p.write) (fun q member => framed q (List.mem_cons_of_mem p member))
        (m := m - p.write.size) (by omega) fuel (by omega)
      rw [ByteArray.append_assoc, ← Bytes.extract_zero_append_of_le (by omega), ByteArray.size_append] at next
      rw [← next]
      congr 1
      omega

/-- Written packets split at a packet: the bytes before it, the packet, and the bytes after. -/
theorem concat_split {ps before after : List Packet} {p : Packet} (split : ps = before ++ p :: after) :
    Bytes.concat (ps.map write) = Bytes.concat (before.map write) ++ (p.write ++ Bytes.concat (after.map write)) := by
  rw [split, List.map_append, Bytes.concat_append, concat_cons_write]

open scoped Classical in
/-- What the framing guard does on packets written one after another: it passes; its walk steps
from each packet boundary to the next, where the header it reads gives the packet's header size
and body length; and on every prefix of the written bytes it fails with an incomplete packet
exactly when the prefix ends strictly inside the body of a packet whose whole header it holds,
and passes otherwise. -/
structure GuardAgrees (ps : List Packet) : Prop where
  passes : Header.checkFraming (Bytes.concat (ps.map write)) = .ok ()
  steps : ∀ before p after, ps = before ++ p :: after →
    Header.fixedFrame? (Bytes.concat (ps.map write)) (Bytes.concat (before.map write)).size =
        some (p.headerSize, p.body.size) ∧
      ∀ fuel, Header.checkFraming.go (Bytes.concat (ps.map write)) (Bytes.concat (before.map write)).size (fuel + 1) =
        Header.checkFraming.go (Bytes.concat (ps.map write)) (Bytes.concat ((before ++ [p]).map write)).size fuel
  prefixes : ∀ m ≤ (Bytes.concat (ps.map write)).size,
    Header.checkFraming ((Bytes.concat (ps.map write)).extract 0 m) =
      if EndsInsideBody ps m then .error .packetIncomplete else .ok ()

open scoped Classical in
/-- The framing guard agrees with the packet writer on every run of packets whose bodies fit four
length bytes and whose tags fit four bits under an old-format header. -/
theorem framing_guard_on_written (ps : List Packet) (framed : ∀ p ∈ ps, Header.Frames p.format p.tag p.body) :
    GuardAgrees ps := by
  have prefixes : ∀ m ≤ (Bytes.concat (ps.map write)).size,
      Header.checkFraming ((Bytes.concat (ps.map write)).extract 0 m) =
        if EndsInsideBody ps m then .error .packetIncomplete else .ok () := by
    intro m inside
    have walk := checkFraming_go_prefix ByteArray.empty ps framed inside m le_rfl
    rw [ByteArray.empty_append] at walk
    rw [Header.checkFraming, ← walk]
    congr 1
    simp only [ByteArray.size_extract]
    omega
  refine ⟨?_, fun before p after split => ?_, prefixes⟩
  · -- the whole run ends at a boundary, inside no body
    have whole := prefixes _ le_rfl
    rw [ByteArray.extract_zero_size] at whole
    rw [whole, if_neg]
    rintro ⟨before, p, after, split, -, high⟩
    rw [concat_split split, ByteArray.size_append, ByteArray.size_append] at high
    omega
  · have frame := fixedFrame?_write (framed p (by rw [split]; simp)) (Bytes.concat (before.map write))
      (Bytes.concat (after.map write))
    rw [← concat_split split] at frame
    refine ⟨frame, fun fuel => ?_⟩
    have total : (Bytes.concat (ps.map write)).size =
        (Bytes.concat (before.map write)).size + p.write.size + (Bytes.concat (after.map write)).size := by
      rw [concat_split split, ByteArray.size_append, ByteArray.size_append, Nat.add_assoc]
    have next : (Bytes.concat ((before ++ [p]).map write)).size =
        (Bytes.concat (before.map write)).size + p.headerSize + p.body.size := by
      rw [List.map_append, Bytes.concat_append, ByteArray.size_append, List.map_singleton, Bytes.concat_cons,
        Bytes.concat_nil, ByteArray.append_empty, size_write, Nat.add_assoc]
    rw [Header.checkFraming_go_of_frame frame, if_neg (by rw [size_write] at total; omega), next]

/-- A marker packet, then a user id under an old-format header. -/
def markerThenOldUserId : List Packet := [.marker, .userId .old (ByteArray.mk #[0x61, 0x62])]

/-- The guard agrees with the writer on a run that mixes both header formats. -/
theorem marker_then_old_user_id_guarded :
    (∀ p ∈ markerThenOldUserId, Header.Frames p.format p.tag p.body) ∧ GuardAgrees markerThenOldUserId := by
  have framed : ∀ p ∈ markerThenOldUserId, Header.Frames p.format p.tag p.body := by
    intro p member
    simp only [markerThenOldUserId, List.mem_cons, List.not_mem_nil, or_false] at member
    rcases member with rfl | rfl
    · exact ⟨by decide, fun old => nomatch old⟩
    · exact ⟨by decide, fun _ => by decide⟩
  exact ⟨framed, framing_guard_on_written _ framed⟩

end Packet

end SealedMail

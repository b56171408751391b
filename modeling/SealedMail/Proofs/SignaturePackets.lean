import Mathlib
import SealedMail.Proofs.PacketBodies
import SealedMail.Proofs.KeyPackets

/-! # Signature packets read back

A version 4 signature is written as its type, algorithm and hash codes, two subpacket areas
each after a two-byte length, two digest bytes and the signature numbers. Each subpacket is
a length in one, two or five bytes, a type byte whose top bit marks it critical, and the body
its value is written as.

A subpacket reads back when the reader of its type, run on its body, gives its value
(`SubpacketData.Rereads`): a time of 32 bits (`rereads_time`), a body kept as it is
(`rereads_rest`), a flag (`rereads_flag`), an eight-byte issuer and an issuer fingerprint.
Then the subpacket reads back from its written form (`Cursor.reads_subpacket`), and a list of
such subpackets from its area, since each one moves the reader on (`Subpacket.readArea_writeAll`).
A signature whose areas, codes and numbers all read back (`Signature.Fits`) reads back from its
body (`Cursor.reads_signature`), and its packet from its written form
(`Packet.rereads_signature`).
-/

namespace SealedMail

/-! ## Bytes and codes -/

theorem Bytes.mk_four_append (w x y z : UInt8) (rest : ByteArray) : ByteArray.mk #[w, x, y, z] ++ rest =
    ByteArray.mk #[w] ++ (ByteArray.mk #[x] ++ (ByteArray.mk #[y] ++ (ByteArray.mk #[z] ++ rest))) := by
  apply ByteArray.ext
  apply Array.toList_inj.mp
  simp [ByteArray.data_append]

namespace Cursor

variable {α : Type}

theorem ReadsLast.run {c : Cursor α} {w : ByteArray} {v : α} (h : ReadsLast c w v) : c.run w = .ok (v, w.size) := by
  have whole := h ByteArray.empty
  rw [ByteArray.empty_append] at whole
  simpa [Cursor.run] using whole

theorem toNat_toUInt8 {n : Nat} (small : n < 256) : n.toUInt8.toNat = n := by
  rw [Nat.toUInt8_eq]
  exact UInt8.toNat_ofNat_of_lt' small

/-! ## Subpackets -/

theorem reads_subpacketLength {len : Nat} (small : len < Nat.pow 2 32) :
    Reads Cursor.subpacketLength (SealedMail.subpacketLength len) len := by
  unfold SealedMail.subpacketLength Cursor.subpacketLength
  split_ifs with one two
  · rw [show ByteArray.mk #[len.toUInt8] = ByteArray.mk #[len.toUInt8] ++ ByteArray.empty from
      ByteArray.append_empty.symm]
    refine Reads.bind (reads_u8 _) ?_
    dsimp only
    rw [toNat_toUInt8 (by omega), if_pos one]
    exact Reads.pure len
  · have lead : (((len - 192) / 256 + 192).toUInt8).toNat = (len - 192) / 256 + 192 := toNat_toUInt8 (by omega)
    have low : (((len - 192) % 256).toUInt8).toNat = (len - 192) % 256 := toNat_toUInt8 (by omega)
    rw [show ByteArray.mk #[((len - 192) / 256 + 192).toUInt8, ((len - 192) % 256).toUInt8] =
      ByteArray.mk #[((len - 192) / 256 + 192).toUInt8] ++ (ByteArray.mk #[((len - 192) % 256).toUInt8] ++
        ByteArray.empty) from rfl]
    refine Reads.bind (reads_u8 _) ?_
    dsimp only
    rw [lead, if_neg (by omega), if_pos (by omega)]
    have read := (reads_u8 ((len - 192) % 256).toUInt8).map (fun o2 => ((len - 192) / 256 + 192 - 192) * 256 + 192 + o2.toNat)
    rwa [low, show ((len - 192) / 256 + 192 - 192) * 256 + 192 + (len - 192) % 256 = len by omega] at read
  · have lead : (255 : UInt8).toNat = 255 := rfl
    refine Reads.bind (reads_u8 _) ?_
    dsimp only
    rw [lead, if_neg (by omega), if_neg (by omega)]
    exact reads_u32 small
end Cursor

/-- A value whose written body reads back as itself, with `embedded` judging embedded
signatures. -/
def SubpacketData.Rereads (embedded : ByteArray → Bool) (d : SubpacketData) : Prop :=
  ∃ j, (Cursor.subpacketData embedded d.typ).run d.body = .ok (d, j)

namespace Cursor

theorem reads_subpacket {e : ByteArray → Bool} {s : Subpacket} (data : s.data.Rereads e) (typ : s.data.typ < 128)
    (small : s.data.body.size + 1 < Nat.pow 2 32) : Reads (Cursor.subpacket e) s.write s := by
  obtain ⟨j, read⟩ := data
  have code : (s.data.typ + if s.critical then 128 else 0).toUInt8.toNat = s.data.typ + if s.critical then 128 else 0 :=
    toNat_toUInt8 (by split <;> omega)
  rw [show s.write = SealedMail.subpacketLength (s.data.body.size + 1) ++
      (ByteArray.mk #[(s.data.typ + if s.critical then 128 else 0).toUInt8] ++ (s.data.body ++ ByteArray.empty)) by
    simp [Subpacket.write, ByteArray.append_assoc, ByteArray.append_empty]]
  unfold Cursor.subpacket
  refine Reads.bind (reads_subpacketLength small) ?_
  rw [if_neg (by omega)]
  refine Reads.bind (reads_u8 _) ?_
  rw [code, Nat.add_sub_cancel]
  refine Reads.bind (reads_take _) ?_
  have kind : (s.data.typ + if s.critical then 128 else 0) % 128 = s.data.typ := by split <;> omega
  have marked : decide ((s.data.typ + if s.critical then 128 else 0) ≥ 128) = s.critical := by
    cases s.critical
    · simpa using typ
    · simp
  rw [kind, read]
  dsimp only
  rw [marked]
  exact Reads.pure s
end Cursor

/-! ## Subpacket values by kind -/

namespace SubpacketData

variable {e : ByteArray → Bool}

theorem rereads_time {t : Nat} (small : t < Nat.pow 2 32) :
    (creationTime t).Rereads e ∧ (signatureExpiration t).Rereads e ∧ (keyExpiration t).Rereads e :=
  ⟨⟨_, ((Cursor.reads_u32 small).map creationTime).readsLast.run⟩,
    ⟨_, ((Cursor.reads_u32 small).map signatureExpiration).readsLast.run⟩,
    ⟨_, ((Cursor.reads_u32 small).map keyExpiration).readsLast.run⟩⟩

theorem rereads_rest (b : ByteArray) :
    ∀ d ∈ [regularExpression b, preferredCiphers b, preferredHashes b, preferredCompression b,
      keyServerPreferences b, preferredKeyServer b, policyUri b, keyFlags b, signersUserId b, features b,
      preferredAead b], d.Rereads e := by
  intro d member
  simp only [List.mem_cons, List.not_mem_nil, or_false] at member
  rcases member with rfl | rfl | rfl | rfl | rfl | rfl | rfl | rfl | rfl | rfl | rfl <;>
    exact ⟨_, ((Cursor.readsLast_rest b).map _).run⟩

theorem reads_flag (b : Bool) : Cursor.Reads Cursor.flag (flag b) b := by
  have read := (Cursor.reads_u8 (if b then 1 else 0)).map (· == 1)
  cases b <;> exact read

theorem rereads_flag (b : Bool) :
    (exportable b).Rereads e ∧ (revocable b).Rereads e ∧ (primaryUserId b).Rereads e :=
  ⟨⟨_, ((reads_flag b).map exportable).readsLast.run⟩, ⟨_, ((reads_flag b).map revocable).readsLast.run⟩,
    ⟨_, ((reads_flag b).map primaryUserId).readsLast.run⟩⟩

theorem rereads_issuer {k : ByteArray} (eight : k.size = 8) : (issuer k).Rereads e := by
  have read := (Cursor.reads_take k).map issuer
  rw [eight] at read
  exact ⟨_, read.readsLast.run⟩

theorem rereads_issuerFingerprint {v : Nat} (small : v < 256) (f : ByteArray) :
    (issuerFingerprint v f).Rereads e := by
  have read : Cursor.ReadsLast (Cursor.u8 >>= fun x => Cursor.rest >>= fun r => pure (issuerFingerprint x.toNat r))
      (ByteArray.mk #[v.toUInt8] ++ f) (issuerFingerprint v.toUInt8.toNat f) :=
    Cursor.Reads.bindLast (Cursor.reads_u8 _) ((Cursor.readsLast_rest f).map _)
  rw [Cursor.toNat_toUInt8 small] at read
  exact ⟨_, read.run⟩

end SubpacketData

/-! ## Subpacket areas -/

namespace Subpacket

theorem writeAll_eq (ss : List Subpacket) : writeAll ss = Bytes.concat (ss.map write) := by
  rw [writeAll, Bytes.foldl_append_eq_concat, ByteArray.empty_append]

theorem writeAll_cons (s : Subpacket) (ss : List Subpacket) : writeAll (s :: ss) = s.write ++ writeAll ss := by
  rw [writeAll_eq, writeAll_eq, List.map_cons, Bytes.concat_cons]

theorem size_write_pos (s : Subpacket) : 0 < s.write.size := by
  simp [write, ByteArray.size_append]

/-- Reading an area from the start of written subpackets that each read back gives them back,
whatever stands before them, given a step for each. -/
theorem readArea_go_writeAll (e : ByteArray → Bool) (pre : ByteArray) (ss : List Subpacket)
    (each : ∀ s ∈ ss, Cursor.Reads (Cursor.subpacket e) s.write s) (fuel : Nat) (enough : ss.length ≤ fuel) :
    readArea.go e (pre ++ writeAll ss) pre.size fuel = ss := by
  -- induction on the subpackets, the prefix growing by each one read
  induction ss generalizing pre fuel with
  | nil =>
    cases fuel with
    | zero => rfl
    | succ fuel => simp [readArea.go, writeAll, ByteArray.append_empty]
  | cons s rest ih =>
    obtain ⟨fuel, rfl⟩ : ∃ f, fuel = f + 1 := ⟨fuel - 1, by simp at enough; omega⟩
    have inside : pre.size < (pre ++ writeAll (s :: rest)).size := by
      rw [writeAll_cons, ByteArray.size_append, ByteArray.size_append]
      have := size_write_pos s
      omega
    have read := each s List.mem_cons_self pre (writeAll rest)
    rw [ByteArray.append_assoc, ← writeAll_cons] at read
    have later := ih (pre ++ s.write) (fun t member => each t (List.mem_cons_of_mem s member)) fuel
      (by simp at enough; omega)
    rw [ByteArray.append_assoc, ← writeAll_cons, ByteArray.size_append] at later
    rw [readArea.go, if_pos inside, read]
    simp only [if_pos (show pre.size + s.write.size > pre.size by have := size_write_pos s; omega), later]

/-- Written subpackets that each read back are read back from their area. -/
theorem readArea_writeAll (e : ByteArray → Bool) (ss : List Subpacket)
    (each : ∀ s ∈ ss, Cursor.Reads (Cursor.subpacket e) s.write s) : readArea e (writeAll ss) = ss := by
  have count : ss.length ≤ (writeAll ss).size + 1 := by
    rw [writeAll_eq, Bytes.size_concat]
    have each : ∀ n ∈ (ss.map write).map ByteArray.size, 1 ≤ n := by
      simp only [List.map_map, List.mem_map, Function.comp_apply]
      rintro n ⟨s, -, rfl⟩
      exact size_write_pos s
    have := List.length_le_sum_of_one_le _ each
    simp only [List.length_map] at this
    omega
  have run := readArea_go_writeAll e ByteArray.empty ss each ((writeAll ss).size + 1) count
  rwa [ByteArray.empty_append] at run

end Subpacket

/-! ## Signatures -/

theorem SignatureType.ofNat?_toNat (t : SignatureType) : SignatureType.ofNat? t.toNat = some t := by
  cases t <;> rfl

theorem SignatureType.toNat_lt (t : SignatureType) : t.toNat < 256 := by
  cases t <;> decide

namespace Signature

/-- Signature numbers as the reader of their algorithm takes them: two canonical numbers for
DSA, ECDSA and EdDSA, one for any other algorithm. -/
def ValuesFit (alg : PublicKeyAlgorithm) (values : List Mpi) : Prop :=
  (∀ m ∈ values, m.Canonical) ∧ values.length = if alg = .dsa ∨ alg = .ecdsa ∨ alg = .eddsa then 2 else 1

theorem writeValues_cons (m : Mpi) (values : List Mpi) : writeValues (m :: values) = m.write ++ writeValues values := by
  simp only [writeValues, List.foldl_cons, ByteArray.empty_append]
  rw [Bytes.foldl_append_eq_concat, Bytes.foldl_append_eq_concat, ByteArray.empty_append]

end Signature

namespace Cursor

theorem reads_signatureValues {alg : PublicKeyAlgorithm} {values : List Mpi} (fit : Signature.ValuesFit alg values) :
    Reads (signatureValues alg) (Signature.writeValues values) values := by
  obtain ⟨canonical, count⟩ := fit
  by_cases two : alg = .dsa ∨ alg = .ecdsa ∨ alg = .eddsa
  · rw [if_pos two] at count
    obtain ⟨r, s, rfl⟩ := List.length_eq_two.mp count
    have read : Reads (do let r ← mpi; let s ← mpi; return [r, s]) (Signature.writeValues [r, s]) [r, s] := by
      rw [Signature.writeValues_cons, Signature.writeValues_cons, show Signature.writeValues [] = ByteArray.empty from rfl]
      exact Reads.bind (reads_mpi (canonical r (by simp))) (Reads.bind (reads_mpi (canonical s (by simp)))
        (Reads.pure _))
    rcases two with rfl | rfl | rfl <;> exact read
  · rw [if_neg two] at count
    obtain ⟨m, rfl⟩ := List.length_eq_one_iff.mp count
    have read : Reads (do return [← mpi]) (Signature.writeValues [m]) [m] := by
      rw [Signature.writeValues_cons, show Signature.writeValues [] = ByteArray.empty from rfl,
        ByteArray.append_empty]
      exact (reads_mpi (canonical m (by simp))).map _
    cases alg <;> first | exact read | simp at two

end Cursor

namespace Signature

/-- A version 4 signature as signing makes it: no fixed fields, algorithm and hash codes that
name themselves, areas of subpackets that each read back and fit a two-byte length, two
digest bytes and numbers that fit the algorithm. -/
structure Fits (e : ByteArray → Bool) (s : Signature) : Prop where
  v4 : s.version = 4
  noCreated : s.fixedCreated = none
  noIssuer : s.fixedIssuer = none
  algorithm : PublicKeyAlgorithm.ofNat s.algorithm.toNat.toUInt8.toNat = s.algorithm
  hash : HashCode.ofNat s.hash.toNat.toUInt8.toNat = s.hash
  hashed : ∀ p ∈ s.hashed, Cursor.Reads (Cursor.subpacket e) p.write p
  unhashed : ∀ p ∈ s.unhashed, Cursor.Reads (Cursor.subpacket e) p.write p
  hashedShort : (Subpacket.writeAll s.hashed).size < 65536
  unhashedShort : (Subpacket.writeAll s.unhashed).size < 65536
  prefix2 : s.prefix2.size = 2
  values : ValuesFit s.algorithm s.values

end Signature

namespace Cursor

theorem reads_signatureType (t : SignatureType) : Reads signatureType (ByteArray.mk #[t.toNat.toUInt8]) t := by
  rw [show ByteArray.mk #[t.toNat.toUInt8] = ByteArray.mk #[t.toNat.toUInt8] ++ ByteArray.empty from
    ByteArray.append_empty.symm]
  unfold signatureType
  refine Reads.bind (reads_u8 _) ?_
  rw [toNat_toUInt8 t.toNat_lt, SignatureType.ofNat?_toNat]
  exact Reads.pure t

theorem reads_signature {e : ByteArray → Bool} {s : Signature} (fit : s.Fits e) :
    Reads (signatureWith s.format e) s.body s := by
  have body : s.body = ByteArray.mk #[s.version.toUInt8] ++ (ByteArray.mk #[s.typ.toNat.toUInt8] ++
      (ByteArray.mk #[s.algorithm.toNat.toUInt8] ++ (ByteArray.mk #[s.hash.toNat.toUInt8] ++
      (Bytes.u16 (Subpacket.writeAll s.hashed).size ++ (Subpacket.writeAll s.hashed ++
      (Bytes.u16 (Subpacket.writeAll s.unhashed).size ++ (Subpacket.writeAll s.unhashed ++
      (s.prefix2 ++ (Signature.writeValues s.values ++ ByteArray.empty))))))))) := by
    simp only [Signature.body, fit.v4, Signature.hashedHead, ByteArray.append_assoc, ByteArray.append_empty,
      if_neg (Nat.lt_irrefl 4), Bytes.mk_four_append]
  have same : (⟨s.format, 4, s.typ, s.algorithm, s.hash, s.hashed, s.unhashed, none, none, s.prefix2, s.values⟩ :
      Signature) = s := by
    rw [← fit.v4, ← fit.noCreated, ← fit.noIssuer]
  rw [body]
  unfold signatureWith
  refine Reads.bind (reads_u8 _) ?_
  dsimp only
  rw [fit.v4, if_neg (by decide), if_pos (by decide)]
  refine Reads.bind (reads_signatureType s.typ) (Reads.bind (reads_u8 _) ?_)
  rw [fit.algorithm]
  refine Reads.bind (reads_u8 _) ?_
  rw [fit.hash]
  refine Reads.bind (reads_u16 fit.hashedShort) (Reads.bind (reads_take _) ?_)
  rw [Subpacket.readArea_writeAll e s.hashed fit.hashed]
  refine Reads.bind (reads_u16 fit.unhashedShort) (Reads.bind (reads_take _) ?_)
  rw [Subpacket.readArea_writeAll e s.unhashed fit.unhashed, ← fit.prefix2]
  refine Reads.bind (reads_take _) (Reads.bind (reads_signatureValues fit.values) ?_)
  rw [show (Nat.toUInt8 4).toNat = 4 from rfl, same]
  exact Reads.pure s

end Cursor

theorem Mpi.size_write_le {m : Mpi} (h : m.Canonical) : m.write.size ≤ 8194 := by
  have := Mpi.bits_bytes m
  simp only [Mpi.write, ByteArray.size_append, Bytes.u16, Bytes.size_ofNatBE]
  have := h.2
  omega

namespace Signature

theorem size_writeValues_le {alg : PublicKeyAlgorithm} {values : List Mpi} (fit : ValuesFit alg values) :
    (writeValues values).size ≤ 2 * 8194 := by
  obtain ⟨canonical, count⟩ := fit
  have two : values.length ≤ 2 := by split at count <;> omega
  match values, two with
  | [], _ => simp [writeValues]
  | [m], _ =>
    rw [writeValues_cons, show writeValues [] = ByteArray.empty from rfl, ByteArray.append_empty]
    have := Mpi.size_write_le (canonical m (by simp))
    omega
  | [m, m'], _ =>
    rw [writeValues_cons, writeValues_cons, show writeValues [] = ByteArray.empty from rfl, ByteArray.append_empty,
      ByteArray.size_append]
    have := Mpi.size_write_le (canonical m (by simp))
    have := Mpi.size_write_le (canonical m' (by simp))
    omega

theorem Fits.size_body_le {e : ByteArray → Bool} {s : Signature} (fit : s.Fits e) : s.body.size ≤ Header.maxBodyLength := by
  have values := size_writeValues_le fit.values
  have short := fit.hashedShort
  have short' := fit.unhashedShort
  have head : (ByteArray.mk #[s.version.toUInt8, s.typ.toNat.toUInt8, s.algorithm.toNat.toUInt8,
    s.hash.toNat.toUInt8]).size = 4 := rfl
  simp only [body, hashedHead, fit.v4, if_neg (Nat.lt_irrefl 4), ByteArray.size_append, Bytes.u16, Bytes.size_ofNatBE,
    fit.prefix2, Header.maxBodyLength] at head ⊢
  have limit : Nat.pow 2 32 = 4294967296 := rfl
  rw [head]
  omega

end Signature

/-- A signature made as signing makes it reads back once written. -/
theorem Packet.rereads_signature {s : Signature} (fit : s.Fits (Signature.readable 2)) : (Packet.signature s).Rereads where
  framed := ⟨fit.size_body_le, fun _ => show 2 < 16 by decide⟩
  reads := ((Cursor.reads_signature fit).map Packet.signature).readsLast.body

end SealedMail

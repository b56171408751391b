import Mathlib
import SealedMail.Proofs.SignaturePackets

/-! # Key packets read back

A version 4 key packet is written as its version, its creation time in four bytes, its
algorithm code and its public numbers; a secret key packet follows them with its secret
part, which for a protected key is the protection byte, the cipher code, the string-to-key
specifier, the initial vector and the encrypted numbers.

Numbers read back in their minimal form (`Mpi.canonical_ofNat`), curves by their object
identifiers (`Curve.ofOid?_oid`), and so do the public numbers of RSA, EdDSA and ECDH keys
(`Cursor.reads_publicParams_rsa`, `_eddsa`, `_ecdh`). A version 4 key packet of a time that
fits four bytes reads back (`Cursor.reads_keyPacket`), a protected secret part whose vector
has the cipher's block size reads back (`Cursor.readsLast_encryptedSecret`), and so secret
key packets and user id packets read back once written (`Packet.rereads_secretKey`,
`Packet.rereads_userId`).
-/

namespace SealedMail

/-! ## Numbers in their minimal form -/

namespace Mpi

set_option maxRecDepth 10000 in
/-- The minimal big-endian form of a positive number starts with a nonzero byte. -/
theorem strip_ofNatMinimal (n : Nat) : strip (Bytes.ofNatMinimal n) = Bytes.ofNatMinimal n := by
  rcases Nat.eq_zero_or_pos n with rfl | pos
  · with_unfolding_all decide
  have width : Bytes.ofNatMinimal n = Bytes.ofNatBE n (Nat.log2 n / 8 + 1) := by
    simp [Bytes.ofNatMinimal, pos.ne']
  -- the top byte is `n / 2 ^ (8 * (log2 n / 8))`, between 1 and 255
  have low := Nat.log2_self_le pos.ne'
  have high := @Nat.lt_log2_self n
  have top : 0 < (n >>> (8 * (Nat.log2 n / 8))) % 256 := by
    rw [Nat.shiftRight_eq_div_pow]
    have le : 2 ^ (8 * (Nat.log2 n / 8)) ≤ 2 ^ Nat.log2 n := Nat.pow_le_pow_right (by omega) (by omega)
    have lt : n < 2 ^ (8 * (Nat.log2 n / 8)) * 256 := by
      calc n < 2 ^ (Nat.log2 n + 1) := high
        _ ≤ 2 ^ (8 * (Nat.log2 n / 8) + 8) := Nat.pow_le_pow_right (by omega) (by omega)
        _ = 2 ^ (8 * (Nat.log2 n / 8)) * 256 := by rw [pow_add]; norm_num
    have quotient : n / 2 ^ (8 * (Nat.log2 n / 8)) < 256 := Nat.div_lt_of_lt_mul (by linarith)
    have positive : 0 < n / 2 ^ (8 * (Nat.log2 n / 8)) := Nat.div_pos (by omega) (by positivity)
    omega
  have nonzero : (((n >>> (8 * (Nat.log2 n / 8))) % 256).toUInt8 == 0) = false := by
    have byte : (n >>> (8 * (Nat.log2 n / 8))) % 256 < UInt8.size := Nat.mod_lt _ (by decide)
    rw [beq_eq_false_iff_ne, ne_eq, ← UInt8.toNat_inj, Nat.toUInt8_eq, UInt8.toNat_ofNat_of_lt' byte]
    simp only [UInt8.toNat_zero]
    omega
  rw [width, Bytes.ofNatBE_succ]
  apply ByteArray.ext
  apply Array.toList_inj.mp
  rw [strip_data, ByteArray.data_append, Array.toList_append]
  simp [nonzero]

/-- A number of fewer than 65528 bits, counted by its logarithm, in its minimal form, is a number
as packets hold it. -/
theorem canonical_ofNat_of_log2 {n : Nat} (bits : Nat.log2 n < 65528) : (ofNat n).Canonical := by
  have form : ofNat n = ofBytes (Bytes.ofNatMinimal n) := by
    rw [ofNat, ofBytes, strip_ofNatMinimal]
  rw [form]
  apply canonical_ofBytes
  rcases Nat.eq_zero_or_pos n with rfl | pos
  · decide
  simp only [Bytes.ofNatMinimal, pos.ne', if_false, Bytes.size_ofNatBE]
  omega

/-- A number of fewer than 65528 bits, in its minimal form, is a number as packets hold it. -/
theorem canonical_ofNat {n : Nat} (small : n < 2 ^ 65528) : (ofNat n).Canonical := by
  rcases Nat.eq_zero_or_pos n with rfl | pos
  · exact canonical_ofNat_of_log2 (by decide)
  · have bits := (Nat.log2_lt pos.ne').mpr small
    exact canonical_ofNat_of_log2 bits

end Mpi

/-! ## Public numbers -/

set_option maxRecDepth 10000 in
theorem Curve.ofOid?_oid (c : Curve) : Curve.ofOid? c.oid = some c ∧ c.oid.size < 256 := by
  cases c <;> with_unfolding_all decide

namespace Cursor

theorem reads_curve (c : Curve) : Reads curve (PublicParams.writeCurve c) c := by
  obtain ⟨named, short⟩ := Curve.ofOid?_oid c
  rw [PublicParams.writeCurve, show ByteArray.mk #[c.oid.size.toUInt8] ++ c.oid =
    ByteArray.mk #[c.oid.size.toUInt8] ++ (c.oid ++ ByteArray.empty) by rw [ByteArray.append_empty]]
  unfold curve
  refine Reads.bind (reads_u8 _) ?_
  rw [toNat_toUInt8 short]
  refine Reads.bind (reads_take _) ?_
  rw [named]
  exact Reads.pure c

theorem reads_publicParams_rsa {alg : PublicKeyAlgorithm} (rsa : alg = .rsa ∨ alg = .rsaEncrypt ∨ alg = .rsaSign)
    {n e : Mpi} (modulus : n.Canonical) (exponent : e.Canonical) :
    Reads (publicParams alg) (PublicParams.rsa n e).write (.rsa n e) := by
  have read : Reads (do let n ← mpi; let e ← mpi; return PublicParams.rsa n e) (n.write ++ (e.write ++ ByteArray.empty))
      (.rsa n e) :=
    Reads.bind (reads_mpi modulus) (Reads.bind (reads_mpi exponent) (Reads.pure _))
  rw [ByteArray.append_empty] at read
  rcases rsa with rfl | rfl | rfl <;> exact read

theorem reads_publicParams_eddsa (c : Curve) {pt : Mpi} (point : pt.Canonical) :
    Reads (publicParams .eddsa) (PublicParams.eddsa c pt).write (.eddsa c pt) := by
  rw [PublicParams.write, show PublicParams.writeCurve c ++ pt.write =
    PublicParams.writeCurve c ++ (pt.write ++ ByteArray.empty) by rw [ByteArray.append_empty]]
  unfold publicParams
  exact Reads.bind (reads_curve c) (Reads.bind (reads_mpi point) (Reads.pure _))

theorem reads_publicParams_ecdh (c : Curve) {pt : Mpi} (point : pt.Canonical) {h : HashCode} {k : CipherCode}
    (hash : HashCode.ofNat h.toNat.toUInt8.toNat = h) (cipher : CipherCode.ofNat k.toNat.toUInt8.toNat = k) :
    Reads (publicParams .ecdh) (PublicParams.ecdh c pt h k).write (.ecdh c pt h k) := by
  rw [PublicParams.write, ByteArray.append_assoc, show ByteArray.mk #[3, 1, h.toNat.toUInt8, k.toNat.toUInt8] =
    ByteArray.mk #[3] ++ (ByteArray.mk #[1] ++ (ByteArray.mk #[h.toNat.toUInt8] ++
      (ByteArray.mk #[k.toNat.toUInt8] ++ ByteArray.empty))) by
    rw [← Bytes.mk_four_append, ByteArray.append_empty]]
  unfold publicParams
  refine Reads.bind (reads_curve c) (Reads.bind (reads_mpi point) (Reads.bind (reads_u8 _) ?_))
  refine Reads.bind (reads_u8 _) ?_
  rw [if_neg (by decide)]
  refine Reads.bind (reads_u8 _) (Reads.bind (reads_u8 _) ?_)
  rw [hash, cipher]
  exact Reads.pure _

/-! ## Key packets -/

theorem reads_keyPacket {k : KeyPacket} (v4 : k.version = 4) (days : k.expiryDays = 0) (time : k.created < Nat.pow 2 32)
    (alg : PublicKeyAlgorithm.ofNat k.algorithm.toNat.toUInt8.toNat = k.algorithm)
    (params : Reads (publicParams k.algorithm) k.params.write k.params) : Reads (keyPacket k.format) k.body k := by
  have same : (⟨k.format, 4, k.created, 0, k.algorithm, k.params⟩ : KeyPacket) = k := by
    rw [← v4, ← days]
  rw [KeyPacket.body, v4, if_neg (Nat.lt_irrefl 4), ByteArray.append_assoc, ByteArray.append_assoc]
  unfold keyPacket
  refine Reads.bind (reads_u8 _) ?_
  rw [show (Nat.toUInt8 4).toNat = 4 from rfl]
  dsimp only
  refine Reads.bind (reads_u32 time) (Reads.bind (reads_u8 _) ?_)
  rw [alg]
  have read := params.map (fun p => (⟨k.format, 4, k.created, 0, k.algorithm, p⟩ : KeyPacket))
  rwa [same] at read

theorem readsLast_encryptedSecret (alg : PublicKeyAlgorithm) {usage : Nat} (protection : usage = 254 ∨ usage = 255)
    {cipher : CipherCode} {s2k : StringToKey} {iv data : ByteArray}
    (code : CipherCode.ofNat cipher.toNat.toUInt8.toNat = cipher) (spec : Reads stringToKey s2k.write s2k)
    (hashing : s2k.isHashing = true) (vector : iv.size = cipher.blockSize) :
    ReadsLast (secretParams alg) (SecretParams.encrypted usage cipher s2k iv data).write
      (.encrypted usage cipher s2k iv data) := by
  rw [SecretParams.write, show ByteArray.mk #[usage.toUInt8, cipher.toNat.toUInt8] =
    ByteArray.mk #[usage.toUInt8] ++ ByteArray.mk #[cipher.toNat.toUInt8] from rfl]
  simp only [ByteArray.append_assoc]
  unfold secretParams
  refine Reads.bindLast (reads_u8 _) ?_
  rw [toNat_toUInt8 (by omega)]
  rcases protection with rfl | rfl
  all_goals
    dsimp only
    refine Reads.bindLast (reads_u8 _) ?_
    rw [code]
    refine Reads.bindLast spec ?_
    rw [hashing]
    refine ReadsLast.ite_of_not (by decide) ?_
    rw [← vector]
    exact Reads.bindLast (reads_take iv) ((readsLast_rest data).map _)

theorem readsLast_secretKeyPacket {k : SecretKeyPacket}
    (pub : Reads (keyPacket k.publicPart.format) k.publicPart.body k.publicPart)
    (sec : ReadsLast (secretParams k.publicPart.algorithm) k.secret.write k.secret) :
    ReadsLast (secretKeyPacket k.publicPart.format) k.body k :=
  Reads.bindLast pub (sec.map (SecretKeyPacket.mk k.publicPart))

end Cursor

/-- A secret key packet whose parts read back, and whose body fits a four-byte length, reads
back once written, as a primary key or as a subkey. -/
theorem Packet.rereads_secretKey {k : SecretKeyPacket}
    (read : Cursor.ReadsLast (Cursor.secretKeyPacket k.publicPart.format) k.body k)
    (short : k.body.size ≤ Header.maxBodyLength) :
    (Packet.secretKey k).Rereads ∧ (Packet.secretSubkey k).Rereads :=
  ⟨⟨⟨short, fun _ => show 5 < 16 by decide⟩, (read.map Packet.secretKey).body⟩,
    ⟨⟨short, fun _ => show 7 < 16 by decide⟩, (read.map Packet.secretSubkey).body⟩⟩

/-- A user id packet reads back once written, when it fits a four-byte length. -/
theorem Packet.rereads_userId (f : HeaderFormat) {id : ByteArray} (short : id.size ≤ Header.maxBodyLength) :
    (Packet.userId f id).Rereads :=
  ⟨⟨short, fun _ => show 13 < 16 by decide⟩, ((Cursor.readsLast_rest id).map (Packet.userId f)).body⟩

end SealedMail

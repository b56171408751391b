import Mathlib
import SealedMail.Proofs.Framing
import SealedMail.Message.Basic

/-! # Packet bodies read back

Body readers are cursors that run front to back over a body. A cursor *reads* bytes `w` as
a value `v` when, started at `w` anywhere inside an input, it returns `v` and stops right
after `w` (`Cursor.Reads`); a cursor that takes what is left of its input reads `w` when
`w` ends the input (`Cursor.ReadsLast`). Both compose along `>>=`, so the written form of a
body, split into the pieces its fields are written as, is read back one field at a time.

This gives the read-back of every packet a message is sealed with: public-key and password
session key packets (with the encrypted session key of RSA and ECDH and the iterated
string-to-key specifier), integrity-protected data and literal data. Numbers read back when
they are written without leading zero bytes (`Mpi.Canonical`). Session key packets written
with `KeyPackets.write` are read back by `KeyPackets.read` (`KeyPackets.read_write`).
-/

namespace SealedMail

namespace Cursor

variable {α β : Type}

/-- The cursor reads the bytes `w` as `v`, wherever they stand in its input. -/
def Reads (c : Cursor α) (w : ByteArray) (v : α) : Prop :=
  ∀ pre rest : ByteArray, c (pre ++ w ++ rest) pre.size = .ok (v, pre.size + w.size)

/-- The cursor reads the bytes `w` as `v` when they end its input. -/
def ReadsLast (c : Cursor α) (w : ByteArray) (v : α) : Prop :=
  ∀ pre : ByteArray, c (pre ++ w) pre.size = .ok (v, pre.size + w.size)

theorem bind_of_ok {m : Cursor α} {f : α → Cursor β} {b : ByteArray} {i j : Nat} {a : α}
    (hm : m b i = .ok (a, j)) : (m >>= f) b i = f a b j := by
  simp only [bind, hm]

/-! ## Reading in sequence -/

namespace Reads

theorem readsLast {c : Cursor α} {w : ByteArray} {v : α} (h : Reads c w v) : ReadsLast c w v := by
  intro pre
  simpa [ByteArray.append_empty] using h pre ByteArray.empty

theorem bind {c : Cursor α} {f : α → Cursor β} {w w' : ByteArray} {v : α} {v' : β}
    (first : Reads c w v) (next : Reads (f v) w' v') : Reads (c >>= f) (w ++ w') v' := by
  intro pre rest
  have shift : pre ++ (w ++ w') ++ rest = pre ++ w ++ (w' ++ rest) := by
    simp only [ByteArray.append_assoc]
  have later := next (pre ++ w) rest
  rw [ByteArray.size_append, show pre ++ w ++ w' ++ rest = pre ++ w ++ (w' ++ rest) from
    ByteArray.append_assoc] at later
  rw [shift, bind_of_ok (first pre (w' ++ rest)), later, ByteArray.size_append, Nat.add_assoc]

theorem bindLast {c : Cursor α} {f : α → Cursor β} {w w' : ByteArray} {v : α} {v' : β}
    (first : Reads c w v) (next : ReadsLast (f v) w' v') : ReadsLast (c >>= f) (w ++ w') v' := by
  intro pre
  have later := next (pre ++ w)
  rw [ByteArray.size_append] at later
  rw [← ByteArray.append_assoc, bind_of_ok (by simpa [ByteArray.append_assoc] using first pre w'), later,
    ByteArray.size_append, Nat.add_assoc]

theorem pure (v : α) : Reads (Pure.pure v : Cursor α) ByteArray.empty v := by
  intro pre rest
  rfl

theorem map {c : Cursor α} {w : ByteArray} {v : α} (g : α → β) (h : Reads c w v) :
    Reads (c >>= fun x => Pure.pure (g x)) w (g v) := by
  simpa [ByteArray.append_empty] using
    @Reads.bind α β c (fun x => Pure.pure (g x)) w ByteArray.empty v (g v) h (Reads.pure (g v))

/-- A guard that does not fire reads nothing. -/
theorem ite_of_not {cond : Prop} [Decidable cond] {other c : Cursor β} {w : ByteArray} {v : β}
    (no : ¬ cond) (next : Reads c w v) : Reads (if cond then other else c) w v := by
  rw [if_neg no]
  exact next

end Reads

namespace ReadsLast

theorem map {c : Cursor α} {w : ByteArray} {v : α} (g : α → β) (h : ReadsLast c w v) :
    ReadsLast (c >>= fun x => Pure.pure (g x)) w (g v) := by
  intro pre
  rw [bind_of_ok (h pre)]
  rfl

theorem ite_of_not {cond : Prop} [Decidable cond] {other c : Cursor β} {w : ByteArray} {v : β}
    (no : ¬ cond) (next : ReadsLast c w v) : ReadsLast (if cond then other else c) w v := by
  rw [if_neg no]
  exact next

/-- A body reader that reads a whole body returns its value. -/
theorem body {c : Cursor α} {w : ByteArray} {v : α} (h : ReadsLast c w v) : c.body w = .ok v := by
  have whole := h ByteArray.empty
  rw [ByteArray.empty_append] at whole
  simp only [Cursor.body, Cursor.run]
  rw [show (0 : Nat) = ByteArray.empty.size from rfl, whole]

end ReadsLast

/-! ## Bytes and numbers -/

theorem reads_u8 (x : UInt8) : Reads u8 (ByteArray.mk #[x]) x := by
  intro pre rest
  have inside : pre.size < (pre ++ ByteArray.mk #[x] ++ rest).size := by
    simp only [ByteArray.size_append, Bytes.size_singleton]
    omega
  have byte : (pre ++ ByteArray.mk #[x] ++ rest).get! pre.size = x := by
    rw [ByteArray.append_assoc, ← Nat.add_zero pre.size, Bytes.get!_append_size_add]
    rfl
  simp only [u8, if_pos inside, byte]
  rfl

theorem reads_take (w : ByteArray) : Reads (take w.size) w w := by
  intro pre rest
  have inside : pre.size + w.size ≤ (pre ++ w ++ rest).size := by
    simp [ByteArray.size_append]
  simp only [take]
  rw [if_pos inside, ByteArray.append_assoc, Bytes.extract_middle]

theorem readsLast_rest (w : ByteArray) : ReadsLast rest w w := by
  intro pre
  have whole := Bytes.extract_middle pre w ByteArray.empty
  rw [ByteArray.append_empty] at whole
  simp only [rest, ByteArray.size_append, whole]

theorem reads_u16 {n : Nat} (small : n < 65536) : Reads u16 (Bytes.u16 n) n := by
  have value : (Bytes.u16 n).foldl (fun a x => a * 256 + x.toNat) 0 = n := by
    show Bytes.toNatBE (Bytes.u16 n) = n
    rw [Bytes.u16, Bytes.toNatBE_ofNatBE]
    exact Nat.mod_eq_of_lt small
  have read := (reads_take (Bytes.u16 n)).map (fun bs => bs.foldl (fun a x => a * 256 + x.toNat) 0)
  rw [value, show (Bytes.u16 n).size = 2 from Bytes.size_ofNatBE n 2] at read
  exact read

theorem reads_u32 {n : Nat} (small : n < Nat.pow 2 32) : Reads u32 (Bytes.u32 n) n := by
  have value : (Bytes.u32 n).foldl (fun a x => a * 256 + x.toNat) 0 = n := by
    show Bytes.toNatBE (Bytes.u32 n) = n
    rw [Bytes.u32, Bytes.toNatBE_ofNatBE]
    exact Nat.mod_eq_of_lt small
  have read := (reads_take (Bytes.u32 n)).map (fun bs => bs.foldl (fun a x => a * 256 + x.toNat) 0)
  rw [value, show (Bytes.u32 n).size = 4 from Bytes.size_ofNatBE n 4] at read
  exact read

end Cursor

/-! ## Multiprecision numbers -/

namespace Mpi

/-- Stripping drops the leading zero bytes. -/
theorem strip_data (b : ByteArray) : (strip b).data.toList = b.data.toList.dropWhile (· == 0) := by
  have front : ∀ l : List UInt8, l.drop (l.takeWhile (· == 0)).length = l.dropWhile (· == 0) := by
    intro l
    induction l with
    | nil => rfl
    | cons x t ih => by_cases zero : x == 0 <;> simp [zero, ih]
  simp only [strip, Bytes.toList_eq, ByteArray.data_extract, Array.toList_extract, List.extract_eq_take_drop]
  rw [front, List.take_of_length_le]
  rw [← front, List.length_drop, Array.length_toList]
  exact Nat.le_refl _

theorem strip_strip (b : ByteArray) : strip (strip b) = strip b := by
  apply ByteArray.ext
  apply Array.toList_inj.mp
  rw [strip_data, strip_data, List.dropWhile_idempotent]

theorem size_strip_le (b : ByteArray) : (strip b).size ≤ b.size := by
  have sizes : (strip b).data.toList.length ≤ b.data.toList.length := by
    rw [strip_data]
    exact List.length_dropWhile_le _ _
  simpa using sizes

/-- Leading zero bytes do not change the number. -/
theorem toNatBE_strip (b : ByteArray) : Bytes.toNatBE (strip b) = Bytes.toNatBE b := by
  have digits : ∀ l : List UInt8, (l.dropWhile (· == 0)).foldl (fun acc x => acc * 256 + x.toNat) 0 =
      l.foldl (fun acc x => acc * 256 + x.toNat) 0 := by
    intro l
    induction l with
    | nil => rfl
    | cons x t ih =>
      by_cases zero : x == 0
      · rw [List.dropWhile_cons, if_pos zero, ih, List.foldl_cons, eq_of_beq zero]
        rfl
      · rw [List.dropWhile_cons, if_neg zero]
  rw [Bytes.toNatBE_eq, Bytes.toNatBE_eq, strip_data, digits]

/-- The written bit length announces as many bytes as the number has. -/
theorem bits_bytes (m : Mpi) : (m.bits + 7) / 8 = m.bytes.size := by
  have length : m.bytes.toList.length = m.bytes.size := by simp [Bytes.toList_eq]
  unfold bits
  split
  · next empty =>
    rw [empty, List.length_nil] at length
    omega
  · next top rest cons =>
    rw [cons, List.length_cons] at length
    have small : Nat.log2 top.toNat < 8 := by
      rcases Nat.eq_zero_or_pos top.toNat with zero | positive
      · simp [zero]
      · exact (Nat.log2_lt (by omega)).mpr top.toNat_lt
    omega

theorem bits_le (m : Mpi) : m.bits ≤ 8 * m.bytes.size := by
  have := bits_bytes m
  omega

/-- A number as packets hold it: without leading zero bytes and of fewer than 65536 bits. -/
def Canonical (m : Mpi) : Prop := strip m.bytes = m.bytes ∧ m.bits < 65536

theorem canonical_ofBytes {b : ByteArray} (short : b.size < 8192) : (ofBytes b).Canonical := by
  refine ⟨strip_strip b, ?_⟩
  have := bits_le (ofBytes b)
  have := size_strip_le b
  simp only [ofBytes] at *
  omega

end Mpi

namespace Cursor

/-- A canonical number reads back from its written form. -/
theorem reads_mpi {m : Mpi} (h : m.Canonical) : Reads Cursor.mpi m.write m := by
  unfold Cursor.mpi Mpi.write
  refine Reads.bind (reads_u16 h.2) ?_
  show Reads (take ((m.bits + 7) / 8) >>= fun bytes => Pure.pure (Mpi.ofBytes bytes)) m.bytes m
  rw [Mpi.bits_bytes]
  have read := (reads_take m.bytes).map Mpi.ofBytes
  rwa [Mpi.ofBytes, h.1] at read

/-! ## Session key packets -/

theorem reads_encryptedSession_rsa {alg : PublicKeyAlgorithm} {c : Mpi} (rsa : alg = .rsa ∨ alg = .rsaEncrypt)
    (h : c.Canonical) : Reads (Cursor.encryptedSession alg) (EncryptedSession.rsa c).write (.rsa c) := by
  have read := (reads_mpi h).map EncryptedSession.rsa
  rcases rsa with rfl | rfl <;> exact read

theorem reads_encryptedSession_ecdh {p : Mpi} {w : ByteArray} (h : p.Canonical) (short : w.size < 256) :
    Reads (Cursor.encryptedSession .ecdh) (EncryptedSession.ecdh p w).write (.ecdh p w) := by
  have length : w.size.toUInt8.toNat = w.size := by
    simp only [Nat.toUInt8_eq, UInt8.toNat_ofNat', Nat.reducePow]
    omega
  rw [show (EncryptedSession.ecdh p w).write = p.write ++ (ByteArray.mk #[w.size.toUInt8] ++ w) by
    simp only [EncryptedSession.write, ByteArray.append_assoc]]
  refine Reads.bind (reads_mpi h) (Reads.bind (reads_u8 _) ?_)
  rw [length]
  exact (reads_take w).map (EncryptedSession.ecdh p)

theorem reads_publicKeySession {p : PublicKeySessionPacket} (v3 : p.version = 3) (id8 : p.keyId.size = 8)
    (alg : PublicKeyAlgorithm.ofNat p.algorithm.toNat.toUInt8.toNat = p.algorithm)
    (session : Reads (Cursor.encryptedSession p.algorithm) p.session.write p.session) :
    Reads Cursor.publicKeySession p.body p := by
  rw [show p.body = ByteArray.mk #[p.version.toUInt8] ++ (p.keyId ++
      (ByteArray.mk #[p.algorithm.toNat.toUInt8] ++ p.session.write)) by
    simp only [PublicKeySessionPacket.body, ByteArray.append_assoc]]
  unfold Cursor.publicKeySession
  refine Reads.bind (reads_u8 _) ?_
  dsimp only
  refine Reads.ite_of_not ?_ ?_
  · simp [v3]
  · rw [← id8]
    refine Reads.bind (reads_take _) (Reads.bind (reads_u8 _) ?_)
    rw [alg]
    have same : (⟨3, p.keyId, p.algorithm, p.session⟩ : PublicKeySessionPacket) = p := by
      rw [← v3]
    have read := session.map (fun s => (⟨3, p.keyId, p.algorithm, s⟩ : PublicKeySessionPacket))
    rwa [same] at read

theorem reads_iterated {h : HashCode} {salt : ByteArray} {count : Nat}
    (hash : HashCode.ofNat h.toNat.toUInt8.toNat = h) (salt8 : salt.size = 8) (small : count < 256) :
    Reads Cursor.stringToKey (StringToKey.iterated h salt count).write (.iterated h salt count) := by
  have coded : count.toUInt8.toNat = count := by
    simp only [Nat.toUInt8_eq, UInt8.toNat_ofNat', Nat.reducePow]
    omega
  rw [show (StringToKey.iterated h salt count).write = ByteArray.mk #[3] ++ (ByteArray.mk #[h.toNat.toUInt8] ++
      (salt ++ ByteArray.mk #[count.toUInt8])) by
    simp only [StringToKey.write, ByteArray.append_assoc]
    rfl]
  unfold Cursor.stringToKey
  refine Reads.bind (reads_u8 3) (Reads.bind (reads_u8 _) ?_)
  rw [hash, ← salt8]
  refine Reads.bind (reads_take salt) ?_
  have read := (reads_u8 count.toUInt8).map (fun c => StringToKey.iterated h salt c.toNat)
  rwa [coded] at read

theorem readsLast_passwordSession {p : PasswordSessionPacket} (v4 : p.version = 4)
    (cipher : CipherCode.ofNat p.cipher.toNat.toUInt8.toNat = p.cipher)
    (s2k : Reads Cursor.stringToKey p.s2k.write p.s2k) (extra : p.extra = ByteArray.empty) :
    ReadsLast Cursor.passwordSession p.body p := by
  rw [show p.body = ByteArray.mk #[4] ++ (ByteArray.mk #[p.cipher.toNat.toUInt8] ++
      (p.s2k.write ++ p.encryptedKey)) by
    simp only [PasswordSessionPacket.body, v4, ByteArray.append_assoc]
    rfl]
  unfold Cursor.passwordSession
  refine Reads.bindLast (reads_u8 4) ?_
  refine Reads.bindLast (reads_u8 _) ?_
  rw [cipher]
  refine Reads.bindLast s2k ?_
  have same : (⟨4, p.cipher, p.s2k, p.encryptedKey, ByteArray.empty⟩ : PasswordSessionPacket) = p := by
    rw [← v4, ← extra]
  have read := (readsLast_rest p.encryptedKey).map
    (fun k => (⟨4, p.cipher, p.s2k, k, ByteArray.empty⟩ : PasswordSessionPacket))
  rwa [same] at read

/-! ## Literal data -/

theorem readsLast_literal {l : LiteralPacket} (mode : l.mode = 0x62 ∨ l.mode = 0x74 ∨ l.mode = 0x75 ∨ l.mode = 0x6d)
    (name : l.fileName.size < 256) (date : l.date < Nat.pow 2 32) : ReadsLast Cursor.literal l.body l := by
  have length : l.fileName.size.toUInt8.toNat = l.fileName.size := by
    simp only [Nat.toUInt8_eq, UInt8.toNat_ofNat', Nat.reducePow]
    omega
  have octet : l.mode.toUInt8.toNat = l.mode := by
    simp only [Nat.toUInt8_eq, UInt8.toNat_ofNat', Nat.reducePow]
    omega
  rw [show l.body = ByteArray.mk #[l.mode.toUInt8] ++ (ByteArray.mk #[l.fileName.size.toUInt8] ++
      (l.fileName ++ (Bytes.u32 l.date ++ l.data))) by
    simp only [LiteralPacket.body, ByteArray.append_assoc]
    rfl]
  unfold Cursor.literal
  refine Reads.bindLast (reads_u8 _) ?_
  dsimp only
  refine ReadsLast.ite_of_not ?_ ?_
  · rcases mode with known | known | known | known <;> simp [known]
  · refine Reads.bindLast (reads_u8 _) ?_
    rw [length]
    refine Reads.bindLast (reads_take _) (Reads.bindLast (reads_u32 date) ?_)
    have same : (⟨l.mode.toUInt8.toNat, l.fileName, l.date, l.data⟩ : LiteralPacket) = l := by
      rw [octet]
    have read := (readsLast_rest l.data).map
      (fun d => (⟨l.mode.toUInt8.toNat, l.fileName, l.date, d⟩ : LiteralPacket))
    rwa [same] at read

end Cursor

/-! ## Whole packets -/

namespace Packet

theorem read_publicKeySession {p : PublicKeySessionPacket} (h : Cursor.Reads Cursor.publicKeySession p.body p) :
    Packet.read .new .publicKeyEncryptedSessionKey p.body = .ok (.publicKeySession p) :=
  (h.map Packet.publicKeySession).readsLast.body

theorem read_passwordSession {p : PasswordSessionPacket} (h : Cursor.ReadsLast Cursor.passwordSession p.body p) :
    Packet.read .new .symKeyEncryptedSessionKey p.body = .ok (.passwordSession p) :=
  (h.map Packet.passwordSession).body

theorem read_literal {l : LiteralPacket} (h : Cursor.ReadsLast Cursor.literal l.body l) :
    Packet.read .new .literalData l.body = .ok (.literal l) :=
  (h.map Packet.literal).body

theorem read_protectedData {v : Nat} (small : v < 256) (d : ByteArray) :
    Packet.read .new .symEncryptedProtectedData (ByteArray.mk #[v.toUInt8] ++ d) = .ok (.protectedData v d) := by
  have octet : v.toUInt8.toNat = v := by
    simp only [Nat.toUInt8_eq, UInt8.toNat_ofNat', Nat.reducePow]
    omega
  have read : Cursor.ReadsLast (reader .new .symEncryptedProtectedData) (ByteArray.mk #[v.toUInt8] ++ d)
      (.protectedData v.toUInt8.toNat d) := by
    refine Cursor.Reads.bindLast (Cursor.reads_u8 _) ?_
    exact (Cursor.readsLast_rest d).map _
  have opened : Packet.read .new .symEncryptedProtectedData (ByteArray.mk #[v.toUInt8] ++ d) =
      .ok (.protectedData v.toUInt8.toNat d) := read.body
  rwa [octet] at opened

/-- A packet reads back from its new-format written form: its body fits a four-byte length
and its tag's reader returns it. -/
def ReadsBack (p : Packet) : Prop :=
  p.body.size ≤ Header.maxBodyLength ∧ Packet.read .new p.tag p.body = .ok p

theorem readAll_written_back (ps : List Packet) (back : ∀ p ∈ ps, p.ReadsBack) :
    Packet.readAll (Bytes.concat (ps.map Packet.writeNew)) = ps.map .ok := by
  rw [Packet.readAll_writeNew ps (fun p mem => (back p mem).1)]
  exact List.map_congr_left fun p mem => by rw [(back p mem).2]; rfl

theorem checkFraming_written_back (ps : List Packet) (back : ∀ p ∈ ps, p.ReadsBack) :
    Header.checkFraming (Bytes.concat (ps.map Packet.writeNew)) = .ok () := by
  rw [Packet.concat_writeNew]
  exact Header.checkFraming_written _ (by simpa using fun p mem => (back p mem).1)

end Packet

/-! ## Codes -/

theorem PublicKeyAlgorithm.ofNat_toNat {alg : PublicKeyAlgorithm} (h : alg.canEncrypt) :
    PublicKeyAlgorithm.ofNat alg.toNat.toUInt8.toNat = alg := by
  cases alg <;> first | rfl | simp [PublicKeyAlgorithm.canEncrypt] at h

theorem CipherCode.ofNat_ofAlgorithm (a : SymmetricAlgorithm) :
    CipherCode.ofNat (CipherCode.ofAlgorithm a).toNat.toUInt8.toNat = CipherCode.ofAlgorithm a := by
  cases a <;> rfl

@[simp] theorem CipherCode.toAlgorithm?_ofAlgorithm (a : SymmetricAlgorithm) :
    (CipherCode.ofAlgorithm a).toAlgorithm? = some a := by
  cases a <;> rfl

theorem HashCode.ofNat_ofAlgorithm (h : HashAlgorithm) :
    HashCode.ofNat (HashCode.ofAlgorithm h).toNat.toUInt8.toNat = HashCode.ofAlgorithm h := by
  cases h <;> rfl

@[simp] theorem HashCode.toAlgorithm?_ofAlgorithm (h : HashAlgorithm) :
    (HashCode.ofAlgorithm h).toAlgorithm? = some h := by
  cases h <;> rfl

/-! ## Lists of session key packets -/

namespace KeyPackets

theorem foldl_publicKey {f : KeyPackets → PacketResult Packet → KeyPackets}
    (step : ∀ acc p, f acc (.ok (.publicKeySession p)) = { acc with publicKey := acc.publicKey ++ [p] })
    (ps : List PublicKeySessionPacket) (acc : KeyPackets) :
    (ps.map (Except.ok ∘ Packet.publicKeySession)).foldl f acc = { acc with publicKey := acc.publicKey ++ ps } := by
  induction ps generalizing acc with
  | nil => simp
  | cons p ps ih =>
    rw [List.map_cons, List.foldl_cons, Function.comp_apply, step, ih, List.append_assoc, List.singleton_append]

theorem foldl_password {f : KeyPackets → PacketResult Packet → KeyPackets}
    (step : ∀ acc p, f acc (.ok (.passwordSession p)) = { acc with password := acc.password ++ [p] })
    (ps : List PasswordSessionPacket) (acc : KeyPackets) :
    (ps.map (Except.ok ∘ Packet.passwordSession)).foldl f acc = { acc with password := acc.password ++ ps } := by
  induction ps generalizing acc with
  | nil => simp
  | cons p ps ih =>
    rw [List.map_cons, List.foldl_cons, Function.comp_apply, step, ih, List.append_assoc, List.singleton_append]

/-- Session key packets read back from their written form when each of them does. -/
theorem read_write (k : KeyPackets) (publicBack : ∀ p ∈ k.publicKey, (Packet.publicKeySession p).ReadsBack)
    (passwordBack : ∀ p ∈ k.password, (Packet.passwordSession p).ReadsBack) : read (write k) = .ok k := by
  have packets : write k = Bytes.concat ((k.publicKey.map Packet.publicKeySession ++
      k.password.map Packet.passwordSession).map Packet.writeNew) := by
    rw [write, List.map_append, List.map_map, List.map_map]
    rfl
  have back : ∀ p ∈ k.publicKey.map Packet.publicKeySession ++ k.password.map Packet.passwordSession,
      p.ReadsBack := by
    intro p mem
    simp only [List.mem_append, List.mem_map] at mem
    rcases mem with ⟨q, mem, rfl⟩ | ⟨q, mem, rfl⟩
    · exact publicBack q mem
    · exact passwordBack q mem
  unfold read
  -- the framing guard passes, and the fold gathers the public-key packets, then the password ones
  rw [packets, Packet.checkFraming_written_back _ back, Packet.readAll_written_back _ back, List.map_append,
    List.map_map, List.map_map, List.foldl_append, foldl_publicKey (fun _ _ => rfl),
    foldl_password (fun _ _ => rfl)]
  rfl

end KeyPackets

end SealedMail

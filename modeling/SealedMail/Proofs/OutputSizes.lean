import Mathlib
import SealedMail.Message.Basic
import SealedMail.Proofs.ByteStrings

/-! # Output sizes

The written forms of packets fix the sizes of the fields they read back, so sealing a
message relies on the sizes of what its primitives return: SHA-1 gives twenty bytes and
SHA-256 thirty-two (so key ids have eight bytes), the generator gives as many bytes as asked
and nonzero bytes none of which is zero, X25519 gives thirty-two bytes and the ECDH wrapping
of a session key message stays within a length byte.

Each primitive is a loop; the loops are read as folds and the sizes follow from what one
step adds (`Bytes.size_foldl_grow`) or keeps.
-/

namespace SealedMail

namespace Bytes

@[simp] theorem size_replicate (n : Nat) (x : UInt8) : (replicate n x).size = n := by
  show (Array.replicate n x).size = n
  simp

/-- A fold whose every step adds `k` to a size adds `k` for each element. -/
theorem size_foldl_grow {α β : Type} (l : List α) (f : β → α → β) (size : β → Nat) (k : Nat)
    (grow : ∀ out x, size (f out x) = size out + k) (init : β) :
    size (l.foldl f init) = size init + k * l.length := by
  induction l generalizing init with
  | nil => simp
  | cons x l ih =>
    rw [List.foldl_cons, ih, grow, List.length_cons]
    ring

end Bytes

/-! ## Digests -/

namespace Sha2

theorem size_compress32 (h : Array UInt32) (b : ByteArray) (off : Nat) : (compress32 h b off).size = 8 := rfl

theorem size_run32 (iv : Array UInt32) {outLen : Nat} (msg : ByteArray) (words : iv.size = 8) (short : outLen ≤ 32) :
    (run32 iv outLen msg).size = outLen := by
  simp only [run32, Std.Legacy.Range.forIn_eq_forIn_range', List.forIn_pure_yield_eq_foldl,
    Array.forIn_pure_yield_eq_foldl, pure_bind, Id.run_pure]
  -- the chaining words stay eight, and each of them is written as four bytes
  have state : (List.foldl (fun b a => compress32 b (pad msg 64 8) (64 * a)) iv
      (List.range' 0 [:(pad msg 64 8).size / 64].size)).size = 8 :=
    List.foldlRecOn (motive := fun h : Array UInt32 => h.size = 8) _ _ words fun h _ _ _ => size_compress32 h _ _
  rw [ByteArray.size_extract, ← Array.foldl_toList, Bytes.size_foldl_grow _ _ ByteArray.size 4 (fun _ _ => by simp),
    Array.length_toList, state]
  simp
  omega

theorem size_sha256 (msg : ByteArray) : (sha256 msg).size = 32 := size_run32 _ msg rfl (Nat.le_refl 32)

theorem size_compress64 (h : Array UInt64) (b : ByteArray) (off : Nat) : (compress64 h b off).size = 8 := rfl

theorem size_run64 (iv : Array UInt64) {outLen : Nat} (msg : ByteArray) (words : iv.size = 8) (short : outLen ≤ 64) :
    (run64 iv outLen msg).size = outLen := by
  simp only [run64, Std.Legacy.Range.forIn_eq_forIn_range', List.forIn_pure_yield_eq_foldl,
    Array.forIn_pure_yield_eq_foldl, pure_bind, Id.run_pure]
  -- the chaining words stay eight, and each of them is written as eight bytes, one at a time
  have state : (List.foldl (fun b a => compress64 b (pad msg 128 16) (128 * a)) iv
      (List.range' 0 [:(pad msg 128 16).size / 128].size)).size = 8 :=
    List.foldlRecOn (motive := fun h : Array UInt64 => h.size = 8) _ _ words fun h _ _ _ => size_compress64 h _ _
  rw [ByteArray.size_extract, ← Array.foldl_toList, Bytes.size_foldl_grow _ _ ByteArray.size 8 (fun _ _ => by
    rw [Bytes.size_foldl_grow _ _ ByteArray.size 1 (fun _ _ => by simp)]
    simp), Array.length_toList, state]
  simp
  omega

end Sha2

namespace Sha1

theorem size_compress (h : Array UInt32) (b : ByteArray) (off : Nat) : (compress h b off).size = 5 := rfl

theorem size_hash (msg : ByteArray) : (hash msg).size = 20 := by
  simp only [hash, Std.Legacy.Range.forIn_eq_forIn_range', List.forIn_pure_yield_eq_foldl,
    Array.forIn_pure_yield_eq_foldl, pure_bind, Id.run_pure]
  have state : (List.foldl (fun b a => compress b (pad msg) (64 * a))
      #[0x67452301, 0xEFCDAB89, 0x98BADCFE, 0x10325476, 0xC3D2E1F0]
      (List.range' 0 [:(pad msg).size / 64].size)).size = 5 :=
    List.foldlRecOn (motive := fun h : Array UInt32 => h.size = 5) _ _ rfl fun h _ _ _ => size_compress h _ _
  rw [← Array.foldl_toList, Bytes.size_foldl_grow _ _ ByteArray.size 4 (fun _ _ => by simp),
    Array.length_toList, state]
  rfl

end Sha1

/-- Every hash the engine computes gives as many bytes as its size says. -/
theorem HashAlgorithm.size_digest (h : HashAlgorithm) (msg : ByteArray) : (h.digest msg).size = h.size := by
  cases h
  · exact Sha1.size_hash msg
  · exact Sha2.size_sha256 msg
  · exact Sha2.size_run64 _ msg rfl (by decide)
  · exact Sha2.size_run64 _ msg rfl (by decide)
  · exact Sha2.size_run32 _ msg rfl (by decide)

theorem KeyPacket.size_keyId (k : KeyPacket) : k.keyId.size = 8 := by
  simp only [KeyPacket.keyId, KeyPacket.fingerprint, ByteArray.size_extract, Sha1.size_hash]
  rfl

/-! ## Random bytes -/

namespace Entropy

theorem size_block (g : Entropy) : g.block.1.size = 32 := Sha2.size_sha256 _

theorem size_bytes (g : Entropy) (n : Nat) : (g.bytes n).1.size = n := by
  unfold bytes
  simp only
  have grown := Bytes.size_foldl_grow (List.range ((n + 31) / 32))
    (fun (acc : ByteArray × Entropy) (_ : Nat) => (acc.1 ++ acc.2.block.1, acc.2.block.2))
    (fun p => p.1.size) 32 (fun acc _ => by simp only [ByteArray.size_append, size_block]) (ByteArray.empty, g)
  simp only [ByteArray.size_empty, List.length_range] at grown
  rw [ByteArray.size_extract, grown]
  omega

/-- Bytes none of which is zero. -/
def Nonzero (b : ByteArray) : Prop := ∀ x ∈ b.data.toList, x ≠ 0

/-- Drawing keeps only nonzero bytes and stops once there are enough, or fills up with ones
when the fuel is spent. -/
theorem nonzeroBytes_go (n : Nat) (fuel : Nat) : ∀ (acc : ByteArray) (g : Entropy), Nonzero acc →
    n ≤ (nonzeroBytes.go n acc g fuel).1.size ∧ Nonzero (nonzeroBytes.go n acc g fuel).1 := by
  induction fuel with
  | zero =>
    intro acc g nonzero
    simp only [nonzeroBytes.go, ByteArray.size_append, Bytes.size_replicate]
    refine ⟨by omega, ?_⟩
    intro x mem
    simp only [ByteArray.data_append, Array.toList_append, List.mem_append] at mem
    rcases mem with old | ones
    · exact nonzero x old
    · simp only [Bytes.replicate, Array.toList_replicate, List.mem_replicate] at ones
      rw [ones.2]
      decide
  | succ fuel ih =>
    intro acc g nonzero
    by_cases enough : acc.size ≥ n
    · simp only [nonzeroBytes.go, if_pos enough, ByteArray.size_extract]
      refine ⟨by omega, ?_⟩
      intro x mem
      simp only [ByteArray.data_extract, Array.toList_extract, List.extract_eq_take_drop] at mem
      exact nonzero x (List.mem_of_mem_drop (List.mem_of_mem_take mem))
    · simp only [nonzeroBytes.go, if_neg enough]
      refine ih _ _ ?_
      intro x mem
      simp only [ByteArray.data_append, Array.toList_append, List.mem_append] at mem
      rcases mem with old | drawn
      · exact nonzero x old
      · simp at drawn
        exact drawn.2

/-- Nonzero random bytes: at least as many as asked for, none of them zero. -/
theorem nonzeroBytes_spec (g : Entropy) (n : Nat) :
    n ≤ (g.nonzeroBytes n).1.size ∧ Nonzero (g.nonzeroBytes n).1 :=
  nonzeroBytes_go n (n + 64) _ g (fun _ mem => absurd mem List.not_mem_nil)

end Entropy

/-! ## Curve points and key wrapping -/

@[simp] theorem Ed25519.size_leBytes (x n : Nat) : (Ed25519.leBytes x n).size = n := by
  show (Bytes.ofNatBE x n).data.reverse.size = n
  rw [Array.size_reverse]
  exact Bytes.size_ofNatBE x n

theorem X25519.size_publicOf (k : ByteArray) : (X25519.publicOf k).size = 32 := Ed25519.size_leBytes _ _

namespace Aes

/-- The state of the key wrap: an integrity block and `n` blocks, none longer than eight bytes. -/
def WrapBound (n : Nat) (s : ByteArray × Array ByteArray) : Prop :=
  s.1.size ≤ 8 ∧ s.2.size = n ∧ ∀ x ∈ s.2, x.size ≤ 8

theorem size_be64 (t : Nat) : (be64 t).size = 8 := by
  simp [be64, ByteArray.size]

theorem size_foldl_append_le {n : Nat} {s : ByteArray × Array ByteArray} (h : WrapBound n s) :
    (s.2.foldl (· ++ ·) s.1).size ≤ 8 + 8 * n := by
  obtain ⟨first, count, blocks⟩ := h
  rw [← Array.foldl_toList]
  have grow : ∀ (l : List ByteArray) (init : ByteArray), (∀ x ∈ l, x.size ≤ 8) →
      (l.foldl (· ++ ·) init).size ≤ init.size + 8 * l.length := by
    intro l
    induction l with
    | nil => simp
    | cons x l ih =>
      intro init small
      rw [List.foldl_cons, List.length_cons]
      have := ih (init ++ x) (fun y mem => small y (List.mem_cons_of_mem x mem))
      have := small x List.mem_cons_self
      rw [ByteArray.size_append] at *
      omega
  have := grow s.2.toList s.1 (fun x mem => blocks x (by simpa using mem))
  rw [Array.length_toList, count] at this
  omega

/-- Wrapping adds at most one block of eight bytes. -/
theorem size_wrap_le (k : Key) (plain : ByteArray) : (wrap k plain).size ≤ 8 + plain.size := by
  simp only [wrap, Std.Legacy.Range.forIn_eq_forIn_range', List.forIn_pure_yield_eq_foldl, pure_bind, Id.run_pure]
  refine le_trans (@size_foldl_append_le (plain.size / 8) _ ?_) (by omega)
  -- every round of every pass keeps the integrity block and the data blocks within eight bytes
  refine List.foldlRecOn (motive := WrapBound (plain.size / 8)) _ _ ?_ fun s hs j _ => ?_
  · refine ⟨by simp [wrapIv, ByteArray.size], by simp, ?_⟩
    intro x mem
    obtain ⟨i, rfl⟩ := Array.mem_ofFn.mp mem
    rw [ByteArray.size_extract]
    omega
  · refine List.foldlRecOn (motive := WrapBound (plain.size / 8)) _ _ hs fun b hb i _ => ?_
    obtain ⟨first, count, blocks⟩ := hb
    refine ⟨?_, ?_, ?_⟩
    · simp only [ByteArray.size, Array.size_zipWith]
      have := size_be64 (plain.size / 8 * j + i + 1)
      simp only [ByteArray.size] at this
      omega
    · simp [count]
    · intro x mem
      rcases Array.mem_or_eq_of_mem_setIfInBounds mem with old | new
      · exact blocks x old
      · rw [new, ByteArray.size_extract]
        omega

end Aes

namespace Ecdh

theorem size_pad (b : ByteArray) : (pad b).size = b.size + (8 - b.size % 8) := by
  simp [pad, ByteArray.size_append]

/-- The ephemeral point of an ECDH wrapping has at most 97 bytes, and the wrapped message at
most sixteen bytes more than the message. -/
theorem encrypt_sizes {curve : Curve} {hash : HashCode} {cipher : CipherCode}
    {fingerprint recipient ephemeral msg point wrapped : ByteArray}
    (h : encrypt curve hash cipher fingerprint recipient ephemeral msg = some (point, wrapped)) :
    point.size ≤ 97 ∧ wrapped.size ≤ msg.size + 16 := by
  have wrapSize : ∀ k : ByteArray, (Aes.wrap (Aes.expand k) (pad msg)).size ≤ msg.size + 16 := by
    intro k
    have := Aes.size_wrap_le (Aes.expand k) (pad msg)
    rw [size_pad] at this
    omega
  unfold encrypt at h
  cases curve <;> simp [weierstrass?, Option.bind_eq_some_iff] at h
  case curve25519 =>
    obtain ⟨-, k, -, rfl, rfl⟩ := h
    refine ⟨?_, wrapSize k⟩
    rw [ByteArray.size_append, X25519.size_publicOf]
    decide
  all_goals
    obtain ⟨z, -, x, y, -, k, -, rfl, rfl⟩ := h
    refine ⟨?_, wrapSize k⟩
    simp only [ByteArray.size_append, Bytes.size_ofNatBE, Bytes.size_singleton]
    decide

end Ecdh

end SealedMail

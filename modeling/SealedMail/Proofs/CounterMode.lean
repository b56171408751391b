import Mathlib
import SealedMail.Cipher.Raw
import SealedMail.Proofs.CipherFeedback

/-! # Counter mode undoes itself

In counter mode byte `i` of the output is byte `i` of the input xored with byte `i mod 16` of
the encryption of a counter block: the initial counter block read as a 128-bit big-endian
number, plus the index `i / 16` of the block, modulo 2^128 (`Aes.counterOf`,
`Aes.counterStreamByte`). The loops of `Aes.ctr` are read as folds over the blocks and shown to
xor exactly that keystream into the input (`Aes.ctr_eq`). The keystream does not depend on the
data, so counter mode is its own inverse for every key, every length and every initial counter
block, those whose counter wraps around included (`Aes.ctr_ctr`); nothing is asked of the block
function.

The raw primitive checks its parameters first: the initial counter block must be 16 bytes and
the key 16, 24 or 32 bytes, and a bad one is an invalid parameter
(`Raw.ctr_checks_and_inverts`).
-/

namespace SealedMail

namespace Aes

/-! ## Xoring a keystream -/

/-- The first `m` bytes of `x`, each xored with the byte of a keystream at its position. -/
def xorStream (ks : Nat → UInt8) (x : ByteArray) (m : Nat) : ByteArray :=
  ((List.range m).map fun i => x.get! i ^^^ ks i).toByteArray

theorem size_xorStream (ks : Nat → UInt8) (x : ByteArray) (m : Nat) : (xorStream ks x m).size = m := by
  simp [xorStream]

theorem get!_xorStream {ks : Nat → UInt8} {x : ByteArray} {m i : Nat} (h : i < m) :
    (xorStream ks x m).get! i = x.get! i ^^^ ks i := by
  rw [xorStream, Bytes.get!_toByteArray (by simpa using h)]
  simp

/-- The first `m + r` bytes are the first `m`, then `r` more from position `m` on. -/
theorem xorStream_add (ks : Nat → UInt8) (x : ByteArray) (m r : Nat) :
    xorStream ks x (m + r) =
      xorStream ks x m ++ ((List.range r).map fun j => x.get! (m + j) ^^^ ks (m + j)).toByteArray := by
  simp only [xorStream, List.range_add, List.map_append, List.map_map, List.toByteArray_append]
  rfl

/-- Xoring the same keystream twice gives the bytes back. -/
theorem xorStream_xorStream (ks : Nat → UInt8) (x : ByteArray) :
    xorStream ks (xorStream ks x x.size) x.size = x := by
  conv => rhs; rw [← toByteArray_map_get! x]
  refine congrArg List.toByteArray (List.map_congr_left fun i member => ?_)
  have below := List.mem_range.mp member
  rw [get!_xorStream below, UInt8.xor_assoc, UInt8.xor_self, UInt8.xor_zero]

/-! ## The counter-mode keystream -/

/-- The counter of block `b`: the initial counter block read as a big-endian number, plus `b`,
modulo 2^128. -/
def counterOf (iv : ByteArray) (b : Nat) : Nat :=
  (iv.foldl (fun acc x => acc * 256 + x.toNat) 0 + b) % Nat.pow 2 128

/-- Byte `i` of the keystream: byte `i mod 16` of the encrypted counter block of block `i / 16`. -/
def counterStreamByte (k : Key) (iv : ByteArray) (i : Nat) : UInt8 :=
  (encryptBlock k (counterBlock (counterOf iv (i / 16)))).get! (i % 16)

/-- Byte `j` of block `b` of the keystream is byte `j` of the block's encrypted counter. -/
theorem counterStreamByte_block (k : Key) (iv : ByteArray) {b j : Nat} (within : j < 16) :
    counterStreamByte k iv (16 * b + j) = (encryptBlock k (counterBlock (counterOf iv b))).get! j := by
  have block : (16 * b + j) / 16 = b := by omega
  have offset : (16 * b + j) % 16 = j := by omega
  rw [counterStreamByte, block, offset]

/-- One block of counter mode: block `b` of the input xored with its encrypted counter. -/
def ctrStep (k : Key) (iv x : ByteArray) (out : ByteArray) (b : Nat) : ByteArray :=
  (List.range' 0 16).foldl (fun out j =>
      if 16 * b + j < x.size then out.push (x.get! (16 * b + j) ^^^ (encryptBlock k (counterBlock (counterOf iv b))).get! j)
      else out) out

theorem ctr_eq_foldl (k : Key) (iv x : ByteArray) :
    ctr k iv x = (List.range' 0 ((x.size + 15) / 16)).foldl (ctrStep k iv x) (ByteArray.emptyWithCapacity x.size) := by
  simp [ctr, Id.run, forIn_guarded]
  rfl

/-- After `b` blocks counter mode holds the input xored with the keystream so far. -/
theorem foldl_ctrStep (k : Key) (iv x : ByteArray) {b : Nat} (within : b ≤ (x.size + 15) / 16) :
    (List.range' 0 b).foldl (ctrStep k iv x) (ByteArray.emptyWithCapacity x.size) =
      xorStream (counterStreamByte k iv) x (min (16 * b) x.size) := by
  induction b with
  | zero => rfl
  | succ b ih =>
    have inside : 16 * b < x.size := by omega
    rw [List.range'_concat, List.foldl_append, ih (by omega)]
    simp only [List.foldl_cons, List.foldl_nil, Nat.zero_add, Nat.one_mul, ctrStep]
    rw [foldl_guarded_push]
    have grown : min (16 * (b + 1)) x.size = 16 * b + min 16 (x.size - 16 * b) := by omega
    -- the new bytes use the encrypted counter of block `b`
    have block : (List.range (min 16 (x.size - 16 * b))).map
          (fun j => x.get! (16 * b + j) ^^^ (encryptBlock k (counterBlock (counterOf iv b))).get! j) =
        (List.range (min 16 (x.size - 16 * b))).map
          (fun j => x.get! (16 * b + j) ^^^ counterStreamByte k iv (16 * b + j)) :=
      List.map_congr_left fun j member => by
        rw [counterStreamByte_block k iv (by simp at member; omega)]
    rw [grown, xorStream_add, show min (16 * b) x.size = 16 * b by omega, block]

/-- Counter mode xors each byte of the input with the keystream. -/
theorem ctr_eq (k : Key) (iv x : ByteArray) : ctr k iv x = xorStream (counterStreamByte k iv) x x.size := by
  rw [ctr_eq_foldl, foldl_ctrStep k iv x le_rfl, show min (16 * ((x.size + 15) / 16)) x.size = x.size by omega]

theorem size_ctr (k : Key) (iv x : ByteArray) : (ctr k iv x).size = x.size := by
  rw [ctr_eq, size_xorStream]

/-- Counter mode undoes itself, for every key, initial counter block and input. -/
theorem ctr_ctr (k : Key) (iv x : ByteArray) : ctr k iv (ctr k iv x) = x := by
  rw [ctr_eq k iv (ctr k iv x), size_ctr, ctr_eq]
  exact xorStream_xorStream _ x

end Aes

/-! ## The raw primitive -/

/-- A key size names a cipher exactly when it is 16, 24 or 32 bytes. -/
theorem SymmetricAlgorithm.ofKeySize?_isSome_iff (n : Nat) :
    (SymmetricAlgorithm.ofKeySize? n).isSome ↔ n = 16 ∨ n = 24 ∨ n = 32 := by
  unfold SymmetricAlgorithm.ofKeySize?
  by_cases h16 : n = 16
  · subst h16; decide
  by_cases h24 : n = 24
  · subst h24; decide
  by_cases h32 : n = 32
  · subst h32; decide
  -- no cipher has any other key size
  have : SymmetricAlgorithm.all.find? (·.keySize == n) = none := by
    simp only [List.find?_eq_none, beq_iff_eq]
    intro a _
    cases a <;> simp only [SymmetricAlgorithm.keySize] <;> omega
  simp [this, h16, h24, h32]

namespace Raw

/-- Counter mode without integrity checks its parameters and undoes itself. It fails, with an
invalid parameter, exactly when the initial counter block is not 16 bytes or the key is not 16,
24 or 32 bytes. Otherwise it returns as many bytes as it is given, and applying it again with the
same key and initial counter block gives them back: for every length and every initial counter
block, those whose 128-bit counter wraps around included. -/
theorem ctr_checks_and_inverts (key iv x : ByteArray) :
    ((∃ detail, Raw.ctr key x iv = .error (.invalidParameter detail)) ↔
        iv.size ≠ 16 ∨ ¬ (key.size = 16 ∨ key.size = 24 ∨ key.size = 32)) ∧
      (iv.size = 16 → (key.size = 16 ∨ key.size = 24 ∨ key.size = 32) →
        ∃ y, Raw.ctr key x iv = .ok y ∧ y.size = x.size ∧ Raw.ctr key y iv = .ok x) := by
  have keyed := SymmetricAlgorithm.ofKeySize?_isSome_iff key.size
  -- the initial counter block is checked first, then the key
  by_cases block : iv.size = 16
  · by_cases sized : key.size = 16 ∨ key.size = 24 ∨ key.size = 32
    · obtain ⟨alg, named⟩ := Option.isSome_iff_exists.mp (keyed.mpr sized)
      have ran : ∀ y, Raw.ctr key y iv = .ok (Aes.ctr (Aes.expand key) iv y) := by
        intro y
        simp [Raw.ctr, block, named]
      refine ⟨?_, fun _ _ => ⟨_, ran x, Aes.size_ctr _ _ _, ?_⟩⟩
      · simp [ran x, block, sized]
      · rw [ran, Aes.ctr_ctr]
    · have unnamed : SymmetricAlgorithm.ofKeySize? key.size = none :=
        Option.not_isSome_iff_eq_none.mp (fun named => sized (keyed.mp named))
      have failed : Raw.ctr key x iv = .error (.invalidParameter s!"invalid AES key length {key.size}") := by
        simp [Raw.ctr, block, unnamed]
      exact ⟨⟨fun _ => .inr sized, fun _ => ⟨_, failed⟩⟩, fun _ good => absurd good sized⟩
  · have failed : Raw.ctr key x iv = .error (.invalidParameter s!"iv must be 16 bytes, got {iv.size}") := by
      simp [Raw.ctr, block]
    exact ⟨⟨fun _ => .inl block, fun _ => ⟨_, failed⟩⟩, fun good => absurd good block⟩

end Raw

end SealedMail

import Mathlib
import SealedMail.Cipher.Modes
import SealedMail.Proofs.ByteStrings

/-! # Cipher feedback undoes itself

In cipher feedback mode byte `i` of the output is byte `i` of the input xored with byte
`i mod 16` of the encryption of a feedback block: the initial vector for the first block of
sixteen bytes, the previous block of ciphertext after it (`feedback`, `keystreamByte`). The
loops of `cfbEncrypt` and `cfbDecrypt` are read as folds over the blocks and shown to compute
exactly that: decryption xors the keystream its input drives (`cfbDecrypt_eq`), encryption
produces a ciphertext that drives its own keystream (`cfbEncrypt_spec`). Nothing is asked of
the block function, so decryption undoes encryption for every key and initial vector
(`cfbDecrypt_cfbEncrypt`), and decrypting the first bytes of a ciphertext gives the first
bytes of its plaintext (`cfbDecrypt_extract`).
-/

namespace SealedMail

namespace Aes

/-! ## The loops as folds -/

/-- A loop that updates its state only where a guard holds is a fold. -/
theorem forIn_guarded {β : Type} (l : List Nat) (init : β) (p : Nat → Prop) [DecidablePred p]
    (f : Nat → β → β) :
    forIn (m := Id) l init (fun j s => if p j then pure (ForInStep.yield (f j s)) else pure (ForInStep.yield s)) =
      pure (l.foldl (fun s j => if p j then f j s else s) init) := by
  induction l generalizing init with
  | nil => rfl
  | cons j rest ih =>
    simp only [List.forIn_cons, List.foldl_cons]
    by_cases h : p j <;> simp [h, ih]

/-- Pushing byte `f j` for each position `j` of a block whose offset `c + j` lies below `n`
appends the bytes of the positions that do. -/
theorem foldl_guarded_push (f : Nat → UInt8) (c n m : Nat) (out : ByteArray) :
    (List.range' 0 m).foldl (fun o j => if c + j < n then o.push (f j) else o) out =
      out ++ ((List.range (min m (n - c))).map f).toByteArray := by
  induction m with
  | zero => simp [ByteArray.append_empty]
  | succ m ih =>
    rw [List.range'_concat, List.foldl_append, ih]
    simp only [List.foldl_cons, List.foldl_nil, Nat.zero_add, Nat.one_mul]
    by_cases inside : c + m < n
    · have grown : min (m + 1) (n - c) = min m (n - c) + 1 := by omega
      rw [if_pos inside, grown, List.range_succ, List.map_append, List.toByteArray_append,
        ← ByteArray.append_assoc, List.map_singleton, ByteArray.append_toByteArray_singleton]
      congr 2
      omega
    · have same : min (m + 1) (n - c) = min m (n - c) := by omega
      rw [if_neg inside, same]

/-- A fold that pushes the same byte to both halves of its state folds each half alone. -/
theorem foldl_guarded_push_pair (f : Nat → UInt8) (c n m : Nat) (out next : ByteArray) :
    (List.range' 0 m).foldl (fun (s : ByteArray × ByteArray) j =>
        if c + j < n then (s.1.push (f j), s.2.push (f j)) else s) (out, next) =
      (out ++ ((List.range (min m (n - c))).map f).toByteArray,
        next ++ ((List.range (min m (n - c))).map f).toByteArray) := by
  rw [← foldl_guarded_push, ← foldl_guarded_push]
  generalize List.range' 0 m = js
  induction js generalizing out next with
  | nil => rfl
  | cons j rest ih =>
    simp only [List.foldl_cons]
    split <;> exact ih _ _

/-! ## The keystream -/

/-- The block whose encryption gives the keystream of block `b` of ciphertext `c`: the initial
vector for the first block, the previous block of ciphertext after it. -/
def feedback (iv c : ByteArray) (b : Nat) : ByteArray :=
  if b = 0 then iv else c.extract (16 * (b - 1)) (16 * b)

/-- Byte `i` of the keystream that ciphertext `c` drives. -/
def keystreamByte (k : Key) (iv c : ByteArray) (i : Nat) : UInt8 :=
  (encryptBlock k (feedback iv c (i / 16))).get! (i % 16)

/-- The first `m` bytes of `x`, each xored with the keystream that ciphertext `c` drives. -/
def xorKeystream (k : Key) (iv c x : ByteArray) (m : Nat) : ByteArray :=
  ((List.range m).map fun i => x.get! i ^^^ keystreamByte k iv c i).toByteArray

/-- Appending to a ciphertext leaves the feedback of the blocks it already holds. -/
theorem feedback_append {iv c more : ByteArray} {b : Nat} (held : 16 * b ≤ c.size) :
    feedback iv (c ++ more) b = feedback iv c b := by
  unfold feedback
  split
  · rfl
  · have none : (more.extract (16 * (b - 1) - c.size) (16 * b - c.size)) = ByteArray.empty :=
      ByteArray.extract_eq_empty_iff.mpr (by omega)
    rw [ByteArray.extract_append, none, ByteArray.append_empty]

theorem keystreamByte_append {k : Key} {iv c more : ByteArray} {i : Nat} (held : 16 * (i / 16) ≤ c.size) :
    keystreamByte k iv (c ++ more) i = keystreamByte k iv c i := by
  rw [keystreamByte, keystreamByte, feedback_append held]

/-- Cutting a ciphertext after `m` bytes leaves the keystream of its first `m` bytes. -/
theorem keystreamByte_extract {k : Key} {iv c : ByteArray} {i m : Nat} (before : i < m) :
    keystreamByte k iv (c.extract 0 m) i = keystreamByte k iv c i := by
  unfold keystreamByte feedback
  split
  · rfl
  · rw [ByteArray.extract_extract]
    congr 3
    · omega
    · omega

theorem size_xorKeystream (k : Key) (iv c x : ByteArray) (m : Nat) : (xorKeystream k iv c x m).size = m := by
  simp [xorKeystream]

/-- Xoring the same keystream into bytes that agree gives the same bytes. -/
theorem xorKeystream_congr {k : Key} {iv c d x y : ByteArray} {m : Nat}
    (bytes : ∀ i < m, x.get! i = y.get! i) (keys : ∀ i < m, keystreamByte k iv c i = keystreamByte k iv d i) :
    xorKeystream k iv c x m = xorKeystream k iv d y m := by
  unfold xorKeystream
  congr 1
  refine List.map_congr_left fun i member => ?_
  have below := List.mem_range.mp member
  rw [bytes i below, keys i below]

/-- The first `m + r` bytes are the first `m`, then `r` more from position `m` on. -/
theorem xorKeystream_add (k : Key) (iv c x : ByteArray) (m r : Nat) :
    xorKeystream k iv c x (m + r) =
      xorKeystream k iv c x m ++
        ((List.range r).map fun j => x.get! (m + j) ^^^ keystreamByte k iv c (m + j)).toByteArray := by
  simp only [xorKeystream, List.range_add, List.map_append, List.map_map, List.toByteArray_append]
  rfl

/-- Byte `i` of the keystream of block `b` is byte `i mod 16` of the encrypted feedback. -/
theorem keystreamByte_block (k : Key) (iv c : ByteArray) {b j : Nat} (within : j < 16) :
    keystreamByte k iv c (16 * b + j) = (encryptBlock k (feedback iv c b)).get! j := by
  have block : (16 * b + j) / 16 = b := by omega
  have offset : (16 * b + j) % 16 = j := by omega
  rw [keystreamByte, block, offset]

/-! ## Decryption -/

/-- One block of decryption: block `b` of the input xored with the encrypted feedback, and
the block itself as the next feedback. -/
def decryptStep (k : Key) (c : ByteArray) (s : ByteArray × ByteArray) (b : Nat) : ByteArray × ByteArray :=
  ((List.range' 0 16).foldl (fun out j =>
      if 16 * b + j < c.size then out.push (c.get! (16 * b + j) ^^^ (encryptBlock k s.2).get! j) else out) s.1,
    c.extract (16 * b) (16 * b + 16))

theorem cfbDecrypt_eq_foldl (k : Key) (iv c : ByteArray) :
    cfbDecrypt k iv c =
      ((List.range' 0 ((c.size + 15) / 16)).foldl (decryptStep k c) (ByteArray.emptyWithCapacity c.size, iv)).1 := by
  simp [cfbDecrypt, Id.run, forIn_guarded]
  rfl

/-- After `b` blocks decryption holds the input xored with its keystream so far, and the
feedback of the next block. -/
theorem foldl_decryptStep (k : Key) (iv c : ByteArray) {b : Nat} (within : b ≤ (c.size + 15) / 16) :
    (List.range' 0 b).foldl (decryptStep k c) (ByteArray.emptyWithCapacity c.size, iv) =
      (xorKeystream k iv c c (min (16 * b) c.size), feedback iv c b) := by
  induction b with
  | zero => rfl
  | succ b ih =>
    have inside : 16 * b < c.size := by omega
    rw [List.range'_concat, List.foldl_append, ih (by omega)]
    simp only [List.foldl_cons, List.foldl_nil, Nat.zero_add, Nat.one_mul, decryptStep]
    rw [foldl_guarded_push]
    have grown : min (16 * (b + 1)) c.size = 16 * b + min 16 (c.size - 16 * b) := by omega
    have block : (List.range (min 16 (c.size - 16 * b))).map
          (fun j => c.get! (16 * b + j) ^^^ (encryptBlock k (feedback iv c b)).get! j) =
        (List.range (min 16 (c.size - 16 * b))).map
          (fun j => c.get! (16 * b + j) ^^^ keystreamByte k iv c (16 * b + j)) :=
      List.map_congr_left fun j member => by
        rw [keystreamByte_block k iv c (by simp at member; omega)]
    have next : feedback iv c (b + 1) = c.extract (16 * b) (16 * b + 16) := by
      simp only [feedback, Nat.add_one_ne_zero, if_false, Nat.add_sub_cancel, Nat.mul_add, Nat.mul_one]
    rw [grown, xorKeystream_add, show min (16 * b) c.size = 16 * b by omega, block, next]

/-- Decryption xors each byte of the input with the keystream the input drives. -/
theorem cfbDecrypt_eq (k : Key) (iv c : ByteArray) : cfbDecrypt k iv c = xorKeystream k iv c c c.size := by
  rw [cfbDecrypt_eq_foldl, foldl_decryptStep k iv c le_rfl,
    show min (16 * ((c.size + 15) / 16)) c.size = c.size by omega]

/-! ## Encryption -/

/-- One block of encryption: block `b` of the input xored with the encrypted feedback, pushed
both to the output and to the next feedback. -/
def encryptStep (k : Key) (p : ByteArray) (s : ByteArray × ByteArray) (b : Nat) : ByteArray × ByteArray :=
  (List.range' 0 16).foldl (fun (t : ByteArray × ByteArray) j =>
      if 16 * b + j < p.size then
        (t.1.push (p.get! (16 * b + j) ^^^ (encryptBlock k s.2).get! j),
          t.2.push (p.get! (16 * b + j) ^^^ (encryptBlock k s.2).get! j))
      else t) (s.1, ByteArray.emptyWithCapacity 16)

theorem cfbEncrypt_eq_foldl (k : Key) (iv p : ByteArray) :
    cfbEncrypt k iv p =
      ((List.range' 0 ((p.size + 15) / 16)).foldl (encryptStep k p) (ByteArray.emptyWithCapacity p.size, iv)).1 := by
  simp [cfbEncrypt, Id.run, forIn_guarded]
  rfl

theorem get!_xorKeystream {k : Key} {iv c x : ByteArray} {m i : Nat} (h : i < m) :
    (xorKeystream k iv c x m).get! i = x.get! i ^^^ keystreamByte k iv c i := by
  rw [xorKeystream, Bytes.get!_toByteArray (by simpa using h)]
  simp

/-- After `b` blocks encryption holds the input xored with the keystream that this output
itself drives, and the feedback of the next block. -/
theorem foldl_encryptStep (k : Key) (iv p : ByteArray) {b : Nat} (within : b ≤ (p.size + 15) / 16) :
    let s := (List.range' 0 b).foldl (encryptStep k p) (ByteArray.emptyWithCapacity p.size, iv)
    s.1 = xorKeystream k iv s.1 p (min (16 * b) p.size) ∧ s.2 = feedback iv s.1 b := by
  induction b with
  | zero => exact ⟨rfl, rfl⟩
  | succ b ih =>
    have inside : 16 * b < p.size := by omega
    obtain ⟨sofar, fed⟩ := ih (by omega)
    rw [List.range'_concat, List.foldl_append]
    generalize List.foldl (encryptStep k p) (ByteArray.emptyWithCapacity p.size, iv) (List.range' 0 b) = s
      at sofar fed
    obtain ⟨out, fb⟩ := s
    dsimp only at sofar fed ⊢
    have size : out.size = 16 * b := by
      rw [sofar, size_xorKeystream]
      omega
    simp only [List.foldl_cons, List.foldl_nil, Nat.zero_add, Nat.one_mul, encryptStep]
    rw [foldl_guarded_push_pair]
    generalize bytesDef : ((List.range (min 16 (p.size - 16 * b))).map
      (fun j => p.get! (16 * b + j) ^^^ (encryptBlock k fb).get! j)).toByteArray = bytes
    have bytesSize : bytes.size = min 16 (p.size - 16 * b) := by
      rw [← bytesDef]
      simp
    have grown : min (16 * (b + 1)) p.size = 16 * b + min 16 (p.size - 16 * b) := by omega
    have minEq : min (16 * b) p.size = 16 * b := by omega
    rw [minEq] at sofar
    refine ⟨?_, ?_⟩
    · -- the old bytes keep their keystream, the new ones use the feedback of block `b`
      have old : xorKeystream k iv (out ++ bytes) p (16 * b) = out :=
        calc xorKeystream k iv (out ++ bytes) p (16 * b)
            = xorKeystream k iv out p (16 * b) :=
              xorKeystream_congr (fun _ _ => rfl) fun i below => keystreamByte_append (by omega)
          _ = out := sofar.symm
      have tail : ((List.range (min 16 (p.size - 16 * b))).map
          fun j => p.get! (16 * b + j) ^^^ keystreamByte k iv (out ++ bytes) (16 * b + j)).toByteArray = bytes := by
        conv => rhs; rw [← bytesDef]
        refine congrArg List.toByteArray (List.map_congr_left fun j member => ?_)
        have within : j < 16 := by simp at member; omega
        rw [keystreamByte_append (by omega), keystreamByte_block k iv out within, fed]
      rw [grown, xorKeystream_add, old, tail]
    · have empty : ByteArray.emptyWithCapacity 16 = ByteArray.empty := rfl
      have short : bytes.extract 0 16 = bytes := by
        rw [show (16 : Nat) = max 16 bytes.size by omega, ByteArray.extract_zero_max_size]
      simp only [feedback, Nat.add_one_ne_zero, if_false, Nat.add_sub_cancel, empty, ByteArray.empty_append]
      rw [show 16 * (b + 1) = out.size + 16 by omega, show 16 * b = out.size + 0 by omega,
        ByteArray.extract_append_size_add, short]

/-- Encryption xors each byte of the input with the keystream its own output drives. -/
theorem cfbEncrypt_spec (k : Key) (iv p : ByteArray) :
    cfbEncrypt k iv p = xorKeystream k iv (cfbEncrypt k iv p) p p.size := by
  have whole := (foldl_encryptStep k iv p (b := (p.size + 15) / 16) le_rfl).1
  rw [show min (16 * ((p.size + 15) / 16)) p.size = p.size by omega] at whole
  rw [cfbEncrypt_eq_foldl]
  exact whole

theorem size_cfbEncrypt (k : Key) (iv p : ByteArray) : (cfbEncrypt k iv p).size = p.size := by
  rw [cfbEncrypt_spec, size_xorKeystream]

/-- The bytes of a byte string, read one by one, are the byte string. -/
theorem toByteArray_map_get! (x : ByteArray) : ((List.range x.size).map x.get!).toByteArray = x := by
  refine ByteArray.ext_getElem (by simp) fun i inList inX => ?_
  rw [List.getElem_toByteArray, ← Bytes.get!_eq_getElem inX, List.getElem_map, List.getElem_range]

/-! ## Decryption undoes encryption -/

/-- Decrypting a ciphertext gives back its plaintext, for every key and initial vector. -/
theorem cfbDecrypt_cfbEncrypt (k : Key) (iv p : ByteArray) : cfbDecrypt k iv (cfbEncrypt k iv p) = p := by
  rw [cfbDecrypt_eq, size_cfbEncrypt]
  conv => rhs; rw [← toByteArray_map_get! p]
  refine congrArg List.toByteArray (List.map_congr_left fun i member => ?_)
  have below := List.mem_range.mp member
  -- each ciphertext byte is the plaintext byte xored with the keystream, so the keystream cancels
  have byte : (cfbEncrypt k iv p).get! i = p.get! i ^^^ keystreamByte k iv (cfbEncrypt k iv p) i := by
    rw [← get!_xorKeystream below, ← cfbEncrypt_spec]
  rw [byte, UInt8.xor_assoc, UInt8.xor_self, UInt8.xor_zero]

/-- Decrypting the first `m` bytes of a ciphertext gives the first `m` bytes of its plaintext. -/
theorem cfbDecrypt_extract (k : Key) (iv c : ByteArray) {m : Nat} (within : m ≤ c.size) :
    cfbDecrypt k iv (c.extract 0 m) = (cfbDecrypt k iv c).extract 0 m := by
  rw [cfbDecrypt_eq, cfbDecrypt_eq, ByteArray.size_extract, Nat.min_eq_left within, Nat.sub_zero]
  have front : (xorKeystream k iv c c c.size).extract 0 m = xorKeystream k iv c c m := by
    unfold xorKeystream
    rw [show c.size = m + (c.size - m) by omega, List.range_add, List.map_append, List.toByteArray_append,
      ByteArray.extract_append_eq_left (by simp)]
  rw [front]
  refine xorKeystream_congr (fun i below => ?_) fun i below => keystreamByte_extract below
  rw [Bytes.get!_eq_getElem (by simp; omega), Bytes.get!_eq_getElem (by omega), ByteArray.getElem_extract]
  simp

end Aes

end SealedMail

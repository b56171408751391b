import SealedMail.Cipher.Modes
import SealedMail.Cipher.Algorithm
import SealedMail.Kdf.Scrypt
import SealedMail.Error

/-! # Raw symmetric primitives

AES in counter mode with no integrity protection, for callers that authenticate the data
themselves, and scrypt key derivation with fixed block size and parallelism. Both check
their parameters first and report a bad one as an invalid parameter.
-/

namespace SealedMail.Raw

/-- AES-CTR with a 16-byte initial counter block; encryption and decryption coincide. -/
def ctr (key input iv : ByteArray) : Outcome ByteArray :=
  if iv.size != 16 then .error (.invalidParameter s!"iv must be 16 bytes, got {iv.size}")
  else
    match SymmetricAlgorithm.ofKeySize? key.size with
    | none => .error (.invalidParameter s!"invalid AES key length {key.size}")
    | some _ => .ok (Aes.ctr (Aes.expand key) iv input)

/-- The smallest accepted scrypt cost. -/
def minCost : Nat := 1024

/-- scrypt with cost `n` (a power of two, at least 1024), r = 8, p = 1 and 32 bytes of
output. Costs from 2^54 on are refused because the memory they need overflows a 64-bit
size. -/
def deriveKey (password : String) (salt : ByteArray) (n : Nat) : Outcome ByteArray :=
  if n == 0 || n &&& (n - 1) != 0 then .error (.invalidParameter s!"scrypt cost {n} is not a power of two")
  else if n < minCost then
    .error (.invalidParameter s!"scrypt cost {n} is below the minimum of {minCost}")
  else if n ≥ Nat.pow 2 54 then .error (.invalidParameter "scrypt parameters: invalid scrypt parameters")
  else .ok (Scrypt.derive password.toUTF8 salt n)

end SealedMail.Raw

import SealedMail.Digest.Sha2
import SealedMail.Bytes.Basic

/-! # Random bytes

Everything the engine makes at random (session keys, salts, initial vectors, padding,
ephemeral keys) is drawn from an explicit generator state that is threaded through the
computation: the SHA-256 digests of a seed followed by a block counter. The program seeds
it from the system's random source; a fixed seed makes a computation repeatable.
-/

namespace SealedMail

/-- A generator of pseudo-random bytes. -/
structure Entropy where
  /-- The secret seed. -/
  seed : ByteArray
  /-- The number of blocks drawn so far. -/
  counter : Nat := 0
deriving Inhabited

namespace Entropy

/-- A generator from a seed. -/
def ofSeed (seed : ByteArray) : Entropy := ⟨seed, 0⟩

/-- The next 32-byte block. -/
def block (g : Entropy) : ByteArray × Entropy :=
  (Sha2.sha256 (g.seed ++ Bytes.ofNatBE g.counter 8), { g with counter := g.counter + 1 })

/-- `n` random bytes and the generator after them. -/
def bytes (g : Entropy) (n : Nat) : ByteArray × Entropy :=
  let rounds := (n + 31) / 32
  let (out, g) := (List.range rounds).foldl (fun (acc : ByteArray × Entropy) _ =>
    let (b, g) := acc.2.block
    (acc.1 ++ b, g)) (ByteArray.empty, g)
  (out.extract 0 n, g)

/-- `n` random bytes none of which is zero: zero bytes are drawn again. -/
def nonzeroBytes (g : Entropy) (n : Nat) : ByteArray × Entropy :=
  go n (ByteArray.emptyWithCapacity n) g (n + 64)
where
  /-- Draw until `n` nonzero bytes are collected or `fuel` blocks are spent; a spent fuel
  fills up with ones. -/
  go (n : Nat) (acc : ByteArray) (g : Entropy) : Nat → ByteArray × Entropy
    | 0 => (acc ++ Bytes.replicate (n - acc.size) 1, g)
    | fuel + 1 =>
      if acc.size ≥ n then (acc.extract 0 n, g)
      else
        let (b, g) := g.block
        go n (acc ++ ByteArray.mk (b.data.filter (· != 0))) g fuel

end Entropy

end SealedMail

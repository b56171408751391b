import SealedMail.Curve.Edwards

/-! # X25519

The Diffie-Hellman function on the Montgomery form of Curve25519: a clamped scalar times a
point given by its `u` coordinate, computed with the Montgomery ladder.
-/

namespace SealedMail.X25519

open Ed25519 (p leBytes ofLE)

/-- Clamp a 32-byte scalar: clear the three low bits and the top bit, set bit 254. -/
def clamp (k : ByteArray) : Nat :=
  let n := ofLE k
  (n - n % 8) % Nat.pow 2 255 % Nat.pow 2 254 + Nat.pow 2 254

/-- One ladder step on `(x2, z2, x3, z3)` with base `u`. -/
def ladderStep (u : Nat) (s : Nat × Nat × Nat × Nat) : Nat × Nat × Nat × Nat :=
  let (x2, z2, x3, z3) := s
  let a := (x2 + z2) % p
  let aa := a * a % p
  let b := Modular.subMod x2 z2 p
  let bb := b * b % p
  let e := Modular.subMod aa bb p
  let c := (x3 + z3) % p
  let dd := Modular.subMod x3 z3 p
  let da := dd * a % p
  let cb := c * b % p
  let x3 := (da + cb) % p * ((da + cb) % p) % p
  let z3 := u * (Modular.subMod da cb p * Modular.subMod da cb p % p) % p
  let x2 := aa * bb % p
  let z2 := e * ((aa + 121665 * e) % p) % p
  (x2, z2, x3, z3)

/-- The `u` coordinate of a clamped 32-byte scalar times the point with a 32-byte `u`
coordinate, as a number below `p`. -/
def ladder (k u : ByteArray) : Nat :=
  let k := clamp k
  let u := ofLE u % Nat.pow 2 255 % p
  let init : Nat × Nat × Nat × Nat × Bool := (1, 0, u, 1, false)
  let (x2, z2, x3, z3, swap) := (List.range 255).reverse.foldl (fun (st : Nat × Nat × Nat × Nat × Bool) t =>
    let (x2, z2, x3, z3, swap) := st
    let bit := k.testBit t
    let sw := swap != bit
    let (x2, z2, x3, z3) := if sw then (x3, z3, x2, z2) else (x2, z2, x3, z3)
    let (x2, z2, x3, z3) := ladderStep u (x2, z2, x3, z3)
    (x2, z2, x3, z3, bit)) init
  let (x2, z2) := if swap then (x3, z3) else (x2, z2)
  x2 * Modular.powMod z2 (p - 2) p % p

/-- The shared value of a 32-byte scalar and a 32-byte `u` coordinate. -/
def scalarMult (k u : ByteArray) : ByteArray := leBytes (ladder k u) 32

/-- The public value of a 32-byte scalar: the scalar times the base point `u = 9`. -/
def publicOf (k : ByteArray) : ByteArray := scalarMult k (leBytes 9 32)

end SealedMail.X25519

import SealedMail.Arith.Modular
import SealedMail.Digest.Sha2
import SealedMail.Bytes.Basic

/-! # Ed25519

The twisted Edwards curve `-x² + y² = 1 + d·x²·y²` over the field of `2^255 - 19`, with
the group law in extended coordinates, the 32-byte point encoding (little-endian `y`, the
sign of `x` in the top bit) and the signature scheme: a signature over a message is a point
`R` and a scalar `S` with `S·B = R + H(R, A, message)·A`.
-/

namespace SealedMail.Ed25519

/-- The field prime. -/
def p : Nat := Nat.pow 2 255 - 19

/-- The order of the base point. -/
def l : Nat := Nat.pow 2 252 + 27742317777372353535851937790883648493

/-- The curve constant `d = -121665 / 121666`. -/
def d : Nat := (p - 121665) * Modular.inversePrime 121666 p % p

/-- A point in extended coordinates `(X, Y, Z, T)` with `x = X/Z`, `y = Y/Z`, `x·y = T/Z`. -/
structure Point where
  x : Nat
  y : Nat
  z : Nat
  t : Nat

/-- The neutral point. -/
def zero : Point := ⟨0, 1, 1, 0⟩

/-- The sum of two points. -/
def add (q r : Point) : Point :=
  let a := Modular.subMod q.y q.x p * Modular.subMod r.y r.x p % p
  let b := (q.y + q.x) * (r.y + r.x) % p
  let c := q.t * 2 % p * d % p * r.t % p
  let dd := q.z * 2 * r.z % p
  let e := Modular.subMod b a p
  let f := Modular.subMod dd c p
  let g := (dd + c) % p
  let h := (b + a) % p
  ⟨e * f % p, g * h % p, f * g % p, e * h % p⟩

/-- The negation of a point. -/
def neg (q : Point) : Point := ⟨Modular.subMod 0 q.x p, q.y, q.z, Modular.subMod 0 q.t p⟩

/-- `k` times a point. -/
def mul (k : Nat) (q : Point) : Point :=
  ((List.range (Nat.log2 k + 1)).reverse).foldl
    (fun acc i => let acc := add acc acc; if k.testBit i then add acc q else acc) zero

/-- The `x` coordinate for `y` with the given sign bit, if there is one. -/
def recoverX (y : Nat) (sign : Bool) : Option Nat :=
  let yy := y * y % p
  let u := Modular.subMod yy 1 p
  let v := (d * yy + 1) % p
  let v3 := v * v % p * v % p
  let v7 := v3 * v3 % p * v % p
  let x := u * v3 % p * Modular.powMod (u * v7 % p) ((p - 5) / 8) p % p
  let vxx := v * (x * x % p) % p
  let x :=
    if vxx = u then some x
    else if vxx = Modular.subMod 0 u p then some (x * Modular.powMod 2 ((p - 1) / 4) p % p)
    else none
  match x with
  | none => none
  | some x =>
    if x = 0 && sign then none
    else some (if (x % 2 == 1) == sign then x else Modular.subMod 0 x p)

/-- The point with an affine `y` and sign bit, if any. -/
def ofY? (y : Nat) (sign : Bool) : Option Point :=
  if y ≥ p then none
  else (recoverX y sign).map (fun x => ⟨x, y, 1, x * y % p⟩)

/-- The base point. -/
def base : Point :=
  let y := 4 * Modular.inversePrime 5 p % p
  (ofY? y false).getD zero

/-- The little-endian bytes of a number, `n` of them. -/
def leBytes (x n : Nat) : ByteArray := ⟨(Bytes.ofNatBE x n).data.reverse⟩

/-- The number little-endian bytes spell. -/
def ofLE (b : ByteArray) : Nat := Bytes.toNatBE ⟨b.data.reverse⟩

/-- The 32-byte encoding of a point. -/
def encode (q : Point) : ByteArray :=
  let zi := Modular.inversePrime q.z p
  let x := q.x * zi % p
  let y := q.y * zi % p
  leBytes (y + (if x % 2 = 1 then Nat.pow 2 255 else 0)) 32

/-- The point a 32-byte encoding stands for, if any. -/
def decode? (b : ByteArray) : Option Point :=
  if b.size != 32 then none
  else
    let n := ofLE b
    ofY? (n % Nat.pow 2 255) (n ≥ Nat.pow 2 255)

/-- A number of SHA-512 digest bytes reduced modulo `l`. -/
def hashScalar (parts : ByteArray) : Nat := ofLE (Sha2.sha512 parts) % l

/-- The secret scalar and nonce prefix of a 32-byte secret seed. -/
def expand (seed : ByteArray) : Nat × ByteArray :=
  let h := Sha2.sha512 seed
  let a := ofLE (h.extract 0 32)
  let a := (a - a % 8) % Nat.pow 2 254 + Nat.pow 2 254
  (a, h.extract 32 64)

/-- The public key of a secret seed. -/
def publicKey (seed : ByteArray) : ByteArray := encode (mul (expand seed).1 base)

/-- The signature of a message under a secret seed: `R` and `S`, 32 bytes each. -/
def sign (seed message : ByteArray) : ByteArray :=
  let (a, pre) := expand seed
  let pk := encode (mul a base)
  let r := hashScalar (pre ++ message)
  let rEnc := encode (mul r base)
  let k := hashScalar (rEnc ++ pk ++ message)
  rEnc ++ leBytes ((r + k * a) % l) 32

/-- Whether `R ‖ S` is a signature of a message under a public key. -/
def verify (publicKey message signature : ByteArray) : Bool :=
  if signature.size != 64 then false
  else
    let rEnc := signature.extract 0 32
    let s := ofLE (signature.extract 32 64)
    match decode? publicKey with
    | none => false
    | some a =>
      if s ≥ l then false
      else
        let k := hashScalar (rEnc ++ publicKey ++ message)
        Bytes.equal (encode (add (mul s base) (neg (mul k a)))) rEnc

end SealedMail.Ed25519

import SealedMail.Arith.Modular

/-! # Short Weierstrass curves

The prime-field curves `y² = x³ + a·x + b` of the NIST and SEC standards, with the point
group law in Jacobian coordinates and scalar multiplication by doubling and adding.
-/

namespace SealedMail

/-- A prime-field curve with a base point of prime order. -/
structure WeierstrassCurve where
  p : Nat
  a : Nat
  b : Nat
  /-- The order of the base point. -/
  n : Nat
  gx : Nat
  gy : Nat
  /-- The size of a field element in bytes. -/
  size : Nat

namespace WeierstrassCurve

/-- NIST P-256. -/
def p256 : WeierstrassCurve where
  p := 0xffffffff00000001000000000000000000000000ffffffffffffffffffffffff
  a := 0xffffffff00000001000000000000000000000000fffffffffffffffffffffffc
  b := 0x5ac635d8aa3a93e7b3ebbd55769886bc651d06b0cc53b0f63bce3c3e27d2604b
  n := 0xffffffff00000000ffffffffffffffffbce6faada7179e84f3b9cac2fc632551
  gx := 0x6b17d1f2e12c4247f8bce6e563a440f277037d812deb33a0f4a13945d898c296
  gy := 0x4fe342e2fe1a7f9b8ee7eb4a7c0f9e162bce33576b315ececbb6406837bf51f5
  size := 32

/-- NIST P-384. -/
def p384 : WeierstrassCurve where
  p := 0xfffffffffffffffffffffffffffffffffffffffffffffffffffffffffffffffeffffffff0000000000000000ffffffff
  a := 0xfffffffffffffffffffffffffffffffffffffffffffffffffffffffffffffffeffffffff0000000000000000fffffffc
  b := 0xb3312fa7e23ee7e4988e056be3f82d19181d9c6efe8141120314088f5013875ac656398d8a2ed19d2a85c8edd3ec2aef
  n := 0xffffffffffffffffffffffffffffffffffffffffffffffffc7634d81f4372ddf581a0db248b0a77aecec196accc52973
  gx := 0xaa87ca22be8b05378eb1c71ef320ad746e1d3b628ba79b9859f741e082542a385502f25dbf55296c3a545e3872760ab7
  gy := 0x3617de4a96262c6f5d9e98bf9292dc29f8f41dbd289a147ce9da3113b5f0b8c00a60b1ce1d7e819d7a431d7c90ea0e5f
  size := 48

/-- SEC secp256k1. -/
def secp256k1 : WeierstrassCurve where
  p := Nat.pow 2 256 - Nat.pow 2 32 - 977
  a := 0
  b := 7
  n := 0xfffffffffffffffffffffffffffffffebaaedce6af48a03bbfd25e8cd0364141
  gx := 0x79be667ef9dcbbac55a06295ce870b07029bfcdb2dce28d959f2815b16f81798
  gy := 0x483ada7726a3c4655da4fbfc0e1108a8fd17b448a68554199c47d08ffb10d4b8
  size := 32

/-- A point in Jacobian coordinates `(X, Y, Z)`, standing for `(X / Z², Y / Z³)`; `Z = 0`
is the point at infinity. -/
structure Jacobian where
  x : Nat
  y : Nat
  z : Nat

/-- The point at infinity. -/
def infinity : Jacobian := ⟨1, 1, 0⟩

/-- Twice a point. -/
def double (c : WeierstrassCurve) (q : Jacobian) : Jacobian :=
  let p := c.p
  if q.z = 0 || q.y = 0 then infinity
  else
    let yy := q.y * q.y % p
    let s := 4 * q.x * yy % p
    let zz := q.z * q.z % p
    let m := (3 * q.x * q.x + c.a * (zz * zz % p)) % p
    let x3 := Modular.subMod (m * m % p) (2 * s % p) p
    let y3 := Modular.subMod (m * Modular.subMod s x3 p % p) (8 * (yy * yy % p) % p) p
    let z3 := 2 * q.y * q.z % p
    ⟨x3, y3, z3⟩

/-- The sum of two points. -/
def add (c : WeierstrassCurve) (q r : Jacobian) : Jacobian :=
  let p := c.p
  if q.z = 0 then r
  else if r.z = 0 then q
  else
    let z1z1 := q.z * q.z % p
    let z2z2 := r.z * r.z % p
    let u1 := q.x * z2z2 % p
    let u2 := r.x * z1z1 % p
    let s1 := q.y * (z2z2 * r.z % p) % p
    let s2 := r.y * (z1z1 * q.z % p) % p
    if u1 = u2 then
      if s1 = s2 then double c q else infinity
    else
      let h := Modular.subMod u2 u1 p
      let rr := Modular.subMod s2 s1 p
      let hh := h * h % p
      let hhh := hh * h % p
      let v := u1 * hh % p
      let x3 := Modular.subMod (Modular.subMod (rr * rr % p) hhh p) (2 * v % p) p
      let y3 := Modular.subMod (rr * Modular.subMod v x3 p % p) (s1 * hhh % p) p
      let z3 := h * q.z % p * r.z % p
      ⟨x3, y3, z3⟩

/-- The affine coordinates of a point, `none` at infinity. -/
def toAffine (c : WeierstrassCurve) (q : Jacobian) : Option (Nat × Nat) :=
  if q.z = 0 then none
  else
    let zi := Modular.inversePrime q.z c.p
    let zi2 := zi * zi % c.p
    some (q.x * zi2 % c.p, q.y * (zi2 * zi % c.p) % c.p)

/-- The bits of a number, most significant first. -/
def bitsHighFirst (k : Nat) : List Bool :=
  ((List.range (Nat.log2 k + 1)).reverse.map (fun i => k.testBit i))

/-- `k` times a point. -/
def mul (c : WeierstrassCurve) (k : Nat) (q : Jacobian) : Jacobian :=
  if k = 0 then infinity
  else (bitsHighFirst k).foldl (fun acc bit => if bit then add c (double c acc) q else double c acc) infinity

/-- An affine point as a Jacobian one. -/
def ofAffine (x y : Nat) : Jacobian := ⟨x, y, 1⟩

/-- The base point. -/
def base (c : WeierstrassCurve) : Jacobian := ofAffine c.gx c.gy

/-- Whether affine coordinates satisfy the curve equation. -/
def onCurve (c : WeierstrassCurve) (x y : Nat) : Bool :=
  x < c.p && y < c.p && (y * y % c.p == (x * x % c.p * x + c.a * x + c.b) % c.p)

end WeierstrassCurve

end SealedMail

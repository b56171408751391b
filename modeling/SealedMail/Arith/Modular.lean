/-! # Modular arithmetic

Exponentiation, inverses and square roots modulo a number, on natural numbers. These are
the operations the public-key algorithms are built from.
-/

namespace SealedMail.Modular

/-- `b ^ e % m`, by squaring and multiplying. -/
def powMod (b e m : Nat) : Nat :=
  if h : e = 0 then 1 % m
  else
    let r := powMod (b * b % m) (e / 2) m
    if e % 2 = 1 then r * (b % m) % m else r
termination_by e
decreasing_by omega

/-- The inverse of `a` modulo `m`, if `a` and `m` are coprime. -/
def inverse? (a m : Nat) : Option Nat :=
  let (g, x, _) := go (a % m : Int) (m : Int) (m + 1)
  if g = 1 then some ((x % (m : Int)).toNat) else none
where
  /-- Extended Euclid: `(gcd, x, y)` with `a * x + b * y = gcd`. -/
  go (a b : Int) : Nat → Int × Int × Int
    | 0 => (a, 1, 0)
    | fuel + 1 =>
      if b = 0 then (a, 1, 0)
      else
        let (g, x, y) := go b (a % b) fuel
        (g, y, x - (a / b) * y)

/-- The inverse of `a` modulo a prime `p`. -/
def inversePrime (a p : Nat) : Nat := powMod a (p - 2) p

/-- A square root of `a` modulo a prime `p` with `p % 4 = 3`, if `a` is a square. -/
def sqrt3Mod4? (a p : Nat) : Option Nat :=
  let r := powMod a ((p + 1) / 4) p
  if r * r % p = a % p then some r else none

/-- `a - b` modulo `m`, for `b < m`. -/
@[inline] def subMod (a b m : Nat) : Nat := (a + m - b % m) % m

end SealedMail.Modular

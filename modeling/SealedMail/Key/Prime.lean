import SealedMail.Arith.Modular
import SealedMail.Entropy

/-! # Probable primes

A number is taken for prime when no small prime divides it (unless it is one) and it is a
strong probable prime to each of the first twelve prime bases. The test is exact below
`3.3 · 10^24` and a sound filter above. A random prime of `b` bits is found by drawing `b`
random bits, setting the top two bits (so a product of two such primes has all its bits)
and the lowest bit, and stepping up by two to the next probable prime.
-/

namespace SealedMail.Prime

/-- The primes below one hundred, for trial division. -/
def small : List Nat :=
  [2, 3, 5, 7, 11, 13, 17, 19, 23, 29, 31, 37, 41, 43, 47, 53, 59, 61, 67, 71, 73, 79, 83, 89, 97]

/-- The bases of the strong probable prime test. -/
def bases : List Nat := [2, 3, 5, 7, 11, 13, 17, 19, 23, 29, 31, 37]

/-- `m = d · 2^s` with `d` odd, as `(s, d)`; at most `fuel` halvings. -/
def splitTwos : Nat → Nat → Nat × Nat
  | 0, m => (0, m)
  | fuel + 1, m =>
    if m ≠ 0 && m % 2 == 0 then
      let (s, d) := splitTwos fuel (m / 2)
      (s + 1, d)
    else (0, m)

/-- Whether one of `x, x², x⁴, …` (`fuel` squarings) is `n - 1` modulo `n`. -/
def reachesMinusOne (n : Nat) : Nat → Nat → Bool
  | 0, x => x % n == n - 1
  | fuel + 1, x => x % n == n - 1 || reachesMinusOne n fuel (x * x % n)

/-- Whether odd `n > 2` is a strong probable prime to base `a`. -/
def strongProbable (n a : Nat) : Bool :=
  let (s, d) := splitTwos (Nat.log2 n + 1) (n - 1)
  let x := Modular.powMod a d n
  x == 1 || (s > 0 && reachesMinusOne n (s - 1) x)

/-- Whether `n` is taken for prime. -/
def isProbable (n : Nat) : Bool :=
  if n < 2 then false
  else if small.contains n then true
  else if small.any (fun p => n % p == 0) then false
  else bases.all (fun a => strongProbable n a)

/-- The first probable prime among `c, c + 2, …`, at most `fuel` steps on. -/
def nextFrom : Nat → Nat → Option Nat
  | 0, _ => none
  | fuel + 1, c => if isProbable c then some c else nextFrom fuel (c + 2)

/-- A random probable prime of `bits` bits (at least two), drawing again when a run of
candidates holds none; `none` only when `fuel` draws all fail. -/
def random (bits : Nat) : Nat → Entropy → Option Nat × Entropy
  | 0, g => (none, g)
  | fuel + 1, g =>
    let (b, g) := g.bytes ((bits + 7) / 8)
    let c := Bytes.toNatBE b % Nat.pow 2 bits
    let c := c ||| Nat.pow 2 (bits - 1) ||| Nat.pow 2 (bits - 2) ||| 1
    match nextFrom (16 * bits + 64) c with
    | some p => if Nat.log2 p + 1 == bits then (some p, g) else random bits fuel g
    | none => random bits fuel g

end SealedMail.Prime

/-! # Shortest text of a double

A number that a JSON reader takes as a double (one written with a fraction or exponent, or
an integer outside the 64-bit range) is shown the way a double prints: the fewest
significant digits that read back as the same double. The number is fixed-point when its
decimal exponent is from -5 to 15 (with `.0` for a whole number), otherwise scientific with
the sign of the exponent always written (`1.5e+300`, `1e-6`).

A positive double is `mantissa * 2 ^ exponent` with the mantissa below `2 ^ 53`; the
double nearest a rational is found by the bit lengths of its numerator and denominator,
a shift (no lower than the subnormal exponent) and rounding half to even. Products and
quotients of doubles are the doubles nearest their exact values; one whose exponent passes
that of the largest finite double has overflowed.
-/

namespace SealedMail.Double

/-- A finite non-negative double: `mantissa * 2 ^ exponent`. -/
structure Binary where
  mantissa : Nat
  exponent : Int
deriving DecidableEq, Repr

/-- The binary exponent of a positive rational `n / d`: the `k` with `2 ^ k ≤ n / d < 2 ^ (k + 1)`. -/
def binaryExponent (n d : Nat) : Int :=
  let k : Int := (Nat.log2 n : Int) - Nat.log2 d
  let below := if k ≥ 0 then n < d <<< k.toNat else n <<< (-k).toNat < d
  if below then k - 1 else k

/-- `n / d` rounded to a whole number, a tie going to the even one. -/
def roundHalfEven (n d : Nat) : Nat :=
  let q := n / d
  let twice := 2 * (n % d)
  if twice > d || (twice == d && q % 2 == 1) then q + 1 else q

/-- The double nearest the rational `n / d` (`d > 0`), ties to even. -/
def nearest (n d : Nat) : Binary :=
  if n = 0 then ⟨0, 0⟩
  else
    let shift := max (binaryExponent n d - 52) (-1074)
    let num := if shift < 0 then n <<< (-shift).toNat else n
    let den := if shift > 0 then d <<< shift.toNat else d
    let m := roundHalfEven num den
    if m = Nat.pow 2 53 then ⟨Nat.pow 2 52, shift + 1⟩ else ⟨m, shift⟩

/-- The exact value of a double as a rational `(numerator, denominator)`. -/
def Binary.ratio (b : Binary) : Nat × Nat :=
  if b.exponent ≥ 0 then (b.mantissa <<< b.exponent.toNat, 1) else (b.mantissa, 1 <<< (-b.exponent).toNat)

namespace Binary

/-- The double nearest a natural number. -/
def ofNat (n : Nat) : Binary := nearest n 1

/-- The double nearest `10 ^ k`. -/
def pow10 (k : Nat) : Binary := nearest (Nat.pow 10 k) 1

/-- Whether a rounded value lies beyond the largest finite double, `(2 ^ 53 - 1) * 2 ^ 971`. -/
def overflows (b : Binary) : Bool := decide (b.exponent > 971)

/-- The double nearest the product of two doubles. -/
def mul (a b : Binary) : Binary :=
  let (n₁, d₁) := a.ratio
  let (n₂, d₂) := b.ratio
  nearest (n₁ * n₂) (d₁ * d₂)

/-- The double nearest the quotient of two doubles, the divisor not zero. -/
def div (a b : Binary) : Binary :=
  let (n₁, d₁) := a.ratio
  let (n₂, d₂) := b.ratio
  nearest (n₁ * d₂) (d₁ * n₂)

end Binary

/-- The number of decimal digits of a positive number. -/
def digitCount (n : Nat) : Nat := (toString n).length

/-- The decimal exponent of a positive rational `n / d`: the `k` with `10 ^ k ≤ n / d < 10 ^ (k + 1)`. -/
def decimalExponent (n d : Nat) : Int :=
  let k : Int := (digitCount n : Int) - digitCount d
  let below := if k ≥ 0 then n < d * Nat.pow 10 k.toNat else n * Nat.pow 10 (-k).toNat < d
  if below then k - 1 else k

/-- The digits of a double rounded to `p` significant digits, and the decimal exponent of
the first of them. -/
def roundTo (b : Binary) (p : Nat) : Nat × Int :=
  let (n, d) := b.ratio
  let k := decimalExponent n d
  let s := k - p + 1
  let (num, den) := if s ≥ 0 then (n, d * Nat.pow 10 s.toNat) else (n * Nat.pow 10 (-s).toNat, d)
  let digits := roundHalfEven num den
  if digits = Nat.pow 10 p then (Nat.pow 10 (p - 1), k + 1) else (digits, k)

/-- Whether digits with the decimal exponent of their first read back as the double. -/
def readsBack (b : Binary) (digits : Nat) (k : Int) (p : Nat) : Bool :=
  let s := k - p + 1
  let (n, d) := if s ≥ 0 then (digits * Nat.pow 10 s.toNat, 1) else (digits, Nat.pow 10 (-s).toNat)
  nearest n d == b

/-- The fewest significant digits of a positive double that read back as it (at most
seventeen are ever needed), and the decimal exponent of the first of them. -/
def shortest (b : Binary) : String × Int :=
  let p := ((List.range 17).map (· + 1)).find? (fun p =>
    let (digits, k) := roundTo b p
    readsBack b digits k p) |>.getD 17
  let (digits, k) := roundTo b p
  (String.ofList ((toString digits).toList.reverse.dropWhile (· == '0')).reverse, k)

/-- The text of significant digits with the decimal exponent of the first. -/
def layout (digits : String) (k : Int) : String :=
  if -5 ≤ k && k < 16 then
    if k ≥ 0 then
      let whole := k.toNat + 1
      let padded := digits ++ String.ofList (List.replicate (whole - min whole digits.length) '0')
      let intPart := String.ofList (padded.toList.take whole)
      let frac := String.ofList (padded.toList.drop whole)
      intPart ++ "." ++ (if frac.isEmpty then "0" else frac)
    else "0." ++ String.ofList (List.replicate ((-k).toNat - 1) '0') ++ digits
  else
    let mant := match digits.toList with
      | [c] => c.toString
      | c :: rest => c.toString ++ "." ++ String.ofList rest
      | [] => "0"
    mant ++ "e" ++ (if k < 0 then "-" else "+") ++ toString k.natAbs

/-- The text of a double with the given sign. -/
def Binary.text (negative : Bool) (b : Binary) : String :=
  let body := if b.mantissa = 0 then "0.0" else
    let (digits, k) := shortest b
    layout digits k
  (if negative then "-" else "") ++ body

/-- The text of the double nearest the rational `n / d` with the given sign. -/
def text (negative : Bool) (n d : Nat) : String := (nearest n d).text negative

end SealedMail.Double

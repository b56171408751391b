/-! # Decimal integers on the command line

A numeric value is an optional sign followed by decimal digits, read from the left. The
minus sign is allowed only for a signed type; a lone sign or any other character is an
invalid digit, and the first digit that takes the value out of the type's range ends the
reading with an overflow, unless an invalid character came before it.
-/

namespace SealedMail.Cli

/-- Why a text is not an integer of a type. -/
inductive IntegerError where
  | empty
  | invalidDigit
  | tooLarge
  | tooSmall
deriving DecidableEq, Repr

/-- The wording of an integer error. -/
def IntegerError.message : IntegerError → String
  | .empty => "cannot parse integer from empty string"
  | .invalidDigit => "invalid digit found in string"
  | .tooLarge => "number too large to fit in target type"
  | .tooSmall => "number too small to fit in target type"

/-- Accumulate digits onto `acc`, away from zero in the direction of `positive`, staying in
`[lo, hi]`. -/
def readDigits (lo hi : Int) (positive : Bool) : List Char → Int → Except IntegerError Int
  | [], acc => .ok acc
  | c :: cs, acc =>
    if !c.isDigit then .error .invalidDigit
    else
      let d : Int := c.toNat - 48
      let v := if positive then acc * 10 + d else acc * 10 - d
      if v > hi then .error .tooLarge
      else if v < lo then .error .tooSmall
      else readDigits lo hi positive cs v

/-- Read a decimal integer of the range `[lo, hi]`; a minus sign is allowed when `lo < 0`. -/
def readInteger (lo hi : Int) (s : String) : Except IntegerError Int :=
  match s.toList with
  | [] => .error .empty
  | ['+'] | ['-'] => .error .invalidDigit
  | '+' :: ds => readDigits lo hi true ds 0
  | '-' :: ds => if lo < 0 then readDigits lo hi false ds 0 else .error .invalidDigit
  | ds => readDigits lo hi true ds 0

end SealedMail.Cli

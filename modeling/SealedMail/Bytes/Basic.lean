/-! # Byte strings

Big-endian numbers, fixed-width words and small combinators on `ByteArray`, the
representation every codec, cipher and packet of the library works on.
-/

namespace SealedMail.Bytes

/-- The `width` low bytes of `n`, most significant first. -/
def ofNatBE (n width : Nat) : ByteArray :=
  ByteArray.mk ((List.range width).reverse.map (fun i => ((n >>> (8 * i)) % 256).toUInt8)).toArray

/-- The unsigned number a byte string spells, most significant byte first. -/
def toNatBE (b : ByteArray) : Nat :=
  b.foldl (fun acc x => acc * 256 + x.toNat) 0

/-- The shortest big-endian form of `n`; zero has no bytes. -/
def ofNatMinimal (n : Nat) : ByteArray :=
  ofNatBE n ((Nat.log2 n) / 8 + if n = 0 then 0 else 1)

/-- A 16-bit big-endian word. -/
def u16 (n : Nat) : ByteArray := ofNatBE n 2

/-- A 32-bit big-endian word. -/
def u32 (n : Nat) : ByteArray := ofNatBE n 4

/-- The byte at `i`, or zero past the end. -/
@[inline] def byteAt (b : ByteArray) (i : Nat) : UInt8 := b.get! i

/-- The bytes from `start` up to (not including) `stop`, clipped to the string. -/
def slice (b : ByteArray) (start stop : Nat) : ByteArray := b.extract start stop

/-- Everything from `start` on. -/
def dropFront (b : ByteArray) (start : Nat) : ByteArray := b.extract start b.size

/-- The first `n` bytes. -/
def takeFront (b : ByteArray) (n : Nat) : ByteArray := b.extract 0 n

/-- Byte-wise exclusive or, as long as the shorter operand. -/
def xor (a b : ByteArray) : ByteArray := Id.run do
  let n := min a.size b.size
  let mut out := ByteArray.emptyWithCapacity n
  for i in [0:n] do
    out := out.push (a.get! i ^^^ b.get! i)
  return out

/-- `n` copies of one byte. -/
def replicate (n : Nat) (x : UInt8) : ByteArray :=
  ByteArray.mk (Array.replicate n x)

/-- Whether two byte strings hold the same bytes. -/
def equal (a b : ByteArray) : Bool := a.data == b.data

/-- Whether `pre` is a prefix of `b`. -/
def startsWith (b pre : ByteArray) : Bool :=
  pre.size ≤ b.size && equal (b.extract 0 pre.size) pre

/-- The concatenation of a list of byte strings. -/
def concat (parts : List ByteArray) : ByteArray :=
  parts.foldl (· ++ ·) ByteArray.empty

/-- The bytes of an ASCII or UTF-8 text. -/
def ofString (s : String) : ByteArray := s.toUTF8

/-- The position of the first occurrence of `x` at or after `from`. -/
def indexOfFrom (b : ByteArray) (x : UInt8) (start : Nat) : Option Nat :=
  go start (b.size - start)
where
  go (i : Nat) : Nat → Option Nat
    | 0 => none
    | k + 1 => if b.get! i == x then some i else go (i + 1) k

/-- Whether `pat` occurs in `b` starting exactly at `i`. -/
def matchesAt (b pat : ByteArray) (i : Nat) : Bool :=
  i + pat.size ≤ b.size && equal (b.extract i (i + pat.size)) pat

/-- Whether `pat` occurs as a run of consecutive bytes of `xs`. -/
def occursIn (pat : List UInt8) : List UInt8 → Bool
  | [] => pat.isEmpty
  | x :: rest => pat.isPrefixOf (x :: rest) || occursIn pat rest

end SealedMail.Bytes

/-! # CRC-24

The checksum of armored data: a 24-bit cyclic redundancy check with generator 0x864CFB and
initial value 0xB704CE, fed most significant bit first.
-/

namespace SealedMail.Crc24

/-- The initial register. -/
def initial : Nat := 0xB704CE

/-- The register after one byte. -/
def step (crc : Nat) (x : UInt8) : Nat := Id.run do
  let mut c := crc ^^^ (x.toNat <<< 16)
  for _ in [0:8] do
    c := c <<< 1
    if c &&& 0x1000000 != 0 then c := c ^^^ 0x1864CFB
  return c &&& 0xFFFFFF

/-- The checksum of a byte string. -/
def checksum (b : ByteArray) : Nat := b.foldl step initial

end SealedMail.Crc24

import SealedMail.Packet.Cursor
import SealedMail.Bytes.Basic

/-! # Multiprecision integers

A number in a packet is written as its bit length (two bytes) followed by its big-endian
bytes. Read numbers are kept without leading zero bytes, so that writing one back gives
the shortest form.
-/

namespace SealedMail

/-- A non-negative number as its big-endian bytes, without leading zero bytes. -/
structure Mpi where
  bytes : ByteArray
deriving Inhabited

namespace Mpi

/-- Drop leading zero bytes. -/
def strip (b : ByteArray) : ByteArray :=
  let k := (b.toList.takeWhile (· == 0)).length
  b.extract k b.size

/-- The number with the given big-endian bytes. -/
def ofBytes (b : ByteArray) : Mpi := ⟨strip b⟩

/-- The number `n`. -/
def ofNat (n : Nat) : Mpi := ⟨Bytes.ofNatMinimal n⟩

/-- The value of a number. -/
def toNat (m : Mpi) : Nat := Bytes.toNatBE m.bytes

/-- The number of significant bits. -/
def bits (m : Mpi) : Nat :=
  match m.bytes.toList with
  | [] => 0
  | top :: _ => 8 * (m.bytes.size - 1) + Nat.log2 top.toNat + 1

/-- The written form: bit length and bytes. -/
def write (m : Mpi) : ByteArray := Bytes.u16 m.bits ++ m.bytes

/-- Whether two numbers are equal. -/
def same (a b : Mpi) : Bool := Bytes.equal a.bytes b.bytes

end Mpi

/-- Read a number. -/
def Cursor.mpi : Cursor Mpi := do
  let bits ← Cursor.u16
  let bytes ← Cursor.take ((bits + 7) / 8)
  return Mpi.ofBytes bytes

end SealedMail

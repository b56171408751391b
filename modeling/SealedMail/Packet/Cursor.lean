import SealedMail.Packet.Error

/-! # Byte cursors

Packet bodies are read front to back by small parsers over a byte string and a position.
A parser either yields a value and the position after it, asks for more bytes than the
input has (`incomplete`), or finds a byte that breaks a rule (`broken`).
-/

namespace SealedMail

/-- How a parser failed. -/
inductive ParseFail where
  /-- The input ended; `needed` more bytes were expected. -/
  | incomplete (needed : Nat)
  /-- A rule was broken. -/
  | broken (rule : ParseRule)
  /-- A failure that is already a packet error. -/
  | fail (e : PacketError)
deriving Inhabited

/-- A parser over a byte string, from a position. -/
abbrev Cursor (α : Type) := ByteArray → Nat → Except ParseFail (α × Nat)

namespace Cursor

instance : Monad Cursor where
  pure a := fun _ i => .ok (a, i)
  bind m f := fun b i => match m b i with
    | .ok (a, j) => f a b j
    | .error e => .error e

instance : MonadExcept ParseFail Cursor where
  throw e := fun _ _ => .error e
  tryCatch m h := fun b i => match m b i with
    | .ok r => .ok r
    | .error e => h e b i

/-- Run a parser from the start of a byte string. -/
def run {α : Type} (p : Cursor α) (b : ByteArray) : Except ParseFail (α × Nat) := p b 0

/-- Fail with a broken rule. -/
def broken {α : Type} (rule : ParseRule) : Cursor α := fun _ _ => .error (.broken rule)

/-- Fail with a packet error. -/
def fail {α : Type} (e : PacketError) : Cursor α := fun _ _ => .error (.fail e)

/-- The current position. -/
def pos : Cursor Nat := fun _ i => .ok (i, i)

/-- The number of bytes left. -/
def remaining : Cursor Nat := fun b i => .ok (b.size - i, i)

/-- One byte. -/
def u8 : Cursor UInt8 := fun b i =>
  if i < b.size then .ok (b.get! i, i + 1) else .error (.incomplete 1)

/-- `n` bytes. -/
def take (n : Nat) : Cursor ByteArray := fun b i =>
  if i + n ≤ b.size then .ok (b.extract i (i + n), i + n) else .error (.incomplete (i + n - b.size))

/-- A big-endian 16-bit number. -/
def u16 : Cursor Nat := do
  let bs ← take 2
  return bs.foldl (fun a x => a * 256 + x.toNat) 0

/-- A big-endian 32-bit number. -/
def u32 : Cursor Nat := do
  let bs ← take 4
  return bs.foldl (fun a x => a * 256 + x.toNat) 0

/-- All bytes that are left. -/
def rest : Cursor ByteArray := fun b i => .ok (b.extract i b.size, b.size)

/-- Whether the input is used up. -/
def atEnd : Cursor Bool := fun b i => .ok (i ≥ b.size, i)

end Cursor

end SealedMail

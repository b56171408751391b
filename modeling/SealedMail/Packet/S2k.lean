import SealedMail.Packet.Codes
import SealedMail.Packet.Cursor
import SealedMail.Text.Escape

/-! # String-to-key specifiers

A passphrase becomes a cipher key by hashing it, alone, after a salt, or repeated with the
salt over a byte count coded in one byte. A key longer than one digest is made of several
digests, the `k`-th one hashing `k` zero bytes first.
-/

namespace SealedMail

/-- A string-to-key specifier. -/
inductive StringToKey where
  | simple (hash : HashCode)
  | salted (hash : HashCode) (salt : ByteArray)
  | reserved (unknown : ByteArray)
  | iterated (hash : HashCode) (salt : ByteArray) (count : Nat)
  | argon2 (salt : ByteArray) (t p m : Nat)
  /-- A private or experimental type (100 to 110) and the bytes after it. -/
  | privateUse (typ : Nat) (unknown : ByteArray)
  /-- Any other type and the bytes after it. -/
  | other (typ : Nat) (unknown : ByteArray)
deriving Inhabited

namespace StringToKey

/-- A byte list as error texts show it. -/
def bytesText (b : ByteArray) : String :=
  "[" ++ ", ".intercalate (b.toList.map (fun x => toString x.toNat)) ++ "]"

/-- The structural rendering of a specifier. -/
def debug : StringToKey → String
  | .simple h => "Simple \x7b hash_alg: " ++ h.name ++ " \x7d"
  | .salted h s => "Salted \x7b hash_alg: " ++ h.name ++ ", salt: " ++ bytesText s ++ " \x7d"
  | .reserved u => "Reserved \x7b unknown: " ++ bytesText u ++ " \x7d"
  | .iterated h s c =>
    "IteratedAndSalted \x7b hash_alg: " ++ h.name ++ ", salt: " ++ bytesText s ++ ", count: " ++
      toString c ++ " \x7d"
  | .argon2 s t p m =>
    "Argon2 \x7b salt: " ++ bytesText s ++ ", t: " ++ toString t ++ ", p: " ++ toString p ++
      ", m_enc: " ++ toString m ++ " \x7d"
  | .privateUse t u => "Private \x7b typ: " ++ toString t ++ ", unknown: " ++ bytesText u ++ " \x7d"
  | .other t u => "Other \x7b typ: " ++ toString t ++ ", unknown: " ++ bytesText u ++ " \x7d"

/-- The written form. -/
def write : StringToKey → ByteArray
  | .simple h => ByteArray.mk #[0, h.toNat.toUInt8]
  | .salted h s => ByteArray.mk #[1, h.toNat.toUInt8] ++ s
  | .reserved u => ByteArray.mk #[2] ++ u
  | .iterated h s c => ByteArray.mk #[3, h.toNat.toUInt8] ++ s ++ ByteArray.mk #[c.toUInt8]
  | .argon2 s t p m => ByteArray.mk #[4] ++ s ++ ByteArray.mk #[t.toUInt8, p.toUInt8, m.toUInt8]
  | .privateUse t u => ByteArray.mk #[t.toUInt8] ++ u
  | .other t u => ByteArray.mk #[t.toUInt8] ++ u

/-- The number of bytes the iterated form hashes for a count byte. -/
def decodeCount (c : Nat) : Nat := (16 + c % 16) * Nat.pow 2 (c / 16 + 6)

/-- Whether a specifier is one of the hashing forms. -/
def isHashing : StringToKey → Bool
  | .simple _ | .salted _ _ | .iterated _ _ _ => true
  | _ => false

/-- The data one digest of a hashing form covers, after its zero prefix. -/
def hashInput (passphrase : ByteArray) : StringToKey → ByteArray
  | .simple _ => passphrase
  | .salted _ s => s ++ passphrase
  | .iterated _ s c =>
    let data := s ++ passphrase
    let count := max (decodeCount c) data.size
    if data.size = 0 then ByteArray.empty
    else
      let whole := count / data.size
      let part := count % data.size
      (List.replicate whole data).foldl (· ++ ·) ByteArray.empty ++ data.extract 0 part
  | _ => ByteArray.empty

/-- The hash of a hashing form. -/
def hashCode : StringToKey → HashCode
  | .simple h | .salted h _ | .iterated h _ _ => h
  | _ => .none

/-- Derive `size` key bytes from a passphrase; `none` when the specifier is not a
hashing form of a hash the engine computes. -/
def derive? (s : StringToKey) (passphrase : ByteArray) (size : Nat) : Option ByteArray := do
  let h ← s.hashCode.toAlgorithm?
  if !s.isHashing then none
  let input := s.hashInput passphrase
  let rounds := (size + h.size - 1) / h.size
  let digests := (List.range rounds).map (fun k => h.digest (ByteArray.mk (Array.replicate k 0) ++ input))
  return (digests.foldl (· ++ ·) ByteArray.empty).extract 0 size

end StringToKey

/-- Read a specifier; the private and unknown forms take all remaining bytes. -/
def Cursor.stringToKey : Cursor StringToKey := do
  let typ ← Cursor.u8
  match typ.toNat with
  | 0 => return .simple (HashCode.ofNat (← Cursor.u8).toNat)
  | 1 =>
    let h := HashCode.ofNat (← Cursor.u8).toNat
    return .salted h (← Cursor.take 8)
  | 2 => return .reserved (← Cursor.rest)
  | 3 =>
    let h := HashCode.ofNat (← Cursor.u8).toNat
    let salt ← Cursor.take 8
    return .iterated h salt (← Cursor.u8).toNat
  | 4 =>
    let salt ← Cursor.take 16
    let t ← Cursor.u8
    let p ← Cursor.u8
    let m ← Cursor.u8
    return .argon2 salt t.toNat p.toNat m.toNat
  | n =>
    if 100 ≤ n && n ≤ 110 then return .privateUse n (← Cursor.rest)
    else return .other n (← Cursor.rest)

end SealedMail

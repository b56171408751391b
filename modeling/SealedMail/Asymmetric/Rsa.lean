import SealedMail.Arith.Modular
import SealedMail.Packet.Codes
import SealedMail.Bytes.Hex
import SealedMail.Bytes.Basic

/-! # RSA

Signatures and encryption with PKCS #1 version 1.5 padding. A signature is the modulus-size
encoding `00 01 FF…FF 00 ‖ DigestInfo ‖ digest` raised to the private exponent; encryption
raises `00 02 ‖ nonzero random bytes ‖ 00 ‖ message` to the public exponent. A public key is
usable when its modulus has at most 4096 bits, its exponent is below its modulus, the modulus
is odd, and the exponent lies in `[2, 2^33)`; the checks are made in that order, an exponent
of 64 bits or more being refused as too large before the modulus is looked at.
-/

namespace SealedMail.Rsa

/-- Why an RSA operation failed. -/
inductive Failure where
  | modulusTooLarge
  | invalidModulus
  | exponentTooSmall
  | exponentTooLarge
  | messageTooLong
  | decryption
  | verification
deriving Repr, DecidableEq

/-- The name of a failure. -/
def Failure.name : Failure → String
  | .modulusTooLarge => "ModulusTooLarge"
  | .invalidModulus => "InvalidModulus"
  | .exponentTooSmall => "PublicExponentTooSmall"
  | .exponentTooLarge => "PublicExponentTooLarge"
  | .messageTooLong => "MessageTooLong"
  | .decryption => "Decryption"
  | .verification => "Verification"

/-- The DigestInfo prefix of a hash, if it has one. -/
def digestInfo : HashCode → Option ByteArray
  | .md5 => Hex.decode "3020300c06082a864886f70d020505000410" |>.toOption
  | .sha1 => Hex.decode "3021300906052b0e03021a05000414" |>.toOption
  | .ripemd160 => Hex.decode "3021300906052b2403020105000414" |>.toOption
  | .sha224 => Hex.decode "302d300d06096086480165030402040500041c" |>.toOption
  | .sha256 => Hex.decode "3031300d060960864801650304020105000420" |>.toOption
  | .sha384 => Hex.decode "3041300d060960864801650304020205000430" |>.toOption
  | .sha512 => Hex.decode "3051300d060960864801650304020305000440" |>.toOption
  | _ => none

/-- The size of the modulus in bytes. -/
def modulusBytes (n : Nat) : Nat := (Nat.log2 n + 8) / 8

/-- Check a public key. -/
def checkPublic (n e : Nat) : Except Failure Unit :=
  if n ≥ Nat.pow 2 4096 then .error .modulusTooLarge
  else if e ≥ Nat.pow 2 64 then .error .exponentTooLarge
  else if e ≥ n || n % 2 == 0 then .error .invalidModulus
  else if e < 2 then .error .exponentTooSmall
  else if e ≥ Nat.pow 2 33 then .error .exponentTooLarge
  else .ok ()

/-- The encoded digest block of a signature. -/
def signatureBlock (k : Nat) (hash : HashCode) (digest : ByteArray) : Option ByteArray := do
  let info ← digestInfo hash
  let t := info ++ digest
  if k < t.size + 11 then none
  return ByteArray.mk #[0, 1] ++ Bytes.replicate (k - t.size - 3) 0xff ++ ByteArray.mk #[0] ++ t

/-- Sign a digest with the private exponent `d`. -/
def sign (n d : Nat) (hash : HashCode) (digest : ByteArray) : Except Failure ByteArray := do
  let k := modulusBytes n
  match signatureBlock k hash digest with
  | none => throw Failure.messageTooLong
  | some em => return Bytes.ofNatBE (Modular.powMod (Bytes.toNatBE em) d n) k

/-- Whether `sig` is a signature of a digest. -/
def verify (n e : Nat) (hash : HashCode) (digest sig : ByteArray) : Bool :=
  let k := modulusBytes n
  match checkPublic n e, signatureBlock k hash digest with
  | .ok (), some em =>
    let s := Bytes.toNatBE sig
    sig.size ≤ k && s < n && Bytes.equal (Bytes.ofNatBE (Modular.powMod s e n) k) em
  | _, _ => false

/-- Encrypt a message with nonzero padding bytes drawn from `pad` (which must hold enough
of them). -/
def encrypt (n e : Nat) (msg pad : ByteArray) : Except Failure ByteArray := do
  checkPublic n e
  let k := modulusBytes n
  if msg.size + 11 > k then throw Failure.messageTooLong
  let ps := (pad.toList.filter (· != 0)).take (k - msg.size - 3)
  let em := ByteArray.mk #[0, 2] ++ ⟨ps.toArray⟩ ++ ByteArray.mk #[0] ++ msg
  return Bytes.ofNatBE (Modular.powMod (Bytes.toNatBE em) e n) k

/-- Decrypt a ciphertext with the private exponent `d`. -/
def decrypt (n d : Nat) (c : ByteArray) : Except Failure ByteArray := do
  let k := modulusBytes n
  let cv := Bytes.toNatBE c
  if c.size > k || cv ≥ n then throw Failure.decryption
  let em : ByteArray := Bytes.ofNatBE (Modular.powMod cv d n) k
  if em.get! 0 != 0 || em.get! 1 != 2 then throw Failure.decryption
  match Bytes.indexOfFrom em 0 2 with
  | some i => if i < 10 then throw Failure.decryption else return em.extract (i + 1) em.size
  | none => throw Failure.decryption

end SealedMail.Rsa

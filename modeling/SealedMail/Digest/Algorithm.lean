import SealedMail.Digest.Sha1
import SealedMail.Digest.Sha2

/-! # Hash algorithms

The five hash functions the engine computes, their OpenPGP identifiers and names, and the
HMAC construction over any of them.
-/

namespace SealedMail

/-- A hash function the engine can compute. -/
inductive HashAlgorithm where
  | sha1
  | sha256
  | sha384
  | sha512
  | sha224
deriving Repr, DecidableEq, Inhabited

namespace HashAlgorithm

/-- Every algorithm, in the order the engine lists them. -/
def all : List HashAlgorithm := [.sha1, .sha256, .sha384, .sha512, .sha224]

/-- The lowercase name used in configuration. -/
def name : HashAlgorithm → String
  | .sha1 => "sha1"
  | .sha256 => "sha256"
  | .sha384 => "sha384"
  | .sha512 => "sha512"
  | .sha224 => "sha224"

/-- The OpenPGP algorithm identifier. -/
def id : HashAlgorithm → Nat
  | .sha1 => 2
  | .sha256 => 8
  | .sha384 => 9
  | .sha512 => 10
  | .sha224 => 11

/-- The algorithm with an OpenPGP identifier, if the engine computes it. -/
def ofId? (n : Nat) : Option HashAlgorithm :=
  all.find? (·.id == n)

/-- The algorithm a name denotes, ignoring ASCII case. -/
def ofName? (s : String) : Option HashAlgorithm :=
  all.find? (·.name == s.toLower)

/-- The digest length in bytes. -/
def size : HashAlgorithm → Nat
  | .sha1 => 20
  | .sha256 => 32
  | .sha384 => 48
  | .sha512 => 64
  | .sha224 => 28

/-- The block length in bytes, as HMAC pads keys to it. -/
def blockSize : HashAlgorithm → Nat
  | .sha384 | .sha512 => 128
  | _ => 64

/-- The digest of a message. -/
def digest : HashAlgorithm → ByteArray → ByteArray
  | .sha1 => Sha1.hash
  | .sha256 => Sha2.sha256
  | .sha384 => Sha2.sha384
  | .sha512 => Sha2.sha512
  | .sha224 => Sha2.sha224

/-- HMAC of a message under a key. -/
def hmac (h : HashAlgorithm) (key msg : ByteArray) : ByteArray :=
  let k := if key.size > h.blockSize then h.digest key else key
  let k := k ++ ByteArray.mk (Array.replicate (h.blockSize - k.size) 0)
  let ipad := ByteArray.mk (k.data.map (· ^^^ 0x36))
  let opad := ByteArray.mk (k.data.map (· ^^^ 0x5c))
  h.digest (opad ++ h.digest (ipad ++ msg))

end HashAlgorithm

end SealedMail

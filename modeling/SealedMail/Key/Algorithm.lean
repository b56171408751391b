import SealedMail.Bytes.Hex

/-! # Public-key algorithms and curves

The algorithm numbers of key and signature packets, and the elliptic curves named by
object identifiers in key packets.
-/

namespace SealedMail

/-- A public-key algorithm. The two ElGamal numbers are read the other way round from their
registry names: 16 is the signing kind and 20 the kind that receives session keys. -/
inductive PublicKeyAlgorithm where
  | rsa
  | rsaEncrypt
  | rsaSign
  | elgamalSign
  | dsa
  | ecdh
  | ecdsa
  | elgamal
  | diffieHellman
  | eddsa
  | other (n : Nat)
deriving Repr, DecidableEq, Inhabited

namespace PublicKeyAlgorithm

/-- The algorithm with a number. -/
def ofNat : Nat → PublicKeyAlgorithm
  | 1 => .rsa
  | 2 => .rsaEncrypt
  | 3 => .rsaSign
  | 16 => .elgamalSign
  | 17 => .dsa
  | 18 => .ecdh
  | 19 => .ecdsa
  | 20 => .elgamal
  | 21 => .diffieHellman
  | 22 => .eddsa
  | n => .other n

/-- The number of an algorithm. -/
def toNat : PublicKeyAlgorithm → Nat
  | .rsa => 1
  | .rsaEncrypt => 2
  | .rsaSign => 3
  | .elgamalSign => 16
  | .dsa => 17
  | .ecdh => 18
  | .ecdsa => 19
  | .elgamal => 20
  | .diffieHellman => 21
  | .eddsa => 22
  | .other n => n

/-- The name of an algorithm, as error texts show it. -/
def name : PublicKeyAlgorithm → String
  | .rsa => "RSA"
  | .rsaEncrypt => "RSAEncrypt"
  | .rsaSign => "RSASign"
  | .elgamalSign => "ElgamalSign"
  | .dsa => "DSA"
  | .ecdh => "ECDH"
  | .ecdsa => "ECDSA"
  | .elgamal => "Elgamal"
  | .diffieHellman => "DiffieHellman"
  | .eddsa => "EdDSA"
  | .other n =>
    if 100 ≤ n && n ≤ 110 then "Private" ++ toString n else "Unknown(" ++ toString n ++ ")"

/-- The name shown in key summaries: RSA variants as RSA, both ElGamal kinds as ElGamal. -/
def summaryName : PublicKeyAlgorithm → String
  | .rsa | .rsaEncrypt | .rsaSign => "RSA"
  | .elgamal | .elgamalSign => "ElGamal"
  | a => a.name

/-- Whether keys of this algorithm can receive session keys. -/
def canEncrypt : PublicKeyAlgorithm → Bool
  | .rsa | .rsaEncrypt | .ecdh | .elgamal => true
  | _ => false

/-- Whether keys of this algorithm can make signatures. -/
def canSign : PublicKeyAlgorithm → Bool
  | .rsa | .rsaSign | .dsa | .ecdsa | .eddsa => true
  | _ => false

end PublicKeyAlgorithm

/-- An elliptic curve named in a key packet. -/
inductive Curve where
  | curve25519
  | ed25519
  | secp256k1
  | p256
  | p384
  | p521
  | brainpoolP256r1
  | brainpoolP384r1
  | brainpoolP512r1
deriving Repr, DecidableEq, Inhabited

namespace Curve

/-- Every named curve. -/
def all : List Curve :=
  [.curve25519, .ed25519, .secp256k1, .p256, .p384, .p521, .brainpoolP256r1, .brainpoolP384r1,
    .brainpoolP512r1]

/-- The object identifier of a curve, in hex. -/
def oidHex : Curve → String
  | .curve25519 => "2b060104019755010501"
  | .ed25519 => "2b06010401da470f01"
  | .secp256k1 => "2b8104000a"
  | .p256 => "2a8648ce3d030107"
  | .p384 => "2b81040022"
  | .p521 => "2b81040023"
  | .brainpoolP256r1 => "2b2403030208010107"
  | .brainpoolP384r1 => "2b240303020801010b"
  | .brainpoolP512r1 => "2b240303020801010d"

/-- The object identifier of a curve. -/
def oid (c : Curve) : ByteArray := (Hex.decode c.oidHex).toOption.getD ByteArray.empty

/-- The curve with an object identifier. -/
def ofOid? (b : ByteArray) : Option Curve := all.find? (fun c => c.oidHex == Hex.encode b)

/-- The name of a curve, as error texts show it. -/
def name : Curve → String
  | .curve25519 => "Curve25519"
  | .ed25519 => "Ed25519"
  | .secp256k1 => "Secp256k1"
  | .p256 => "P256"
  | .p384 => "P384"
  | .p521 => "P521"
  | .brainpoolP256r1 => "BrainpoolP256r1"
  | .brainpoolP384r1 => "BrainpoolP384r1"
  | .brainpoolP512r1 => "BrainpoolP512r1"

end Curve

end SealedMail

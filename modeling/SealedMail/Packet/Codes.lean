import SealedMail.Digest.Algorithm
import SealedMail.Cipher.Algorithm

/-! # Algorithm codes

Packets name symmetric ciphers, hash functions and compression methods by one-byte codes.
The codes form open sets: every byte is a code, and the ones without a name are kept as
numbers. A code names an algorithm the engine can compute only for the AES ciphers and
the SHA-1 and SHA-2 hashes.
-/

namespace SealedMail

/-- A symmetric cipher code. -/
inductive CipherCode where
  | plaintext
  | idea
  | tripleDes
  | cast5
  | blowfish
  | aes128
  | aes192
  | aes256
  | twofish
  | camellia128
  | camellia192
  | camellia256
  | other (n : Nat)
deriving Repr, DecidableEq, Inhabited

namespace CipherCode

/-- The code with a number. -/
def ofNat : Nat → CipherCode
  | 0 => .plaintext
  | 1 => .idea
  | 2 => .tripleDes
  | 3 => .cast5
  | 4 => .blowfish
  | 7 => .aes128
  | 8 => .aes192
  | 9 => .aes256
  | 10 => .twofish
  | 11 => .camellia128
  | 12 => .camellia192
  | 13 => .camellia256
  | n => .other n

/-- The number of a code. -/
def toNat : CipherCode → Nat
  | .plaintext => 0
  | .idea => 1
  | .tripleDes => 2
  | .cast5 => 3
  | .blowfish => 4
  | .aes128 => 7
  | .aes192 => 8
  | .aes256 => 9
  | .twofish => 10
  | .camellia128 => 11
  | .camellia192 => 12
  | .camellia256 => 13
  | .other n => n

/-- The name of a code, as error texts show it. -/
def name : CipherCode → String
  | .plaintext => "Plaintext"
  | .idea => "IDEA"
  | .tripleDes => "TripleDES"
  | .cast5 => "CAST5"
  | .blowfish => "Blowfish"
  | .aes128 => "AES128"
  | .aes192 => "AES192"
  | .aes256 => "AES256"
  | .twofish => "Twofish"
  | .camellia128 => "Camellia128"
  | .camellia192 => "Camellia192"
  | .camellia256 => "Camellia256"
  | .other n => if n = 110 then "Private10" else "Other(" ++ toString n ++ ")"

/-- The block size in bytes (zero for no cipher and unknown codes). -/
def blockSize : CipherCode → Nat
  | .plaintext => 0
  | .idea | .tripleDes | .cast5 | .blowfish => 8
  | .aes128 | .aes192 | .aes256 | .twofish | .camellia128 | .camellia192 | .camellia256 => 16
  | .other _ => 0

/-- The key size in bytes (zero for no cipher and unknown codes). -/
def keySize : CipherCode → Nat
  | .plaintext => 0
  | .idea | .cast5 | .blowfish | .aes128 | .camellia128 => 16
  | .tripleDes | .aes192 | .camellia192 => 24
  | .aes256 | .twofish | .camellia256 => 32
  | .other _ => 0

/-- The engine's cipher for a code, if it is one. -/
def toAlgorithm? : CipherCode → Option SymmetricAlgorithm
  | .aes128 => some .aes128
  | .aes192 => some .aes192
  | .aes256 => some .aes256
  | _ => none

/-- The code of an engine cipher. -/
def ofAlgorithm : SymmetricAlgorithm → CipherCode
  | .aes128 => .aes128
  | .aes192 => .aes192
  | .aes256 => .aes256

end CipherCode

/-- A hash function code. -/
inductive HashCode where
  | none
  | md5
  | sha1
  | ripemd160
  | sha256
  | sha384
  | sha512
  | sha224
  | sha3of256
  | sha3of512
  | other (n : Nat)
deriving Repr, DecidableEq, Inhabited

namespace HashCode

/-- The code with a number. -/
def ofNat : Nat → HashCode
  | 0 => .none
  | 1 => .md5
  | 2 => .sha1
  | 3 => .ripemd160
  | 8 => .sha256
  | 9 => .sha384
  | 10 => .sha512
  | 11 => .sha224
  | 12 => .sha3of256
  | 14 => .sha3of512
  | n => .other n

/-- The number of a code. -/
def toNat : HashCode → Nat
  | .none => 0
  | .md5 => 1
  | .sha1 => 2
  | .ripemd160 => 3
  | .sha256 => 8
  | .sha384 => 9
  | .sha512 => 10
  | .sha224 => 11
  | .sha3of256 => 12
  | .sha3of512 => 14
  | .other n => n

/-- The name of a code, as error texts show it. -/
def name : HashCode → String
  | .none => "None"
  | .md5 => "MD5"
  | .sha1 => "SHA1"
  | .ripemd160 => "RIPEMD160"
  | .sha256 => "SHA2_256"
  | .sha384 => "SHA2_384"
  | .sha512 => "SHA2_512"
  | .sha224 => "SHA2_224"
  | .sha3of256 => "SHA3_256"
  | .sha3of512 => "SHA3_512"
  | .other n => if n = 110 then "Private10" else "Other(" ++ toString n ++ ")"

/-- The engine's hash for a code, if it is one the engine computes. -/
def toAlgorithm? : HashCode → Option HashAlgorithm
  | .sha1 => some .sha1
  | .sha256 => some .sha256
  | .sha384 => some .sha384
  | .sha512 => some .sha512
  | .sha224 => some .sha224
  | _ => Option.none

/-- The code of an engine hash. -/
def ofAlgorithm : HashAlgorithm → HashCode
  | .sha1 => .sha1
  | .sha256 => .sha256
  | .sha384 => .sha384
  | .sha512 => .sha512
  | .sha224 => .sha224

/-- The digest size in bytes of a code's function (zero when unknown). -/
def digestSize : HashCode → Nat
  | .md5 => 16
  | .sha1 | .ripemd160 => 20
  | .sha256 | .sha3of256 => 32
  | .sha384 => 48
  | .sha512 | .sha3of512 => 64
  | .sha224 => 28
  | _ => 0

end HashCode

/-- A compression method code. -/
inductive CompressionCode where
  | uncompressed
  | zip
  | zlib
  | bzip2
  | other (n : Nat)
deriving Repr, DecidableEq, Inhabited

namespace CompressionCode

/-- The code with a number. -/
def ofNat : Nat → CompressionCode
  | 0 => .uncompressed
  | 1 => .zip
  | 2 => .zlib
  | 3 => .bzip2
  | n => .other n

/-- The number of a code. -/
def toNat : CompressionCode → Nat
  | .uncompressed => 0
  | .zip => 1
  | .zlib => 2
  | .bzip2 => 3
  | .other n => n

end CompressionCode

end SealedMail

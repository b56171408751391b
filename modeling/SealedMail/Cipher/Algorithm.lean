/-! # Session ciphers

The three AES variants the engine encrypts with, their OpenPGP identifiers, key sizes
and names; names are read without regard to ASCII case.
-/

namespace SealedMail

/-- A cipher for session keys and secret-key protection. -/
inductive SymmetricAlgorithm where
  | aes128
  | aes192
  | aes256
deriving Repr, DecidableEq, Inhabited

namespace SymmetricAlgorithm

/-- Every cipher, in order of key size. -/
def all : List SymmetricAlgorithm := [.aes128, .aes192, .aes256]

/-- The OpenPGP algorithm identifier. -/
def id : SymmetricAlgorithm → Nat
  | .aes128 => 7
  | .aes192 => 8
  | .aes256 => 9

/-- The key length in bytes. -/
def keySize : SymmetricAlgorithm → Nat
  | .aes128 => 16
  | .aes192 => 24
  | .aes256 => 32

/-- The lowercase name. -/
def name : SymmetricAlgorithm → String
  | .aes128 => "aes128"
  | .aes192 => "aes192"
  | .aes256 => "aes256"

/-- The name of the constructor, as diagnostics print it. -/
def variantName : SymmetricAlgorithm → String
  | .aes128 => "Aes128"
  | .aes192 => "Aes192"
  | .aes256 => "Aes256"

/-- The cipher with an OpenPGP identifier. -/
def ofId? (n : Nat) : Option SymmetricAlgorithm := all.find? (·.id == n)

/-- The cipher whose key has `len` bytes. -/
def ofKeySize? (len : Nat) : Option SymmetricAlgorithm := all.find? (·.keySize == len)

/-- The cipher a name denotes, ignoring ASCII case. -/
def ofName? (s : String) : Option SymmetricAlgorithm := all.find? (·.name == s.toLower)

end SymmetricAlgorithm

end SealedMail

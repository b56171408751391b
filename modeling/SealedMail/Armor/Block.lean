/-! # Armor block kinds

The line `-----BEGIN PGP MESSAGE-----` names what an armored block holds. The kinds a
block can declare, with the label of their header line and the name error texts use.
-/

namespace SealedMail

/-- The algorithm family of a bare PKCS #1 key block. -/
inductive Pkcs1Family where
  | rsa
  | dsa
  | ec
deriving Repr, DecidableEq, Inhabited

/-- The word of a family in labels and names. -/
def Pkcs1Family.word : Pkcs1Family → String
  | .rsa => "RSA"
  | .dsa => "DSA"
  | .ec => "EC"

/-- What an armored block holds. -/
inductive BlockKind where
  | publicKey
  | privateKey
  | message
  /-- Part `index` of a message sent in `total` parts (0 when the total is not given). -/
  | multiPartMessage (index total : Nat)
  | signature
  | cleartextMessage
  | file
  /-- A bare PKCS #1 public key. -/
  | publicKeyPkcs1 (family : Pkcs1Family)
  /-- A bare PKCS #8 public key. -/
  | publicKeyPkcs8
  /-- An OpenSSH public key. -/
  | publicKeyOpenssh
  /-- A bare PKCS #1 private key. -/
  | privateKeyPkcs1 (family : Pkcs1Family)
  /-- A bare PKCS #8 private key. -/
  | privateKeyPkcs8
  /-- An OpenSSH private key. -/
  | privateKeyOpenssh
deriving Repr, DecidableEq, Inhabited

namespace BlockKind

/-- The label of the header line. -/
def label : BlockKind → String
  | .publicKey => "PGP PUBLIC KEY BLOCK"
  | .privateKey => "PGP PRIVATE KEY BLOCK"
  | .message => "PGP MESSAGE"
  | .multiPartMessage x 0 => "PGP MESSAGE, PART " ++ toString x
  | .multiPartMessage x y => "PGP MESSAGE, PART " ++ toString x ++ "/" ++ toString y
  | .signature => "PGP SIGNATURE"
  | .cleartextMessage => "PGP SIGNED MESSAGE"
  | .file => "PGP ARMORED FILE"
  | .publicKeyPkcs1 f => f.word ++ " PUBLIC KEY"
  | .publicKeyPkcs8 => "PUBLIC KEY"
  | .publicKeyOpenssh => "OPENSSH PUBLIC KEY"
  | .privateKeyPkcs1 f => f.word ++ " PRIVATE KEY"
  | .privateKeyPkcs8 => "PRIVATE KEY"
  | .privateKeyOpenssh => "OPENSSH PRIVATE KEY"

/-- The name of a kind, as error texts show it. -/
def name : BlockKind → String
  | .publicKey => "PublicKey"
  | .privateKey => "PrivateKey"
  | .message => "Message"
  | .multiPartMessage x y => "MultiPartMessage(" ++ toString x ++ ", " ++ toString y ++ ")"
  | .signature => "Signature"
  | .cleartextMessage => "CleartextMessage"
  | .file => "File"
  | .publicKeyPkcs1 f => "PublicKeyPKCS1(" ++ f.word ++ ")"
  | .publicKeyPkcs8 => "PublicKeyPKCS8"
  | .publicKeyOpenssh => "PublicKeyOpenssh"
  | .privateKeyPkcs1 f => "PrivateKeyPKCS1(" ++ f.word ++ ")"
  | .privateKeyPkcs8 => "PrivateKeyPKCS8"
  | .privateKeyOpenssh => "PrivateKeyOpenssh"

/-- Whether a block holds OpenPGP keys. -/
def isKey : BlockKind → Bool
  | .publicKey | .privateKey => true
  | _ => false

end BlockKind

end SealedMail

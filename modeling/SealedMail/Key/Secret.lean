import SealedMail.Key.Basic
import SealedMail.Asymmetric.Rsa
import SealedMail.Asymmetric.Dsa
import SealedMail.Asymmetric.Ecdsa
import SealedMail.Asymmetric.Ecdh
import SealedMail.Curve.Edwards
import SealedMail.Cipher.Modes
import SealedMail.Digest.Sha1
import SealedMail.Entropy

/-! # Secret keys at work

What the secret numbers of a key packet are used for: opening them with a passphrase,
protecting them under a new one, signing a digest and unwrapping a session key.

Secret numbers are protected by encrypting them in CFB mode under a key stretched from the
passphrase; with protection byte 254 the clear text ends in its SHA-1 digest, with 255 in
a two-byte sum. A wrong passphrase shows as a check that fails.
-/

namespace SealedMail

/-- Why the secret part of a key packet did not open. -/
inductive UnlockFailure where
  /-- The passphrase is wrong (the check over the clear text failed). -/
  | wrongPassphrase
  /-- The protection cannot be removed at all. -/
  | unreadable (e : PacketError)

namespace SecretParams

/-- The secret numbers of an algorithm read from the whole of a byte string. -/
def readValues (alg : PublicKeyAlgorithm) (b : ByteArray) : Option (List Mpi) :=
  match Cursor.run (Cursor.plainSecret alg) b with
  | .ok (values, _) => some values
  | .error _ => none

/-- The secret numbers in the clear: unchanged when they are not encrypted. -/
def unlock (alg : PublicKeyAlgorithm) (passphrase : String) : SecretParams →
    Except UnlockFailure (List Mpi)
  | .plain values => .ok values
  | .encrypted usage cipher s2k iv data =>
    match cipher with
    | .other n => .error (.unreadable (.unimplemented s!"SymmetricKeyAlgorithm {n} is unsupported"))
    | _ =>
      match cipher.toAlgorithm?, s2k.derive? passphrase.toUTF8 cipher.keySize with
      | some _, some key =>
        let clear := Aes.cfbDecrypt (Aes.expand key) iv data
        let checked : Option ByteArray :=
          if usage == 254 then
            if clear.size < 20 then none
            else
              let body := clear.extract 0 (clear.size - 20)
              if Bytes.equal (Sha1.hash body) (clear.extract (clear.size - 20) clear.size) then some body
              else none
          else
            if clear.size < 2 then none
            else
              let body := clear.extract 0 (clear.size - 2)
              if checksum body == Bytes.toNatBE (clear.extract (clear.size - 2) clear.size) then some body
              else none
        match checked.bind (readValues alg) with
        | some values => .ok values
        | none => .error .wrongPassphrase
      | _, _ => .error .wrongPassphrase

/-- Protect secret numbers under a passphrase: SHA-1 check, the given cipher, an iterated
and salted specifier with the given hash and coded count, and a random salt and initial
vector. -/
def lock (values : List Mpi) (passphrase : String) (cipher : SymmetricAlgorithm)
    (hash : HashAlgorithm) (count : UInt8) (g : Entropy) : SecretParams × Entropy :=
  let (salt, g) := g.bytes 8
  let (iv, g) := g.bytes 16
  let s2k := StringToKey.iterated (HashCode.ofAlgorithm hash) salt count.toNat
  let key := (s2k.derive? passphrase.toUTF8 cipher.keySize).getD (Bytes.replicate cipher.keySize 0)
  let body := writeValues values
  let data := Aes.cfbEncrypt (Aes.expand key) iv (body ++ Sha1.hash body)
  (.encrypted 254 (CipherCode.ofAlgorithm cipher) s2k iv data, g)

end SecretParams

namespace KeyPacket

/-- The debug name of an ECDSA secret key, as signing errors show it. -/
def ecdsaSecretName : Curve → String
  | .p256 => "ECDSASecretKey::P256([..])"
  | .p384 => "ECDSASecretKey::P384([..])"
  | .p521 => "ECDSASecretKey::P521([..])"
  | .secp256k1 => "ECDSASecretKey::Secp256k1([..])"
  | c => "ECDSASecretKey::Unsupported \x7b curve: " ++ c.name ++ " \x7d"

/-- The hash a curve's deterministic nonces are made with. -/
def nonceHash (c : WeierstrassCurve) : HashAlgorithm :=
  if c.size == 48 then .sha384 else .sha256

/-- Sign a digest made with `hash`, given the secret numbers; the signature numbers. -/
def signDigest (k : KeyPacket) (secret : List Mpi) (hash : HashCode) (digest : ByteArray) :
    PacketResult (List Mpi) :=
  match k.params, secret with
  | .rsa n _, d :: _ =>
    match Rsa.sign n.toNat d.toNat hash digest with
    | .ok s => .ok [Mpi.ofBytes s]
    | .error f => .error (.rsa f.name)
  | .dsa p q g _, [x] =>
    match hash.toAlgorithm? with
    | none => .error (.unsupported s!"hash {hash.name}")
    | some h =>
      match Dsa.sign p.toNat q.toNat g.toNat x.toNat h digest with
      | some (r, s) => .ok [Mpi.ofNat r, Mpi.ofNat s]
      | none => .error .signature
  | .ecdsa c _, [d] =>
    match ecdsaCurve? c with
    | none => .error (.unsupported s!"ECDSA curve {c.name}")
    | some w =>
      if digest.size < w.size then
        .error (.message ("Hash digest size (" ++ hash.name ++ ") must at least match key size (" ++
          ecdsaSecretName c ++ ")"))
      else
        match Ecdsa.sign w (nonceHash w) d.toNat digest with
        | some (r, s) => .ok [Mpi.ofNat r, Mpi.ofNat s]
        | none => .error .signature
  | .eddsa _ _, [seed] =>
    let raw := seed.bytes
    let seed32 := Bytes.replicate (32 - min raw.size 32) 0 ++ raw
    let sig := Ed25519.sign seed32 digest
    .ok [Mpi.ofBytes (sig.extract 0 32), Mpi.ofBytes (sig.extract 32 64)]
  | _, _ => .error (.unsupported s!"signing with {k.algorithm.name}")

/-- Unwrap an encrypted session key message with the secret numbers: the clear message,
the cipher octet, the key and a two-byte sum. -/
def decryptSession (k : KeyPacket) (secret : List Mpi) (session : EncryptedSession) :
    PacketResult ByteArray :=
  match k.params, secret, session with
  | .rsa n _, d :: _, .rsa c =>
    match Rsa.decrypt n.toNat d.toNat c.bytes with
    | .ok m => .ok m
    | .error f => .error (.rsa f.name)
  | .ecdh curve _ hash cipher, [x], .ecdh point wrapped =>
    match Ecdh.decrypt curve hash cipher k.fingerprint x.bytes point.bytes wrapped with
    | some m => .ok m
    | none => .error .keyWrap
  | .dsa .., _, _ => .error (.message "DSA is only used for signing")
  | .ecdsa .., _, _ => .error (.message "ECDSA is only used for signing")
  | .eddsa .., _, _ => .error (.unimplemented "EdDSA")
  | _, _, _ => .error (.unsupported s!"decryption with {k.algorithm.name}")

/-- Split a clear session key message into cipher and key, checking its sum. -/
def sessionOfMessage (m : ByteArray) : PacketResult (CipherCode × ByteArray) :=
  if m.size < 3 then .error (.message "invalid session key message")
  else
    let cipher := CipherCode.ofNat (m.get! 0).toNat
    if cipher == .plaintext then .error (.message "session key algorithm cannot be plaintext")
    else
      let size := match cipher.toAlgorithm? with
        | some a => a.keySize
        | none => m.size - 3
      if m.size < size + 3 then .error (.message "invalid session key message")
      else
        let key := m.extract 1 (1 + size)
        let sum := Bytes.toNatBE (m.extract (1 + size) (3 + size))
        if SecretParams.checksum key == sum then .ok (cipher, key)
        else .error (.message "invalid checksum")

end KeyPacket

end SealedMail

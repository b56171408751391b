import SealedMail.Key.Ring
import SealedMail.Session
import SealedMail.Entropy

/-! # Session key packets

A message's session key travels in session key packets: public-key packets addressed to a
key id (or to nobody, the wildcard id of zeros) and password packets that derive a key from
a password. Opening a public-key packet tries the keys of a ring in order; a key is used
only for packets addressed to material of it that holds a secret part of the right shape,
and it is unlocked with the passphrase only once a packet is addressed to it. So a wrong
passphrase is reported only for keys that match.
-/

namespace SealedMail

/-- The session key packets of a message, in the order they came. -/
structure KeyPackets where
  publicKey : List PublicKeySessionPacket := []
  password : List PasswordSessionPacket := []
deriving Inhabited

namespace KeyPackets

/-- Collect the session key packets of binary message data, skipping everything else and
every packet that cannot be read. -/
def read (data : ByteArray) : Outcome KeyPackets := do
  (Header.checkFraming data).mapError PacketError.asMessageError
  return (Packet.readAll data).foldl (fun acc item =>
    match item with
    | .ok (.publicKeySession p) => { acc with publicKey := acc.publicKey ++ [p] }
    | .ok (.passwordSession p) => { acc with password := acc.password ++ [p] }
    | _ => acc) {}

/-- The written packets: public-key packets first, then password packets. -/
def write (k : KeyPackets) : ByteArray :=
  Bytes.concat (k.publicKey.map (fun p => Packet.writeNew (.publicKeySession p)) ++
    k.password.map (fun p => Packet.writeNew (.passwordSession p)))

end KeyPackets

namespace Material

/-- Whether a public-key packet carries as many values as the material's algorithm takes. -/
def fits (m : Material) (p : PublicKeySessionPacket) : Bool :=
  let expected : Option Nat := match m.key.algorithm with
    | .rsa | .rsaEncrypt => some 1
    | .elgamal => some 2
    | .ecdh => some 3
    | _ => none
  expected == some p.session.valueCount

/-- Unwrap the session key of a packet with the (open) secret part: cipher and key. -/
def decryptSession (m : Material) (p : PublicKeySessionPacket) : PacketResult (CipherCode × ByteArray) :=
  match m.secret with
  | some (.plain values) => do
    let msg ← m.key.decryptSession values p.session
    KeyPacket.sessionOfMessage msg
  | _ => .error (.message ("key " ++ m.keyIdHex ++ " has no secret material"))

end Material

/-- A session key of an engine cipher with a key of the right length. -/
def sessionOfPlain (cipher : CipherCode) (key : ByteArray) : Outcome SessionKey :=
  match cipher.toAlgorithm? with
  | some a =>
    if key.size == a.keySize then .ok ⟨a, key⟩
    else .error (.decryptionFailed "invalid session key encoding")
  | none => .error (.decryptionFailed "invalid session key encoding")

/-- The ids of the material of a key that may hold the secret for a packet. -/
def candidateIds (p : PublicKeySessionPacket) (k : Key) : List ByteArray :=
  if p.isWildcard then
    (k.materials.filter (fun m => m.hasSecret && m.canEncrypt && m.fits p)).map Material.keyId
  else
    match k.findMaterial p.keyId with
    | some m => if m.hasSecret && m.fits p then [m.keyId] else []
    | none => []

/-- What trying the keys of a ring has found so far: whether a passphrase was refused, and
the last failure. -/
structure OpenTrail where
  wrongPassphrase : Bool := false
  last : Option EngineError := none

/-- Try one key on the packets; a recovered session key ends the search (as the error side of
the result). -/
def tryKey (packets : List PublicKeySessionPacket) (passphrase : Option String) (t : OpenTrail)
    (k : Key) : Except SessionKey OpenTrail :=
  let addressed := packets.flatMap (fun p => (candidateIds p k).map (fun id => (p, id)))
  if addressed.isEmpty then .ok t
  else
    let usable : Except OpenTrail Key :=
      if addressed.all (fun (_, id) => (k.findMaterial id).any Material.isUnlocked) then .ok k
      else
        match passphrase with
        | none => .error { t with wrongPassphrase := true }
        | some pw =>
          match k.unlock pw with
          | .ok k => .ok k
          | .error .wrongPassphrase => .error { t with wrongPassphrase := true }
          | .error e => .error { t with last := some e }
    match usable with
    | .error t => .ok t
    | .ok usable =>
      addressed.foldlM (fun t (p, id) =>
        match usable.findMaterial id with
        | none => .ok t
        | some m =>
          match (m.decryptSession p).mapError PacketError.asMessageError >>= fun (c, key) =>
              sessionOfPlain c key with
          | .ok s => .error s
          | .error e => .ok { t with last := some e }) t

/-- Recover the session key from public-key packets with the first key of a ring (in ring
order) that opens one of them. -/
def openWithRing (packets : List PublicKeySessionPacket) (ring : KeyRing) (passphrase : Option String) :
    Outcome SessionKey :=
  if packets.isEmpty then .error (.decryptionFailed "message has no public-key session key packet")
  else
    match ring.keys.foldlM (tryKey packets passphrase) {} with
    | .error s => .ok s
    | .ok t =>
      if t.wrongPassphrase then .error .wrongPassphrase
      else
        match t.last with
        | some (.decryptionFailed d) => .error (.decryptionFailed d)
        | some (.keyParse d) => .error (.keyParse d)
        | _ => .error (.noMatchingKey ("none of " ++ toString ring.keys.length ++
            " key(s) can decrypt a session key addressed to " ++
            ", ".intercalate (packets.map (fun p => Hex.encodeUpper p.keyId))))

/-- Recover the session key from one password packet. A packet without an encrypted key
yields the derived key itself; a wrong password shows as a cipher or key length that does
not fit. -/
def openPassword (p : PasswordSessionPacket) (password : String) : Outcome SessionKey := do
  let some cipher := p.cipher.toAlgorithm?
    | throw (.decryptionFailed ("unsupported SKESK cipher " ++ p.cipher.name))
  if p.version != 4 || (p.encryptedKey.size > 0 && p.encryptedKey.size < 2) then
    throw (.decryptionFailed "malformed SKESK packet")
  if !p.s2k.isHashing then
    throw (.decryptionFailed (cipher.name ++ " SKESK: " ++
      (PacketError.unimplemented ("S2K " ++ p.s2k.debug ++ " is not available")).display))
  let some key := p.s2k.derive? password.toUTF8 cipher.keySize | throw .wrongPassword
  if p.encryptedKey.size == 0 then return ⟨cipher, key⟩
  let clear := Aes.cfbDecrypt (Aes.expand key) (Bytes.replicate 16 0) p.encryptedKey
  match SymmetricAlgorithm.ofId? (clear.get! 0).toNat with
  | some a =>
    if clear.size - 1 == a.keySize then return ⟨a, clear.extract 1 clear.size⟩ else throw .wrongPassword
  | none => throw .wrongPassword

/-- Recover the session key from the first password packet the password opens; otherwise the
failure of the last one. -/
def openWithPassword (packets : List PasswordSessionPacket) (password : String) : Outcome SessionKey :=
  if packets.isEmpty then .error (.decryptionFailed "message has no password session key packet")
  else
    let rec go : List PasswordSessionPacket → EngineError → Outcome SessionKey
      | [], last => .error last
      | p :: rest, _ =>
        match openPassword p password with
        | .ok s => .ok s
        | .error e => go rest e
    go packets .wrongPassword

/-- The clear session key message: cipher octet, key and two-byte sum. -/
def SessionKey.message (s : SessionKey) : ByteArray :=
  ByteArray.mk #[s.algorithm.id.toUInt8] ++ s.key ++ Bytes.u16 (SecretParams.checksum s.key)

/-- Encrypt a session key message to a public key. -/
def KeyPacket.encryptSession (k : KeyPacket) (msg : ByteArray) (g : Entropy) :
    PacketResult (EncryptedSession × Entropy) :=
  match k.params with
  | .rsa n e =>
    let (pad, g) := g.nonzeroBytes (Rsa.modulusBytes n.toNat)
    match Rsa.encrypt n.toNat e.toNat msg pad with
    | .ok c => .ok (.rsa (Mpi.ofBytes c), g)
    | .error f => .error (.rsa f.name)
  | .ecdh curve pt hash cipher =>
    if msg.size > 239 then .error (.message "unable to encrypt larger than 239 bytes")
    else
      let (eph, g) := g.bytes 32
      match Ecdh.encrypt curve hash cipher k.fingerprint pt.bytes eph msg with
      | some (point, wrapped) => .ok (.ecdh (Mpi.ofBytes point) wrapped, g)
      | none => .error .ellipticCurve
  | _ => .error (.unimplemented ("encryption with " ++ k.algorithm.name))

/-- A public-key packet holding a session key for material. -/
def sealFor (s : SessionKey) (m : Material) (g : Entropy) : Outcome (PublicKeySessionPacket × Entropy) :=
  if !m.canEncrypt then .error (.keyParse ("key " ++ m.keyIdHex ++ " cannot encrypt"))
  else
    match m.key.encryptSession s.message g with
    | .ok (session, g) => .ok (⟨3, m.keyId, m.key.algorithm, session⟩, g)
    | .error e => .error e.asEncryptionError

/-- A password packet holding a session key: an iterated and salted specifier with the given
hash and coded count, and the cipher octet and key encrypted under the derived key. -/
def sealWithPassword (s : SessionKey) (password : String) (hash : HashAlgorithm) (count : UInt8)
    (g : Entropy) : PasswordSessionPacket × Entropy :=
  let (salt, g) := g.bytes 8
  let s2k := StringToKey.iterated (HashCode.ofAlgorithm hash) salt count.toNat
  let key := (s2k.derive? password.toUTF8 s.algorithm.keySize).getD (Bytes.replicate s.algorithm.keySize 0)
  let enc := Aes.cfbEncrypt (Aes.expand key) (Bytes.replicate 16 0)
    (ByteArray.mk #[s.algorithm.id.toUInt8] ++ s.key)
  (⟨4, CipherCode.ofAlgorithm s.algorithm, s2k, enc, ByteArray.empty⟩, g)

end SealedMail

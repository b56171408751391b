import SealedMail.Key.Verify
import SealedMail.Packet.Body
import SealedMail.Text.Utf8

/-! # Keys

A key is a primary key packet followed by revocation and direct signatures, user ids and
user attributes with the signatures over them, and subkeys with theirs. Reading a key
stream takes these parts in this order from a run of packets; a private key may carry
secret parts for the primary key and for any subkey.

Validation checks the self-signatures: a key is revoked when one of its revocations
verifies, a user id is valid when one of its certifications verifies, and a subkey is bound
(or revoked) when one of its binding (or revocation) signatures verifies. Whatever fails is
recorded as an issue, in that order.
-/

namespace SealedMail

/-- A user id with the signatures over it. -/
structure SignedUser where
  format : HeaderFormat
  id : ByteArray
  signatures : List Signature
deriving Inhabited

/-- A user attribute with the signatures over it. -/
structure SignedAttribute where
  format : HeaderFormat
  body : ByteArray
  signatures : List Signature
deriving Inhabited

/-- A subkey with its optional secret part and its signatures. -/
structure Subkey where
  key : KeyPacket
  secret : Option SecretParams
  signatures : List Signature
  valid : Bool := false
  revoked : Bool := false
deriving Inhabited

/-- A key with its parts and the outcome of its validation. -/
structure Key where
  primary : KeyPacket
  primarySecret : Option SecretParams
  revocations : List Signature
  directSignatures : List Signature
  users : List SignedUser
  attributes : List SignedAttribute
  subkeys : List Subkey
  validUsers : List Bool := []
  revoked : Bool := false
  issues : List String := []
deriving Inhabited

/-- One key packet of a key, primary or subkey, with its optional secret part. -/
structure Material where
  key : KeyPacket
  secret : Option SecretParams
  isPrimary : Bool
deriving Inhabited

namespace Material

/-- The key id. -/
def keyId (m : Material) : ByteArray := m.key.keyId

/-- The key id in upper-case hex. -/
def keyIdHex (m : Material) : String := m.key.keyIdHex

/-- Whether the secret part is present. -/
def hasSecret (m : Material) : Bool := m.secret.isSome

/-- Whether the secret part is present and in the clear. -/
def isUnlocked (m : Material) : Bool :=
  match m.secret with
  | some s => !s.isEncrypted
  | none => false

/-- Whether the algorithm can receive session keys. -/
def canEncrypt (m : Material) : Bool := m.key.algorithm.canEncrypt

/-- Whether the algorithm can sign. -/
def canSign (m : Material) : Bool := m.key.algorithm.canSign

end Material

/-- The last of the elements with the greatest key (later ones win ties). -/
def lastMaxBy {α : Type} (f : α → Nat) : List α → Option α
  | [] => none
  | x :: rest => some (rest.foldl (fun best y => if f y ≥ f best then y else best) x)

/-- The creation time of a signature, zero when it has none. -/
def Signature.createdOrZero (s : Signature) : Nat := s.created?.getD 0

/-- The time a self-signature sets for a key created at `created` to expire, if any:
a validity period of zero means no expiry. -/
def expiryAfter (created : Nat) (s : Signature) : Option Nat :=
  match s.keyExpiration? with
  | some secs => if secs > 0 then some (created + secs) else none
  | none => none

/-- Whether a signature's key flags let the key encrypt (no flags at all leave it to the
algorithm). -/
def allowsEncryption (s : Signature) : Bool := s.keyFlags == 0 || s.keyFlags &&& 0x0c != 0

/-- Whether a signature's key flags let the key sign (no flags at all leave it to the
algorithm). -/
def allowsSigning (s : Signature) : Bool := s.keyFlags == 0 || s.keyFlags &&& 0x02 != 0

namespace Subkey

/-- The material of a subkey. -/
def material (s : Subkey) : Material := ⟨s.key, s.secret, false⟩

/-- The binding signature in force: the newest one (the last among equally new). -/
def binding (s : Subkey) : Option Signature :=
  lastMaxBy Signature.createdOrZero (s.signatures.filter (·.typ == .subkeyBinding))

/-- When the subkey expires, if ever. -/
def expirationTime (s : Subkey) : Option Nat := s.binding.bind (expiryAfter s.key.created)

end Subkey

namespace Key

/-- The material of the primary key. -/
def primaryMaterial (k : Key) : Material := ⟨k.primary, k.primarySecret, true⟩

/-- All material: the primary key, then the subkeys. -/
def materials (k : Key) : List Material := k.primaryMaterial :: k.subkeys.map Subkey.material

/-- The material with a key id. -/
def findMaterial (k : Key) (id : ByteArray) : Option Material :=
  k.materials.find? (fun m => Bytes.equal m.keyId id)

/-- The fingerprint in lower-case hex. -/
def fingerprint (k : Key) : String := Hex.encode k.primary.fingerprint

/-- The key id in upper-case hex. -/
def keyId (k : Key) : String := k.primary.keyIdHex

/-- The user ids as text. -/
def userIds (k : Key) : List String := k.users.map (fun u => Utf8.decodeLossy u.id)

/-- Whether the key has a secret primary key. -/
def isPrivate (k : Key) : Bool := k.primarySecret.isSome

/-- The state of a key: public, locked, or unlocked when every secret part is in the clear. -/
inductive State where
  | publicOnly
  | locked
  | unlocked
deriving Repr, DecidableEq

/-- The name of a state. -/
def State.name : State → String
  | .publicOnly => "public"
  | .locked => "locked"
  | .unlocked => "unlocked"

/-- The state of a key. -/
def state (k : Key) : State :=
  if k.primarySecret.isNone then .publicOnly
  else if (k.materials.filter Material.hasSecret).all Material.isUnlocked then .unlocked
  else .locked

/-- The self-signature that sets the primary key's validity: the newest certification of
a valid user id, primary ones first; else the newest direct signature. -/
def primarySelfSignature (k : Key) : Option Signature :=
  let certs := ((k.users.zip k.validUsers).filter (·.2)).flatMap (fun (u, _) => u.signatures)
  let certs := certs.filter Signature.isCertification
  match lastMaxBy (fun s => (if s.isPrimary then Nat.pow 2 40 else 0) + s.createdOrZero) certs with
  | some s => some s
  | none => lastMaxBy Signature.createdOrZero (k.directSignatures.filter (·.typ == .key))

/-- When the primary key expires, if ever. -/
def expirationTime (k : Key) : Option Nat :=
  k.primarySelfSignature.bind (expiryAfter k.primary.created)

/-- Whether the primary key has expired at `at`. -/
def isExpired (k : Key) (at_ : Int) : Bool :=
  match k.expirationTime with
  | some e => at_ > e
  | none => false

/-- Whether material is expired or not yet created at `at`; time zero skips the checks. -/
def materialExpired (k : Key) (m : Material) (at_ : Int) : Bool :=
  if at_ == 0 then false
  else if k.isExpired at_ || m.key.created > at_ then true
  else
    match k.subkeys.find? (fun s => Bytes.equal s.key.keyId m.keyId) with
    | some s => match s.expirationTime with
      | some e => at_ > e
      | none => false
    | none => false

/-- The material that receives session keys at `at` (zero skips time checks): the newest
valid, unrevoked, encryption-capable subkey whose flags allow it, else the primary key. -/
def encryptionKey (k : Key) (at_ : Int) : Option Material :=
  if k.revoked || (at_ != 0 && k.isExpired at_) then none
  else
    let subs := k.subkeys.filter (fun s =>
      s.valid && !s.revoked && s.material.canEncrypt &&
      (match s.binding with | some b => allowsEncryption b | none => true) &&
      (at_ == 0 || match s.expirationTime with | some e => at_ ≤ e | none => true))
    match lastMaxBy (fun s => s.key.created) subs with
    | some s => some s.material
    | none =>
      let allow := match k.primarySelfSignature with | some s => allowsEncryption s | none => true
      if allow && k.primaryMaterial.canEncrypt then some k.primaryMaterial else none

/-- The material that makes signatures: the primary key when it may sign, else the newest
valid, unrevoked signing subkey whose binding allows signing. -/
def signingKey (k : Key) : Option Material :=
  let allow := match k.primarySelfSignature with | some s => allowsSigning s | none => true
  if allow && k.primaryMaterial.canSign then some k.primaryMaterial
  else
    let subs := k.subkeys.filter (fun s =>
      s.valid && !s.revoked && s.material.canSign &&
      (match s.binding with | some b => b.keyFlags &&& 0x02 != 0 | none => false))
    (lastMaxBy (fun s => s.key.created) subs).map Subkey.material

/-- Check the self-signatures and record what is wrong. -/
def validate (k : Key) : Key :=
  let primary := k.primary
  let revoked := k.revocations.any (fun s => s.verifiesKey primary)
  let validUsers := k.users.map (fun u =>
    u.signatures.any (fun s => s.isCertification && s.verifiesCertification primary 13 u.id))
  let userIssues := (k.users.zip validUsers).filterMap (fun (u, ok) =>
    if ok then none else some ("user id '" ++ Utf8.decodeLossy u.id ++ "' has no valid self-signature"))
  let subkeys := k.subkeys.map (fun s =>
    let check (t : SignatureType) := s.signatures.any (fun g => g.typ == t && g.verifiesBinding primary s.key)
    { s with valid := check .subkeyBinding, revoked := check .subkeyRevocation })
  let subIssues := subkeys.flatMap (fun s =>
    (if s.valid then [] else ["subkey " ++ s.key.keyIdHex ++ " has no valid binding signature"]) ++
    (if s.revoked then ["subkey " ++ s.key.keyIdHex ++ " is revoked"] else []))
  let issues := (if revoked then ["key is revoked"] else []) ++ userIssues ++ subIssues ++
    (if k.users.isEmpty then ["key has no user ids"] else [])
  { k with revoked, validUsers, subkeys, issues }

/-- Write the key: with secret parts when `secret` is set and they are present. -/
def write (k : Key) (secret : Bool) : ByteArray :=
  let primary := match k.primarySecret, secret with
    | some s, true => Packet.write (.secretKey ⟨k.primary, s⟩)
    | _, _ => Packet.write (.publicKey k.primary)
  let sigs (ss : List Signature) := ss.foldl (fun acc s => acc ++ Packet.write (.signature s)) ByteArray.empty
  let users := k.users.foldl (fun acc u => acc ++ Packet.write (.userId u.format u.id) ++ sigs u.signatures)
    ByteArray.empty
  let attrs := k.attributes.foldl (fun acc a =>
    acc ++ Packet.write (.userAttribute a.format a.body) ++ sigs a.signatures) ByteArray.empty
  let subs := k.subkeys.foldl (fun acc s =>
    let p := match s.secret, secret with
      | some sec, true => Packet.write (.secretSubkey ⟨s.key, sec⟩)
      | _, _ => Packet.write (.publicSubkey s.key)
    acc ++ p ++ sigs s.signatures) ByteArray.empty
  primary ++ sigs k.revocations ++ sigs k.directSignatures ++ users ++ attrs ++ subs

/-- The public half of a key. -/
def toPublic (k : Key) : Key :=
  { k with primarySecret := none, subkeys := k.subkeys.map (fun s => { s with secret := none }) }

end Key

end SealedMail

import SealedMail.Key.Ring
import SealedMail.Session

/-! # Signatures over data

Making a signature with the signing key of an unlocked key, reading signatures from armored
or binary input, and the status rules shared by every check of signed data.

A new signature records its creation time and the issuer's fingerprint in the hashed area
and the issuer's key id in the unhashed area. In text mode the data is signed with bare line
feeds written as CR LF.

A check of several signatures takes the best outcome: a good signature wins, then a failed
one, then one by an expired key, then one whose key is unknown. A good signature made by a
key that is revoked or expired at the time of the check (or whose own lifetime is over)
counts as made by an expired key; time zero skips those checks.
-/

namespace SealedMail

/-- Whether signed data is hashed as it is or as canonical text. -/
inductive SignatureMode where
  | binary
  | text
deriving DecidableEq, Inhabited

/-- The signature type of a mode. -/
def SignatureMode.signatureType : SignatureMode → SignatureType
  | .binary => .binary
  | .text => .text

/-- The settings of a new signature by material, stamped with a creation time. -/
def signatureConfig (m : Material) (typ : SignatureType) (hash : HashAlgorithm) (created : Int) : Signature :=
  { typ, algorithm := m.key.algorithm, hash := HashCode.ofAlgorithm hash
    hashed := [{ data := .creationTime (Calendar.recordedTime created) },
      { data := .issuerFingerprint 4 m.key.fingerprint }]
    unhashed := [{ data := .issuer m.keyId }]
    prefix2 := ByteArray.empty, values := [] }

/-- Sign prepared data with open material: the digest of the data and the signature's
hashed fields, then the signature numbers. -/
def Material.sign (m : Material) (config : Signature) (data : ByteArray) : PacketResult Signature :=
  match m.secret, config.hash.toAlgorithm? with
  | some (.plain values), some h =>
    let digest := h.digest (data ++ config.digestSuffix)
    match m.key.signDigest values config.hash digest with
    | .ok vs => .ok { config with prefix2 := digest.extract 0 2, values := vs }
    | .error e => .error e
  | _, _ => .error (.message ("key " ++ m.keyIdHex ++ " has no secret material"))

/-- Sign data with the signing key of an unlocked key. -/
def createSignature (k : Key) (data : ByteArray) (mode : SignatureMode) (hash : HashAlgorithm)
    (created : Int) : Outcome Signature := do
  let some m := k.signingKey | throw (.encryption ("key " ++ k.keyId ++ " has no signing key"))
  if !m.isUnlocked then throw (.invalidState ("key " ++ k.keyId ++ " is not unlocked"))
  let config := signatureConfig m mode.signatureType hash created
  let data := if mode == .text then Lines.canonicalize data else data
  (m.sign config data).mapError (fun e => .encryption ("Failed to sign: " ++ e.display))

/-- A detached signature packet over data. -/
def signDetached (k : Key) (data : ByteArray) (mode : SignatureMode) (hash : HashAlgorithm)
    (created : Int) : Outcome ByteArray := do
  let s ← createSignature k data mode hash created
  return Packet.writeNew (.signature s)

/-- Armor a binary signature. -/
def armorSignature (sig : ByteArray) (headers : List (String × String)) : String :=
  Armor.write .signature headers sig

/-- The signature packets of armored or binary input. -/
def parseSignatures (data : ByteArray) : Outcome (List Signature) := do
  let binary ← if Armor.isArmored data then do
      if let .error e := Utf8.decode data then
        throw (.signatureParse ("armored signature is not UTF-8: " ++ e.message))
      let blocks ← (Armor.readAll data).mapError PacketError.asSignatureError
      match blocks with
      | b :: _ =>
        if b.kind != .signature then
          throw (.signatureParse ("expected a signature block, found " ++ b.kind.name))
        pure b.data
      | [] => throw (PacketError.message "no armor block found").asSignatureError
    else pure data
  (Header.checkFraming binary).mapError PacketError.asSignatureError
  let sigs ← (Packet.readAll binary).foldlM (fun acc item =>
    match item with
    | .ok (.signature s) => .ok (acc ++ [s])
    | .ok _ => .ok acc
    | .error e => .error e.asSignatureError) []
  if sigs.isEmpty then throw (.signatureParse "no signature packet found")
  return sigs

/-- The key id of a signature's issuer: its issuer subpacket, else the tail of a 20-byte
issuer fingerprint. -/
def Signature.issuerId? (s : Signature) : Option ByteArray :=
  match s.issuers with
  | k :: _ => some k
  | [] => (s.issuerFingerprints.find? (·.size == 20)).map (fun f => f.extract 12 20)

/-- Whether the signature's own lifetime is over at `at`. -/
def Signature.expiredAt (s : Signature) (at_ : Int) : Bool :=
  match s.created?, s.signatureExpiration? with
  | some c, some life => life > 0 && at_ > c + life
  | _, _ => false

/-- The outcome of checking signatures. -/
structure Verified where
  status : VerificationStatus
  /-- The issuer named in the signature, if any. -/
  signerKeyId : Option String := none
  /-- The first user id of the key that made it. -/
  signerUserId : Option String := none
  createdAt : Option Nat := none
deriving Inhabited

/-- Whether the outcome is a good signature. -/
def Verified.isValid (v : Verified) : Bool := v.status == .ok

/-- The outcome of one signature against the keys of a ring at a time. -/
def evaluateOne (s : Signature) (ring : KeyRing) (at_ : Int) (check : Signature → Material → Bool) :
    Verified :=
  let createdAt := s.created?
  match s.issuerId? with
  | none => { status := .noVerifier, createdAt }
  | some issuer =>
    let signerKeyId := some (Hex.encodeUpper issuer)
    match ring.findByKeyId issuer with
    | none => { status := .noVerifier, signerKeyId, createdAt }
    | some (k, m) =>
      let status : VerificationStatus :=
        if !check s m then .failed
        else if at_ != 0 && (k.revoked || k.materialExpired m at_ || s.expiredAt at_) then .keyExpired
        else .ok
      { status, signerKeyId, signerUserId := k.userIds.head?, createdAt }

/-- The rank of a status when several signatures are combined: lower wins. -/
def VerificationStatus.rank : VerificationStatus → Nat
  | .ok => 0
  | .failed => 1
  | .keyExpired => 2
  | .noVerifier => 3
  | .notSigned => 4

/-- The combined outcome of signatures: the best one, the first among equals. -/
def evaluateAll (sigs : List Signature) (ring : Option KeyRing) (at_ : Int)
    (check : Signature → Material → Bool) : Verified :=
  if sigs.isEmpty then { status := .notSigned }
  else
    match ring with
    | some r =>
      if r.keys.isEmpty then { status := .noVerifier }
      else
        let outcomes := sigs.map (fun s => evaluateOne s r at_ check)
        outcomes.foldl (fun best v => if v.status.rank < best.status.rank then v else best)
          (outcomes.headD { status := .notSigned })
    | none => { status := .noVerifier }

/-- Check a detached signature (armored or binary) over data. -/
def verifyDetached (signature data : ByteArray) (ring : KeyRing) (at_ : Int) : Outcome Verified := do
  let sigs ← parseSignatures signature
  return evaluateAll sigs (some ring) at_ (fun s m => s.verifies m.key data)

end SealedMail

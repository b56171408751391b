import SealedMail.Key.Secret
import SealedMail.Armor.Reader
import SealedMail.Armor.Writer
import SealedMail.Error
import SealedMail.Clock
import SealedMail.Config

/-! # Reading keys and key rings

A key stream is a run of packets. Each key starts at a primary key packet (public or
secret); its parts follow in a fixed order and the key ends at the first packet that does
not fit that order. Packets between keys are skipped. Packets that could not be read
because they are cut short or of an unsupported kind are dropped before grouping; any other
unreadable packet where a key may start fails the whole stream.

A key ring is a list of keys in the order they were read, from binary packets or from
armor blocks of key kinds.
-/

namespace SealedMail

/-- One item of a packet stream: a packet or why it could not be read. -/
abbrev PacketItem := PacketResult Packet

namespace KeyStream

/-- Whether an item is dropped before grouping: cut short, or of an unsupported kind. -/
def dropped : PacketItem → Bool
  | .error .packetIncomplete => true
  | .error (.invalidContent (.unsupported _)) => true
  | _ => false

/-- The leading signatures of a stream and the rest. -/
def signatures : List PacketItem → List Signature × List PacketItem
  | .ok (.signature s) :: rest =>
    let (sigs, r) := signatures rest
    (s :: sigs, r)
  | items => ([], items)

/-- The leading user ids and user attributes of a stream, each with its signatures. -/
def users (fuel : Nat) (items : List PacketItem) :
    List SignedUser × List SignedAttribute × List PacketItem :=
  match fuel, items with
  | f + 1, .ok (.userId format id) :: rest =>
    let (sigs, rest) := signatures rest
    let (us, attrs, r) := users f rest
    (⟨format, id, sigs⟩ :: us, attrs, r)
  | f + 1, .ok (.userAttribute format body) :: rest =>
    let (sigs, rest) := signatures rest
    let (us, attrs, r) := users f rest
    (us, ⟨format, body, sigs⟩ :: attrs, r)
  | _, items => ([], [], items)

/-- The leading subkeys of a stream with their signatures, public ones and secret ones
apart; secret subkeys are taken only when `secret` is set. -/
def subkeys (secret : Bool) (fuel : Nat) (items : List PacketItem) :
    List Subkey × List Subkey × List PacketItem :=
  match fuel, items with
  | f + 1, .ok (.publicSubkey k) :: rest =>
    let (sigs, rest) := signatures rest
    let (pubs, secs, r) := subkeys secret f rest
    (⟨k, none, sigs, false, false⟩ :: pubs, secs, r)
  | f + 1, .ok (.secretSubkey k) :: rest =>
    if secret then
      let (sigs, rest) := signatures rest
      let (pubs, secs, r) := subkeys secret f rest
      (pubs, ⟨k.publicPart, some k.secret, sigs, false, false⟩ :: secs, r)
    else ([], [], items)
  | _, items => ([], [], items)

/-- The key that starts with a primary key packet, and the rest of the stream. User ids and
user attributes that no signature follows are read and dropped. -/
def keyAfter (primary : KeyPacket) (secret : Option SecretParams) (items : List PacketItem) :
    Key × List PacketItem :=
  let (sigs, items) := signatures items
  let (us, attrs, items) := users items.length items
  let (pubs, secs, items) := subkeys secret.isSome items.length items
  let key : Key := {
    primary, primarySecret := secret
    revocations := sigs.filter (·.typ == .keyRevocation)
    directSignatures := sigs.filter (·.typ != .keyRevocation)
    users := us.filter (!·.signatures.isEmpty), attributes := attrs.filter (!·.signatures.isEmpty)
    subkeys := pubs ++ secs }
  (key.validate, items)

/-- Group a stream into keys. -/
def keys (fuel : Nat) (items : List PacketItem) : PacketResult (List Key) :=
  match fuel, items with
  | 0, _ => .ok []
  | _, [] => .ok []
  | f + 1, .ok (.publicKey k) :: rest =>
    let (key, rest) := keyAfter k none rest
    return key :: (← keys f rest)
  | f + 1, .ok (.secretKey k) :: rest =>
    let (key, rest) := keyAfter k.publicPart (some k.secret) rest
    return key :: (← keys f rest)
  | f + 1, .ok _ :: rest => keys f rest
  | _, .error e :: _ => .error (.message (Escape.string ("unexpected packet data: " ++ e.debug)))

/-- The keys in binary packets. -/
def read (b : ByteArray) : PacketResult (List Key) :=
  let items := (Packet.readAll b).filter (fun i => !dropped i)
  keys (items.length + 1) items

end KeyStream

/-- An ordered collection of keys; lookups take the first match. -/
structure KeyRing where
  keys : List Key
deriving Inhabited

namespace Key

/-- The number of bits of an RSA modulus, as key summaries show it. -/
def rsaBits (k : Key) : Option Nat := k.primary.rsaModulus?.map Mpi.bits

/-- A summary of the key at time `at`: ids, algorithm, dates, user ids, subkeys, issues and a
status line. -/
def describe (k : Key) (at_ : Int) : String :=
  let bits := match k.rsaBits with | some b => s!" {b} bits" | none => ""
  let created := (Calendar.rfc3339? k.primary.created).getD ""
  let expires := match k.expirationTime.bind (fun t => Calendar.rfc3339? t) with
    | some e => e
    | none => "never"
  let lines := ["Key ID: " ++ k.keyId, "Fingerprint: " ++ k.fingerprint,
    "Algorithm: " ++ k.primary.algorithm.summaryName ++ bits, "Created: " ++ created,
    "Expires: " ++ expires] ++
    k.userIds.map ("User ID: " ++ ·) ++
    k.subkeys.map (fun s => "Subkey: " ++ s.key.keyIdHex ++ " " ++ s.key.algorithm.summaryName ++
      (if s.valid then "" else " (invalid binding)")) ++
    k.issues.map ("Warning: " ++ ·)
  let status :=
    if k.revoked then "revoked"
    else if k.isExpired at_ then "expired"
    else if (k.encryptionKey at_).isNone then "no usable encryption key"
    else "OK"
  String.join (lines.map (· ++ "\n")) ++ "Status: " ++ status

/-- Open one secret part with a passphrase; unchanged when it is already open. -/
def openSecret (alg : PublicKeyAlgorithm) (passphrase : String) (s : SecretParams) :
    Outcome SecretParams :=
  match s.unlock alg passphrase with
  | .ok values => .ok (.plain values)
  | .error .wrongPassphrase => .error .wrongPassphrase
  | .error (.unreadable e) => .error e.asKeyError

/-- A copy of the key with every secret part opened. -/
def unlock (k : Key) (passphrase : String) : Outcome Key := do
  let some primary := k.primarySecret
    | throw (.invalidParameter ("key " ++ k.keyId ++ " has no secret material"))
  let primary ← openSecret k.primary.algorithm passphrase primary
  let subkeys ← k.subkeys.mapM (fun s =>
    match s.secret with
    | some sec => do
      let opened ← openSecret s.key.algorithm passphrase sec
      return { s with secret := some opened }
    | none => return s)
  return { k with primarySecret := some primary, subkeys }

/-- Protect one open secret part under a passphrase. -/
def closeSecret (passphrase : String) (config : EngineConfig) (s : SecretParams) (g : Entropy) :
    Outcome (SecretParams × Entropy) :=
  match s with
  | .plain values => .ok (SecretParams.lock values passphrase config.cipher config.hash config.s2kCount g)
  | .encrypted .. => .error (.invalidState "secret key is still encrypted")

/-- Protect every secret part under a passphrase; the key must be unlocked. -/
def lock (k : Key) (passphrase : String) (config : EngineConfig) (g : Entropy) :
    Outcome (Key × Entropy) := do
  let (primary, g) ← match k.primarySecret with
    | some s => do
      let (s, g) ← closeSecret passphrase config s g
      pure (some s, g)
    | none => pure (none, g)
  let (subs, g) ← k.subkeys.foldlM (fun (acc : List Subkey × Entropy) s =>
    match s.secret with
    | some sec => do
      let (sec, g) ← closeSecret passphrase config sec acc.2
      pure (acc.1 ++ [{ s with secret := some sec }], g)
    | none => pure (acc.1 ++ [s], acc.2)) ([], g)
  return ({ k with primarySecret := primary, subkeys := subs }, g)

/-- The public packets of the key. -/
def publicBytes (k : Key) : ByteArray := k.write false

/-- The packets of the key with its secret parts. -/
def secretBytes (k : Key) : Outcome ByteArray :=
  if k.isPrivate then .ok (k.write true) else .error (.invalidState "not a private key")

/-- The armored public key. -/
def armorPublic (k : Key) : String := Armor.write .publicKey [] k.publicBytes

/-- The armored private key. -/
def armorPrivate (k : Key) : Outcome String :=
  k.secretBytes.map (Armor.write .privateKey [])

end Key

namespace KeyRing

/-- The binary packets of key input: armored text of key blocks, or binary as it is. -/
def keyBytes (data : ByteArray) : Outcome ByteArray :=
  if Armor.isArmored data then do
    if let .error e := Utf8.decode data then
      throw (.keyParse ("armored key is not UTF-8: " ++ e.message))
    let blocks ← (Armor.readAll data).mapError PacketError.asKeyError
    blocks.foldlM (fun acc b =>
      if b.kind.isKey then pure (acc ++ b.data)
      else throw (.keyParse ("expected a key block, found " ++ b.kind.name))) ByteArray.empty
  else .ok data

/-- Read one or more keys from armored text or binary packets. -/
def parse (data : ByteArray) : Outcome KeyRing := do
  let binary ← keyBytes data
  (Header.checkFraming binary).mapError PacketError.asKeyError
  let keys ← (KeyStream.read binary).mapError PacketError.asKeyError
  if keys.isEmpty then throw (.keyParse "no keys found")
  return ⟨keys⟩

/-- The first key (in ring order) holding material with a key id. -/
def findByKeyId (r : KeyRing) (id : ByteArray) : Option (Key × Material) :=
  r.keys.findSome? (fun k => (k.findMaterial id).map (fun m => (k, m)))

/-- Unlock every private key that accepts the passphrase; the others are dropped. -/
def unlock (r : KeyRing) (passphrase : String) : Outcome KeyRing :=
  let results := (r.keys.filter Key.isPrivate).map (·.unlock passphrase)
  let opened := results.filterMap (fun x => match x with | .ok k => some k | .error _ => none)
  if opened.isEmpty then
    match (results.filterMap (fun (x : Outcome Key) => match x with | .error e => some e | .ok _ => none)).getLast? with
    | some (EngineError.keyParse m) => .error (.keyParse m)
    | some _ => .error .wrongPassphrase
    | none => .error (.invalidParameter "key ring holds no private keys")
  else .ok ⟨opened⟩

/-- The armored public keys of the ring. -/
def armorPublic (r : KeyRing) : String :=
  Armor.write .publicKey [] (Bytes.concat (r.keys.map Key.publicBytes))

end KeyRing

namespace Key

/-- Read exactly one key. -/
def parse (data : ByteArray) : Outcome Key := do
  let ring ← KeyRing.parse data
  match ring.keys with
  | [k] => return k
  | ks => throw (.keyParse s!"expected one key, found {ks.length}")

end Key

/-- Describe every key of key input at time `at`, or say why it is not a key. -/
def checkKey (data : ByteArray) (at_ : Int) : String :=
  match KeyRing.parse data with
  | .ok ring => "\n\n".intercalate (ring.keys.map (·.describe at_))
  | .error e => "Invalid key: " ++ e.message

end SealedMail

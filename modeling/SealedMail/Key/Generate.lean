import SealedMail.Key.Prime
import SealedMail.Message.Signing
import SealedMail.Config

/-! # Making keys

A new key is a signing primary key with one user id `name <name@domain>` and one encryption
subkey: Ed25519 with Curve25519, or RSA with RSA. The user id is certified (positive
certification) with the primary key's flags (certify, sign), preferences (AES-256, AES-192,
AES-128; SHA-256, SHA-512), the primary user id mark and the feature flags; the subkey is
bound with the encryption flags. Both signatures record their creation time, the issuer's
fingerprint and, with a lifetime, the key's expiration. The new key is locked with the
passphrase, an empty one included.

An RSA key can also be built from given primes, checked as the RSA rules demand: distinct
primes, an exponent invertible modulo `lcm(p - 1, q - 1)`, a modulus of at most 4096 bits
and of exactly the asked size. Its material then needs the inverse of the smaller prime modulo
the larger, which two numbers with a common factor lack.
-/

namespace SealedMail

/-- The kinds of key that can be made. -/
inductive KeyKind where
  | rsa
  | x25519
deriving DecidableEq, Inhabited

/-- A key kind by name, in any ASCII case. -/
def KeyKind.parse (name : String) : Outcome KeyKind :=
  match name.toLower with
  | "rsa" => .ok .rsa
  | "x25519" => .ok .x25519
  | other => .error (.invalidParameter ("unsupported key type '" ++ other ++ "'"))

/-- The user id of a name at a domain. -/
def userIdOf (name domain : String) : String := name ++ " <" ++ name ++ "@" ++ domain ++ ">"

/-- The smallest RSA size a key may be made with. -/
def minRsaBits : Nat := 2048

/-- The public exponent of new RSA keys. -/
def rsaExponent : Nat := 65537

/-- Fresh key material: the algorithm, the public parameters and the secret numbers. -/
structure FreshKey where
  algorithm : PublicKeyAlgorithm
  params : PublicParams
  secret : List Mpi

namespace FreshKey

/-- An Ed25519 signing key from 32 random bytes. -/
def ed25519 (g : Entropy) : FreshKey × Entropy :=
  let (seed, g) := g.bytes 32
  (⟨.eddsa, .eddsa .ed25519 (Mpi.ofBytes (ByteArray.mk #[0x40] ++ Ed25519.publicKey seed)),
    [Mpi.ofBytes seed]⟩, g)

/-- A Curve25519 encryption key from 32 random bytes: the clamped scalar is kept big-endian,
with SHA-256 and AES-128 for the key wrapping. -/
def curve25519 (g : Entropy) : FreshKey × Entropy :=
  let (seed, g) := g.bytes 32
  (⟨.ecdh, .ecdh .curve25519 (Mpi.ofBytes (ByteArray.mk #[0x40] ++ X25519.publicOf seed)) .sha256 .aes128,
    [Mpi.ofNat (X25519.clamp seed)]⟩, g)

/-- The RSA key of two primes and a private exponent: the smaller prime is `p`, and `u` is
its inverse modulo `q`. -/
def rsa (p q d : Nat) : FreshKey :=
  let (a, b) := if p < q then (p, q) else (q, p)
  let u := (Modular.inverse? a b).getD 0
  ⟨.rsa, .rsa (Mpi.ofNat (p * q)) (Mpi.ofNat rsaExponent), [Mpi.ofNat d, Mpi.ofNat a, Mpi.ofNat b, Mpi.ofNat u]⟩

/-- RSA material of two primes and a private exponent as OpenPGP stores it, the smaller prime
first: refused when the smaller prime has no inverse modulo the larger. -/
def ofRsa (p q d : Nat) : Outcome FreshKey :=
  let (a, b) := if p < q then (p, q) else (q, p)
  if (Modular.inverse? a b).isSome then .ok (rsa p q d)
  else .error (.keyGeneration "RSA primes have no CRT coefficient")

end FreshKey

/-- The number of bits of a number. -/
def bitLength (n : Nat) : Nat := if n = 0 then 0 else Nat.log2 n + 1

/-- The private exponent of the RSA key of two primes, the inverse of the public exponent
modulo `lcm(p - 1, q - 1)`: given once the primes pass the RSA rules and the modulus has exactly
`bits` bits. -/
def rsaPrivateExponent (bits p q : Nat) : Outcome Nat := do
  let bad (m : String) : Outcome Nat := .error (.invalidParameter ("invalid RSA primes: " ++ m))
  if p == q || p == 0 || q == 0 then bad "invalid prime value"
  else
    match Modular.inverse? rsaExponent (Nat.lcm (p - 1) (q - 1)) with
    | none => bad "invalid exponent"
    | some d =>
      let n := p * q
      let de := d * rsaExponent
      if bitLength n > 4096 then bad "modulus too large"
      else if de % (p - 1) != 1 || de % (q - 1) != 1 then bad "invalid exponent"
      else if bitLength n != bits then
        let got := bitLength n
        .error (.invalidParameter s!"primes give a {got}-bit modulus, expected {bits}")
      else pure d

/-- The RSA key of given primes: their private exponent, once they pass the RSA rules, then their
material in the order OpenPGP stores it. -/
def rsaOfPrimes (bits p q : Nat) : Outcome FreshKey := do
  let d ← rsaPrivateExponent bits p q
  FreshKey.ofRsa p q d

/-- A random RSA key of a size: primes of half the size each (the second taking what the
first leaves), drawn again until the modulus has exactly the size and the exponent is
invertible. A key of more than 4096 bits is refused once made. -/
def rsaRandom (bits : Nat) : Nat → Entropy → Outcome (FreshKey × Entropy)
  | 0, _ => .error (.keyGeneration "Failed to generate RSA key: no primes found")
  | fuel + 1, g =>
    let (p, g) := Prime.random (bits / 2) 64 g
    match p with
    | none => .error (.keyGeneration "Failed to generate RSA key: no primes found")
    | some p =>
      let (q, g) := Prime.random (bits - bitLength p) 64 g
      match q with
      | none => .error (.keyGeneration "Failed to generate RSA key: no primes found")
      | some q =>
        if p == q || bitLength (p * q) != bits then rsaRandom bits fuel g
        else
          match Modular.inverse? rsaExponent ((p - 1) * (q - 1)) with
          | some d =>
            -- the finished key is checked as every RSA key is: a modulus of at most 4096 bits
            if bits > 4096 then .error (.keyGeneration s!"Failed to generate Rsa({bits}) key: rsa error: ModulusTooLarge")
            else .ok (FreshKey.rsa p q d, g)
          | none => rsaRandom bits fuel g

/-- Who makes keys: the configuration, the creation time and an optional lifetime. -/
structure KeyMaker where
  config : EngineConfig
  /-- The creation time; a negative one counts as zero. -/
  now : Int
  /-- The lifetime in seconds of new keys; none for keys that do not expire. -/
  lifetime : Option Nat := none

namespace KeyMaker

/-- The creation time as written in packets. -/
def created (km : KeyMaker) : Nat := Calendar.recordedTime km.now

/-- The hashed subpackets every self-signature starts with. -/
def baseSubpackets (km : KeyMaker) (fingerprint : ByteArray) (flags : UInt8) : List Subpacket :=
  [{ data := .creationTime km.created }, { data := .issuerFingerprint 4 fingerprint },
    { data := .keyFlags (ByteArray.mk #[flags]) }] ++
  match km.lifetime with
  | some l => [{ data := .keyExpiration l }]
  | none => []

/-- The key of fresh primary and subkey material, signed and locked with the passphrase. -/
def assemble (km : KeyMaker) (userId : String) (primary subkey : FreshKey) (passphrase : String)
    (g : Entropy) : Outcome (Key × Entropy) := do
  let pk : KeyPacket := { created := km.created, algorithm := primary.algorithm, params := primary.params }
  let sk : KeyPacket := { created := km.created, algorithm := subkey.algorithm, params := subkey.params }
  let m : Material := ⟨pk, some (.plain primary.secret), true⟩
  let hash := HashCode.ofAlgorithm km.config.hash
  let issuer : List Subpacket := [{ data := .issuer pk.keyId }]
  let hashed := km.baseSubpackets pk.fingerprint 0x03 ++
    [{ data := .preferredCiphers (ByteArray.mk #[9, 8, 7]) }, { data := .preferredHashes (ByteArray.mk #[8, 10]) },
      { data := .primaryUserId true }, { data := .features (ByteArray.mk #[1]) }]
  let id := userId.toUTF8
  let certConfig : Signature :=
    { typ := .certPositive, algorithm := primary.algorithm, hash, hashed, unhashed := issuer,
      prefix2 := ByteArray.empty, values := [] }
  let generation (e : PacketError) : EngineError := .keyGeneration e.display
  let cert ← (m.sign certConfig (certConfig.certifiedData pk 13 id)).mapError generation
  let bindConfig : Signature :=
    { typ := .subkeyBinding, algorithm := primary.algorithm, hash,
      hashed := km.baseSubpackets pk.fingerprint 0x0c, unhashed := issuer, prefix2 := ByteArray.empty, values := [] }
  let binding ← (m.sign bindConfig (pk.hashForm ++ sk.hashForm)).mapError generation
  let key : Key :=
    { primary := pk, primarySecret := some (.plain primary.secret), revocations := [], directSignatures := [],
      users := [⟨.new, id, [cert]⟩], attributes := [],
      subkeys := [{ key := sk, secret := some (.plain subkey.secret), signatures := [binding] }] }
  key.validate.lock passphrase km.config g

/-- Make a key of a kind; `bits` sizes an RSA key, zero meaning the configured size. -/
def generate (km : KeyMaker) (userName domain passphrase kind : String) (bits : Nat) (g : Entropy) :
    Outcome (Key × Entropy) := do
  let kind ← KeyKind.parse kind
  let userId := userIdOf userName domain
  match kind with
  | .x25519 =>
    let (primary, g) := FreshKey.ed25519 g
    let (subkey, g) := FreshKey.curve25519 g
    km.assemble userId primary subkey passphrase g
  | .rsa =>
    let bits := if bits == 0 then km.config.rsaBits else bits
    if bits < minRsaBits then
      throw (.invalidParameter s!"RSA keys need at least {minRsaBits} bits, got {bits}")
    if bits ≥ Nat.pow 2 32 then throw (.invalidParameter s!"RSA size {bits} is too large")
    let (primary, g) ← rsaRandom bits 64 g
    let (subkey, g) ← rsaRandom bits 64 g
    km.assemble userId primary subkey passphrase g

/-- Build an RSA key from four primes: two for the primary key, two for the subkey. -/
def fromPrimes (km : KeyMaker) (userName domain passphrase : String) (bits : Nat)
    (p1 p2 p3 p4 : ByteArray) (g : Entropy) : Outcome (Key × Entropy) := do
  let primary ← rsaOfPrimes bits (Bytes.toNatBE p1) (Bytes.toNatBE p2)
  let subkey ← rsaOfPrimes bits (Bytes.toNatBE p3) (Bytes.toNatBE p4)
  km.assemble (userIdOf userName domain) primary subkey passphrase g

/-- Lock a private key under a new passphrase after opening it with the old one. -/
def updatePassphrase (km : KeyMaker) (k : Key) (old new : String) (g : Entropy) : Outcome (Key × Entropy) := do
  let k ← k.unlock old
  k.lock new km.config g

end KeyMaker

end SealedMail

import SealedMail.Cipher.Algorithm
import SealedMail.Error
import SealedMail.Json
import SealedMail.Text.Base64

/-! # Session keys and verification results

A session key is a cipher and its key bytes; its JSON form holds the cipher's name and the
key in padded base64. A signature check ends in one of five statuses, each with a number
and a sentence.
-/

namespace SealedMail

/-- A symmetric session key and the cipher it belongs to. -/
structure SessionKey where
  /-- The cipher. -/
  algorithm : SymmetricAlgorithm
  /-- The key bytes; only `SessionKey.make` checks their length. -/
  key : ByteArray

namespace SessionKey

/-- Two session keys are equal when cipher and key bytes agree. -/
def same (a b : SessionKey) : Bool := a.algorithm == b.algorithm && a.key.data == b.key.data

/-- A session key whose length suits its cipher. -/
def make (algorithm : SymmetricAlgorithm) (key : ByteArray) : Outcome SessionKey :=
  if key.size != algorithm.keySize then
    .error (.invalidParameter s!"{algorithm.name} session key must be {algorithm.keySize} bytes, got {key.size}")
  else .ok ⟨algorithm, key⟩

/-- The JSON form. -/
def toJson (s : SessionKey) : Json :=
  .obj [("algorithm", .str s.algorithm.name), ("key", .str (Base64.encode s.key))]

/-- Read the cipher member of the JSON form. -/
def readAlgorithm (j : Json) : Except String SymmetricAlgorithm :=
  Json.readVariant SymmetricAlgorithm.all SymmetricAlgorithm.name j

/-- Read the key member of the JSON form: padded base64. -/
def readKey : Json → Except String ByteArray
  | .str s => (Base64.decode s).mapError (·.message)
  | other => .error ("invalid type: " ++ other.unexpected ++ ", expected a string")

/-- Read the JSON form, an object or an array of the two members in order; the key length is
not checked. -/
def ofJson (j : Json) : Except String SessionKey :=
  match j with
  | .obj ms => do
    let mut alg : Option SymmetricAlgorithm := none
    let mut key : Option ByteArray := none
    for (k, v) in ms do
      if k == "algorithm" then
        if alg.isSome then throw "duplicate field `algorithm`"
        alg := some (← readAlgorithm v)
      else if k == "key" then
        if key.isSome then throw "duplicate field `key`"
        key := some (← readKey v)
    let some a := alg | throw "missing field `algorithm`"
    let some b := key | throw "missing field `key`"
    return ⟨a, b⟩
  | .arr items => do
    let some first := items.head? | throw "invalid length 0, expected struct SessionSplit with 2 elements"
    let a ← readAlgorithm first
    let some second := items[1]? | throw "invalid length 1, expected struct SessionSplit with 2 elements"
    let b ← readKey second
    if items.length > 2 then throw (Json.tooLong items.length)
    return ⟨a, b⟩
  | other => .error ("invalid type: " ++ other.unexpected ++ ", expected struct SessionSplit")

/-- The diagnostic form, which never shows the key. -/
def debugText (s : SessionKey) : String :=
  "SessionSplit \x7b algorithm: " ++ s.algorithm.variantName ++ ", key: \"[REDACTED]\" \x7d"

end SessionKey

/-- The outcome of checking signatures. -/
inductive VerificationStatus where
  | ok
  | notSigned
  | noVerifier
  | failed
  | keyExpired
deriving Repr, DecidableEq, Inhabited

namespace VerificationStatus

/-- The number of a status. -/
def code : VerificationStatus → Nat
  | .ok => 0
  | .notSigned => 1
  | .noVerifier => 2
  | .failed => 3
  | .keyExpired => 4

/-- The status with a number. -/
def ofCode? (n : Int) : Option VerificationStatus :=
  [VerificationStatus.ok, .notSigned, .noVerifier, .failed, .keyExpired].find? (fun s => (s.code : Int) == n)

/-- The name in the JSON form. -/
def name : VerificationStatus → String
  | .ok => "ok"
  | .notSigned => "notSigned"
  | .noVerifier => "noVerifier"
  | .failed => "failed"
  | .keyExpired => "keyExpired"

/-- The sentence describing a status. -/
def text : VerificationStatus → String
  | .ok => "signature verified"
  | .notSigned => "message is not signed"
  | .noVerifier => "no key to verify the signature"
  | .failed => "signature verification failed"
  | .keyExpired => "signing key is expired"

end VerificationStatus

end SealedMail

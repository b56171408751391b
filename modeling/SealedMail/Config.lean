import SealedMail.Cipher.Algorithm
import SealedMail.Digest.Algorithm
import SealedMail.Json
import SealedMail.Text.Blank

/-! # Engine configuration

The choices applied to everything the engine writes: the session cipher, the hash for
signatures and passphrase stretching, the coded S2K count, the default RSA size and an
optional armor comment. The configuration has a JSON form with camel-case member names in
which every member is optional, and it can be read from environment variables, where a
value that does not parse is ignored.
-/

namespace SealedMail

/-- The engine's configuration. -/
structure EngineConfig where
  /-- Cipher for session keys and secret-key protection. -/
  cipher : SymmetricAlgorithm := .aes256
  /-- Hash for signatures and S2K. -/
  hash : HashAlgorithm := .sha256
  /-- The coded S2K iteration count octet. -/
  s2kCount : UInt8 := 0x60
  /-- RSA size used when a key of zero bits is asked for. -/
  rsaBits : Nat := 2048
  /-- The Comment header of armored output. -/
  armorComment : Option String := none
deriving Repr, DecidableEq, Inhabited

namespace EngineConfig

/-- The armor headers of written output: at most a comment. -/
def armorHeaders (c : EngineConfig) : List (String × String) :=
  match c.armorComment with
  | some text => [("Comment", text)]
  | none => []

/-- The JSON form. -/
def toJson (c : EngineConfig) : Json :=
  .obj [("cipher", .str c.cipher.name), ("hash", .str c.hash.name),
    ("s2kCount", .int c.s2kCount.toNat), ("rsaBits", .int c.rsaBits),
    ("armorComment", match c.armorComment with | some s => .str s | none => .null)]

/-- The member names of the JSON form, in order. -/
def fieldNames : List String := ["cipher", "hash", "s2kCount", "rsaBits", "armorComment"]

/-- Read an unsigned integer not above `bound`; `what` names the integer type. -/
def readUnsigned (bound : Nat) (what : String) (j : Json) : Except String Nat :=
  match j.integer? with
  | some m =>
    if 0 ≤ m && m.toNat ≤ bound then .ok m.toNat
    else .error ("invalid value: integer `" ++ toString m ++ "`, expected " ++ what)
  | none => .error ("invalid type: " ++ j.unexpected ++ ", expected " ++ what)

/-- Read an optional string. -/
def readOptionalString : Json → Except String (Option String)
  | .null => .ok none
  | .str s => .ok (some s)
  | j => .error ("invalid type: " ++ j.unexpected ++ ", expected a string")

/-- Set one member of the configuration from its JSON value. -/
def setField (c : EngineConfig) (name : String) (v : Json) : Except String EngineConfig :=
  if name == "cipher" then
    return { c with cipher := ← Json.readVariant SymmetricAlgorithm.all SymmetricAlgorithm.name v }
  else if name == "hash" then
    return { c with hash := ← Json.readVariant HashAlgorithm.all HashAlgorithm.name v }
  else if name == "s2kCount" then
    return { c with s2kCount := (← readUnsigned 255 "u8" v).toUInt8 }
  else if name == "rsaBits" then
    return { c with rsaBits := ← readUnsigned (Nat.pow 2 64 - 1) "usize" v }
  else if name == "armorComment" then
    return { c with armorComment := ← readOptionalString v }
  else .ok c

/-- Read the JSON form: members in any order, each at most once, unknown members ignored
and missing ones at their defaults; an array gives the members in declaration order, and
may not be longer than the list of members. -/
def ofJson (j : Json) : Except String EngineConfig :=
  match j with
  | .obj ms => do
    let mut c : EngineConfig := {}
    let mut seen : List String := []
    for (k, v) in ms do
      if fieldNames.contains k then
        if seen.contains k then throw ("duplicate field `" ++ k ++ "`")
        seen := k :: seen
        c ← setField c k v
    return c
  | .arr items => do
    let mut c : EngineConfig := {}
    for (k, v) in fieldNames.zip items do
      c ← setField c k v
    if items.length > fieldNames.length then throw (Json.tooLong items.length)
    return c
  | j => .error ("invalid type: " ++ j.unexpected ++ ", expected struct EngineConfig")

/-- Read an unsigned decimal the way the environment reader does: an optional plus sign
and at least one digit, nothing else. -/
def parseUnsigned? (s : String) : Option Nat :=
  let cs := match s.toList with
    | '+' :: rest => rest
    | cs => cs
  if cs.isEmpty || !cs.all Char.isDigit then none
  else some (cs.foldl (fun n c => 10 * n + (c.toNat - 48)) 0)

/-- The configuration that environment variables describe: each of the five variables,
when set, is trimmed and parsed; a value that does not parse leaves the default, and a
comment that is blank after trimming is ignored. -/
def ofEnv (lookup : String → Option String) : EngineConfig := Id.run do
  let mut c : EngineConfig := {}
  if let some raw := lookup "PMCRYPTO_CIPHER" then
    if let some a := SymmetricAlgorithm.ofName? (Blank.trim raw) then c := { c with cipher := a }
  if let some raw := lookup "PMCRYPTO_HASH" then
    if let some h := HashAlgorithm.ofName? (Blank.trim raw) then c := { c with hash := h }
  if let some raw := lookup "PMCRYPTO_S2K_COUNT" then
    if let some n := parseUnsigned? (Blank.trim raw) then
      if n < 256 then c := { c with s2kCount := n.toUInt8 }
  if let some raw := lookup "PMCRYPTO_RSA_BITS" then
    if let some n := parseUnsigned? (Blank.trim raw) then
      if n < Nat.pow 2 64 then c := { c with rsaBits := n }
  if let some raw := lookup "PMCRYPTO_ARMOR_COMMENT" then
    let t := Blank.trim raw
    if !t.isEmpty then c := { c with armorComment := some t }
  return c

end EngineConfig

end SealedMail

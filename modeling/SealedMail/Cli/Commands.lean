import SealedMail.Cli.Parse

/-! # The commands of the mail crypto tool

The tool makes keys, describes them, encrypts and decrypts messages, makes and checks
detached signatures, derives keys from passphrases and prints random tokens. The
passphrase, the JSON switch and the verbose switch are global; the passphrase can also come
from `PMCRYPTO_PASSPHRASE`.

A command line that reads becomes an `Invocation`: the global settings and a `Request`
with typed fields.
-/

namespace SealedMail.Cli

/-- The range of an unsigned 64-bit count. -/
def unsigned64 : ValueType := .integer 0 (Int.pow 2 64 - 1)

/-- The range of a signed 64-bit time. -/
def signed64 : ValueType := .integer (-Int.pow 2 63) (Int.pow 2 63 - 1)

/-- The input file argument that several commands share. -/
def inputParam : Param :=
  { id := "input", valueName := "INPUT", help := "Input file (stdin when omitted)", positional := true }

/-- The verification time option of decryption and verification. -/
def timeParam : Param :=
  { id := "time", long := some "time", valueName := "TIME", valueType := signed64, default := some "0",
    help := "Verification time as unix seconds (0 skips expiry checks)" }

/-- The tool's command line. -/
def tool : Program where
  name := "pmcrypto"
  about := "pmcrypto - OpenPGP keys, messages and signatures for secure mail"
  globals := [
    { id := "passphrase", short := some 'p', long := some "passphrase", valueName := "PASSPHRASE",
      env := some "PMCRYPTO_PASSPHRASE", help := "Passphrase or password for the operation" },
    { id := "json", long := some "json", action := .flag, help := "Print results as JSON where available" },
    { id := "verbose", short := some 'v', long := some "verbose", action := .flag, help := "Enable verbose logging" }]
  commands := [
    { name := "generate-key", about := "Generate a passphrase-protected key pair", params := [
      { id := "name", valueName := "NAME", positional := true, required := true, help := "User name for the user id" },
      { id := "domain", valueName := "DOMAIN", positional := true, required := true,
        help := "Mail domain for the user id" },
      { id := "key_type", short := some 't', long := some "key-type", valueName := "KEY_TYPE",
        default := some "x25519", help := "Key type: x25519 or rsa" },
      { id := "bits", short := some 'b', long := some "bits", valueName := "BITS", valueType := unsigned64,
        default := some "0", help := "RSA key size (0 = configured default)" },
      { id := "out", short := some 'o', long := some "out", valueName := "OUT", required := true,
        help := "Where to write the private key; the public key goes to <out>.pub" }] },
    { name := "check-key", about := "Describe a public key", params := [
      { id := "key", valueName := "KEY", positional := true, required := true, help := "Key file" }] },
    { name := "encrypt", about := "Encrypt a message for a public key, or with --password", params := [
      { id := "public_key", short := some 'k', long := some "public-key", valueName := "PUBLIC_KEY",
        requiredUnless := some "password", help := "Recipient public key file" },
      { id := "password", long := some "password", action := .flag,
        help := "Encrypt with the passphrase as a password instead of a key" },
      { id := "sign_with", short := some 's', long := some "sign-with", valueName := "SIGN_WITH",
        help := "Private key file to sign with" },
      inputParam] },
    { name := "decrypt", about := "Decrypt a message with a private key, or with --password", params := [
      { id := "private_key", short := some 'k', long := some "private-key", valueName := "PRIVATE_KEY",
        requiredUnless := some "password", help := "Private key file" },
      { id := "password", long := some "password", action := .flag, help := "Decrypt with the passphrase as a password" },
      { id := "verify_with", long := some "verify-with", valueName := "VERIFY_WITH",
        help := "Public key file to verify an embedded signature with" },
      timeParam, inputParam] },
    { name := "sign", about := "Create a detached signature", params := [
      { id := "private_key", short := some 'k', long := some "private-key", valueName := "PRIVATE_KEY",
        required := true, help := "Private key file" },
      { id := "text", long := some "text", action := .flag, help := "Sign as canonical text instead of binary" },
      inputParam] },
    { name := "verify", about := "Verify a detached signature", params := [
      { id := "public_key", short := some 'k', long := some "public-key", valueName := "PUBLIC_KEY",
        required := true, help := "Public key file" },
      { id := "signature", short := some 's', long := some "signature", valueName := "SIGNATURE",
        required := true, help := "Signature file" },
      { id := "text", long := some "text", action := .flag, help := "Verify as canonical text instead of binary" },
      timeParam, inputParam] },
    { name := "derive-key", about := "Derive a key from the passphrase with scrypt", params := [
      { id := "salt", short := some 's', long := some "salt", valueName := "SALT", required := true,
        help := "Salt as hex" },
      { id := "cost", short := some 'n', long := some "cost", valueName := "COST", valueType := unsigned64,
        default := some "32768", help := "scrypt cost (power of two)" }] },
    { name := "random-token", about := "Print random bytes as base64", params := [
      { id := "size", short := some 's', long := some "size", valueName := "SIZE", valueType := unsigned64,
        default := some "32", help := "Token size in bytes" }] }]

/-- What the tool is asked to do. -/
inductive Request where
  | generateKey (name domain keyType : String) (bits : Nat) (out : String)
  | checkKey (key : String)
  | encrypt (publicKey : Option String) (password : Bool) (signWith : Option String) (input : Option String)
  | decrypt (privateKey : Option String) (password : Bool) (verifyWith : Option String) (time : Int)
      (input : Option String)
  | sign (privateKey : String) (text : Bool) (input : Option String)
  | verify (publicKey signature : String) (text : Bool) (time : Int) (input : Option String)
  | deriveKey (salt : String) (cost : Nat)
  | randomToken (size : Nat)

/-- A request with the global settings. -/
structure Invocation where
  passphrase : Option String
  json : Bool
  verbose : Bool
  request : Request

namespace Parsed

/-- The text of a parameter, empty when absent. -/
def text (r : Parsed) (id : String) : String := (r.value? id).getD ""

/-- The integer value of a parameter, zero when absent. -/
def integer (r : Parsed) (id : String) : Int :=
  match (r.value? id).map (readInteger (-Int.pow 2 63) (Int.pow 2 64 - 1)) with
  | some (.ok n) => n
  | _ => 0

/-- The request of a command line that read. -/
def request (r : Parsed) : Request :=
  match r.command.name with
  | "generate-key" =>
    .generateKey (r.text "name") (r.text "domain") (r.text "key_type") (r.integer "bits").toNat (r.text "out")
  | "check-key" => .checkKey (r.text "key")
  | "encrypt" => .encrypt (r.value? "public_key") (r.flag "password") (r.value? "sign_with") (r.value? "input")
  | "decrypt" =>
    .decrypt (r.value? "private_key") (r.flag "password") (r.value? "verify_with") (r.integer "time")
      (r.value? "input")
  | "sign" => .sign (r.text "private_key") (r.flag "text") (r.value? "input")
  | "verify" => .verify (r.text "public_key") (r.text "signature") (r.flag "text") (r.integer "time") (r.value? "input")
  | "derive-key" => .deriveKey (r.text "salt") (r.integer "cost").toNat
  | _ => .randomToken (r.integer "size").toNat

/-- The invocation of a command line that read. -/
def invocation (r : Parsed) : Invocation :=
  { passphrase := r.value? "passphrase", json := r.flag "json", verbose := r.flag "verbose", request := r.request }

end Parsed

/-- Read the tool's command line (the words after the program name) with the environment. -/
def readCommandLine (env : String → Option String) (args : List String) : Except UsageError Invocation :=
  (tool.parse env args).map Parsed.invocation

end SealedMail.Cli

import SealedMail.Cli.Commands
import SealedMail.Cli.Workspace
import SealedMail.Cli.Dotenv
import SealedMail.Engine.Keys
import SealedMail.Cipher.Raw
import SealedMail.Json

/-! # Running the tool's commands

A run reads its key files and input from the working directory or standard input, writes
its results to standard output (messages about signatures to standard error) and may
write key files. The engine works with the configuration the environment gives and the
time of the run. A failure ends the run with the text of the error, each cause after the
context it happened in (`Failed to read key file k.asc: No such file or directory`);
what was printed before stays printed.

The whole program reads a `.env` file of the working directory first, then its command
line, and exits with status 0 after a run that succeeds, 1 after one that fails (with
`Error: ` and the error on standard error) and 2 for a command line it does not accept.
-/

namespace SealedMail.Cli

/-- What a run has produced so far. -/
structure Session where
  stdout : ByteArray := ByteArray.empty
  stderr : String := ""
  workspace : Workspace
  entropy : Entropy

/-- A step of a run; it fails with the text of an error. -/
abbrev Run := ExceptT String (StateM Session)

namespace Run

/-- Append bytes to standard output. -/
def emit (b : ByteArray) : Run Unit := modify fun s => { s with stdout := s.stdout ++ b }

/-- Print a line on standard output. -/
def printLine (line : String) : Run Unit := emit (line ++ "\n").toUTF8

/-- Print a line on standard error. -/
def warnLine (line : String) : Run Unit := modify fun s => { s with stderr := s.stderr ++ line ++ "\n" }

/-- The text of an engine error, after the context it happened in. -/
def describe (context : Option String) (e : EngineError) : String :=
  match context with
  | some c => c ++ ": " ++ e.message
  | none => e.message

/-- The value of an engine operation, or its error. -/
def ofOutcome {α : Type} (o : Outcome α) (context : Option String := none) : Run α :=
  match o with
  | .ok a => pure a
  | .error e => throw (describe context e)

/-- The value of an engine operation that draws random bytes. -/
def drawing {α : Type} (f : Entropy → Outcome (α × Entropy)) (context : Option String := none) : Run α := do
  let s ← get
  match f s.entropy with
  | .ok (a, g) =>
    set { s with entropy := g }
    pure a
  | .error e => throw (describe context e)

/-- The contents of a file, or the error after the context. -/
def readPath (path context : String) : Run ByteArray := do
  match (← get).workspace.read path with
  | .ok b => pure b
  | .error e => throw (context ++ ": " ++ e.message)

/-- Write a file, or fail with the error after the context. -/
def writePath (path : String) (data : ByteArray) (context : String) : Run Unit := do
  let s ← get
  match s.workspace.write path data with
  | .ok w => set { s with workspace := w }
  | .error e => throw (context ++ ": " ++ e.message)

/-- Bytes as text, or the decoding error after the context. -/
def text (data : ByteArray) (context : String) : Run String :=
  match Utf8.decode data with
  | .ok t => pure t
  | .error e => throw (context ++ ": " ++ e.message)

/-- A key file that holds keys: its bytes. -/
def keyFile (path : String) : Run ByteArray := do
  let data ← readPath path ("Failed to read key file " ++ path)
  let _ ← ofOutcome (KeyRing.parse data) (some ("Invalid key file " ++ path))
  pure data

/-- A key file that holds armored keys: its text. -/
def armoredKeyFile (path : String) : Run String := do
  let data ← keyFile path
  match Utf8.decode data with
  | .ok t => pure t
  | .error _ => throw ("Key file " ++ path ++ " is not armored text")

/-- Write a private key and, beside it with the extension `pub`, its public key. -/
def saveKeypair (path armored : String) : Run Unit := do
  let key ← ofOutcome (Key.parse armored.toUTF8) (some "Generated key does not parse")
  writePath path armored.toUTF8 ("Failed to write " ++ path)
  let publicPath := withExtension path "pub"
  writePath publicPath key.armorPublic.toUTF8 ("Failed to write " ++ publicPath)

end Run

/-- What a run works with besides its files. -/
structure App where
  engine : Engine
  passphrase : Option String
  json : Bool
  stdin : ByteArray

namespace App

open Run

/-- The passphrase, which this command needs. -/
def needPassphrase (a : App) : Run String :=
  match a.passphrase with
  | some p => pure p
  | none => throw "A passphrase is required: use --passphrase or PMCRYPTO_PASSPHRASE"

/-- The input: a file, or standard input when none (or `-`) is named. -/
def input (a : App) (path : Option String) : Run ByteArray :=
  match path with
  | some p => if p == "-" then pure a.stdin else readPath p ("Failed to read input " ++ p)
  | none => pure a.stdin

/-- Make a key pair and write it. -/
def generateKey (a : App) (name domain keyType : String) (bits : Nat) (out : String) : Run Unit := do
  let pw ← a.needPassphrase
  let armored ← drawing (a.engine.generateKey name domain pw keyType bits none) (some "Key generation failed")
  saveKeypair out armored
  printLine ("Key written to " ++ out)

/-- Describe the keys of a file. -/
def checkKey (a : App) (path : String) : Run Unit := do
  let armored ← armoredKeyFile path
  printLine (SealedMail.checkKey armored.toUTF8 a.engine.now)

/-- Encrypt the input to a public key (signed when a private key is named), or with the
passphrase as a password. -/
def encrypt (a : App) (publicKey : Option String) (password : Bool) (signWith input : Option String) :
    Run Unit := do
  let plain ← text (← a.input input) "Input must be UTF-8 text"
  let armored ← if password then do
      let pw ← a.needPassphrase
      drawing (a.engine.encryptMessageWithPassword plain pw)
    else do
      let some path := publicKey | throw "--public-key is required"
      let recipients ← keyFile path
      let (signer, pw) ← match signWith with
        | some s => do
          let key ← armoredKeyFile s
          pure (key, ← a.needPassphrase)
        | none => pure ("", "")
      drawing (a.engine.encryptMessage plain recipients signer pw false)
  emit armored.toUTF8

/-- Decrypt the input with a private key (checking embedded signatures when a public key
is named), or with the passphrase as a password. -/
def decrypt (a : App) (privateKey : Option String) (password : Bool) (verifyWith : Option String) (time : Int)
    (input : Option String) : Run Unit := do
  let encrypted ← text (← a.input input) "Encrypted input must be armored text"
  if password then
    let plain ← ofOutcome (Engine.decryptMessageWithPassword encrypted (← a.needPassphrase))
    emit plain.toUTF8
  else
    let some path := privateKey | throw "--private-key is required"
    let keys ← keyFile path
    let verifier ← match verifyWith with
      | some v => keyFile v
      | none => pure ByteArray.empty
    let pw ← a.needPassphrase
    let (plain, status) ← ofOutcome (Engine.decryptVerify encrypted verifier keys pw time)
    if a.json then
      printLine (Json.pretty (.obj [("plaintext", .str plain), ("status", .str status.name)]))
    else
      emit plain.toUTF8
      if verifyWith.isSome then warnLine ("Signature: " ++ status.text)

/-- Make a detached signature of the input, over its bytes or over it as text. -/
def sign (a : App) (privateKey : String) (asText : Bool) (input : Option String) : Run Unit := do
  let data ← a.input input
  let key ← keyFile privateKey
  let signature ← if asText then do
      let t ← text data "Text input must be UTF-8"
      ofOutcome (a.engine.signText t key (← a.needPassphrase) true)
    else ofOutcome (a.engine.signDetachedWith data key (← a.needPassphrase) .binary)
  emit signature.toUTF8

/-- Check a detached signature of the input; a bad one fails the run after saying so. -/
def verify (a : App) (publicKey signature : String) (asText : Bool) (time : Int) (input : Option String) :
    Run Unit := do
  let data ← a.input input
  let key ← keyFile publicKey
  let context := "Failed to read signature " ++ signature
  let sigText ← text (← readPath signature context) context
  let valid ← if asText then do
      let t ← text data "Text input must be UTF-8"
      ofOutcome (Engine.verifyText sigText t key time)
    else ofOutcome (Engine.verifyDetachedWith sigText.toUTF8 data key time)
  if a.json then printLine (Json.compact (.obj [("valid", .bool valid)]))
  else printLine (if valid then "Signature OK" else "Signature INVALID")
  if !valid then throw "Signature verification failed"

/-- Derive a key from the passphrase and a hex salt. -/
def deriveKey (a : App) (salt : String) (cost : Nat) : Run Unit := do
  let saltBytes ← match Hex.decode salt with
    | .ok b => pure b
    | .error e => throw ("Salt must be hex: " ++ e.message)
  let key ← ofOutcome (Raw.deriveKey (← a.needPassphrase) saltBytes cost)
  printLine (Hex.encode key)

/-- Print random bytes in base64. -/
def randomToken (size : Nat) : Run Unit := do
  printLine (Base64.encode (← drawing (Engine.randomTokenWith size)))

end App

namespace Invocation

/-- The run of an invocation, with the environment, the time and standard input. -/
def perform (inv : Invocation) (env : String → Option String) (now : Int) (stdin : ByteArray) : Run Unit :=
  let a : App :=
    { engine := { config := EngineConfig.ofEnv env, now }, passphrase := inv.passphrase, json := inv.json, stdin }
  match inv.request with
  | .generateKey name domain keyType bits out => a.generateKey name domain keyType bits out
  | .checkKey key => a.checkKey key
  | .encrypt publicKey password signWith input => a.encrypt publicKey password signWith input
  | .decrypt privateKey password verifyWith time input => a.decrypt privateKey password verifyWith time input
  | .sign privateKey asText input => a.sign privateKey asText input
  | .verify publicKey signature asText time input => a.verify publicKey signature asText time input
  | .deriveKey salt cost => a.deriveKey salt cost
  | .randomToken size => App.randomToken size

/-- Run an invocation: the error that ended it, if any, and what it produced. -/
def run (inv : Invocation) (env : String → Option String) (now : Int) (stdin : ByteArray) (w : Workspace)
    (g : Entropy) : Option String × Session :=
  let (r, s) := ((inv.perform env now stdin).run).run { workspace := w, entropy := g }
  match r with
  | .ok _ => (none, s)
  | .error e => (some e, s)

end Invocation

namespace Request

/-- The input path of a request that reads one, unless it is standard input. -/
def inputFile (input : Option String) : List String :=
  match input with
  | some p => if p == "-" then [] else [p]
  | none => []

/-- The paths a request reads or writes. -/
def touches : Request → List String
  | .generateKey _ _ _ _ out => [out, withExtension out "pub"]
  | .checkKey key => [key]
  | .encrypt publicKey _ signWith input => publicKey.toList ++ signWith.toList ++ inputFile input
  | .decrypt privateKey _ verifyWith _ input => privateKey.toList ++ verifyWith.toList ++ inputFile input
  | .sign privateKey _ input => privateKey :: inputFile input
  | .verify publicKey signature _ _ input => [publicKey, signature] ++ inputFile input
  | .deriveKey _ _ | .randomToken _ => []

/-- Whether a request reads standard input. -/
def readsStdin : Request → Bool
  | .encrypt _ _ _ input | .decrypt _ _ _ _ input | .sign _ _ input | .verify _ _ _ _ input =>
    input.isNone || input == some "-"
  | _ => false

end Request

/-- How the program ended. -/
structure Exit where
  code : Nat
  stdout : ByteArray
  stderr : String
  workspace : Workspace

/-- The environment after the `.env` file of the working directory, if there is one. -/
def environmentWithFile (env : List (String × String)) (w : Workspace) : List (String × String) :=
  match w.read ".env" with
  | .ok file => Dotenv.load env file
  | .error _ => env

/-- The whole program: its arguments, environment, time, standard input and files. -/
def runProgram (args : List String) (env : List (String × String)) (now : Int) (stdin : ByteArray)
    (w : Workspace) (g : Entropy) : Exit :=
  let env := environmentWithFile env w
  let lookup := fun k => env.lookup k
  match readCommandLine lookup args with
  | .error e =>
    if e.kind.toStdout then ⟨e.kind.exitCode, e.message.toUTF8, "", w⟩
    else ⟨e.kind.exitCode, ByteArray.empty, e.message, w⟩
  | .ok inv =>
    match inv.run lookup now stdin w g with
    | (none, s) => ⟨0, s.stdout, s.stderr, s.workspace⟩
    | (some err, s) => ⟨1, s.stdout, s.stderr ++ "Error: " ++ err ++ "\n", s.workspace⟩

end SealedMail.Cli

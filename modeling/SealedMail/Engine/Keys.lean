import SealedMail.Engine.Basic
import SealedMail.Key.Generate

/-! # Making and re-locking keys through the engine

Keys are made at the engine's time with its configuration and handed out armored with their
secret parts. Changing a passphrase needs every key of the input to be private; each is
opened with the old passphrase and locked with the new one.
-/

namespace SealedMail

namespace Engine

/-- The key maker of the engine, with an optional lifetime for new keys. -/
def keyMaker (e : Engine) (lifetime : Option Nat := none) : KeyMaker :=
  { config := e.config, now := e.now, lifetime }

/-- Make a key and armor it with its secret parts. -/
def generateKey (e : Engine) (userName domain passphrase kind : String) (bits : Nat) (lifetime : Option Nat)
    (g : Entropy) : Outcome (String × Entropy) := do
  let (k, g) ← (e.keyMaker lifetime).generate userName domain passphrase kind bits g
  return (← k.armorPrivate, g)

/-- Build an RSA key from four primes and armor it with its secret parts. -/
def generateRsaKeyWithPrimes (e : Engine) (userName domain passphrase : String) (bits : Nat)
    (p1 p2 p3 p4 : ByteArray) (g : Entropy) : Outcome (String × Entropy) := do
  let (k, g) ← e.keyMaker.fromPrimes userName domain passphrase bits p1 p2 p3 p4 g
  return (← k.armorPrivate, g)

/-- Lock every key of an armored private key under a new passphrase. -/
def updatePrivateKeyPassphrase (e : Engine) (privateKey oldPassphrase newPassphrase : String) (g : Entropy) :
    Outcome (String × Entropy) := do
  let ring ← KeyRing.parse privateKey.toUTF8
  let (secret, g) ← ring.keys.foldlM (fun (acc : ByteArray × Entropy) k => do
    if !k.isPrivate then throw (.invalidParameter ("key " ++ k.keyId ++ " is not a private key"))
    let (k, g) ← e.keyMaker.updatePassphrase k oldPassphrase newPassphrase acc.2
    return (acc.1 ++ (← k.secretBytes), g)) (ByteArray.empty, g)
  return (Armor.write .privateKey e.config.armorHeaders secret, g)

end Engine

end SealedMail

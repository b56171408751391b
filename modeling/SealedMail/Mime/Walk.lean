import SealedMail.Mime.Parse
import SealedMail.Message.Collector
import SealedMail.Text.Blank

/-! # Gathering the parts of a decrypted MIME message

The parts are walked from the root, children in order. What a reader wants is picked out:
the first HTML part and the first plain text part that are not attachments, every
`text/rfc822-headers` part (headers protected by the encryption), and everything else as an
attachment with its raw header block and its decoded content.

A `multipart/signed` part (RFC 3156) names its signed entity by its boundary: the bytes
between the first delimiter line and the next, without the line break before the second.
Those bytes go into a signature collector together with every `application/pgp-signature`
child after the first; the first signed part met supplies the signature status. Only its
first child is walked further.
-/

namespace SealedMail.Mime

/-- What the walk gathers, in delivery order. -/
structure Gathered where
  html : Option String := none
  plain : Option String := none
  /-- Raw header blocks and decoded contents. -/
  attachments : Array (String × ByteArray) := #[]
  encryptedHeaders : Array String := #[]
  /-- The collector of the first signed part. -/
  signature : Option SignatureCollector := none
deriving Inhabited

/-- The raw header block of a part, without trailing white space. -/
def Document.rawHeaders (d : Document) (p : Part) : String :=
  Blank.trimEnd (Utf8.decodeLossy (d.raw.extract p.headerStart p.bodyStart))

/-- The first position at or after `i` where `delim` starts a line (the start of the data
counts as a line start). -/
def findDelimiter (data delim : ByteArray) (i : Nat) : Option Nat :=
  if i < data.size then
    if (i == 0 || data.get! (i - 1) == 10) && Bytes.matchesAt data delim i then some i
    else findDelimiter data delim (i + 1)
  else none
termination_by data.size - i

/-- The signed entity of a `multipart/signed` body: from the line after the first delimiter
line to the next delimiter line, without the line break (LF or CR LF) before it. -/
def signedEntity (raw : ByteArray) (boundary : String) : Option ByteArray := do
  let delim := delimiter boundary.toUTF8
  let first ← findDelimiter raw delim 0
  let lineEnd ← Bytes.indexOfFrom raw 10 first
  let start := lineEnd + 1
  let next ← findDelimiter raw delim start
  let stop := if next > start && raw.get! (next - 1) == 10 then next - 1 else next
  let stop := if stop > start && raw.get! (stop - 1) == 13 then stop - 1 else stop
  return raw.extract start stop

/-- Add an attachment. -/
def Gathered.attach (g : Gathered) (d : Document) (p : Part) : Gathered :=
  { g with attachments := g.attachments.push (d.rawHeaders p, p.body.contents) }

/-- Place a part that is not multipart: protected headers are kept apart; the first HTML part
and the first plain text part that are not attachments become the bodies; everything else is
an attachment. -/
def Gathered.place (g : Gathered) (d : Document) (part : Part) : Gathered :=
  if part.isType "text" "rfc822-headers" then
    { g with encryptedHeaders := g.encryptedHeaders.push (Utf8.decodeLossy part.body.contents) }
  else
    match part.body with
    | .html t => if !part.isAttachment && g.html.isNone then { g with html := some t } else g.attach d part
    | .text t =>
      if !part.isAttachment && g.plain.isNone && part.isPlain then { g with plain := some t } else g.attach d part
    | _ => g.attach d part

/-- The collector of a signed part: its signed entity, then the signatures of its
signature children after the first. -/
def signedCollector (d : Document) (p : Part) (children : List Nat) : Outcome SignatureCollector := do
  let some boundary := p.contentType?.bind (·.param? "boundary")
    | throw (.mimeParse "multipart/signed without boundary")
  let some signed := signedEntity (d.raw.extract p.bodyStart d.raw.size) boundary
    | throw (.mimeParse "multipart/signed has no signed entity")
  (children.drop 1).foldlM (fun (c : SignatureCollector) child =>
    match d.parts[child]? with
    | some sp => if sp.isType "application" "pgp-signature" then c.acceptSignature sp.body.contents else pure c
    | none => pure c) (({} : SignatureCollector).accept signed)

/-- Walk the part `id` and what is under it; the depth is bounded by `fuel`. -/
def walk (d : Document) : Nat → Nat → Gathered → Outcome Gathered
  | 0, _, g => pure g
  | fuel + 1, id, g => do
    let some part := d.parts[id]? | throw (.mimeParse ("missing MIME part " ++ toString id))
    match part.body with
    | .multipart children =>
      if part.isType "multipart" "signed" then
        let c ← signedCollector d part children
        let g := if g.signature.isNone then { g with signature := some c } else g
        match children.head? with
        | some first => walk d fuel first g
        | none => pure g
      else children.foldlM (fun g child => walk d fuel child g) g
    | _ => pure (g.place d part)

/-- Walk a whole message from its root. -/
def Document.gather (d : Document) : Outcome Gathered := walk d (d.parts.size + 1) 0 {}

end SealedMail.Mime

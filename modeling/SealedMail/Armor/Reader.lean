import SealedMail.Armor.Crc24
import SealedMail.Armor.Block
import SealedMail.Packet.Error
import SealedMail.Bytes.Basic
import SealedMail.Text.Base64
import SealedMail.Text.Utf8

/-! # Reading armor

An armored block is a header line `-----BEGIN PGP <label>-----`, header fields, blank
lines, base64 body lines, an optional checksum `=XXXX` and a footer line
`-----END <label>-----` whose label must name the same kind as the header line.

* A header field is found by searching the whole remaining text for the first `:\r\n`,
  then `:\n`, then `: `; the key is everything before it and must not be empty, so a key
  may span lines. After `": "` the value runs to a line break that must be there. Fields
  are read while they match; then blank lines (spaces and tabs, then a line break) are
  skipped, and the text must not end inside them.
* The body is every character of the base64 alphabet, `=` and line breaks up to the first
  other character; the line breaks are dropped. It is decoded a group of four symbols at a
  time: plain groups and groups with canonical padding give data, and the first group that
  does neither ends the data. A `=` right after the data with five or more symbols after it
  is stray padding and is dropped.
* What is left of the body, followed by the text from the first character that was not
  part of it, is the footer, of which at most 1024 bytes are read: an optional checksum
  (`=` and the text up to a line break or `-`), line breaks, then the footer line. The
  checksum text must decode to a checksum, which is checked once the footer line has been
  read. A leftover of a whole line (64 symbols or more) is read on its own first, and the
  text after it is consulted only when the leftover ends too early.

A grammar failure names the part read (header or footer), the rule that failed and the
bytes that remained; running out of text is reported as too few bytes.
-/

namespace SealedMail.Armor

/-- A decoded block: what it holds and its data. -/
structure Block where
  kind : BlockKind
  data : ByteArray

/-- Why a grammar rule failed. -/
inductive Fault where
  /-- The text ended before the rule could decide. -/
  | short
  /-- The rule `code` did not match the remaining bytes `rest`. -/
  | rule (rest : ByteArray) (code : String)
  /-- Nothing at all was left to read. -/
  | empty

/-- The error text of a fault while reading the part `part` of a block. -/
def Fault.describe (part : String) : Fault → String
  | .short => "failed reading: " ++ part ++ ": not enough bytes"
  | .rule rest code =>
    "failed reading: " ++ part ++ " Error(Error \x7b input: [" ++
      ", ".intercalate (rest.toList.map (fun x => toString x.toNat)) ++ "], code: " ++ code ++ " \x7d)"
  | .empty => "not enough bytes in buffer: " ++ part

/-- The error of a fault as a reader error. -/
def Fault.toError (part : String) (f : Fault) : PacketError := .ioText (f.describe part)

/-- The bytes of `t` from `i` on. -/
def restAt (t : ByteArray) (i : Nat) : ByteArray := t.extract i t.size

/-- Match the literal `lit` at `i`: the position after it, too few bytes when the text
ends inside a matching prefix, or a failed `Tag` rule. -/
def literal (t : ByteArray) (i : Nat) (lit : String) : Except Fault Nat :=
  let l := lit.toUTF8
  let avail := t.size - i
  let n := min avail l.size
  if Bytes.equal (t.extract i (i + n)) (l.extract 0 n) then
    if avail < l.size then .error .short else .ok (i + l.size)
  else .error (.rule (restAt t i) "Tag")

/-- Match a line break (`\n` or `\r\n`) at `i`. -/
def lineBreak (t : ByteArray) (i : Nat) : Except Fault Nat :=
  if i ≥ t.size then .error .short
  else if t.get! i == 10 then .ok (i + 1)
  else if t.get! i == 13 then
    if i + 1 ≥ t.size then .error .short
    else if t.get! (i + 1) == 10 then .ok (i + 2)
    else .error (.rule (restAt t i) "CrLf")
  else .error (.rule (restAt t i) "CrLf")

/-- The position after the longest run from `i` of bytes that satisfy `p`. -/
def skipWhile (t : ByteArray) (p : UInt8 → Bool) (i : Nat) : Nat :=
  go i (t.size - i)
where
  go (j : Nat) : Nat → Nat
    | 0 => j
    | k + 1 => if p (t.get! j) then go (j + 1) k else j

/-- Whether a byte is an ASCII digit. -/
def isDigit (x : UInt8) : Bool := 48 ≤ x && x ≤ 57

/-- The number spelled by the digits from `i` to `j`. -/
def digitsValue (t : ByteArray) (i j : Nat) : Nat :=
  (t.extract i j).foldl (fun acc x => acc * 10 + (x.toNat - 48)) 0

/-- Digits at `i`: at least one, and the text must not end inside them. -/
def digits (t : ByteArray) (i : Nat) : Except Fault (Nat × Nat) :=
  let j := skipWhile t isDigit i
  if j ≥ t.size then .error .short
  else if j = i then .error (.rule (restAt t i) "Digit")
  else .ok (digitsValue t i j, j)

/-- A part number at `i`: digits whose value fits a 64-bit word. -/
def partNumber (t : ByteArray) (i : Nat) : Except Fault (Nat × Nat) := do
  let (v, j) ← digits t i
  if v < Nat.pow 2 64 then .ok (v, j) else .error (.rule (restAt t i) "MapRes")

/-- The label of a message part at `i`: its number, then optionally `/` and the total;
a total that does not read leaves the label at the number. -/
def partLabel (t : ByteArray) (i : Nat) : Except Fault (BlockKind × Nat) := do
  let j ← literal t i "PGP MESSAGE, PART "
  let (x, j) ← partNumber t j
  let total : Except Fault (Nat × Nat) := do
    let k ← literal t j "/"
    partNumber t k
  match total with
  | .ok (y, k) => return (.multiPartMessage x y, k)
  | .error .short => .error .short
  | .error _ => return (.multiPartMessage x 0, j)

/-- The labels of the kinds that follow message parts, in the order they are tried. -/
def laterLabels : List BlockKind :=
  [.message, .signature, .file, .cleartextMessage,
   .publicKeyPkcs1 .rsa, .publicKeyPkcs1 .dsa, .publicKeyPkcs1 .ec, .publicKeyPkcs8, .publicKeyOpenssh,
   .privateKeyPkcs1 .rsa, .privateKeyPkcs1 .dsa, .privateKeyPkcs1 .ec, .privateKeyPkcs8, .privateKeyOpenssh]

/-- The label of a block at `i`, tried in a fixed order; the first label that matches wins,
and a label the text ends inside of stops the search. -/
def kindAt (t : ByteArray) (i : Nat) : Except Fault (BlockKind × Nat) :=
  let simple (k : BlockKind) : Unit → Except Fault (BlockKind × Nat) :=
    fun _ => (literal t i k.label).map (fun j => (k, j))
  let alternatives := [simple .publicKey, simple .privateKey, fun _ => partLabel t i] ++
    laterLabels.map simple
  let rec go : List (Unit → Except Fault (BlockKind × Nat)) → Except Fault (BlockKind × Nat)
    | [] => .error (.rule (restAt t i) "Tag")
    | a :: rest => match a () with
      | .ok r => .ok r
      | .error .short => .error .short
      | .error _ => go rest
  go alternatives

/-- The first position at or after `i` where `pat` occurs. -/
def findFrom (t pat : ByteArray) (i : Nat) : Option Nat :=
  (List.range' i (t.size - i)).find? (Bytes.matchesAt t pat)

/-- Whether bytes are UTF-8 text. -/
def isText (b : ByteArray) : Bool := (Utf8.decode b).toOption.isSome

/-- A header field at `i`, if there is a whole one: the position after it. -/
def field (t : ByteArray) (i : Nat) : Option Nat := do
  let keyEnd ← [":\r\n", ":\n", ": "].findSome? (fun p =>
    (findFrom t p.toUTF8 i).filter (· > i))
  if !isText (t.extract i keyEnd) then none
  let j := keyEnd + 1
  if t.get! j == 32 then
    let k := skipWhile t (fun x => x != 10 && x != 13) (j + 1)
    if k ≥ t.size || !isText (t.extract (j + 1) k) then none
    (lineBreak t k).toOption
  else (lineBreak t j).toOption

/-- The position after consecutive header fields from `i`. -/
def fields (t : ByteArray) (i : Nat) : Nat :=
  go i (t.size - i + 1)
where
  go (j : Nat) : Nat → Nat
    | 0 => j
    | k + 1 => match field t j with
      | some j' => if j' > j then go j' k else j
      | none => j

/-- The position after the blank lines from `i`; the text must not end inside one. -/
def blankLines (t : ByteArray) (i : Nat) : Except Fault Nat :=
  go i (t.size - i + 1)
where
  go (j : Nat) : Nat → Except Fault Nat
    | 0 => .ok j
    | k + 1 =>
      let b := skipWhile t (fun x => x == 32 || x == 9) j
      if b ≥ t.size then .error .short
      else match lineBreak t b with
        | .ok j' => go j' k
        | .error .short => .error .short
        | .error _ => .ok j

/-- Read the header of a block: its kind and the position where the body starts. -/
def readHeader (t : ByteArray) : Except Fault (BlockKind × Nat) := do
  let i ← literal t 0 "-----"
  let i ← literal t i "BEGIN "
  let (kind, i) ← kindAt t i
  let i ← literal t i "-----"
  let i ← lineBreak t i
  let i ← blankLines t (fields t i)
  return (kind, i)

/-- Whether a byte can stand in the body: the base64 alphabet, padding and line breaks. -/
def isBodyByte (x : UInt8) : Bool :=
  (Base64.value? x).isSome || x == 61 || x == 10 || x == 13

/-- Whether a byte is a base64 symbol or padding. -/
def isSymbol (x : UInt8) : Bool := (Base64.value? x).isSome || x == 61

/-- The data of the group of four symbols at `i`: three bytes for a plain group, fewer for
a group with canonical padding (unused bits zero), nothing for any other group. -/
def groupAt (s : ByteArray) (i : Nat) : Option ByteArray :=
  let v (k : Nat) := Base64.value? (s.get! (i + k))
  let pad (k : Nat) := s.get! (i + k) == 61
  match v 0, v 1, v 2, v 3 with
  | some a, some b, some c, some d =>
    let n := ((a * 64 + b) * 64 + c) * 64 + d
    some (ByteArray.mk #[(n / 65536).toUInt8, (n / 256).toUInt8, n.toUInt8])
  | some a, some b, some c, none =>
    if pad 3 && c % 4 == 0 then
      let n := (a * 64 + b) * 64 + c
      some (ByteArray.mk #[(n / 1024).toUInt8, (n / 4).toUInt8])
    else none
  | some a, some b, none, none =>
    if pad 2 && pad 3 && b % 16 == 0 then some (ByteArray.mk #[((a * 64 + b) / 16).toUInt8]) else none
  | _, _, _, _ => none

/-- Decode body symbols group by group up to the first group that gives no data: the data
and the number of symbols used. -/
def decodeGroups (s : ByteArray) : ByteArray × Nat :=
  go 0 ByteArray.empty (s.size / 4 + 1)
where
  go (i : Nat) (out : ByteArray) : Nat → ByteArray × Nat
    | 0 => (out, i)
    | fuel + 1 =>
      if i + 4 > s.size then (out, i)
      else match groupAt s i with
        | some d => go (i + 4) (out ++ d) fuel
        | none => (out, i)

/-- The number of body symbols consumed: those decoded, and a stray `=` after them. -/
def consumed (s : ByteArray) (used : Nat) : Nat :=
  if 0 < used && used + 6 ≤ s.size && s.get! used == 61 then used + 1 else used

/-- The value of a checksum text: its decoded bytes placed after one leading zero byte in a
32-bit big-endian word. -/
def checksumValue (bytes : ByteArray) : Nat :=
  let padded := ByteArray.mk #[0] ++ bytes ++ Bytes.replicate (3 - min 3 bytes.size) 0
  Bytes.toNatBE (padded.extract 0 4)

/-- The optional checksum text at the start of the footer: after `=`, everything up to a
line break or `-`; and the position after it. -/
def checksumText (f : ByteArray) : Except Fault (Option ByteArray × Nat) :=
  if f.get! 0 != 61 then .ok (none, 0)
  else
    let e := skipWhile f (fun x => x != 10 && x != 13 && x != 45) 1
    if e ≥ f.size then .error .short else .ok (some (f.extract 1 e), e)

/-- The position after the line breaks from `i`; the text must not end inside them. -/
def lineBreaks (f : ByteArray) (i : Nat) : Except Fault Nat :=
  go i (f.size - i + 1)
where
  go (j : Nat) : Nat → Except Fault Nat
    | 0 => .ok j
    | k + 1 =>
      match lineBreak f j with
      | .ok j' => go j' k
      | .error .short => .error .short
      | .error _ => .ok j

/-- Read the footer: the optional checksum text, line breaks, then `-----END <label>-----`.
The checksum text is decoded last, so a footer line that does not read is reported first. -/
def readFooter (f : ByteArray) : Except Fault (Option Nat × BlockKind) := do
  if f.size = 0 then throw .empty
  let (text, i) ← checksumText f
  let i ← lineBreaks f i
  let i ← literal f i "--"
  let i ← literal f i "---END "
  let (kind, i) ← kindAt f i
  let _ ← literal f i "-----"
  match text with
  | none => return (none, kind)
  | some t =>
    match Base64.decodeBytes t with
    | .ok bytes => return (some (checksumValue bytes), kind)
    | .error _ => throw (.rule f "MapRes")

/-- How much footer text is read at most: the leftover of the body and the text after it. -/
def footerWindow : Nat := 1024

/-- Read the footer from the leftover of the body and the text after it, at most
`footerWindow` bytes of the two. A leftover of a whole line (64 symbols or more) is read on
its own first. -/
def footerOf (leftover rest : ByteArray) : Except Fault (Option Nat × BlockKind) :=
  let window := (leftover ++ rest).extract 0 footerWindow
  if leftover.size ≥ 64 then
    match readFooter leftover with
    | .error .short => readFooter window
    | r => r
  else readFooter window

/-- Read one block from text that starts at its header line. -/
def readBlock (t : ByteArray) : PacketResult Block := do
  let (kind, start) ← (readHeader t).mapError (Fault.toError "armor header")
  let stop := skipWhile t isBodyByte start
  let symbols := (t.extract start stop).foldl
    (fun (acc : ByteArray) x => if x == 10 || x == 13 then acc else acc.push x) ByteArray.empty
  let (data, used) := decodeGroups symbols
  let (sum, footKind) ← (footerOf (restAt symbols (consumed symbols used)) (restAt t stop)).mapError
    (Fault.toError "armor footer")
  if footKind != kind then
    throw (.ioText ("armor ascii footer does not match header: Some(" ++ kind.name ++ ") != " ++ footKind.name))
  match sum with
  | some s =>
    if s != Crc24.checksum data then throw (.ioText "invalid crc24 checksum")
    return ⟨kind, data⟩
  | none => return ⟨kind, data⟩

/-- The text that opens every block. -/
def beginMark : ByteArray := "-----BEGIN PGP ".toUTF8

/-- The positions where blocks start. -/
def blockStarts (t : ByteArray) : List Nat :=
  (List.range t.size).filter (Bytes.matchesAt t beginMark)

/-- Read every block of a text, in order. Each block is read from its header line up to
the next header line, so text between blocks is ignored. -/
def readAll (t : ByteArray) : PacketResult (List Block) :=
  let starts := blockStarts t
  let ends := starts.drop 1 ++ [t.size]
  (starts.zip ends).mapM (fun (s, e) => readBlock (t.extract s e))

/-- Whether data looks like armored text: the header mark occurs in its first 1024 bytes. -/
def isArmored (b : ByteArray) : Bool :=
  Bytes.occursIn beginMark.data.toList (b.data.toList.take 1024)

end SealedMail.Armor

import SealedMail.Mime.Decode

/-! # Encoded words

An encoded word `=?charset?Q?text?=` or `=?charset?B?text?=` stands for its text
in its character set; a language after a `*` in the character set is passed over.

* `Q` text turns `_` into a space and `=XY` (hex digits of either case) into that byte; any
  other `=` stays as it is.
* `B` text is base64, read leniently (see `Quads`), passing over blanks and line breaks; any
  other byte outside the alphabet spoils the word.

A word whose character set is not one that is read, whose encoding letter is another, that
has no closing `?=`, or whose text is spoiled, is no word: its bytes stay as written.
-/

namespace SealedMail.Mime.EncodedWord

/-- The bytes of the text of a `Q` word, from position `i` on. -/
def qBytes (b : ByteArray) (i : Nat) (out : ByteArray) : ByteArray :=
  if h : i < b.size then
    let x := b[i]
    if x == 95 then qBytes b (i + 1) (out.push 32)
    else if x == 61 then
      match (b[i + 1]?).bind hexValue?, (b[i + 2]?).bind hexValue? with
      | some hi, some lo => qBytes b (i + 3) (out.push (hi * 16 + lo))
      | _, _ => qBytes b (i + 1) (out.push 61)
    else qBytes b (i + 1) (out.push x)
  else out
termination_by b.size - i

/-- The bytes of the text of a `B` word, unless a byte spoils it. -/
def bBytes (b : ByteArray) : Option ByteArray :=
  (b.foldl (fun (q : Option Quads) x => q.bind fun q =>
    match Base64.value? x with
    | some v => some (q.push v)
    | none =>
      if x == 61 then some q.pad
      else if x == 32 || x == 9 || x == 13 || x == 10 then some q
      else none) (some {})).map (·.out)

/-- The first position at or after `i` where `?=` stands. -/
def closing (data : ByteArray) (i : Nat) : Option Nat :=
  if h : i + 1 < data.size then
    if data[i] == 63 && data[i + 1] == 61 then some i else closing data (i + 1)
  else none
termination_by data.size - i

/-- Read the encoded word whose `=` stands just before position `i`: its text and the
position just after its closing `?=`. -/
def read? (data : ByteArray) (i : Nat) : Option (String × Nat) := do
  if data[i]? != some 63 then none
  let setEnd ← Bytes.indexOfFrom data 63 (i + 1)
  if setEnd == i + 1 then none
  let letter ← data[setEnd + 1]?
  if data[setEnd + 2]? != some 63 then none
  let stop ← closing data (setEnd + 3)
  let label := String.ofList ((Utf8.decodeLossy (data.extract (i + 1) setEnd)).toList.takeWhile (· != '*'))
  let charset ← Charset.ofLabel? label
  let text := data.extract (setEnd + 3) stop
  let bytes ←
    if letter == 81 || letter == 113 then some (qBytes text 0 ByteArray.empty)
    else if letter == 66 || letter == 98 then bBytes text
    else none
  return (charset.decode bytes, stop + 2)

end SealedMail.Mime.EncodedWord

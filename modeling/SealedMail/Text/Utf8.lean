import SealedMail.Text.Escape

/-! # UTF-8

Decoding of UTF-8 bytes by the rules of the standard: a lead byte fixes the length, the
second byte of a three- or four-byte form has a narrowed range (no overlong forms, no
surrogates, nothing above U+10FFFF), and later bytes are continuation bytes. A failed
decode names how many bytes were valid and how long the bad sequence is; the lossy decode
replaces each bad sequence by U+FFFD.
-/

namespace SealedMail.Utf8

/-- Where and how a byte string stops being UTF-8. -/
structure Error where
  /-- The length of the longest valid prefix. -/
  validUpTo : Nat
  /-- The length of the bad sequence, or `none` when the input ends inside a sequence. -/
  errorLen : Option Nat
deriving Repr, DecidableEq

/-- The wording of a decoding error. -/
def Error.message (e : Error) : String :=
  match e.errorLen with
  | some n => s!"invalid utf-8 sequence of {n} bytes from index {e.validUpTo}"
  | none => s!"incomplete utf-8 byte sequence from index {e.validUpTo}"

/-- The outcome of reading one character at a position. -/
inductive Step where
  /-- A character and the number of bytes it took. -/
  | char (c : Char) (width : Nat)
  /-- A bad sequence of the given length. -/
  | bad (len : Nat)
  /-- The input ends inside a sequence. -/
  | cut

/-- Whether a byte is a continuation byte. -/
@[inline] def isCont (x : UInt8) : Bool := x &&& 0xc0 == 0x80

/-- The range the second byte of a sequence must lie in, given its lead byte. -/
def secondRange (lead : UInt8) : UInt8 × UInt8 :=
  if lead == 0xe0 then (0xa0, 0xbf)
  else if lead == 0xed then (0x80, 0x9f)
  else if lead == 0xf0 then (0x90, 0xbf)
  else if lead == 0xf4 then (0x80, 0x8f)
  else (0x80, 0xbf)

/-- Read one character at `i` (which must be inside `b`). -/
def step (b : ByteArray) (i : Nat) : Step :=
  let x := b.get! i
  let width : Nat :=
    if x < 0x80 then 1
    else if 0xc2 ≤ x && x ≤ 0xdf then 2
    else if 0xe0 ≤ x && x ≤ 0xef then 3
    else if 0xf0 ≤ x && x ≤ 0xf4 then 4
    else 0
  if width == 1 then .char (Char.ofNat x.toNat) 1
  else if width == 0 then .bad 1
  else
    let (lo, hi) := secondRange x
    let ok (k : Nat) : Bool :=
      if k == 1 then (let y := b.get! (i + 1); lo ≤ y && y ≤ hi) else isCont (b.get! (i + k))
    -- count the continuation bytes that are present and acceptable
    let rec good (k fuel : Nat) : Nat :=
      match fuel with
      | 0 => k
      | f + 1 => if k < width && i + k < b.size && ok k then good (k + 1) f else k
    let g := good 1 width
    if g == width then
      let payload : Nat :=
        if width == 2 then (x.toNat &&& 0x1f)
        else if width == 3 then (x.toNat &&& 0x0f)
        else (x.toNat &&& 0x07)
      let v := (List.range (width - 1)).foldl
        (fun acc k => acc * 64 + ((b.get! (i + 1 + k)).toNat &&& 0x3f)) payload
      .char (Char.ofNat v) width
    else if i + g ≥ b.size then .cut
    else .bad g

/-- Decode the bytes from `i` on, lossily or not. -/
def decodeFrom (b : ByteArray) (lossy : Bool) (i : Nat) (acc : Array Char) :
    Except Error (Array Char) :=
  if _inside : i < b.size then
    match step b i with
    | .char c w =>
      if w = 0 then .ok acc else decodeFrom b lossy (i + w) (acc.push c)
    | .bad n =>
      if lossy then decodeFrom b lossy (i + max n 1) (acc.push '�')
      else .error ⟨i, some n⟩
    | .cut => if lossy then .ok (acc.push '�') else .error ⟨i, none⟩
  else .ok acc
termination_by b.size - i

/-- The text a byte string spells, or where it stops being UTF-8. -/
def decode (b : ByteArray) : Except Error String :=
  (decodeFrom b false 0 #[]).map (fun cs => String.ofList cs.toList)

/-- The text a byte string spells, each bad sequence replaced by U+FFFD. -/
def decodeLossy (b : ByteArray) : String :=
  match decodeFrom b true 0 #[] with
  | .ok cs => String.ofList cs.toList
  | .error _ => ""

end SealedMail.Utf8

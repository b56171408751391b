import SealedMail.Bytes.Basic
import SealedMail.Text.Base64
import SealedMail.Text.Charset

/-! # Transfer encoding symbols

The pieces that the body decoders and the encoded-word decoder share: hex digits, base64
symbols gathered into bytes, and the ASCII white space that mail text passes over.

Base64 is read leniently. Four symbols give three bytes; a padding sign ends the group being
read and gives the bytes it has begun, one byte for one or two symbols (a lone symbol's six
bits fill the top of it) and two for three; a group that the text ends inside of is dropped.
-/

namespace SealedMail.Mime

/-- Whether a byte is ASCII white space: tab, line feed, form feed, carriage return, space. -/
def isWhite (x : UInt8) : Bool := x == 9 || x == 10 || x == 12 || x == 13 || x == 32

/-- The value of a hex digit of either case. -/
def hexValue? (x : UInt8) : Option UInt8 :=
  if 48 ≤ x && x ≤ 57 then some (x - 48)
  else if 65 ≤ x && x ≤ 70 then some (x - 55)
  else if 97 ≤ x && x ≤ 102 then some (x - 87)
  else none

/-- Base64 symbols being gathered into bytes: the bytes so far, the bits of the group being
read and how many symbols hold them. -/
structure Quads where
  out : ByteArray := ByteArray.empty
  acc : Nat := 0
  count : Nat := 0

namespace Quads

/-- Take the value of one symbol; the fourth of a group completes three bytes. -/
def push (q : Quads) (v : Nat) : Quads :=
  if q.count == 3 then
    let n := q.acc * 64 + v
    ⟨q.out.push (n / 65536 % 256).toUInt8 |>.push (n / 256 % 256).toUInt8 |>.push (n % 256).toUInt8, 0, 0⟩
  else { q with acc := q.acc * 64 + v, count := q.count + 1 }

/-- End the group at a padding sign, keeping the bytes it has begun. -/
def pad (q : Quads) : Quads :=
  let n := q.acc * Nat.pow 64 (4 - q.count)
  let out :=
    if q.count == 0 then q.out
    else if q.count == 3 then q.out.push (n / 65536 % 256).toUInt8 |>.push (n / 256 % 256).toUInt8
    else q.out.push (n / 65536 % 256).toUInt8
  ⟨out, 0, 0⟩

end Quads

/-- The first position at or after `i` where `delim` occurs, wherever it stands in a line. -/
def findBoundary (data delim : ByteArray) (i : Nat) : Option Nat :=
  if i < data.size then
    if Bytes.matchesAt data delim i then some i
    else findBoundary data delim (i + 1)
  else none
termination_by data.size - i

/-- The delimiter of a boundary: `--` and the boundary. -/
def delimiter (boundary : ByteArray) : ByteArray := "--".toUTF8 ++ boundary

/-- Where content that a delimiter at `i` ends stops: before the line break (LF or CR LF)
right ahead of the delimiter, but not before `start`. -/
def contentStop (data : ByteArray) (start i : Nat) : Nat :=
  if i ≥ start + 2 && data.get! (i - 2) == 13 && data.get! (i - 1) == 10 then i - 2
  else if i ≥ start + 1 && data.get! (i - 1) == 10 then i - 1
  else i

/-- Text in the character set a label names. -/
def decodeText (charset : Option String) (b : ByteArray) : String :=
  Charset.decodeLabelled charset b

end SealedMail.Mime

import SealedMail.Bytes.Basic
import SealedMail.Text.Utf8
import SealedMail.Mime.ContentType
import SealedMail.Mime.Unstructured

/-! # MIME header blocks

A header block is a run of `Name: value` fields ended by an empty line. A value goes on over
the following lines while they start with a space or tab. White space before a field is
skipped, so the block ends at the first line break met where a field could start. A line
without a colon is passed over. A last line without a line break, reaching the end of the
data, still names a field (with an empty value) even when it has no colon; the block is then
incomplete.

Of the field values only three are read, from their raw bytes: the content type and the
content disposition (see `ContentType.parse`) and the transfer encoding, an unstructured
value. A field is known by its name in lower case with any white space inside it left out.
-/

namespace SealedMail.Mime

/-- The value of a header field, read as far as the parts of a message need. -/
inductive HeaderValue where
  /-- A content type or disposition; `none` when it names no type. -/
  | contentType (value : Option ContentType)
  /-- A transfer encoding, as unstructured text. -/
  | text (value : String)
  /-- Any other field. -/
  | other
deriving Inhabited, Repr

/-- A header field. -/
structure Header where
  name : String
  value : HeaderValue
deriving Inhabited, Repr

/-- The name a field is known by: lower case, white space left out. -/
def fieldKey (name : String) : String := (String.ofList (name.toList.filter (!·.isWhitespace))).toLower

/-- The name a field is known by. -/
def Header.key (h : Header) : String := fieldKey h.name

/-- A field from its name and raw value bytes (from after the colon to the end of the field,
its line breaks included). -/
def Header.ofRaw (name value : ByteArray) : Header :=
  let n := Utf8.decodeLossy name
  let key := fieldKey n
  ⟨n, if key == "content-type" || key == "content-disposition" then .contentType (ContentType.parse value)
    else if key == "content-transfer-encoding" then
      match unstructured value with
      | some t => .text t
      | none => .other
    else .other⟩

/-- The content type or disposition of the last field of a name. -/
def contentField? (hs : List Header) (name : String) : Option ContentType :=
  match hs.reverse.find? (·.key == name) with
  | some ⟨_, .contentType v⟩ => v
  | _ => none

/-- The transfer encoding of the last such field. -/
def transferEncoding? (hs : List Header) : Option String :=
  match hs.reverse.find? (·.key == "content-transfer-encoding") with
  | some ⟨_, .text v⟩ => some v
  | _ => none

/-- What stands where a field could start. -/
inductive Lead where
  /-- A line break: the block ends, the body starts after it. -/
  | blank (next : Nat)
  /-- The end of the data. -/
  | finished
  /-- A field starts here. -/
  | start (pos : Nat)

/-- Skip white space up to a line break, the end, or the start of a field. -/
def lead (data : ByteArray) (i : Nat) : Lead :=
  if h : i < data.size then
    let x := data[i]
    if x == 10 then .blank (i + 1)
    else if isWhite x then lead data (i + 1)
    else .start i
  else .finished
termination_by data.size - i

/-- What the text at the start of a field holds. -/
inductive NameScan where
  /-- A field name ended by a colon; the value starts at `next`. -/
  | named (name : ByteArray) (next : Nat)
  /-- A line with no colon; reading goes on at `next`. -/
  | unnamed (next : Nat)
  /-- Text up to the end of the data with no colon. -/
  | lastLine (name : ByteArray)

/-- Read a field name: the non-blank text before the colon. `tok` holds the first and last
non-blank positions seen so far. -/
def scanName (data : ByteArray) (i : Nat) (tok : Option (Nat × Nat)) : NameScan :=
  if h : i < data.size then
    let x := data[i]
    if x == 58 then
      match tok with
      | some (s, e) => .named (data.extract s (e + 1)) (i + 1)
      | none => scanName data (i + 1) tok
    else if x == 10 then .unnamed (i + 1)
    else if isWhite x then scanName data (i + 1) tok
    else scanName data (i + 1) (some ((tok.map (·.1)).getD i, i))
  else
    match tok with
    | some (s, e) => .lastLine (data.extract s (e + 1))
    | none => .unnamed data.size
termination_by data.size - i

/-- The end of a field value: just after the first line break not followed by a space or
tab, or the end of the data. -/
def valueEnd (data : ByteArray) (i : Nat) : Nat :=
  if h : i < data.size then
    if data[i] == 10 then
      if h2 : i + 1 < data.size then
        if data[i + 1] == 32 || data[i + 1] == 9 then valueEnd data (i + 1) else i + 1
      else i + 1
    else valueEnd data (i + 1)
  else data.size
termination_by data.size - i

/-- A header block as read. -/
structure HeaderBlock where
  /-- The fields in order. -/
  headers : List Header
  /-- Where the body starts (the end of the data for an incomplete block). -/
  next : Nat
  /-- Whether an empty line ended the block. -/
  complete : Bool
  /-- Where the last field (or line without a colon) began; where the block began when it
  has none. -/
  lastLine : Nat

/-- Read the header block at `i`; each round consumes at least one byte, so `fuel` beyond
the bytes left is never used up. -/
def readHeaders (data : ByteArray) : Nat → Nat → Nat → List Header → HeaderBlock
  | 0, _, last, acc => ⟨acc.reverse, data.size, false, last⟩
  | fuel + 1, i, last, acc =>
    match lead data i with
    | .blank j => ⟨acc.reverse, j, true, last⟩
    | .finished => ⟨acc.reverse, data.size, false, last⟩
    | .start j =>
      match scanName data j none with
      | .named name k =>
        let e := valueEnd data k
        readHeaders data fuel e j (Header.ofRaw name (data.extract k e) :: acc)
      | .unnamed k => readHeaders data fuel k j acc
      | .lastLine name => ⟨(Header.ofRaw name ByteArray.empty :: acc).reverse, data.size, false, j⟩

/-- Read the header block that starts at `i`. -/
def headerBlock (data : ByteArray) (i : Nat) : HeaderBlock :=
  readHeaders data (data.size - i + 1) i i []

end SealedMail.Mime

import SealedMail.Mime.Decode

/-! # Reading a part body up to its delimiter

A leaf body is read from the end of its header block. Inside a multipart body it ends at the
next delimiter `--boundary`, wherever that stands in a line; at the top of a message it runs
to the end of the data, and in a multipart body whose delimiter never comes it fails.

* Without a transfer encoding the content is the bytes up to the line break (LF or CR LF)
  ahead of the delimiter.
* Base64 content passes over blanks and line breaks and a single `-`; two `-` in a row must
  begin the delimiter. Any other byte outside the alphabet fails the body.
* Quoted-printable content turns `=XY` into that byte and drops `=` before a line break (a
  soft break), passing over white space between the two. Carriage returns are passed over.
  An escape broken after `=` keeps the `=` and the byte that broke it, one broken after a
  hex digit keeps the `=`, the byte read before and the byte that broke it; `=` inside an
  escape fails the body, and an escape the body ends inside of is dropped. A hard line break
  drops the white space written before it and is written `\n` until a carriage return has
  been met, `\r\n` after. At the delimiter the bytes written
  for it are taken back: its first `-`, and a line break ahead of it as long as the break
  style met so far writes, whatever was written for that break itself.
-/

namespace SealedMail.Mime

/-- How reading a body ended. -/
inductive Scan where
  /-- At the delimiter: the content, where the content stops in the data (before the
  delimiter's line break for a body without a transfer encoding, at the last line break
  read for an encoded one), and the position just after the delimiter. -/
  | found (content : ByteArray) (stop resume : Nat)
  /-- At the end of the data, no delimiter being sought: the content. -/
  | finished (content : ByteArray)
  /-- The body cannot be decoded, or its delimiter never comes; reading stopped before
  `resume`. -/
  | failed (resume : Nat)

namespace Scan

/-- Read a body without a transfer encoding. -/
def raw (data : ByteArray) (start : Nat) : Option ByteArray → Scan
  | none => .finished (data.extract start data.size)
  | some b =>
    match findBoundary data (delimiter b) start with
    | some i =>
      let stop := contentStop data start i
      .found (data.extract start stop) stop (i + (delimiter b).size)
    | none => .failed data.size

/-- Read a base64 body from `i`; `dash` tells whether the byte before was `-`, and `lineEnd`
is where the last line break read begins (the body start before any). -/
def base64From (data : ByteArray) (boundary : Option ByteArray) (i : Nat) (q : Quads)
    (dash : Bool) (lineEnd : Nat) : Scan :=
  if h : i < data.size then
    let x := data[i]
    if x == 45 then
      if dash then
        match boundary with
        | some b =>
          if Bytes.matchesAt data b (i + 1) then .found q.out lineEnd (i + 1 + b.size)
          else .failed (i + 1)
        | none => .failed (i + 1)
      else base64From data boundary (i + 1) q true lineEnd
    else
      match Base64.value? x with
      | some v => base64From data boundary (i + 1) (q.push v) false lineEnd
      | none =>
        if x == 61 then base64From data boundary (i + 1) q.pad false lineEnd
        else if x == 10 then
          base64From data boundary (i + 1) q false (if i > 0 && data[i - 1]! == 13 then i - 1 else i)
        else if x == 32 || x == 9 || x == 13 then base64From data boundary (i + 1) q false lineEnd
        else .failed (i + 1)
  else
    match boundary with
    | some _ => .failed data.size
    | none => .finished q.out
termination_by data.size - i

/-- Read a base64 body starting at `start`. -/
def base64 (data : ByteArray) (start : Nat) (boundary : Option ByteArray) : Scan :=
  base64From data boundary start {} false start

end Scan

/-- Where a quoted-printable reader stands within an escape. -/
inductive Escape where
  /-- Not in an escape. -/
  | none
  /-- Just after `=`. -/
  | opened
  /-- After `=` and a hex digit of value `high`. -/
  | half (high : UInt8)
deriving DecidableEq

/-- The state of reading a quoted-printable body. -/
structure QuotedState where
  out : ByteArray := ByteArray.empty
  escape : Escape := .none
  /-- How many white space bytes end the output, written since the last other byte. -/
  blanks : Nat := 0
  /-- Whether a carriage return has been met. -/
  crlf : Bool := false
  /-- The last two bytes read, the last first. -/
  last : UInt8 := 0
  beforeLast : UInt8 := 0

namespace QuotedState

/-- Take one byte that does not end the body; `none` for `=` inside an escape. -/
def take (st : QuotedState) (x : UInt8) : Option QuotedState :=
  if x == 13 then some { st with crlf := true }
  else if x == 61 then
    if st.escape == .none then some { st with escape := .opened } else none
  else if x == 10 then
    if st.escape == .opened then some { st with escape := .none, blanks := 0 }
    else
      let brk : ByteArray := if st.crlf then ⟨#[13, 10]⟩ else ⟨#[10]⟩
      some { st with out := st.out.extract 0 (st.out.size - st.blanks) ++ brk, blanks := 0 }
  else
    match st.escape with
    | .none => some { st with out := st.out.push x, blanks := if isWhite x then st.blanks + 1 else 0 }
    | .opened =>
      match hexValue? x with
      | some hi => some { st with escape := .half hi }
      | none =>
        if isWhite x then some st
        else some { st with out := st.out.push 61 |>.push x, escape := .none, blanks := 0 }
    | .half hi =>
      match hexValue? x with
      | some lo => some { st with out := st.out.push (hi * 16 + lo), escape := .none, blanks := 0 }
      | none => some { st with out := st.out.push 61 |>.push st.last |>.push x, escape := .none, blanks := 0 }

/-- The output once the delimiter is met: without the bytes written for it. -/
def atDelimiter (st : QuotedState) : ByteArray :=
  let cut := if st.beforeLast == 10 then (if st.crlf then 3 else 2) else 1
  if cut ≤ st.out.size then st.out.extract 0 (st.out.size - cut) else st.out

end QuotedState

namespace Scan

/-- Read a quoted-printable body from `i`; `lineEnd` is where the last line break read
begins (the body start before any). -/
def quotedFrom (data : ByteArray) (boundary : Option ByteArray) (i : Nat) (st : QuotedState)
    (lineEnd : Nat) : Scan :=
  if h : i < data.size then
    let x := data[i]
    let delimited := match boundary with
      | some b => x == 45 && st.last == 45 && Bytes.matchesAt data b (i + 1)
      | none => false
    if delimited then
      .found st.atDelimiter lineEnd (i + 1 + (boundary.map (·.size)).getD 0)
    else
      let lineEnd := if x == 10 then (if st.last == 13 then i - 1 else i) else lineEnd
      match st.take x with
      | some next => quotedFrom data boundary (i + 1) { next with beforeLast := st.last, last := x } lineEnd
      | none => .failed (i + 1)
  else
    match boundary with
    | some _ => .failed data.size
    | none => .finished st.out
termination_by data.size - i

/-- Read a quoted-printable body starting at `start`. -/
def quoted (data : ByteArray) (start : Nat) (boundary : Option ByteArray) : Scan :=
  quotedFrom data boundary start {} start

/-- After a failed body starting at `start`, find its delimiter from `resume` on: where the
raw body stops, where reading goes on, and whether the delimiter came. -/
def recover (data : ByteArray) (start resume : Nat) : Option ByteArray → Nat × Nat × Bool
  | some b =>
    match findBoundary data (delimiter b) resume with
    | some i => (contentStop data start i, i + (delimiter b).size, true)
    | none => (data.size, data.size, false)
  | none => (data.size, data.size, false)

end Scan

end SealedMail.Mime

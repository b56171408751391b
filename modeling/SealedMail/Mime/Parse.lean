import SealedMail.Mime.Header
import SealedMail.Mime.Scan

/-! # Reading a MIME message into parts

A message is read front to back into a flat list of parts, the first one the root. A part is
a header block and a body.

* A `multipart` part with a non-empty `boundary` parameter whose delimiter `--boundary`
  occurs after its header block opens a level: its children follow, each after a delimiter,
  until a delimiter followed by `--` closes the level and reading goes on after the enclosing
  level's next delimiter. Without such a delimiter the part is read as text.
* A `message/rfc822` or `message/global` part (or a part without a content type in a
  digest) that has no base64 or quoted-printable encoding holds an embedded message, read in
  place: its parts go to a message of its own, which takes over the boundary of the level
  around it. The embedded message ends where its first part ending at that boundary ends, or
  where its level is closed and the boundary next comes; its bytes are the part's content.
* Any other part is a leaf whose body is read up to the boundary of its level (see `Scan`)
  and decoded, text in its character set. A body that cannot be decoded is kept as raw text
  up to the next delimiter; when none comes, reading stops there.

Reading stops at a header block that the data ends inside, at the end of the data, and where
a level closes with no enclosing boundary to find. The levels still open are then closed with
the children read so far, and an embedded message still open ends where reading stopped.
When no part is read at all the message is refused, unless a header block was begun: then it
is one part with an empty text body.
-/

namespace SealedMail.Mime

/-- The body of a part. -/
inductive Body where
  /-- Text that is not HTML (also any body kept raw). -/
  | text (value : String)
  /-- HTML text. -/
  | html (value : String)
  /-- Any other decoded content. -/
  | binary (value : ByteArray)
  /-- An embedded message, its bytes as they stand (decoded when it was encoded). -/
  | message (value : ByteArray)
  /-- The indexes of the children, in order. -/
  | multipart (children : List Nat)
deriving Inhabited

/-- The bytes a body holds: text as UTF-8, nothing for a multipart. -/
def Body.contents : Body → ByteArray
  | .text s | .html s => s.toUTF8
  | .binary b | .message b => b
  | .multipart _ => ByteArray.empty

/-- One part of a message. -/
structure Part where
  headers : List Header
  body : Body
  /-- Where its header block starts. -/
  headerStart : Nat
  /-- Where its body starts. -/
  bodyStart : Nat
deriving Inhabited

namespace Part

/-- Its content type, if a readable one is given. -/
def contentType? (p : Part) : Option ContentType := contentField? p.headers "content-type"

/-- Whether its content type is the given one. -/
def isType (p : Part) (kind subtype : String) : Bool :=
  (p.contentType?.map (·.isType kind subtype)).getD false

/-- Whether its disposition is `attachment`. -/
def isAttachment (p : Part) : Bool :=
  ((contentField? p.headers "content-disposition").map (·.kind == "attachment")).getD false

/-- Whether it is plain text: no content type, no subtype, or subtype `plain`. -/
def isPlain (p : Part) : Bool :=
  match p.contentType? with
  | none => true
  | some ct => match ct.subtype with
    | none => true
    | some s => s == "plain"

end Part

/-- A read message: its bytes and its parts, the root first. -/
structure Document where
  raw : ByteArray
  parts : Array Part

/-- How a part is read, by its content type. -/
inductive Kind where
  | multipart (digest : Bool)
  | plain
  | html
  | otherText
  | media
  | message
  | other
deriving DecidableEq

/-- The kind of a content type; with none given, a child of a digest is a message and any
other part plain text. -/
def Kind.ofType (ct : Option ContentType) (inDigest : Bool) : Kind :=
  match ct with
  | some ct =>
    if ct.kind == "multipart" then .multipart (ct.subtype == some "digest")
    else if ct.kind == "text" then
      if ct.subtype == some "plain" then .plain
      else if ct.subtype == some "html" then .html
      else .otherText
    else if ct.kind == "image" || ct.kind == "audio" || ct.kind == "video" then .media
    else if ct.kind == "message" && (ct.subtype == some "rfc822" || ct.subtype == some "global") then
      .message
    else .other
  | none => if inDigest then .message else .plain

/-- The body of a leaf of a kind, from its decoded content. -/
def Kind.body (kind : Kind) (charset : Option String) (content : ByteArray) : Body :=
  match kind with
  | .message => .message content
  | .html => .html (decodeText charset content)
  | .plain | .otherText => .text (decodeText charset content)
  | _ => .binary content

/-- Skip blanks and carriage returns after a delimiter, and the line feed that ends them. -/
def skipLineEnd (data : ByteArray) (i : Nat) : Nat :=
  if h : i < data.size then
    let x := data[i]
    if x == 13 || x == 32 || x == 9 then skipLineEnd data (i + 1)
    else if x == 10 then i + 1 else i
  else i
termination_by data.size - i

/-- What a level of the reader reads the parts of. -/
inductive LevelKind where
  /-- A whole message, or one embedded in a part. -/
  | message
  /-- The body of a multipart part; a digest's children default to messages. -/
  | multipart (digest : Bool)
deriving DecidableEq

/-- A level of the reader. -/
structure Level where
  kind : LevelKind := .message
  /-- The boundary whose delimiter ends the parts of this level. -/
  boundary : Option ByteArray := none
  /-- The multipart part whose children this level reads. -/
  partId : Nat := 0
  /-- The children read so far. -/
  children : Array Nat := #[]

/-- A message waiting while a message embedded in one of its parts is read. -/
structure Suspended where
  parts : Array Part
  level : Level
  outer : List Level
  /-- The part whose body is the embedded message. -/
  partId : Nat
  /-- Where the embedded message starts. -/
  start : Nat

/-- The reader's state: the parts of the message being read, its level and the levels around
that one (innermost first), and the messages waiting on embedded ones (innermost first). -/
structure Reader where
  parts : Array Part := #[]
  level : Level := {}
  outer : List Level := []
  suspended : List Suspended := []

/-- Where reading stands. -/
inductive Stage where
  /-- A part's header block starts here. -/
  | headers (pos : Nat)
  /-- A leaf part has just been read; reading stands at `pos` and its content stopped at
  `stop`. -/
  | afterPart (pos stop : Nat)

/-- Record a level's children in its part, if it is a multipart level. -/
def Level.close (parts : Array Part) (l : Level) : Array Part :=
  match l.kind with
  | .multipart _ => parts.modify l.partId (fun p => { p with body := .multipart l.children.toList })
  | .message => parts

/-- Put an embedded message into the part that holds it. -/
def embed (parts : Array Part) (id : Nat) (message : ByteArray) : Array Part :=
  parts.modify id (fun p => { p with body := .message message })

/-- Stop reading at `pos`: the waiting messages take the embedded ones up to `pos`, and the
levels of the outermost message are closed. -/
def finishAt (data : ByteArray) (pos : Nat) (parts : Array Part) (level : Level) (outer : List Level) :
    List Suspended → Array Part
  | [] => (level :: outer).foldl Level.close parts
  | s :: rest => finishAt data pos (embed s.parts s.partId (data.extract s.start pos)) s.level s.outer rest

/-- Stop reading at `pos`. -/
def Reader.finish (data : ByteArray) (pos : Nat) (r : Reader) : Array Part :=
  finishAt data pos r.parts r.level r.outer r.suspended

/-- Read parts. The result is the parts of the outermost message and the fields of a header
block the data ended inside. Every two rounds consume at least one byte, so fuel beyond
twice the bytes left is never used up. -/
def readParts (data : ByteArray) : Nat → Stage → Reader → Array Part × List Header
  | 0, _, r => (r.finish data data.size, [])
  | fuel + 1, .headers pos, r =>
    let blk := headerBlock data pos
    if !blk.complete then
      match r.parts.isEmpty, r.suspended with
      | true, s :: rest =>
        -- the data ends inside an embedded message's first header block: its part is text
        let (stop, resume, came) := Scan.recover data s.start blk.lastLine r.level.boundary
        let charset := ((s.parts[s.partId]?.bind (·.contentType?)).bind (·.param? "charset"))
        let parts := s.parts.modify s.partId
          (fun p => { p with body := .text (decodeText charset (data.extract s.start stop)) })
        let r : Reader := ⟨parts, { s.level with boundary := if came then r.level.boundary else none },
          s.outer, rest⟩
        if came then readParts data fuel (.afterPart resume stop) r else (r.finish data resume, [])
      | _, _ => (r.finish data data.size, blk.headers)
    else
      let hs := blk.headers
      let id := r.parts.size
      let level := { r.level with children := r.level.children.push id }
      let ct := contentField? hs "content-type"
      let kind := Kind.ofType ct (r.level.kind == .multipart true)
      let boundary := (ct.bind (·.param? "boundary")).map String.toUTF8
      let opened := match kind, boundary with
        | .multipart d, some b =>
          if b.isEmpty then none else (findBoundary data (delimiter b) blk.next).map (fun i => (d, b, i))
        | _, _ => none
      match opened with
      | some (d, b, i) =>
        readParts data fuel (.headers (skipLineEnd data (i + (delimiter b).size)))
          { r with parts := r.parts.push ⟨hs, .multipart [], pos, blk.next⟩,
                   level := { kind := .multipart d, boundary := some b, partId := id },
                   outer := level :: r.outer }
      | none =>
        let kind : Kind := match kind, boundary with
          | .multipart _, some _ => .otherText
          | k, _ => k
        let encoding := (transferEncoding? hs).map String.toLower
        let encoded := encoding == some "base64" || encoding == some "quoted-printable"
        if kind == .message && !encoded then
          let waiting : Suspended :=
            ⟨r.parts.push ⟨hs, .message ByteArray.empty, pos, blk.next⟩, { level with boundary := none },
              r.outer, id, blk.next⟩
          readParts data fuel (.headers blk.next)
            { level := { boundary := level.boundary }, suspended := waiting :: r.suspended }
        else
          let charset := ct.bind (·.param? "charset")
          let scan := match encoding with
            | some "base64" => Scan.base64 data blk.next level.boundary
            | some "quoted-printable" => Scan.quoted data blk.next level.boundary
            | _ => Scan.raw data blk.next level.boundary
          let (body, stop, resume, level) : Body × Nat × Nat × Level := match scan with
            | .found content stop resume => (kind.body charset content, stop, resume, level)
            | .finished content => (kind.body charset content, data.size, data.size, level)
            | .failed resumeAt =>
              let (stop, resume, came) := Scan.recover data blk.next resumeAt level.boundary
              (.text (decodeText charset (data.extract blk.next stop)), stop, resume,
                if came then level else { level with boundary := none })
          let r := { r with parts := r.parts.push ⟨hs, body, pos, blk.next⟩, level }
          if level.boundary.isSome then readParts data fuel (.afterPart resume stop) r
          else if resume ≥ data.size then (r.finish data resume, [])
          else readParts data fuel (.headers resume) r
  | fuel + 1, .afterPart pos stop, r =>
    let resumed : Option Reader :=
      if r.level.kind == .message then
        match r.suspended with
        | s :: rest =>
          some ⟨embed s.parts s.partId (data.extract s.start stop), { s.level with boundary := r.level.boundary },
            s.outer, rest⟩
        | [] => none
      else some r
    match resumed with
    | none => (r.finish data pos, [])
    | some r =>
      if Bytes.matchesAt data "--".toUTF8 pos then
        let parts := r.parts.modify r.level.partId (fun p => { p with body := .multipart r.level.children.toList })
        match r.outer with
        | [] => (Reader.finish data (pos + 2) { r with parts }, [])
        | up :: rest =>
          let r := { r with parts, level := up, outer := rest }
          match up.boundary with
          | some b =>
            match findBoundary data (delimiter b) (pos + 2) with
            | some i => readParts data fuel (.afterPart (i + (delimiter b).size) (contentStop data (pos + 2) i)) r
            | none => (r.finish data (pos + 2), [])
          | none => (r.finish data (pos + 2), [])
      else readParts data fuel (.headers (skipLineEnd data pos)) r

/-- Read a message; `none` when it has no part and no header. -/
def parse (data : ByteArray) : Option Document :=
  let (parts, pending) := readParts data (4 * data.size + 8) (.headers 0) {}
  if !parts.isEmpty then some ⟨data, parts⟩
  else if !pending.isEmpty then some ⟨data, #[⟨pending, .text "", 0, data.size⟩]⟩
  else none

end SealedMail.Mime

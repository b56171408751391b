import SealedMail.Mime.EncodedWord

/-! # Content type values

A content type (`type/subtype; name=value; ...`) or content disposition (`attachment;
filename=...`) is read byte by byte from the raw field value, line breaks included.

* A token runs from its first to its last byte in the text: bytes passed over inside it, such
  as quotes and backslashes outside a value or a carriage return, stay in it. Type, subtype
  and parameter names are kept in ASCII lower case, values as written.
* A comment in parentheses, which nest, ends the token before it and is dropped; a
  backslash does not escape a parenthesis inside it.
* A value ends at `;`, at a comment, at a quote or at a line break. A quoted value keeps its
  blanks; a backslash in a value ends the piece before it (an unquoted piece with a space
  after it) and makes the next byte plain. A folded line ends the token it stands in, and
  what follows it is read in the same place: the rest of an unquoted value is dropped, a
  second type name replaces the first; inside quotes the value goes on, its line break left
  out.
* An encoded word where a word of a value starts is replaced by its text.
* `name*=` marks an extended value `charset'language'text`: its `%XY` escapes are read as
  bytes in that character set (in UTF-8 when it is not one that is read), and it is kept as
  written when an escape is broken; the language becomes the parameter `name-language`.
  `name*N=` and `name*N*=` are section `N` of a value: sections numbered above zero are
  sorted by name, number and text and appended to the first parameter of their name. A
  number that is not a decimal below `2^32` counts as zero.
* A value that the data ends inside of, before its line break, names no content type, nor
  does one with no type.
-/

namespace SealedMail.Mime

/-- A content type or content disposition value. -/
structure ContentType where
  /-- The type (or the disposition), in lower case. -/
  kind : String
  /-- The subtype, in lower case, if one is written. -/
  subtype : Option String := none
  /-- The parameters in order, their names in lower case. -/
  params : List (String × String) := []
deriving Inhabited, Repr

namespace ContentType

/-- The value of the first parameter of a name. -/
def param? (ct : ContentType) (name : String) : Option String :=
  (ct.params.find? (·.1 == name)).map (·.2)

/-- Whether the type and subtype are the given ones, ignoring ASCII case. -/
def isType (ct : ContentType) (kind subtype : String) : Bool :=
  ct.kind == kind.toLower && ct.subtype == some subtype.toLower

end ContentType

/-- The bytes of a text with its `%XY` escapes read; `none` when a `%` is followed by a byte
that is not a hex digit. An escape cut short by the end is dropped. -/
def percentBytes? (b : ByteArray) (i : Nat) (out : ByteArray) : Option ByteArray :=
  if h : i < b.size then
    if b[i] == 37 then
      match b[i + 1]? with
      | none => some out
      | some x =>
        match hexValue? x with
        | none => none
        | some hi =>
          match b[i + 2]? with
          | none => some out
          | some y =>
            match hexValue? y with
            | none => none
            | some lo => percentBytes? b (i + 3) (out.push (hi * 16 + lo))
    else percentBytes? b (i + 1) (out.push b[i])
  else some out
termination_by b.size - i

/-- The value of an extended parameter: its escapes read as bytes in the character set,
or the value as written when an escape is broken. -/
def extendedValue (charset : Option String) (value : String) : String :=
  match percentBytes? value.toUTF8 0 ByteArray.empty with
  | some bytes => ((charset.bind Charset.ofLabel?).getD .utf8).decode bytes
  | none => value

/-- The number of a section: decimal digits, after an optional `+`, below `2^32`; zero for
any other text. -/
def sectionNumber (s : String) : Nat :=
  let digits := match s.toList with
    | '+' :: rest => rest
    | cs => cs
  if digits.isEmpty || !digits.all Char.isDigit then 0
  else
    let n := digits.foldl (fun n c => n * 10 + (c.toNat - 48)) 0
    if n < Nat.pow 2 32 then n else 0

/-- Whether a section of a value comes before another: by name, number, then text. -/
def sectionBefore (a b : String × Nat × String) : Bool :=
  decide (a.1 < b.1) || (a.1 == b.1 && (a.2.1 < b.2.1 || (a.2.1 == b.2.1 && decide (a.2.2 ≤ b.2.2))))

/-- What a content type reader is reading. -/
inductive Place where
  | kind
  | subtype
  | name
  | value
  | quoted
  | comment
deriving DecidableEq

/-- The state of reading a content type value. -/
structure TypeReader where
  place : Place := .kind
  /-- The places that the comments being read were opened in, the innermost first. -/
  outer : List Place := []
  /-- The first and last position of the token being read. -/
  token : Option (Nat × Nat) := none
  /-- Whether a blank or the start of the value stands just before. -/
  wordStart : Bool := true
  /-- Whether a backslash has made the next byte plain. -/
  escaped : Bool := false
  /-- Whether a folded line has been met inside quotes. -/
  dropBreaks : Bool := false
  kind : Option String := none
  subtype : Option String := none
  /-- The name of the parameter being read. -/
  name : Option String := none
  /-- Whether that name carries a star. -/
  continued : Bool := false
  /-- Whether its value is extended (`charset'language'text`). -/
  extended : Bool := false
  /-- Its section number. -/
  position : Nat := 0
  /-- The character set of an extended value, once read. -/
  charset : Option String := none
  /-- Pieces of the value read before the token. -/
  pieces : Array String := #[]
  params : Array (String × String) := #[]
  /-- Sections numbered above zero: name, number and value. -/
  sections : Array (String × Nat × String) := #[]

/-- What reading one byte gives: the next state and how many bytes after it were also
taken, or the finished value. -/
inductive TypeStep where
  | next (r : TypeReader) (taken : Nat)
  | done (value : Option ContentType)

namespace TypeReader

/-- The text of the bytes from `s` to `e`. -/
def slice (v : ByteArray) (s e : Nat) : String := Utf8.decodeLossy (v.extract s (e + 1))

/-- Forget the token; a word may start. -/
def reset (r : TypeReader) : TypeReader := { r with token := none, wordStart := true }

/-- Take the byte at `i` into the token. -/
def extend (r : TypeReader) (i : Nat) : TypeReader :=
  { r with token := some ((r.token.map (·.1)).getD i, i) }

/-- The text of the token, if there is one. -/
def tokenText? (r : TypeReader) (v : ByteArray) : Option String := r.token.map fun (s, e) => slice v s e

/-- End the token as the type, subtype or name that is being read; whether there was one. -/
def addName (r : TypeReader) (v : ByteArray) : TypeReader × Bool :=
  match r.tokenText? v with
  | some t =>
    let t := t.toLower
    let r := match r.place with
      | .kind => { r with kind := some t }
      | .subtype => { r with subtype := some t }
      | _ => { r with name := some t }
    (r.reset, true)
  | none => (r, false)

/-- End the token at a quote mark of an extended value: first the character set, then the
language. -/
def addPrefix (r : TypeReader) (v : ByteArray) : TypeReader :=
  match r.tokenText? v with
  | some part =>
    match r.charset with
    | none => TypeReader.reset { r with charset := some part }
    | some _ =>
      let lang := r.name.getD "unknown" ++ "-language"
      if r.params.any (·.1 == lang) then TypeReader.reset { r with pieces := r.pieces.push "'" |>.push part }
      else TypeReader.reset { r with params := r.params.push (lang, part) }
  | none => r

/-- End the token as a piece of the value before a backslash or an encoded word at `i`; a
quoted piece `toHere` runs up to `i`, an unquoted one gets a space after it. -/
def addPiece (r : TypeReader) (v : ByteArray) (toHere : Bool) (i : Nat) : TypeReader :=
  match r.token with
  | some (s, e) =>
    let quoted := r.place == .quoted
    let piece := if quoted && toHere then Utf8.decodeLossy (v.extract s i) else slice v s e
    let pieces := r.pieces.push piece
    TypeReader.reset { r with pieces := if quoted then pieces else pieces.push " " }
  | none => r

/-- End the value of the parameter being read. -/
def addValue (r : TypeReader) (v : ByteArray) : TypeReader :=
  match r.name with
  | none => r.reset
  | some n =>
    let last := r.token.map fun (s, e) =>
      let raw := v.extract s (e + 1)
      Utf8.decodeLossy (if r.dropBreaks then ⟨raw.data.filter (fun x => x != 13 && x != 10)⟩ else raw)
    if last.isNone && r.pieces.isEmpty then r
    else
      let value := String.join (r.pieces.toList ++ last.toList)
      let r := { r with name := none, pieces := #[], dropBreaks := if last.isSome then false else r.dropBreaks }
      if !r.continued then TypeReader.reset { r with params := r.params.push (n, value) }
      else
        let value := if r.extended then extendedValue r.charset value else value
        let number := r.position
        let r := { r with continued := false, extended := false, charset := none, position := 0 }
        if number > 0 then TypeReader.reset { r with sections := r.sections.push (n, number, value) }
        else TypeReader.reset { r with params := r.params.push (n, value) }

/-- The content type read, once the value has ended. -/
def result (r : TypeReader) : Option ContentType :=
  r.kind.map fun kind =>
    let sorted := r.sections.toList.mergeSort sectionBefore
    let params := sorted.foldl (fun (ps : List (String × String)) (n, _, v) =>
      match ps.span (·.1 != n) with
      | (before, (k, w) :: after) => before ++ (k, w ++ v) :: after
      | _ => ps ++ [(n, v)]) r.params.toList
    { kind, subtype := r.subtype, params }

/-- Take the byte at `i` as text: into the token, outside comments. -/
def plain (r : TypeReader) (i : Nat) : TypeStep :=
  if r.place == .comment then .next r 0
  else .next ({ r with escaped := false, wordStart := false }.extend i) 0

/-- Read the line break at `i`. -/
def lineBreak (r : TypeReader) (v : ByteArray) (i : Nat) : TypeStep :=
  let folded := v[i + 1]? == some 32 || v[i + 1]? == some 9
  if r.place == .quoted && folded then .next { r with dropBreaks := true } 0
  else
    let r := match r.place with
      | .kind | .subtype | .name => (r.addName v).1
      | .value | .quoted => r.addValue v
      | .comment => r
    if folded then .next { r with wordStart := true } 1
    else .done r.result

/-- Read the `=` at `i`. -/
def equals (r : TypeReader) (v : ByteArray) (i : Nat) : TypeStep :=
  match r.place with
  | .name =>
    if !r.continued then
      let (r, named) := r.addName v
      if named then .next { r with place := .value } 0 else .next r 0
    else
      match r.tokenText? v with
      | some t => .next (TypeReader.reset { r with position := sectionNumber t, place := .value }) 0
      | none => .next { r with extended := true, place := .value } 0
  | .value | .quoted =>
    if r.wordStart then
      match EncodedWord.read? v (i + 1) with
      | some (text, j) =>
        let r := r.addPiece v false i
        .next { r with pieces := r.pieces.push text } (j - i - 1)
      | none => r.plain i
    else r.plain i
  | _ => r.plain i

/-- Read the byte `x` at `i`. -/
def step (r : TypeReader) (v : ByteArray) (i : Nat) (x : UInt8) : TypeStep :=
  if x == 32 || x == 9 then
    let r := { r with wordStart := true }
    .next (if r.place == .quoted then r.extend i else r) 0
  else if x == 10 then r.lineBreak v i
  else if x == 47 && r.place == .kind then .next { (r.addName v).1 with place := .subtype } 0
  else if x == 59 then
    match r.place with
    | .kind | .subtype | .name => .next { (r.addName v).1 with place := .name } 0
    | .value => if !r.escaped then .next { r.addValue v with place := .name } 0 else .next { r with escaped := false } 0
    | _ => r.plain i
  else if x == 42 && r.place == .name then
    if !r.continued then
      let (r, named) := r.addName v
      .next { r with continued := named } 0
    else if !r.extended then
      .next (TypeReader.reset { r with position := ((r.tokenText? v).map sectionNumber).getD r.position, extended := true }) 0
    else .next r.reset 0
  else if x == 61 then r.equals v i
  else if x == 34 then
    match r.place with
    | .value => .next { r with wordStart := true, place := .quoted } 0
    | .quoted => if !r.escaped then .next { r.addValue v with place := .name } 0 else r.plain i
    | _ => .next r 0
  else if x == 92 then
    match r.place with
    | .value | .quoted => if !r.escaped then .next { r.addPiece v true i with escaped := true } 0 else r.plain i
    | _ => .next r 0
  else if x == 39 && r.extended && !r.escaped && r.place == .value then .next (r.addPrefix v) 0
  else if x == 40 && r.place != .quoted then
    if !r.escaped then
      let r' := match r.place with
        | .kind | .subtype | .name => (r.addName v).1
        | .value => r.addValue v
        | _ => r
      .next { r' with outer := r.place :: r.outer, place := .comment } 0
    else .next { r with escaped := false } 0
  else if x == 41 && r.place == .comment then
    if !r.escaped then
      match r.outer with
      | p :: rest => .next (TypeReader.reset { r with place := p, outer := rest }) 0
      | [] => .next r.reset 0
    else .next { r with escaped := false } 0
  else if x == 13 then .next r 0
  else r.plain i

/-- Read the value `v` from position `i`. -/
def run (v : ByteArray) (i : Nat) (r : TypeReader) : Option ContentType :=
  if h : i < v.size then
    match r.step v i v[i] with
    | .next r taken => run v (i + 1 + taken) r
    | .done value => value
  else none
termination_by v.size - i

end TypeReader

/-- Read a content type value from its raw bytes (from after the colon to the end of the
field); `none` when it names no type. -/
def ContentType.parse (v : ByteArray) : Option ContentType := TypeReader.run v 0 {}

end SealedMail.Mime

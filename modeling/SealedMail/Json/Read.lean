import SealedMail.Json

/-! # Reading JSON text

JSON text is read into a `Json` value the way a map holds it: an object's
members are sorted by key, and a key given twice keeps its last value. White space is
space, tab, line feed and carriage return. Values nest at most 127 deep.

* A number without a fraction or exponent that fits in 64 bits (from `-2 ^ 63` to
  `2 ^ 64 - 1`) is an integer; any other number, and `-0`, is a double.
* A double is computed from the digits that fit in 64 bits: later digits of the whole part
  scale it by ten each, later digits of the fraction are dropped. The digits are rounded to
  a double, which is then multiplied or divided by the double nearest the power of ten;
  below `1e-308` it is first divided by `1e308` as often as that takes, stopping at zero.
  Each step rounds, so the result can miss the double nearest the text by a unit in the
  last place (`9.999999999999999e-05` reads as `0.0001`). A double that overflows, or a
  nonzero one with an exponent beyond 32 bits, is out of range.
* A string takes the escapes of JSON; `\u` escapes of UTF-16 surrogates must pair up, and
  control characters must be escaped.

An error names its cause and the line and column (counted in bytes) where it was found:
the byte that was read last, or for a look ahead the byte looked at.
-/

namespace SealedMail.Json

/-- Why JSON text could not be read. -/
inductive ReadCause where
  | eofInList
  | eofInObject
  | eofInString
  | eofInValue
  | expectedColon
  | expectedListCommaOrEnd
  | expectedObjectCommaOrEnd
  | expectedIdent
  | expectedValue
  | invalidEscape
  | invalidNumber
  | numberOutOfRange
  | controlCharacter
  | keyNotString
  | loneSurrogate
  | trailingComma
  | trailingCharacters
  | unexpectedEndOfHexEscape
  | tooDeep
deriving DecidableEq, Repr

/-- The wording of a cause. -/
def ReadCause.text : ReadCause → String
  | .eofInList => "EOF while parsing a list"
  | .eofInObject => "EOF while parsing an object"
  | .eofInString => "EOF while parsing a string"
  | .eofInValue => "EOF while parsing a value"
  | .expectedColon => "expected `:`"
  | .expectedListCommaOrEnd => "expected `,` or `]`"
  | .expectedObjectCommaOrEnd => "expected `,` or `\x7d`"
  | .expectedIdent => "expected ident"
  | .expectedValue => "expected value"
  | .invalidEscape => "invalid escape"
  | .invalidNumber => "invalid number"
  | .numberOutOfRange => "number out of range"
  | .controlCharacter => "control character (\\u0000-\\u001F) found while parsing a string"
  | .keyNotString => "key must be a string"
  | .loneSurrogate => "lone leading surrogate in hex escape"
  | .trailingComma => "trailing comma"
  | .trailingCharacters => "trailing characters"
  | .unexpectedEndOfHexEscape => "unexpected end of hex escape"
  | .tooDeep => "recursion limit exceeded"

/-- A reading error: its cause and where it was found. -/
structure ReadError where
  cause : ReadCause
  line : Nat
  column : Nat
deriving DecidableEq, Repr

/-- The text of a reading error. -/
def ReadError.message (e : ReadError) : String :=
  e.cause.text ++ " at line " ++ toString e.line ++ " column " ++ toString e.column

namespace Read

/-- The line and column of the point just before byte `i`: the line counted from one, the
column as the bytes read on it. -/
def position (b : ByteArray) (i : Nat) : Nat × Nat :=
  let seen := (b.extract 0 i).toList
  let breaks := seen.foldl (fun (n, last) x => if x == 10 then (n + 1, some n) else (n + 1, last)) (0, none)
  let lineStart := match breaks.2 with
    | some j => j + 1
    | none => 0
  (1 + (seen.take lineStart).count 10, i - lineStart)

/-- An error found once the bytes before `i` have been read. -/
def failAt {α : Type} (b : ByteArray) (cause : ReadCause) (i : Nat) : Except ReadError α :=
  let (line, column) := position b i
  .error ⟨cause, line, column⟩

/-- An error found looking at byte `i`. -/
def failAhead {α : Type} (b : ByteArray) (cause : ReadCause) (i : Nat) : Except ReadError α :=
  failAt b cause (min b.size (i + 1))

/-- Skip white space from `i`. -/
def skipWhite (b : ByteArray) (i : Nat) : Nat :=
  if h : i < b.size then
    let x := b[i]
    if x == 32 || x == 10 || x == 9 || x == 13 then skipWhite b (i + 1) else i
  else i
termination_by b.size - i

/-- The value of a decimal digit. -/
def digit? (x : UInt8) : Option Nat :=
  if 48 ≤ x && x ≤ 57 then some (x - 48).toNat else none

/-- The largest 64-bit unsigned number, the bound of the digits kept. -/
def digitBound : Nat := Nat.pow 2 64 - 1

/-- Scale a double by `10 ^ e`; `none` when it is out of range. -/
def scale (f : Double.Binary) (e : Int) : Option Double.Binary :=
  if e.natAbs ≤ 308 then
    if e ≥ 0 then
      let g := f.mul (Double.Binary.pow10 e.toNat)
      if g.overflows then none else some g
    else some (f.div (Double.Binary.pow10 e.natAbs))
  else if f.mantissa = 0 then some f
  else if e ≥ 0 then none
  else scale (f.div (Double.Binary.pow10 308)) (e + 308)
termination_by e.natAbs
decreasing_by omega

/-- The double of digits `sig` scaled by `10 ^ e`, read up to `i`. -/
def double (b : ByteArray) (negative : Bool) (sig : Nat) (e : Int) (i : Nat) : Except ReadError (Json × Nat) :=
  match scale (Double.Binary.ofNat sig) e with
  | some f => .ok (.float negative f, i)
  | none => failAt b .numberOutOfRange i

/-- Keep an exponent within 32 bits. -/
def clamp32 (e : Int) : Int := max (-(Int.pow 2 31)) (min (Int.pow 2 31 - 1) e)

/-- Skip digits from `i`. -/
def skipDigits (b : ByteArray) (i : Nat) : Nat :=
  if h : i < b.size then
    if (digit? b[i]).isSome then skipDigits b (i + 1) else i
  else i
termination_by b.size - i

/-- Read the digits of an exponent from `i`, their value `exp` so far. -/
def exponentDigits (b : ByteArray) (negative : Bool) (sig : Nat) (start : Int) (up : Bool) (exp : Nat)
    (i : Nat) : Except ReadError (Json × Nat) :=
  let done := double b negative sig (clamp32 (if up then start + exp else start - exp)) i
  if h : i < b.size then
    match digit? b[i] with
    | some d =>
      if exp * 10 + d > Nat.pow 2 31 - 1 then
        if sig ≠ 0 && up then failAt b .numberOutOfRange (i + 1)
        else .ok (.float negative ⟨0, 0⟩, skipDigits b (i + 1))
      else exponentDigits b negative sig start up (exp * 10 + d) (i + 1)
    | none => done
  else done
termination_by b.size - i

/-- Read an exponent whose `e` or `E` stands at `i`. -/
def exponent (b : ByteArray) (negative : Bool) (sig : Nat) (start : Int) (i : Nat) : Except ReadError (Json × Nat) :=
  let (up, j) := match b[i + 1]? with
    | some 43 => (true, i + 2)
    | some 45 => (false, i + 2)
    | _ => (true, i + 1)
  match b[j]? with
  | none => failAt b .eofInValue j
  | some x =>
    match digit? x with
    | some d => exponentDigits b negative sig start up d (j + 1)
    | none => failAt b .invalidNumber (j + 1)

/-- After digits that no longer fit, skip the rest of a fraction from `i`. -/
def fractionRest (b : ByteArray) (negative : Bool) (sig : Nat) (e : Int) (i : Nat) : Except ReadError (Json × Nat) :=
  let j := skipDigits b i
  if b[j]? == some 101 || b[j]? == some 69 then exponent b negative sig e j
  else double b negative sig e j

/-- Read the digits of a fraction from `i`; `count` of them have been read into `sig`. -/
def fractionDigits (b : ByteArray) (negative : Bool) (sig : Nat) (e : Int) (count : Nat) (i : Nat) :
    Except ReadError (Json × Nat) :=
  let done : Except ReadError (Json × Nat) :=
    if count = 0 then
      if i < b.size then failAhead b .invalidNumber i else failAhead b .eofInValue i
    else if b[i]? == some 101 || b[i]? == some 69 then exponent b negative sig (e - count) i
    else double b negative sig (e - count) i
  if h : i < b.size then
    match digit? b[i] with
    | some d =>
      if sig * 10 + d > digitBound then fractionRest b negative sig (e - count) i
      else fractionDigits b negative (sig * 10 + d) e (count + 1) (i + 1)
    | none => done
  else done
termination_by b.size - i

/-- Read a fraction whose point stands at `i`. -/
def fraction (b : ByteArray) (negative : Bool) (sig : Nat) (e : Int) (i : Nat) : Except ReadError (Json × Nat) :=
  fractionDigits b negative sig e 0 (i + 1)

/-- After digits of the whole part that no longer fit, count the rest from `i` into the
exponent `e`. -/
def wholeRest (b : ByteArray) (negative : Bool) (sig : Nat) (e : Int) (i : Nat) : Except ReadError (Json × Nat) :=
  if h : i < b.size then
    let x := b[i]
    if (digit? x).isSome then wholeRest b negative sig (e + 1) (i + 1)
    else if x == 46 then fraction b negative sig e i
    else if x == 101 || x == 69 then exponent b negative sig e i
    else double b negative sig e i
  else double b negative sig e i
termination_by b.size - i

/-- The number read so far, its digits `sig` ending at `i`, when no fraction or exponent
follows. -/
def whole (negative : Bool) (sig : Nat) (i : Nat) : Json × Nat :=
  if !negative then (.num sig 0, i)
  else if sig = 0 then (.float true ⟨0, 0⟩, i)
  else if sig ≤ Nat.pow 2 63 then (.num (-(sig : Int)) 0, i)
  else (.float true (Double.Binary.ofNat sig), i)

/-- Read the digits of the whole part from `i`, their value `sig` so far. -/
def wholeDigits (b : ByteArray) (negative : Bool) (sig : Nat) (i : Nat) : Except ReadError (Json × Nat) :=
  if h : i < b.size then
    let x := b[i]
    match digit? x with
    | some d =>
      if sig * 10 + d > digitBound then wholeRest b negative sig 0 i
      else wholeDigits b negative (sig * 10 + d) (i + 1)
    | none =>
      if x == 46 then fraction b negative sig 0 i
      else if x == 101 || x == 69 then exponent b negative sig 0 i
      else .ok (whole negative sig i)
  else .ok (whole negative sig i)
termination_by b.size - i

/-- Read a number whose first digit should stand at `i`, a minus sign before it when
`negative`. -/
def number (b : ByteArray) (negative : Bool) (i : Nat) : Except ReadError (Json × Nat) :=
  match b[i]? with
  | none => failAt b .eofInValue i
  | some 48 =>
    match b[i + 1]? >>= digit? with
    | some _ => failAhead b .invalidNumber (i + 1)
    | none =>
      if b[i + 1]? == some 46 then fraction b negative 0 0 (i + 1)
      else if b[i + 1]? == some 101 || b[i + 1]? == some 69 then exponent b negative 0 0 (i + 1)
      else .ok (whole negative 0 (i + 1))
  | some x =>
    match digit? x with
    | some d => wholeDigits b negative d (i + 1)
    | none => failAt b .invalidNumber (i + 1)

/-- Read the letters `word` of a literal from `i`. -/
def literal (b : ByteArray) (word : List UInt8) (value : Json) (i : Nat) : Except ReadError (Json × Nat) :=
  match word with
  | [] => .ok (value, i)
  | c :: rest =>
    match b[i]? with
    | none => failAt b .eofInValue i
    | some x => if x == c then literal b rest value (i + 1) else failAt b .expectedIdent (i + 1)

/-- The value of a hex digit of either case. -/
def hexDigit? (x : UInt8) : Option Nat :=
  if 48 ≤ x && x ≤ 57 then some (x - 48).toNat
  else if 65 ≤ x && x ≤ 70 then some (x - 55).toNat
  else if 97 ≤ x && x ≤ 102 then some (x - 87).toNat
  else none

/-- Read the four hex digits of a `\u` escape at `i`. -/
def hexUnit (b : ByteArray) (i : Nat) : Except ReadError (Nat × Nat) :=
  if i + 4 > b.size then failAt b .eofInString b.size
  else
    [0, 1, 2, 3].foldlM (fun (acc : Nat × Nat) k =>
      match hexDigit? (b.get! (i + k)) with
      | some v => .ok (acc.1 * 16 + v, i + k + 1)
      | none => failAt b .invalidEscape (i + k + 1)) (0, i)

/-- Append a code point as UTF-8. -/
def pushCode (out : ByteArray) (n : Nat) : ByteArray :=
  out ++ (Char.ofNat n).toString.toUTF8

/-- Read a `\u` escape whose digits start at `i`, with a second escape for a leading
surrogate. -/
def unicodeEscape (b : ByteArray) (out : ByteArray) (i : Nat) : Except ReadError (ByteArray × Nat) := do
  let (n, j) ← hexUnit b i
  if 0xDC00 ≤ n && n ≤ 0xDFFF then failAt b .loneSurrogate j
  else if n < 0xD800 || n > 0xDBFF then pure (pushCode out n, j)
  else
    match b[j]? with
    | none => failAt b .eofInString j
    | some 92 =>
      match b[j + 1]? with
      | none => failAt b .eofInString (j + 1)
      | some 117 =>
        let (n₂, k) ← hexUnit b (j + 2)
        if n₂ < 0xDC00 || n₂ > 0xDFFF then failAt b .loneSurrogate k
        else pure (pushCode out (((n - 0xD800) <<< 10 ||| (n₂ - 0xDC00)) + 0x10000), k)
      | some _ => failAt b .unexpectedEndOfHexEscape (j + 2)
    | some _ => failAt b .unexpectedEndOfHexEscape (j + 1)

/-- Read an escape whose letter stands at `i`. -/
def escape (b : ByteArray) (out : ByteArray) (i : Nat) : Except ReadError (ByteArray × Nat) :=
  match b[i]? with
  | none => failAt b .eofInString i
  | some 34 => .ok (out.push 34, i + 1)
  | some 92 => .ok (out.push 92, i + 1)
  | some 47 => .ok (out.push 47, i + 1)
  | some 98 => .ok (out.push 8, i + 1)
  | some 102 => .ok (out.push 12, i + 1)
  | some 110 => .ok (out.push 10, i + 1)
  | some 114 => .ok (out.push 13, i + 1)
  | some 116 => .ok (out.push 9, i + 1)
  | some 117 => unicodeEscape b out (i + 1)
  | some _ => failAt b .invalidEscape (i + 1)

/-- Read the bytes of a string from `i` up to its closing quote, into `out`. -/
def stringBytes (b : ByteArray) (out : ByteArray) (i : Nat) : Except ReadError (ByteArray × Nat) :=
  if h : i < b.size then
    let x := b[i]
    if x == 34 then .ok (out, i + 1)
    else if x == 92 then
      match escape b out (i + 1) with
      | .ok (out, j) => if i < j then stringBytes b out j else .ok (out, j)
      | .error e => .error e
    else if x < 32 then failAt b .controlCharacter (i + 1)
    else stringBytes b (out.push x) (i + 1)
  else failAt b .eofInString b.size
termination_by b.size - i

/-- Read a string whose opening quote stands before `i`. -/
def string (b : ByteArray) (i : Nat) : Except ReadError (String × Nat) := do
  let (bytes, j) ← stringBytes b ByteArray.empty i
  pure (String.fromUTF8! bytes, j)

/-- Insert a member into members sorted by key, replacing one of the same key. -/
def insertMember (k : String) (v : Json) : List (String × Json) → List (String × Json)
  | [] => [(k, v)]
  | (k₂, v₂) :: rest =>
    if k = k₂ then (k, v) :: rest
    else if k < k₂ then (k, v) :: (k₂, v₂) :: rest
    else (k₂, v₂) :: insertMember k v rest

mutual

/-- Read a value from `i` at nesting `depth`. Every round reads at least one byte, so fuel
beyond twice the bytes left is never used up. -/
def value (b : ByteArray) : Nat → Nat → Nat → Except ReadError (Json × Nat)
  | 0, _, i => failAhead b .tooDeep i
  | fuel + 1, depth, i =>
    let i := skipWhite b i
    match b[i]? with
    | none => failAhead b .eofInValue i
    | some 110 => literal b [117, 108, 108] .null (i + 1)
    | some 116 => literal b [114, 117, 101] (.bool true) (i + 1)
    | some 102 => literal b [97, 108, 115, 101] (.bool false) (i + 1)
    | some 45 => number b true (i + 1)
    | some 34 => do
      let (s, j) ← string b (i + 1)
      pure (.str s, j)
    | some 91 =>
      if depth + 1 ≥ 128 then failAhead b .tooDeep i
      else items b fuel (depth + 1) true [] (i + 1)
    | some 123 =>
      if depth + 1 ≥ 128 then failAhead b .tooDeep i
      else members b fuel (depth + 1) true [] (i + 1)
    | some x => if (digit? x).isSome then number b false i else failAhead b .expectedValue i

/-- Read the items of an array from `i`, the items so far in `acc` (last first). -/
def items (b : ByteArray) : Nat → Nat → Bool → List Json → Nat → Except ReadError (Json × Nat)
  | 0, _, _, _, i => failAhead b .tooDeep i
  | fuel + 1, depth, first, acc, i =>
    let i := skipWhite b i
    match b[i]? with
    | none => failAhead b .eofInList i
    | some 93 => .ok (.arr acc.reverse, i + 1)
    | some x =>
      let next : Except ReadError Nat :=
        if first then .ok i
        else if x == 44 then
          let j := skipWhite b (i + 1)
          match b[j]? with
          | some 93 => failAhead b .trailingComma j
          | some _ => .ok j
          | none => failAhead b .eofInValue j
        else failAhead b .expectedListCommaOrEnd i
      match next with
      | .error e => .error e
      | .ok j =>
        match value b fuel depth j with
        | .error e => .error e
        | .ok (v, k) => items b fuel depth false (v :: acc) k

/-- Read the members of an object from `i`, the members so far in `acc`. -/
def members (b : ByteArray) : Nat → Nat → Bool → List (String × Json) → Nat → Except ReadError (Json × Nat)
  | 0, _, _, _, i => failAhead b .tooDeep i
  | fuel + 1, depth, first, acc, i =>
    let i := skipWhite b i
    match b[i]? with
    | none => failAhead b .eofInObject i
    | some 125 => .ok (.obj acc, i + 1)
    | some x =>
      let key : Except ReadError Nat :=
        let at? : Except ReadError Nat :=
          if x == 44 && !first then .ok (skipWhite b (i + 1))
          else if first then .ok i
          else failAhead b .expectedObjectCommaOrEnd i
        match at? with
        | .error e => .error e
        | .ok j =>
          match b[j]? with
          | some 34 => .ok (j + 1)
          | some 125 => failAhead b .trailingComma j
          | some _ => failAhead b .keyNotString j
          | none => failAhead b .eofInValue j
      match key with
      | .error e => .error e
      | .ok j =>
        match string b j with
        | .error e => .error e
        | .ok (k, j) =>
          let c := skipWhite b j
          match b[c]? with
          | none => failAhead b .eofInObject c
          | some 58 =>
            match value b fuel depth (c + 1) with
            | .error e => .error e
            | .ok (v, e) => members b fuel depth false (insertMember k v acc) e
          | some _ => failAhead b .expectedColon c

end

end Read

/-- Read JSON text: one value, with nothing but white space around it. -/
def read (text : String) : Except ReadError Json := do
  let b := text.toUTF8
  let (v, i) ← Read.value b (2 * b.size + 2) 0 0
  let j := Read.skipWhite b i
  if j < b.size then Read.failAhead b .trailingCharacters j else pure v

end SealedMail.Json

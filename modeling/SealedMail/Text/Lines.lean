/-! # Line endings and trailing blanks

Two normal forms of text. `trimLines` deletes the spaces and tabs that stand right before a
line feed or at the end of the text; `canonicalize` writes every line feed that no carriage
return precedes as CR LF, the form signatures over text are computed on.
-/

namespace SealedMail.Lines

/-- Whether a character is a blank that trimming removes. -/
def isBlank (c : Char) : Bool := c == ' ' || c == '\t'

/-- A line without its trailing spaces and tabs. -/
def trimEnd (line : List Char) : List Char :=
  (line.reverse.dropWhile isBlank).reverse

/-- Trailing spaces and tabs removed from every line; line feeds are kept. -/
def trimLines (text : String) : String :=
  "\n".intercalate ((text.split '\n').toList.map (fun l => String.ofList (trimEnd l.copy.toList)))

/-- Insert CR before every LF whose previous byte (`prev`) is not CR. -/
def canonicalizeFrom (prev : UInt8) (data : ByteArray) : ByteArray := Id.run do
  let mut out := ByteArray.emptyWithCapacity (data.size + data.size / 32)
  let mut last := prev
  for b in data do
    if b == 10 && last != 13 then
      out := out.push 13
    out := out.push b
    last := b
  return out

/-- CR LF line endings for every bare LF. -/
def canonicalize (data : ByteArray) : ByteArray := canonicalizeFrom 0 data

/-- Every line break (CR LF, a lone LF or a lone CR) written as CR LF: the form text
signatures are computed over. -/
def normalizeBreaks (data : ByteArray) : ByteArray := Id.run do
  let mut out := ByteArray.emptyWithCapacity (data.size + data.size / 32)
  let mut i := 0
  for _ in [0:data.size] do
    if i < data.size then
      let b := data.get! i
      if b == 13 then
        out := out.push 13 |>.push 10
        i := if i + 1 < data.size && data.get! (i + 1) == 10 then i + 2 else i + 1
      else if b == 10 then
        out := out.push 13 |>.push 10
        i := i + 1
      else
        out := out.push b
        i := i + 1
  return out

/-- A streaming canonicalizer: the only state is the last byte it saw. -/
structure Normalizer where
  /-- The last byte fed, zero before any. -/
  last : UInt8 := 0
deriving Repr, DecidableEq

/-- Feed a chunk, returning the canonical bytes it contributes. -/
def Normalizer.feed (n : Normalizer) (chunk : ByteArray) : ByteArray × Normalizer :=
  (canonicalizeFrom n.last chunk, ⟨if chunk.size = 0 then n.last else chunk.get! (chunk.size - 1)⟩)

end SealedMail.Lines

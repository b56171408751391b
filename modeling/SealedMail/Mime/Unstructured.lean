import SealedMail.Mime.EncodedWord

/-! # Unstructured field values

An unstructured header field value is read as text. Blanks before and after the text go;
blanks inside a line stay as written, and a folded line joins the one before with a single
space. An encoded word where a word starts is replaced by its text, with a space between it
and text before it. Carriage returns on their own are passed over at the ends of the text.
A value that the data ends inside of, before its line break, reads as no value, as does one
with no text.
-/

namespace SealedMail.Mime

/-- The text of an unstructured value being read. -/
structure Words where
  /-- The pieces of the value so far. -/
  pieces : Array String := #[]
  /-- The first and last position of the run of text being read. -/
  run : Option (Nat × Nat) := none
  /-- Whether a blank or a line start stands just before. -/
  wordStart : Bool := true

namespace Words

/-- End the run of text being read, a space ahead of it when pieces come before, and a space
after it when `spaced`. -/
def close (w : Words) (v : ByteArray) (spaced : Bool) : Words :=
  match w.run with
  | some (s, e) =>
    let pieces := if w.pieces.isEmpty then w.pieces else w.pieces.push " "
    let pieces := pieces.push (Utf8.decodeLossy (v.extract s (e + 1)))
    { w with pieces := if spaced then pieces.push " " else pieces, run := none }
  | none => w

/-- The value, if it holds text. -/
def text? (w : Words) : Option String :=
  if w.pieces.isEmpty then none else some (String.join w.pieces.toList)

end Words

/-- Read the unstructured value `v` (its raw bytes from after the colon) from position `i`. -/
def Words.read (v : ByteArray) (i : Nat) (w : Words) : Option String :=
  if h : i < v.size then
    let x := v[i]
    if x == 10 then
      let w := w.close v false
      if v[i + 1]? == some 32 || v[i + 1]? == some 9 then Words.read v (i + 2) { w with wordStart := true }
      else w.text?
    else if x == 32 || x == 9 then Words.read v (i + 1) { w with wordStart := true }
    else if x == 13 then Words.read v (i + 1) w
    else
      let plain : Words := { w with wordStart := false, run := some ((w.run.map (·.1)).getD i, i) }
      if x == 61 && w.wordStart then
        match EncodedWord.read? v (i + 1) with
        | some (text, j) =>
          if i < j then
            let w := w.close v true
            Words.read v j { w with pieces := w.pieces.push text }
          else Words.read v (i + 1) plain
        | none => Words.read v (i + 1) plain
      else Words.read v (i + 1) plain
  else none
termination_by v.size - i

/-- The text of an unstructured value given by its raw bytes. -/
def unstructured (v : ByteArray) : Option String := Words.read v 0 {}

end SealedMail.Mime

/-! # White space

The characters with the Unicode White_Space property, and trimming them from either end of
a text. ASCII white space for the few rules that name it is a separate, smaller set.
-/

namespace SealedMail.Blank

/-- Whether a character has the Unicode White_Space property. -/
def isSpace (c : Char) : Bool :=
  let n := c.toNat
  (9 ≤ n && n ≤ 13) || n == 32 || n == 0x85 || n == 0xa0 || n == 0x1680 ||
    (0x2000 ≤ n && n ≤ 0x200a) || n == 0x2028 || n == 0x2029 || n == 0x202f ||
    n == 0x205f || n == 0x3000

/-- Whether a character is ASCII white space: tab, line feed, form feed, carriage return
or space. -/
def isAsciiSpace (c : Char) : Bool :=
  c == ' ' || c == '\t' || c == '\n' || c == '\x0c' || c == '\r'

/-- A text without leading and trailing white space. -/
def trim (s : String) : String :=
  String.ofList (((s.toList.dropWhile isSpace).reverse.dropWhile isSpace).reverse)

/-- A text without trailing white space. -/
def trimEnd (s : String) : String :=
  String.ofList ((s.toList.reverse.dropWhile isSpace).reverse)

/-- A text without leading white space. -/
def trimStart (s : String) : String :=
  String.ofList (s.toList.dropWhile isSpace)

end SealedMail.Blank

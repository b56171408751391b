/-! # Diagnostic quoting

Error texts quote a character or a string the way a diagnostic would show it: printable
characters stand as they are, the common control characters get a backslash letter, and
every other control character is written as `\u{hex}` with lowercase hex digits.
-/

namespace SealedMail.Escape

/-- Lowercase hexadecimal digits of `n`, without leading zeros. -/
def hexDigits (n : Nat) : String :=
  String.ofList (Nat.toDigits 16 n)

/-- Whether a character is shown as it is: everything but the C0 and C1 controls,
delete and the soft hyphen. -/
def isShown (c : Char) : Bool :=
  let n := c.toNat
  !(n < 0x20 || (0x7f ≤ n && n < 0xa0) || n == 0xad)

/-- The escaped form of one character; `quote` is the quote character that encloses it. -/
def escapeChar (quote : Char) (c : Char) : String :=
  if c == '\\' then "\\\\"
  else if c == quote then "\\" ++ c.toString
  else if c == '\n' then "\\n"
  else if c == '\r' then "\\r"
  else if c == '\t' then "\\t"
  else if c == '\x00' then "\\0"
  else if isShown c then c.toString
  else "\\u" ++ "\x7b" ++ hexDigits c.toNat ++ "\x7d"

/-- A character between single quotes, escaped. -/
def char (c : Char) : String :=
  "'" ++ escapeChar '\'' c ++ "'"

/-- A string between double quotes, escaped. -/
def string (s : String) : String :=
  "\"" ++ String.join (s.toList.map (escapeChar '"')) ++ "\""

end SealedMail.Escape

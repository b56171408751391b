import SealedMail.Text.Double

/-! # JSON values

The configuration, session keys and verification results have a JSON form. A value is
null, a boolean, a decimal number (an integer mantissa scaled by a power of ten, so that a
fractional number is told apart from an integer), a double read from JSON text, a string,
an array or an object whose members keep their order.
-/

namespace SealedMail

/-- A JSON value. -/
inductive Json where
  | null
  | bool (b : Bool)
  /-- The number `mantissa / 10 ^ exponent`. -/
  | num (mantissa : Int) (exponent : Nat)
  /-- A double, as a reader of JSON text takes a number with a fraction or an exponent. -/
  | float (negative : Bool) (magnitude : Double.Binary)
  | str (s : String)
  | arr (items : List Json)
  | obj (members : List (String × Json))
deriving Repr, Inhabited

namespace Json

/-- An integer. -/
def int (n : Int) : Json := .num n 0

/-- A member of an object, if present. -/
def field? (j : Json) (key : String) : Option Json :=
  match j with
  | .obj ms => (ms.find? (·.1 == key)).map (·.2)
  | _ => none

/-- A string between quotes with the escapes of JSON text: quote, backslash and control
characters; all other characters stand as they are. -/
def quote (s : String) : String :=
  let esc (c : Char) : String :=
    if c == '"' then "\\\""
    else if c == '\\' then "\\\\"
    else if c == '\n' then "\\n"
    else if c == '\r' then "\\r"
    else if c == '\t' then "\\t"
    else if c == '\x08' then "\\b"
    else if c == '\x0c' then "\\f"
    else if c.toNat < 0x20 then
      let h := String.ofList (Nat.toDigits 16 c.toNat)
      "\\u" ++ String.ofList (List.replicate (4 - h.length) '0') ++ h
    else c.toString
  "\"" ++ String.join (s.toList.map esc) ++ "\""

/-- The decimal text of a number. -/
def numText (m : Int) (e : Nat) : String :=
  if e = 0 then toString m
  else
    let digits := toString m.natAbs
    let digits := String.ofList (List.replicate (e + 1 - min digits.length (e + 1)) '0') ++ digits
    let cut := digits.length - e
    let sign := if m < 0 then "-" else ""
    sign ++ String.ofList (digits.toList.take cut) ++ "." ++ String.ofList (digits.toList.drop cut)

mutual
/-- Compact JSON text. -/
def compact : Json → String
  | .null => "null"
  | .bool b => if b then "true" else "false"
  | .num m e => numText m e
  | .float n b => b.text n
  | .str s => quote s
  | .arr items => "[" ++ compactItems items ++ "]"
  | .obj ms => "\x7b" ++ compactMembers ms ++ "\x7d"

/-- Compact text of array items, comma separated. -/
def compactItems : List Json → String
  | [] => ""
  | [x] => compact x
  | x :: rest => compact x ++ "," ++ compactItems rest

/-- Compact text of object members, comma separated. -/
def compactMembers : List (String × Json) → String
  | [] => ""
  | [(k, v)] => quote k ++ ":" ++ compact v
  | (k, v) :: rest => quote k ++ ":" ++ compact v ++ "," ++ compactMembers rest
end

/-- Indentation for depth `d`. -/
def indent (d : Nat) : String := String.ofList (List.replicate (2 * d) ' ')

mutual
/-- Pretty JSON text with two-space indentation, starting at depth `d`. -/
def prettyAt (d : Nat) : Json → String
  | .arr [] => "[]"
  | .obj [] => "\x7b\x7d"
  | .arr items => "[\n" ++ prettyItems (d + 1) items ++ "\n" ++ indent d ++ "]"
  | .obj ms => "\x7b\n" ++ prettyMembers (d + 1) ms ++ "\n" ++ indent d ++ "\x7d"
  | .null => "null"
  | .bool b => if b then "true" else "false"
  | .num m e => numText m e
  | .float n b => b.text n
  | .str s => quote s

/-- Pretty array items, one per line at depth `d`. -/
def prettyItems (d : Nat) : List Json → String
  | [] => ""
  | [x] => indent d ++ prettyAt d x
  | x :: rest => indent d ++ prettyAt d x ++ ",\n" ++ prettyItems d rest

/-- Pretty object members, one per line at depth `d`. -/
def prettyMembers (d : Nat) : List (String × Json) → String
  | [] => ""
  | [(k, v)] => indent d ++ quote k ++ ": " ++ prettyAt d v
  | (k, v) :: rest => indent d ++ quote k ++ ": " ++ prettyAt d v ++ ",\n" ++ prettyMembers d rest
end

/-- Pretty JSON text. -/
def pretty (j : Json) : String := prettyAt 0 j

/-- The integer a number reads as: one written without a fraction or exponent, within the
range of 64-bit integers (from `-2 ^ 63` to `2 ^ 64 - 1`); any other number reads as a double. -/
def integer? : Json → Option Int
  | .num m 0 => if -Int.pow 2 63 ≤ m && m < Int.pow 2 64 then some m else none
  | _ => none

/-- How a deserialiser names the kind and value of an unexpected input. -/
def unexpected (j : Json) : String :=
  match j, j.integer? with
  | _, some m => "integer `" ++ toString m ++ "`"
  | .null, _ => "null"
  | .bool b, _ => "boolean `" ++ (if b then "true" else "false") ++ "`"
  | .num m e, none => "floating point `" ++ Double.text (m < 0) m.natAbs (Nat.pow 10 e) ++ "`"
  | .float n b, _ => "floating point `" ++ b.text n ++ "`"
  | .str s, _ => "string " ++ quote s
  | .arr _, _ => "sequence"
  | .obj _, _ => "map"

/-- The backquoted names, comma separated, as "expected one of" lists them. -/
def oneOf (names : List String) : String :=
  ", ".intercalate (names.map (fun n => "`" ++ n ++ "`"))

/-- Read a choice out of a list by its name: a string, or an object whose single member is
the name with a null value. -/
def readVariant {α : Type} (choices : List α) (name : α → String) (j : Json) : Except String α :=
  let pick (s : String) : Except String α :=
    match choices.find? (fun a => name a == s) with
    | some a => .ok a
    | none => .error ("unknown variant `" ++ s ++ "`, expected one of " ++ oneOf (choices.map name))
  match j with
  | .str s => pick s
  | .obj [(s, v)] => do
    let a ← pick s
    match v with
    | .null => pure a
    | other => .error ("invalid type: " ++ other.unexpected ++ ", expected unit")
  | .obj _ => .error "invalid value: map, expected map with a single key"
  | other => .error ("invalid type: " ++ other.unexpected ++ ", expected string or map")

/-- The error of an array with more items than the fields of a record. -/
def tooLong (n : Nat) : String := "invalid length " ++ toString n ++ ", expected fewer elements in array"

end Json

end SealedMail

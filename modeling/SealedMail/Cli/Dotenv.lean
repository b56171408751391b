import SealedMail.Text.Utf8
import SealedMail.Text.Blank
import SealedMail.Text.Letters

/-! # Environment files

A `.env` file sets environment variables that are not set already, one `KEY=value` per
logical line, read until the first line that does not parse.

* A logical line runs on over line breaks while a quote is open or after a backslash (a
  backslash inside single quotes also keeps a quote from closing them). A line whose first
  visible character is `#` is a comment, as is the rest of a line from a `#` that follows
  white space. White space is any Unicode white space, and it is trimmed from both ends of
  a line.
* A key starts with an ASCII letter or `_` and continues with ASCII letters, digits, `_`
  and `.`; it may be preceded by `export`. White space may surround the `=`.
* In a value, single quotes keep everything literally; double quotes allow the escapes
  `\\ \' \" \$ \ ` and `\n`; outside quotes a backslash escapes the same characters, and
  white space ends the value (only a comment may follow).
* `$NAME` (a name of letters and digits of any script) and `${NAME}` outside single quotes
  are replaced by the variable's value in the environment, or else by the value given
  earlier in the file, or else by nothing.
-/

namespace SealedMail.Cli.Dotenv

/-- The state at the end of a physical line: whether the logical line is complete. -/
inductive LineState where
  | complete
  | escape
  | strongOpen
  | strongOpenEscape
  | weakOpen
  | weakOpenEscape
  | whiteSpace
  | comment
deriving DecidableEq

/-- Whether a character is white space other than a line break. -/
def isBlank (c : Char) : Bool := Blank.isSpace c && c != '\n' && c != '\r'

/-- Run the line state over the characters of a physical line: the state at its end, and
for a comment the number of characters before the `#`. -/
def endState : LineState → List Char → Nat → LineState × Nat
  | s, [], n => (s, n)
  | s, c :: cs, n =>
    let next : LineState := match s with
      | .whiteSpace => if c == '#' then .comment else if c == '\\' then .escape else if c == '"' then .weakOpen
          else if c == '\'' then .strongOpen else .complete
      | .escape => .complete
      | .complete => if isBlank c then .whiteSpace else if c == '\\' then .escape else if c == '"' then .weakOpen
          else if c == '\'' then .strongOpen else .complete
      | .weakOpen => if c == '\\' then .weakOpenEscape else if c == '"' then .complete else .weakOpen
      | .weakOpenEscape => .weakOpen
      | .strongOpen => if c == '\\' then .strongOpenEscape else if c == '\'' then .complete else .strongOpen
      | .strongOpenEscape => .strongOpen
      | .comment => .comment
    if next == .comment then (.comment, n) else endState next cs (n + 1)

/-- The next logical line of the physical lines (each with its line break): the line, or
`none` for a broken one, and the lines after it; no lines left gives nothing. -/
def logicalLine (lines : List String) : Option (Option String × List String) :=
  match lines with
  | [] => none
  | _ =>
    let rec gather (buf : String) (state : LineState) : List String → Option String × List String
      | [] => (none, [])
      | l :: rest =>
        let buf' := buf ++ l
        if (buf'.toList.dropWhile Blank.isSpace).head? == some '#' then (some "", rest)
        else
          let (st, n) := endState state l.toList 0
          match st with
          | .complete =>
            let t := if buf'.endsWith "\n" then (buf'.dropEnd 1).toString else buf'
            let t := if t.endsWith "\r" then (t.dropEnd 1).toString else t
            (some t, rest)
          | .comment => (some (String.ofList (buf'.toList.take (buf.length + n))), rest)
          | _ => gather buf' st rest
    some (gather "" .complete lines)

/-- How a `$` substitution is being read. -/
inductive Substitution where
  | none
  | block
  | braced
deriving DecidableEq

/-- The value of a variable for substitution. -/
def lookupVar (env : List (String × String)) (earlier : List (String × String)) (name : String) : String :=
  match env.lookup name with
  | some v => v
  | none => (earlier.lookup name).getD ""

/-- The state of reading a value. -/
structure ValueScan where
  strong : Bool := false
  weak : Bool := false
  escaped : Bool := false
  expectingEnd : Bool := false
  out : String := ""
  mode : Substitution := .none
  name : String := ""
  done : Bool := false

/-- Read the characters of a value; `none` when it does not parse. -/
def valueChars (env earlier : List (String × String)) : List Char → ValueScan → Option ValueScan
  | [], v => some v
  | c :: cs, v =>
    if v.done then some v
    else if v.expectingEnd then
      if c == ' ' || c == '\t' then valueChars env earlier cs v
      else if c == '#' then some { v with done := true }
      else none
    else if v.escaped then
      if c == '\\' || c == '\'' || c == '"' || c == '$' || c == ' ' then
        valueChars env earlier cs { v with out := v.out.push c, escaped := false }
      else if c == 'n' then valueChars env earlier cs { v with out := v.out.push '\n', escaped := false }
      else none
    else if v.strong then
      if c == '\'' then valueChars env earlier cs { v with strong := false }
      else valueChars env earlier cs { v with out := v.out.push c }
    else if v.mode != .none then
      if Letters.isAlphanumeric c then valueChars env earlier cs { v with name := v.name.push c }
      else if v.mode == .block then
        if c == '{' && v.name.isEmpty then valueChars env earlier cs { v with mode := .braced }
        else
          let out := v.out ++ lookupVar env earlier v.name
          if c == '$' then valueChars env earlier cs { v with out, name := "", mode := .block }
          else valueChars env earlier cs { v with out := out.push c, name := "", mode := .none }
      else
        if c == '}' then
          valueChars env earlier cs { v with out := v.out ++ lookupVar env earlier v.name, name := "", mode := .none }
        else valueChars env earlier cs { v with name := v.name.push c }
    else if c == '$' then valueChars env earlier cs { v with mode := .block }
    else if v.weak then
      if c == '"' then valueChars env earlier cs { v with weak := false }
      else if c == '\\' then valueChars env earlier cs { v with escaped := true }
      else valueChars env earlier cs { v with out := v.out.push c }
    else if c == '\'' then valueChars env earlier cs { v with strong := true }
    else if c == '"' then valueChars env earlier cs { v with weak := true }
    else if c == '\\' then valueChars env earlier cs { v with escaped := true }
    else if c == ' ' || c == '\t' then valueChars env earlier cs { v with expectingEnd := true }
    else valueChars env earlier cs { v with out := v.out.push c }

/-- Read a value; `none` when it does not parse or a quote or brace stays open. -/
def parseValue (env earlier : List (String × String)) (s : String) : Option String := do
  let v ← valueChars env earlier s.toList {}
  if v.mode == .braced || v.strong || v.weak then none
  else some (v.out ++ lookupVar env earlier v.name)

/-- Whether a character may start a key. -/
def keyStart (c : Char) : Bool := (c.isAlpha && c.toNat < 128) || c == '_'

/-- Whether a character may continue a key. -/
def keyChar (c : Char) : Bool := (c.isAlphanum && c.toNat < 128) || c == '_' || c == '.'

/-- A key at the start of the text and the rest. -/
def parseKey (cs : List Char) : Option (String × List Char) :=
  match cs with
  | c :: _ => if keyStart c then some (String.ofList (cs.takeWhile keyChar), cs.dropWhile keyChar) else none
  | [] => none

/-- Read a logical line: nothing for a blank line or a comment, a setting, or `none` for a
line that does not parse. -/
def parseLine (env earlier : List (String × String)) (line : String) :
    Option (Option (String × String)) := do
  let cs := (line.toList.reverse.dropWhile Blank.isSpace).reverse.dropWhile Blank.isSpace
  if cs.isEmpty || cs.head? == some '#' then return none
  let (key, rest) ← parseKey cs
  let rest := rest.dropWhile Blank.isSpace
  let (key, rest) ← if key == "export" && rest.head? != some '=' then do
      let (k, r) ← parseKey rest
      pure (k, r.dropWhile Blank.isSpace)
    else pure (key, rest)
  match rest with
  | '=' :: afterEq =>
    let v := afterEq.dropWhile Blank.isSpace
    if v.isEmpty || v.head? == some '#' then return some (key, "")
    let value ← parseValue env earlier (String.ofList v)
    return some (key, value)
  | _ => none

/-- The physical lines of a text, each with its line break. -/
def physicalLines (text : String) : List String :=
  let parts := text.splitOn "\n"
  let n := parts.length
  (parts.zipIdx.filterMap (fun (p, i) =>
    if i + 1 < n then some (p ++ "\n") else if p.isEmpty then none else some p))

/-- Set the variables of an environment file that are not set yet, up to the first line that
does not parse; `env` is the environment before, and the result the environment after. -/
def load (env : List (String × String)) (file : ByteArray) : List (String × String) :=
  let file := if file.size ≥ 3 && file.get! 0 == 0xef && file.get! 1 == 0xbb && file.get! 2 == 0xbf
    then file.extract 3 file.size else file
  -- a line that is not UTF-8 ends the reading before it
  let text := match Utf8.decode file with
    | .ok t => t
    | .error e =>
      let valid := (file.extract 0 e.validUpTo).data.toList
      let kept := (valid.reverse.dropWhile (· != 10)).reverse
      Utf8.decodeLossy (ByteArray.mk kept.toArray)
  let rec go (fuel : Nat) (env earlier : List (String × String)) (lines : List String) : List (String × String) :=
    match fuel with
    | 0 => env
    | fuel + 1 =>
      match logicalLine lines with
      | none => env
      | some (none, _) => env
      | some (some line, rest) =>
        match parseLine env earlier line with
        | none => env
        | some none => go fuel env earlier rest
        | some (some (k, v)) =>
          let env := if (env.lookup k).isSome then env else env ++ [(k, v)]
          go fuel env ((k, v) :: earlier) rest
  let lines := physicalLines text
  go (lines.length + 1) env [] lines

end SealedMail.Cli.Dotenv

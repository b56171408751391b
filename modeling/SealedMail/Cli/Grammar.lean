import SealedMail.Cli.Integer

/-! # The shape of a command line

A program takes global parameters and one subcommand; each subcommand takes parameters of
its own. A parameter is a positional argument, an option with one value, a switch, or the
help request. An option is named by a short form (`-k`), a long form (`--public-key`) or
both, and its value is shown by a placeholder (`<PUBLIC_KEY>`). A parameter may be
required, required unless another one is given, have a default, or fall back on an
environment variable.

The parser works on a `Level`: the parameters one word of the command line can name at
that point, in the order they were declared (own parameters, then the global ones, then
help), and the subcommands it can switch to.
-/

namespace SealedMail.Cli

/-- How the text of a value is checked. -/
inductive ValueType where
  /-- Any text. -/
  | text
  /-- An integer in `[lo, hi]`. -/
  | integer (lo hi : Int)

/-- What a parameter does when it is given. -/
inductive Action where
  /-- It takes one value. -/
  | set
  /-- It is a switch, on when given. -/
  | flag
  /-- It asks for the help of its command. -/
  | help
deriving DecidableEq

/-- A parameter of a command. -/
structure Param where
  /-- The name the program looks the parameter up by. -/
  id : String
  short : Option Char := none
  long : Option String := none
  /-- The placeholder of its value, without brackets. -/
  valueName : String := ""
  /-- The line of help text. -/
  help : String
  action : Action := .set
  valueType : ValueType := .text
  default : Option String := none
  required : Bool := false
  /-- It is required unless the parameter of this id is given. -/
  requiredUnless : Option String := none
  /-- The environment variable that supplies a value the command line does not. -/
  env : Option String := none
  positional : Bool := false
  /-- It collects any number of values. -/
  many : Bool := false

namespace Param

/-- Whether the parameter takes a value. -/
def takesValue (p : Param) : Bool := p.action == .set

/-- The placeholder of the value: `<NAME>`, or `[NAME]` for an optional positional
argument, with `...` after one that collects many. -/
def placeholder (p : Param) (required : Bool) : String :=
  let core := if p.positional && (!required || p.many) then "[" ++ p.valueName ++ "]"
    else "<" ++ p.valueName ++ ">"
  if p.many then core ++ "..." else core

/-- How the parameter is written in usage lines and messages: its long form (or else its
short form) and the placeholder of its value, as required or not (by default, as the
parameter is). -/
def spell (p : Param) (required : Option Bool := none) : String :=
  let name := match p.long, p.short with
    | some l, _ => "--" ++ l
    | none, some s => "-" ++ s.toString
    | none, none => ""
  let req := required.getD p.required
  if p.positional then p.placeholder req
  else if p.takesValue then name ++ " " ++ p.placeholder req
  else name

/-- The notes after the help text: the environment variable and the default value. -/
def notes (p : Param) : List String :=
  (match p.env with
    | some e => ["[env: " ++ e ++ "]"]
    | none => []) ++
  (match p.default, p.action with
    | some d, .set => ["[default: " ++ d ++ "]"]
    | _, _ => [])

end Param

/-- A subcommand and its own parameters. -/
structure Command where
  name : String
  about : String
  params : List Param

/-- A program: its name, its description, its global parameters and its subcommands. -/
structure Program where
  name : String
  about : String
  globals : List Param
  commands : List Command

/-- What a word of the command line can name at one point. -/
structure Level where
  /-- The words that reach this level, as usage lines show them. -/
  usageName : String
  about : String
  /-- The parameters, in declaration order. -/
  params : List Param
  /-- The subcommands that can follow, with their descriptions. -/
  commands : List (String × String) := []
  /-- Whether a subcommand must follow. -/
  needsCommand : Bool := false
  /-- Whether the level has the help option. -/
  hasHelp : Bool := true
  /-- The long option names of each subcommand, for suggestions. -/
  commandLongs : List (String × List String) := []

/-- The help option of every command. -/
def helpParam : Param :=
  { id := "help", short := some 'h', long := some "help", help := "Print help", action := .help }

/-- The description of the help subcommand. -/
def helpAbout : String := "Print this message or the help of the given subcommand(s)"

namespace Program

/-- The parameters of a subcommand: its own, the global ones, then help. -/
def paramsOf (p : Program) (c : Command) : List Param := c.params ++ p.globals ++ [helpParam]

/-- The level of a subcommand. -/
def levelOf (p : Program) (c : Command) : Level :=
  { usageName := p.name ++ " " ++ c.name, about := c.about, params := p.paramsOf c }

/-- The top level: the global parameters and every subcommand, help last. -/
def root (p : Program) : Level :=
  { usageName := p.name, about := p.about, params := p.globals ++ [helpParam],
    commands := p.commands.map (fun c => (c.name, c.about)) ++ [("help", helpAbout)],
    needsCommand := true,
    commandLongs := p.commands.map (fun c =>
      (c.name, (p.paramsOf c).filterMap (fun q => if q.positional then none else q.long))) ++ [("help", [])] }

/-- The argument of the help subcommand: the names of subcommands. -/
def helpTopics : Param :=
  { id := "subcommand", valueName := "COMMAND", help := "Print help for the subcommand(s)", positional := true,
    many := true }

/-- The level of the help subcommand, which takes subcommand names. -/
def helpLevel (p : Program) : Level :=
  { usageName := p.name ++ " help", about := helpAbout, hasHelp := false, params := [helpTopics] }

/-- The subcommand of a name. -/
def command? (p : Program) (name : String) : Option Command :=
  p.commands.find? (·.name == name)

end Program

namespace Level

/-- The parameter of an id. -/
def find? (l : Level) (id : String) : Option Param := l.params.find? (·.id == id)

/-- The option of a short name. -/
def byShort? (l : Level) (c : Char) : Option Param :=
  l.params.find? (fun p => !p.positional && p.short == some c)

/-- The option of a long name. -/
def byLong? (l : Level) (name : String) : Option Param :=
  l.params.find? (fun p => !p.positional && p.long == some name)

/-- The positional arguments, in order. -/
def positionals (l : Level) : List Param := l.params.filter (·.positional)

/-- The positional argument at a position, counted from one. -/
def positionalAt? (l : Level) (n : Nat) : Option Param := l.positionals[n - 1]?

/-- The position of a positional argument, counted from one. -/
def indexOf (l : Level) (id : String) : Nat :=
  (l.positionals.findIdx? (·.id == id)).map (· + 1) |>.getD 0

/-- The long names, in declaration order. -/
def longNames (l : Level) : List String := l.params.filterMap (fun p => if p.positional then none else p.long)

/-- The ids of the parameters that are always required. -/
def required (l : Level) : List String := (l.params.filter (·.required)).map (·.id)

/-- Whether usage lines mention `[OPTIONS]`: some option other than help is optional. -/
def needsOptionsTag (l : Level) : Bool :=
  l.params.any (fun p => !p.positional && p.action != .help && !p.required)

end Level

end SealedMail.Cli

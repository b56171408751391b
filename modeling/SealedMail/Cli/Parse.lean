import SealedMail.Cli.Diagnostic
import SealedMail.Cli.Similarity

/-! # Reading a command line

The words are read from the left. A word that names a subcommand (while no option waits
for its value) switches to that subcommand's level, and the rest of the words belong to it.
`--` makes every later word a value. `--name` and `--name=value` name options by their
long form; `-abc` is a cluster of short forms, where an option that takes a value takes the
rest of the cluster (after an optional `=`) or else the next word. Other words fill the
positional arguments in order.

An option's value is checked when the option is complete, which is when the next
parameter is met or the words end. A parameter given twice, a value that does not read, an
option without its value, an unknown name and a word no positional argument takes each stop
the reading with a message. At the end of a level the environment supplies what the words
did not, defaults fill in the rest, and the required parameters are checked.

The help option and the `help` subcommand stop the reading with the help text.
-/

namespace SealedMail.Cli

/-- Where the value of a parameter came from, in increasing precedence. -/
inductive Source where
  | default
  | env
  | commandLine
deriving DecidableEq, Repr

/-- The precedence of a source. -/
def Source.rank : Source → Nat
  | .default => 0
  | .env => 1
  | .commandLine => 2

/-- A parameter that received values. -/
structure Given where
  id : String
  source : Source
  values : List String

/-- How a parameter was named on the command line. -/
inductive Naming where
  | short
  | long
  | position

/-- A parameter that has been named and is collecting its values. -/
structure Pending where
  param : Param
  naming : Naming
  values : List String

/-- The state of reading the words of one level. -/
structure Scan where
  /-- The parameters given so far, in the order they were completed. -/
  given : List Given := []
  pending : Option Pending := none
  /-- Whether an option waits for the next word as its value. -/
  awaiting : Bool := false
  /-- The position the next positional word fills, from one. -/
  position : Nat := 1
  /-- Whether `--` was read. -/
  escaped : Bool := false

namespace Scan

/-- The entry of a parameter. -/
def find? (s : Scan) (id : String) : Option Given := s.given.find? (·.id == id)

/-- Whether a parameter was given. -/
def has (s : Scan) (id : String) : Bool := s.given.any (·.id == id)

/-- The parameters the user gave, on the command line or through the environment. -/
def explicit (s : Scan) : List String := (s.given.filter (·.source != .default)).map (·.id)

/-- Record a parameter. -/
def add (s : Scan) (g : Given) : Scan := { s with given := s.given ++ [g] }

/-- Forget a parameter. -/
def remove (s : Scan) (id : String) : Scan := { s with given := s.given.filter (·.id != id) }

/-- Give the waiting option a word as its value. -/
def supply (s : Scan) (w : String) : Scan :=
  { s with pending := s.pending.map (fun pd => { pd with values := pd.values ++ [w] }), awaiting := false }

end Scan

namespace Level

/-- Check a value against its parameter's type. -/
def checkValue (l : Level) (p : Param) (v : String) : Except UsageError Unit :=
  match p.valueType with
  | .text => .ok ()
  | .integer lo hi =>
    match readInteger lo hi v with
    | .ok _ => .ok ()
    | .error e => .error (UsageError.badValue l p v e.message)

/-- Record a parameter with its values: the help option answers with the help text, a
second occurrence is refused, and a value is checked. -/
def apply (l : Level) (p : Param) (source : Source) (values : List String) (s : Scan) :
    Except UsageError Scan := do
  if source == .commandLine && p.takesValue && values.isEmpty then throw (UsageError.emptyValue l p)
  match p.action with
  | .help => throw (UsageError.help l)
  | .flag =>
    if s.has p.id then throw (UsageError.conflict l p)
    return s.add ⟨p.id, source, ["true"]⟩
  | .set =>
    if s.has p.id then throw (UsageError.conflict l p)
    values.forM (l.checkValue p)
    return s.add ⟨p.id, source, values⟩

/-- Complete the pending parameter. -/
def resolve (l : Level) (s : Scan) : Except UsageError Scan :=
  match s.pending with
  | none => .ok s
  | some pd => l.apply pd.param .commandLine pd.values { s with pending := none }

/-- Complete the pending parameter where an error is reported anyway: what completing it
leaves behind, whether or not it succeeds. An option without a value is dropped, a repeated
one removes the first, and any other is recorded. -/
def settle (s : Scan) : Scan :=
  match s.pending with
  | none => s
  | some pd =>
    let s := { s with pending := none }
    if pd.values.isEmpty then s
    else if s.has pd.param.id then s.remove pd.param.id
    else s.add ⟨pd.param.id, .commandLine, pd.values⟩

/-- Complete the pending parameter, then record one given on the command line. -/
def react (l : Level) (p : Param) (values : List String) (s : Scan) : Except UsageError Scan := do
  let s ← l.resolve s
  let s ← l.apply p .commandLine values s
  return { s with awaiting := false }

/-- Start an option whose value is the next word. -/
def await (l : Level) (p : Param) (naming : Naming) (s : Scan) : Except UsageError Scan := do
  let s ← l.resolve s
  return { s with pending := some ⟨p, naming, []⟩, awaiting := true }

/-- The message for an unknown long option: the most similar long name of this level (which
then counts as given), or else a subcommand's similar option when that subcommand is named
later on the line, or else the hint to pass the word as a value. -/
def unknownLong (l : Level) (name : String) (rest : List String) (s : Scan) : UsageError :=
  let word := "--" ++ name
  match closestName? name l.longNames with
  | some cand =>
    let s := match l.byLong? cand with
      | some p => if s.has p.id then s else s.add ⟨p.id, .commandLine, []⟩
      | none => s
    UsageError.unknownArgument l word [similarTip "argument" ["--" ++ cand]] s.explicit
  | none =>
    let offers := l.commandLongs.filterMap (fun (cname, longs) =>
      match closestName? name longs, rest.idxOf? cname with
      | some cand, some at_ => some (at_, cname, cand)
      | _, _ => none)
    let best := offers.foldl (fun (acc : Option (Nat × String × String)) o =>
      match acc with
      | some a => if o.1 < a.1 then some o else some a
      | none => some o) none
    match best with
    | some (_, cname, cand) =>
      UsageError.unknownArgument l word ["'" ++ cname ++ " --" ++ cand ++ "' exists"] s.explicit
    | none =>
      UsageError.unknownArgument l word (if l.positionals.isEmpty then [] else [UsageError.valueTip word])
        s.explicit

/-- Read `--name` with an optional attached value. -/
def longOption (l : Level) (name : String) (attached : Option String) (rest : List String) (s : Scan) :
    Except UsageError Scan :=
  match l.byLong? name with
  | some p =>
    if p.takesValue then
      match attached with
      | some v => l.react p [v] s
      | none => l.await p .long s
    else
      match attached with
      | some v => .error (UsageError.unneededValue l p v (s.explicit ++ [p.id]))
      | none => l.react p [] s
  | none => .error (l.unknownLong name rest (settle s))

/-- Read a cluster of short option names. -/
def shortCluster (l : Level) (escaped : Bool) : List Char → Scan → Except UsageError Scan
  | [], s => .ok s
  | c :: more, s =>
    match l.byShort? c with
    | some p =>
      if p.takesValue then
        let rest := String.ofList more
        if rest.isEmpty then l.await p .short s
        else l.react p [if rest.startsWith "=" then (rest.drop 1).toString else rest] s
      else do
        let s ← l.react p [] s
        l.shortCluster escaped more s
    | none =>
      let word := "-" ++ c.toString
      .error (UsageError.unknownArgument l word
        (if !escaped && !l.positionals.isEmpty then [UsageError.valueTip word] else []) [])

/-- The message for a word that no positional argument takes. -/
def strayWord (l : Level) (w : String) (escaped : Bool) : UsageError :=
  if escaped && l.commands.any (·.1 == w) then
    UsageError.unknownArgument l w ["subcommand '" ++ w ++ "' exists; to use it, remove the '--' before it"] []
  else if !l.commands.isEmpty then
    let similar := similarNames w (l.commands.map (·.1))
    if !similar.isEmpty || l.positionals.isEmpty then UsageError.invalidSubcommand l w similar
    else UsageError.unknownArgument l w [] []
  else UsageError.unknownArgument l w [] []

/-- Give a word to the next positional argument. -/
def positional (l : Level) (w : String) (s : Scan) : Except UsageError Scan :=
  match l.positionalAt? s.position with
  | some p => do
    let s ← l.resolve s
    return { s with pending := some ⟨p, .position, [w]⟩, position := s.position + 1, awaiting := false }
  | none => .error (l.strayWord w s.escaped)

/-- The name and attached value of a long option word, without its leading dashes. -/
def splitLong (body : String) : String × Option String :=
  match body.splitOn "=" with
  | [] => (body, none)
  | [name] => (name, none)
  | name :: vs => (name, some ("=".intercalate vs))

/-- Read the words of a level, up to a subcommand name: the state reached, and the
subcommand with the words after it. -/
def scanWords (l : Level) : List String → Scan → Except UsageError (Scan × Option (String × List String))
  | [], s => .ok (s, none)
  | w :: rest, s =>
    if s.escaped then do
      let s ← l.positional w s
      l.scanWords rest s
    else if !s.awaiting && l.commands.any (·.1 == w) then .ok (s, some (w, rest))
    else if w == "--" then l.scanWords rest { s with escaped := true }
    else if w.startsWith "--" then do
      let (name, attached) := splitLong (w.drop 2).toString
      let s ← l.longOption name attached rest s
      l.scanWords rest s
    else if w.startsWith "-" && w.length > 1 then do
      let s ← l.shortCluster s.escaped (w.drop 1).toString.toList s
      l.scanWords rest s
    else if s.awaiting then l.scanWords rest (s.supply w)
    else do
      let s ← l.positional w s
      l.scanWords rest s

/-- Let the environment supply parameters the words did not give. -/
def addEnv (l : Level) (env : String → Option String) (s : Scan) : Except UsageError Scan :=
  l.params.foldlM (fun s p =>
    match p.env with
    | some name =>
      if s.has p.id then pure s
      else match env name with
        | some v => l.apply p .env [v] s
        | none => pure s
    | none => pure s) s

/-- Fill in the defaults of parameters still missing; a switch defaults to off. -/
def addDefaults (l : Level) (s : Scan) : Scan :=
  l.params.foldl (fun s p =>
    if s.has p.id then s
    else match p.action, p.default with
      | .flag, _ => s.add ⟨p.id, .default, ["false"]⟩
      | .set, some d => s.add ⟨p.id, .default, [d]⟩
      | _, _ => s) s

/-- The parameters that are missing: the required ones not given, those required unless
another is given, and the positional arguments before the last missing one. -/
def missing (l : Level) (s : Scan) : List String :=
  let present := s.explicit
  let always := l.required.filter (fun id => !present.contains id)
  let conditional := (l.params.filter (fun p => !present.contains p.id &&
    match p.requiredUnless with
    | some other => !present.contains other
    | none => false)).map (·.id)
  let first := always ++ conditional
  let highest := first.foldl (fun m id => max m (l.indexOf id)) 0
  let earlier := (l.positionals.filter (fun p => !present.contains p.id && l.indexOf p.id < highest)).map (·.id)
  first ++ earlier

/-- Finish a subcommand's level: complete the pending parameter, consult the environment,
fill in defaults and check that nothing required is missing. -/
def finish (l : Level) (env : String → Option String) (s : Scan) : Except UsageError Scan := do
  let s ← l.resolve s
  let s ← l.addEnv env s
  let s := l.addDefaults s
  let miss := l.missing s
  if !miss.isEmpty then throw (UsageError.missingRequired l miss s.explicit (s.explicit ++ miss))
  return s

end Level

/-- A command line that reads: the top level's parameters, the subcommand and its
parameters. -/
structure Parsed where
  top : Scan
  command : Command
  sub : Scan

namespace Parsed

/-- A global parameter: the subcommand's entry unless the top level's has a stronger source. -/
def global? (r : Parsed) (id : String) : Option Given :=
  match r.top.find? id, r.sub.find? id with
  | some a, some b => if a.source.rank > b.source.rank then some a else some b
  | some a, none => some a
  | none, b => b

/-- The first value of a parameter of the subcommand or a global one. -/
def value? (r : Parsed) (id : String) : Option String := (r.global? id).bind (·.values.head?)

/-- Whether a switch is on. -/
def flag (r : Parsed) (id : String) : Bool :=
  match r.global? id with
  | some g => g.values == ["true"]
  | none => false

end Parsed

namespace Program

/-- The answer of the help subcommand to the words after it: the help of the subcommand
they name. -/
def helpFor (p : Program) (words : List String) : UsageError :=
  match words with
  | [] => UsageError.help p.root
  | w :: rest =>
    let (level, known) :=
      if w == "help" then (p.helpLevel, true)
      else match p.command? w with
        | some c => (p.levelOf c, true)
        | none => (p.root, false)
    if !known then UsageError.invalidSubcommand p.root w []
    else match rest with
      | [] => UsageError.help level
      | w2 :: _ => UsageError.invalidSubcommand level w2 []

/-- Read a command line with the environment that supplies parameter values. -/
def parse (p : Program) (env : String → Option String) (args : List String) : Except UsageError Parsed := do
  let root := p.root
  let (s, next) ← root.scanWords args {}
  match next with
  | none =>
    let s ← root.resolve s
    let s ← root.addEnv env s
    if s.explicit.isEmpty then throw ⟨.displayHelpOnMissingArgumentOrSubcommand, root.helpText⟩
    throw (UsageError.missingSubcommand root p.name)
  | some (name, rest) =>
    if name == "help" then throw (p.helpFor rest)
    match p.command? name with
    | none => throw (UsageError.invalidSubcommand root name [])
    | some c =>
      let l := p.levelOf c
      let (sub, _) ← l.scanWords rest {}
      let sub ← l.finish env sub
      let s ← root.resolve s
      let s ← root.addEnv env s
      return ⟨root.addDefaults s, c, sub⟩

end Program

end SealedMail.Cli

import SealedMail.Cli.Grammar

/-! # Usage lines and help text

A usage line names the program words, then `[OPTIONS]` when some option is optional, the
required options, every positional argument (required ones as `<NAME>`, others as
`[NAME]`) and `<COMMAND>` where a subcommand must follow. In an error message the usage
line is made for the parameters that matter: those given and those missing are written
as required, `[OPTIONS]` is left out, and the optional positional arguments stay.

Help text is the description, the usage line and then one section each for subcommands,
positional arguments and options. Within a section the help texts start in one column,
two spaces after the longest entry.
-/

namespace SealedMail.Cli

/-- Spaces. -/
def spaces (n : Nat) : String := String.ofList (List.replicate n ' ')

/-- Items without repeats, first occurrences kept. -/
def dedup (xs : List String) : List String :=
  xs.foldl (fun acc x => if acc.contains x then acc else acc ++ [x]) []

namespace Level

/-- The parameter words of a usage line that mentions the parameters of `ids` besides
the required ones: options first, in order of mention, then every positional argument. -/
def argWords (l : Level) (ids : List String) : List String :=
  let mentioned := l.required ++ ids
  let opts := dedup (mentioned.filterMap (fun id =>
    (l.find? id).bind (fun p => if p.positional then none else some (p.spell (some true)))))
  let pos := l.positionals.map (fun p => p.spell (some (mentioned.contains p.id)))
  opts ++ pos

/-- The usage line of the help text. -/
def helpUsage (l : Level) : String :=
  " ".intercalate ([l.usageName] ++ (if l.needsOptionsTag then ["[OPTIONS]"] else []) ++ l.argWords [] ++
    (if l.needsCommand then ["<COMMAND>"] else []))

/-- The usage line of an error about the parameters of `ids`; with none, the help usage. -/
def usage (l : Level) (ids : List String) : String :=
  if ids.isEmpty then l.helpUsage
  else " ".intercalate ([l.usageName] ++ l.argWords ids ++ (if l.needsCommand then ["<COMMAND>"] else []))

/-- The words that list what is missing: the missing options, then the missing positional
arguments in order, each as required; those given are left out. -/
def missingWords (l : Level) (missing given : List String) : List String :=
  let mentioned := (l.required ++ missing).filter (fun id => !given.contains id)
  let opts := dedup (mentioned.filterMap (fun id =>
    (l.find? id).bind (fun p => if p.positional then none else some (p.spell (some true)))))
  let pos := (l.positionals.filter (fun p => mentioned.contains p.id)).map (fun p => p.spell (some true))
  opts ++ pos

/-- The left column of an option's help line: its short form or four spaces, its long
form and the placeholder of its value. -/
def optionLead (p : Param) : String :=
  let short := match p.short with
    | some s => "-" ++ s.toString
    | none => "    "
  let long := match p.long with
    | some l => (if p.short.isSome then ", " else "") ++ "--" ++ l
    | none => ""
  let value := if p.takesValue then " " ++ p.placeholder true else ""
  short ++ long ++ value

/-- The help text of a parameter with its notes. -/
def helpWithNotes (p : Param) : String := " ".intercalate ([p.help] ++ p.notes |>.filter (!·.isEmpty))

/-- Lines with their help texts aligned two spaces after the widest entry (at least two
wide), each entry given as its text and its help. -/
def alignedLines (entries : List (String × String)) : List String :=
  let longest := entries.foldl (fun m e => max m e.1.length) 2
  entries.map (fun (lead, h) => "  " ++ lead ++ spaces (longest + 2 - lead.length) ++ h)

/-- The sections of the help text. -/
def sections (l : Level) : List String :=
  let cmds := if l.commands.isEmpty then [] else
    ["Commands:\n" ++ "\n".intercalate (alignedLines l.commands)]
  let posParams := l.positionals
  let args := if posParams.isEmpty then [] else
    ["Arguments:\n" ++ "\n".intercalate (alignedLines
      (posParams.map (fun p => (p.spell, helpWithNotes p))))]
  let optParams := l.params.filter (!·.positional)
  let opts := if optParams.isEmpty then [] else
    ["Options:\n" ++ "\n".intercalate (optParams.map (fun p =>
      let longest := optParams.foldl (fun m q => max m q.spell.length) 2
      let lead := optionLead p
      let pad := longest + 2 + 4 - lead.length
      "  " ++ lead ++ spaces pad ++ helpWithNotes p))]
  cmds ++ args ++ opts

/-- The help text of the level. -/
def helpText (l : Level) : String :=
  l.about ++ "\n\nUsage: " ++ l.helpUsage ++ "\n\n" ++ "\n\n".intercalate l.sections ++ "\n"

end Level

end SealedMail.Cli

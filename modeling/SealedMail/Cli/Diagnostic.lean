import SealedMail.Cli.Usage

/-! # Messages about the command line

A command line that cannot be run is answered with a message and an exit status: help that
was asked for exits with status 0, every other message with status 2. A message starts
with `error: `, may give tips on lines of their own, shows a usage line and ends by
pointing at `--help` where the command has that option.
-/

namespace SealedMail.Cli

/-- What kind of answer the command line gets instead of a run. -/
inductive UsageKind where
  | displayHelp
  | displayHelpOnMissingArgumentOrSubcommand
  | missingRequiredArgument
  | valueValidation
  | unknownArgument
  | argumentConflict
  | invalidValue
  | missingSubcommand
  | invalidSubcommand
  | tooManyValues
deriving DecidableEq, Repr

namespace UsageKind

/-- The name of a kind. -/
def name : UsageKind → String
  | .displayHelp => "DisplayHelp"
  | .displayHelpOnMissingArgumentOrSubcommand => "DisplayHelpOnMissingArgumentOrSubcommand"
  | .missingRequiredArgument => "MissingRequiredArgument"
  | .valueValidation => "ValueValidation"
  | .unknownArgument => "UnknownArgument"
  | .argumentConflict => "ArgumentConflict"
  | .invalidValue => "InvalidValue"
  | .missingSubcommand => "MissingSubcommand"
  | .invalidSubcommand => "InvalidSubcommand"
  | .tooManyValues => "TooManyValues"

/-- The exit status: zero for help that was asked for. -/
def exitCode (k : UsageKind) : Nat := if k == .displayHelp then 0 else 2

/-- Whether the message goes to standard output rather than standard error. -/
def toStdout (k : UsageKind) : Bool := k == .displayHelp

end UsageKind

/-- A command line that is not run, and what is said about it. -/
structure UsageError where
  kind : UsageKind
  message : String

/-- An error message: the headline, the tips, the usage line and the pointer to help. -/
def errorText (l : Level) (headline : String) (tips : List String) (usage : Option String) : String :=
  "error: " ++ headline ++
  (if tips.isEmpty then "" else "\n" ++ String.join (tips.map ("\n  tip: " ++ ·))) ++
  (match usage with
    | some u => "\n\nUsage: " ++ u
    | none => "") ++
  (if l.hasHelp then "\n\nFor more information, try '--help'.\n" else "\n")

/-- The tip that names similar names of a kind. -/
def similarTip (what : String) (names : List String) : String :=
  let quoted := ", ".intercalate (names.map (fun n => "'" ++ n ++ "'"))
  if names.length == 1 then "a similar " ++ what ++ " exists: " ++ quoted
  else "some similar " ++ what ++ "s exist: " ++ quoted

namespace UsageError

/-- The help of a level, asked for. -/
def help (l : Level) : UsageError := ⟨.displayHelp, l.helpText⟩

/-- A word that names no parameter here. -/
def unknownArgument (l : Level) (arg : String) (tips : List String) (used : List String) : UsageError :=
  ⟨.unknownArgument, errorText l ("unexpected argument '" ++ arg ++ "' found") tips (some (l.usage used))⟩

/-- The tip for a word that looks like an option but could be a value. -/
def valueTip (arg : String) : String := "to pass '" ++ arg ++ "' as a value, use '-- " ++ arg ++ "'"

/-- A word that names no subcommand, with the similar names. -/
def invalidSubcommand (l : Level) (word : String) (similar : List String) : UsageError :=
  ⟨.invalidSubcommand, errorText l ("unrecognized subcommand '" ++ word ++ "'")
    (if similar.isEmpty then [] else [similarTip "subcommand" similar]) (some (l.usage []))⟩

/-- A parameter given twice. -/
def conflict (l : Level) (p : Param) : UsageError :=
  ⟨.argumentConflict, errorText l ("the argument '" ++ p.spell ++ "' cannot be used multiple times") []
    (some (l.usage []))⟩

/-- An option that needs a value and got none. -/
def emptyValue (l : Level) (p : Param) : UsageError :=
  ⟨.invalidValue, errorText l ("a value is required for '" ++ p.spell ++ "' but none was supplied") [] none⟩

/-- A value its parameter does not accept. -/
def badValue (l : Level) (p : Param) (value reason : String) : UsageError :=
  ⟨.valueValidation, errorText l ("invalid value '" ++ value ++ "' for '" ++ p.spell ++ "': " ++ reason) [] none⟩

/-- A switch given a value. -/
def unneededValue (l : Level) (p : Param) (value : String) (used : List String) : UsageError :=
  ⟨.tooManyValues, errorText l ("unexpected value '" ++ value ++ "' for '" ++ p.spell ++ "' found; no more were expected")
    [] (some (l.usage used))⟩

/-- Required parameters that were not given. -/
def missingRequired (l : Level) (missing given used : List String) : UsageError :=
  ⟨.missingRequiredArgument, errorText l ("the following required arguments were not provided:" ++
    String.join ((l.missingWords missing given).map ("\n  " ++ ·))) [] (some (l.usage used))⟩

/-- No subcommand where one must follow. -/
def missingSubcommand (l : Level) (program : String) : UsageError :=
  ⟨.missingSubcommand, errorText l ("'" ++ program ++ "' requires a subcommand but one was not provided" ++
    "\n  [subcommands: " ++ ", ".intercalate (l.commands.map (·.1)) ++ "]") [] (some (l.usage []))⟩

end UsageError

end SealedMail.Cli

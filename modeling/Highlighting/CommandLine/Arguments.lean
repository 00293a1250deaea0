import Highlighting.Highlighter

/-!
The arguments of the command line.
-/
namespace Highlighting.CommandLine

structure Options where
  language : Option String := none
  theme : Option String := none
  spans : Bool := false
  file : Option String := none
  deriving DecidableEq, Repr

inductive Command where
  | highlight (options : Options)
  | help
  | version
  | list
  deriving DecidableEq, Repr

inductive UsageFault where
  | missingLanguage
  | missingTheme
  | unknownOption (option : String)
  | secondFile
  deriving DecidableEq, Repr

def UsageFault.message : UsageFault → String
  | missingLanguage => "--language requires a value"
  | missingTheme => "--theme requires a value"
  | unknownOption option => "unknown option '" ++ option ++ "'"
  | secondFile => "only one input file may be given"

inductive Item where
  | stop (command : Command)
  | spans
  | language
  | theme
  | standardInput
  | file
  | unknown
  deriving DecidableEq, Repr

def Item.ofArgument (argument : String) : Item :=
  if argument = "--help" ∨ argument = "-h" then stop .help
  else if argument = "--version" ∨ argument = "-V" then stop .version
  else if argument = "--list" then stop .list
  else if argument = "--spans" ∨ argument = "-s" then spans
  else if argument = "--language" ∨ argument = "-l" then language
  else if argument = "--theme" ∨ argument = "-t" then theme
  else if argument = "-" then standardInput
  else if argument.toList.head? = some '-' then unknown
  else file

/-- Reads the arguments behind those that gave some options. The first one that settles the command
or is wrong decides. -/
def parseFrom (options : Options) : List String → Except UsageFault Command
  | [] => .ok (.highlight options)
  | argument :: rest =>
    match Item.ofArgument argument with
    | .stop command => .ok command
    | .spans => parseFrom { options with spans := true } rest
    | .language => match rest with
      | [] => .error .missingLanguage
      | value :: rest => parseFrom { options with language := some value } rest
    | .theme => match rest with
      | [] => .error .missingTheme
      | value :: rest => parseFrom { options with theme := some value } rest
    | .standardInput => parseFrom { options with file := none } rest
    | .unknown => .error (.unknownOption argument)
    | .file =>
      if options.file.isSome then .error .secondFile
      else parseFrom { options with file := some argument } rest

def parse (arguments : List String) : Except UsageFault Command := parseFrom {} arguments

end Highlighting.CommandLine

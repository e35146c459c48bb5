/-
**Options and errors of the command line.**

The program takes two options with a value and three without.  What a command line asks for is one
of three things: displays are listed, or the help text or the version is printed.  A command line
that asks for nothing that exists is refused with a usage error.

Main definitions:

* `Scanout.CommandOption` — the options, with their spellings;
* `Scanout.Settings`, `Scanout.Invocation` — what a command line asks for;
* `Scanout.UsageError`, `Scanout.UsageError.message` — why one is refused;
* `Scanout.helpText`, `Scanout.versionText` — what is printed on request.
-/

import Scanout.Path
import Scanout.Text.Styled

set_option relaxedAutoImplicit false
set_option autoImplicit false

namespace Scanout

open Text (Styled)
open Text.Styled (plain heading literal valid invalid error)

/-! ### Options -/

/-- The options of the command line. -/
inductive CommandOption where
  /-- The path of the configuration. -/
  | config
  /-- A node to probe; may be given more than once. -/
  | device
  /-- The listing is written as JSON. -/
  | json
  | help
  | version
  deriving DecidableEq, Repr

namespace CommandOption

/-- All options, in the order in which they are listed. -/
def all : List CommandOption := [.config, .device, .json, .help, .version]

/-- The long name. -/
def longName : CommandOption → String
  | .config => "config"
  | .device => "device"
  | .json => "json"
  | .help => "help"
  | .version => "version"

/-- The letter. -/
def letter? : CommandOption → Option Char
  | .config => some 'c'
  | .device => some 'd'
  | .json => none
  | .help => some 'h'
  | .version => some 'V'

/-- What the value of an option is called; options without a value have none. -/
def valueName? : CommandOption → Option String
  | .config => some "CONFIG"
  | .device => some "DEVICE"
  | .json | .help | .version => none

/-- Whether the option has a value. -/
def takesValue (o : CommandOption) : Bool := o.valueName?.isSome

/-- The name of an option with its hyphens. -/
def spelling (o : CommandOption) : String := s!"--{o.longName}"

/-- What follows the name of an option where its value is shown. -/
def valueSuffix (o : CommandOption) : String :=
  match o.valueName? with
  | some name => s!" <{name}>"
  | none => ""

/-- The option as messages show it. -/
def shown (o : CommandOption) : String := o.spelling ++ o.valueSuffix

/-- The option as usages and the help text show it. -/
def styled (o : CommandOption) : Styled := [literal o.spelling, plain o.valueSuffix]

/-- What the option is for, in one line. -/
def summary : CommandOption → String
  | .config => "Path to the config file (default: \x60$XDG_CONFIG_HOME/kmspipe/config.kdl\x60)"
  | .device => "Device node to probe instead of the configured or discovered ones. Repeatable"
  | .json => "Print pipelines as JSON"
  | .help => "Print help"
  | .version => "Print version"

/-- Whether the option says how displays are listed. -/
def isListing (o : CommandOption) : Bool := o ≠ .help && o ≠ .version

/-- The option with a long name. -/
def ofLongName? (name : String) : Option CommandOption := all.find? (·.longName = name)

/-- The option with a letter. -/
def ofLetter? (c : Char) : Option CommandOption := all.find? (·.letter? = some c)

end CommandOption

/-! ### What is asked for -/

/-- How displays are to be listed. -/
structure Settings where
  /-- The path of the configuration, if it is not the default one. -/
  config : Option Path
  /-- The nodes to probe; if there are none, the configuration names them. -/
  devices : List Path
  /-- Whether the listing is written as JSON. -/
  json : Bool
  deriving Repr

/-- What a command line asks for. -/
inductive Invocation where
  | list (settings : Settings)
  | help
  | version
  deriving Repr

/-! ### Texts -/

/-- The name of the program. -/
def programName : String := "kmspipe"

/-- A usage of the program. -/
def usage (arguments : Styled) : Styled :=
  [heading "Usage:", plain " ", literal programName] ++ arguments

/-- The usage in general. -/
def generalUsage : Styled := usage [plain " [OPTIONS]"]

/-- The usage with some options, or in general if there are none. -/
def usageWith (options : List CommandOption) : Styled :=
  if options.isEmpty then generalUsage
  else usage (options.flatMap fun o => plain " " :: o.styled)

/-- The listing options as alternatives. -/
def listingAlternatives : String :=
  "|".intercalate ((CommandOption.all.filter (·.isListing)).map (·.shown))

/-- The usage with an option beside listing options, which stand for each other. -/
def usageBesideListing (o : CommandOption) : Styled :=
  usage ((if o.isListing then [] else plain " " :: o.styled) ++ [plain s!" <{listingAlternatives}>"])

/-- The line of an option in the help text; summaries begin in one column. -/
def helpLine (o : CommandOption) : Styled :=
  let letter := match o.letter? with
    | some c => [plain "  ", literal s!"-{c}", plain ", "]
    | none => [plain "      "]
  let padding := List.replicate (19 - o.shown.length) ' '
  letter ++ o.styled ++ [plain (String.ofList padding ++ o.summary ++ "\n")]

/-- The help text. -/
def helpText : Styled :=
  [plain "Discovery of kernel mode-setting resources and display pipeline assignment\n\n"] ++
    generalUsage ++ [plain "\n\n", heading "Options:", plain "\n"] ++
    CommandOption.all.flatMap helpLine

/-- The name and version of the program. -/
def versionText : String := s!"{programName} 0.3.0\n"

/-! ### Refused command lines -/

/-- Why a command line is refused. -/
inductive UsageError where
  /-- An argument is not an option, or nothing takes it.  An unknown long option may be similar to
  one that exists; `used` are the options before it. -/
  | unexpectedArgument (shown : String) (similar : Option CommandOption)
      (used : List CommandOption)
  /-- The value of an option is missing or empty. -/
  | missingValue (o : CommandOption)
  /-- An option that may be given once is given again. -/
  | repeated (o : CommandOption)
  /-- An option without a value is given one; listing options may have taken effect before. -/
  | unneededValue (value : String) (o : CommandOption) (besideListing : Bool)
  deriving DecidableEq, Repr

namespace UsageError

/-- A paragraph that says what is wrong. -/
def complaint (text : Styled) : Styled := error "error:" :: plain " " :: text

/-- The paragraphs about an error. -/
def paragraphs : UsageError → List Styled
  | .unexpectedArgument shown similar used =>
    let tip (o : CommandOption) : Styled :=
      [plain "  ", valid "tip:", plain " a similar argument exists: '", valid o.spelling, plain "'"]
    [complaint [plain "unexpected argument '", invalid shown, plain "' found"]] ++
      (similar.map tip).toList ++ [usageWith used]
  | .missingValue o =>
    [complaint [plain "a value is required for '", invalid o.shown,
      plain "' but none was supplied"]]
  | .repeated o =>
    [complaint [plain "the argument '", invalid o.shown, plain "' cannot be used multiple times"],
      generalUsage]
  | .unneededValue value o besideListing =>
    [complaint [plain "unexpected value '", invalid value, plain "' for '", literal o.shown,
        plain "' found; no more were expected"],
      if besideListing then usageBesideListing o else usageWith [o]]

/-- Where to read more. -/
def hint : Styled :=
  [plain "For more information, try '", literal CommandOption.help.spelling, plain "'.\n"]

/-- The text of an error. -/
def message (e : UsageError) : Styled :=
  [plain "\n\n"].intercalate (e.paragraphs ++ [hint])

end UsageError

end Scanout

/-! # The options of the command line

The command line drives a configured limiter with a burst of simulated requests. It knows
eight options: the configuration file (`-c`, `--config`), the address and tier of the
simulated client, the number of requests (`-n`, `--requests`), whether to ask for usage
signals, whether logs are JSON, and help and version. Four of them take a value.

This module holds the table of options with their names and help lines, the settings they
make (`Options`, whose defaults are those of a bare command line), and the help and
version texts.
-/

namespace Throttle

namespace Cli

/-- The name the program goes by. -/
def programName : String := "gatekeeper"

/-- The program's version. -/
def programVersion : String := "0.1.0"

/-- What the program does, as its help says. -/
def programAbout : String :=
  "Pluggable request admission control with interchangeable rate limiting algorithms"

/-- An option of the command line. -/
inductive Flag where
  | config
  | remoteAddr
  | tier
  | requests
  | signal
  | jsonLogs
  | help
  | version
deriving DecidableEq, Inhabited, Repr

namespace Flag

/-- The options in the order help lists them. -/
def all : List Flag := [config, remoteAddr, tier, requests, signal, jsonLogs, help, version]

/-- The long name, written after `--`. -/
def long : Flag → String
  | config => "config"
  | remoteAddr => "remote-addr"
  | tier => "tier"
  | requests => "requests"
  | signal => "signal"
  | jsonLogs => "json-logs"
  | help => "help"
  | version => "version"

/-- The short name, written after `-`, if the option has one. -/
def short? : Flag → Option Char
  | config => some 'c'
  | requests => some 'n'
  | help => some 'h'
  | version => some 'V'
  | _ => none

/-- The name of the value the option takes, if it takes one. -/
def valueName? : Flag → Option String
  | config => some "CONFIG"
  | remoteAddr => some "REMOTE_ADDR"
  | tier => some "TIER"
  | requests => some "REQUESTS"
  | _ => none

/-- Whether the option takes a value. -/
def takesValue (f : Flag) : Bool := f.valueName?.isSome

/-- The option as errors and usage lines name it: its long name and its value's name. -/
def display (f : Flag) : String :=
  "--" ++ f.long ++ match f.valueName? with
    | some v => " <" ++ v ++ ">"
    | none => ""

/-- The line of help that says what the option does. -/
def about : Flag → String
  | config => "Configuration file (YAML, TOML or JSON)"
  | remoteAddr => "Remote address the simulated requests come from [default: 127.0.0.1]"
  | tier => "Subscription tier of the simulated client"
  | requests => "Number of requests to send [default: 25]"
  | signal => "Request usage signals on every response"
  | jsonLogs => "Emit logs as JSON"
  | help => "Print help"
  | version => "Print version"

/-- The option with a long name. -/
def ofLong? (name : String) : Option Flag := all.find? (·.long == name)

/-- The option with a short name. -/
def ofShort? (c : Char) : Option Flag := all.find? (·.short? == some c)

/-- The names column of the option's help line. -/
def names (f : Flag) : String :=
  (match f.short? with
    | some c => "  -" ++ String.singleton c ++ ", "
    | none => "      ") ++ f.display

end Flag

/-- What a command line sets; the defaults are those of a bare command line. -/
structure Options where
  config : Option String := none
  remoteAddr : String := "127.0.0.1"
  tier : Option String := none
  requests : Nat := 25
  signal : Bool := false
  jsonLogs : Bool := false
deriving Inhabited, Repr

/-- The usage line for a command line that used the options `used`: the options
themselves, or a placeholder when none was used. -/
def usage (used : List Flag) : String :=
  "Usage: " ++ programName ++ " " ++
    (if used.isEmpty then "[OPTIONS]" else " ".intercalate (used.map Flag.display))

/-- The lines of help: what the program does, its usage, and a line per option with the
descriptions aligned two spaces after the widest names column. -/
def helpLines : List String :=
  let width := (Flag.all.map fun f => f.names.length).foldl max 0
  let pad (s : String) : String := s ++ String.ofList (List.replicate (width + 2 - s.length) ' ')
  [programAbout, "", usage [], "", "Options:"] ++
    Flag.all.map fun f => pad f.names ++ f.about

/-- The line that names the version. -/
def versionLine : String := programName ++ " " ++ programVersion

end Cli

end Throttle

import Throttle.Cli.Options
import Throttle.Text.Similarity

/-! # Reading the command line

The arguments are read left to right. `--name` and `--name=value` name an option by its
long name; `-x` names one by its short name, and several short options without values may
share one dash (`-xy`); a short option that takes a value takes the rest of its argument
(after an optional `=`), or else the next argument, whatever it looks like unless it looks
like an option. After `--` every argument is a plain value that no option takes, even
one still waiting for its value. A plain value that no option waits for is refused, as is
an unknown option, an option given twice, a value for an option that takes none, an
option missing its value, and a count that does not read.

An option's value is checked only when the next option is met or the arguments end, so
of two faults the later option's can win; help and version end the reading at once, but
only after the waiting option is settled. An unknown option or stray value wins over a
waiting option's fault.

A refusal's text names the options used so far in its usage line, and an unknown long
option is answered with the most similar known name, when there is one.
-/

namespace Throttle

namespace Cli

/-- Why a command line is refused. -/
inductive UsageError where
  /-- An argument that names no option, or a value no option waits for, with the option
  most like it and the options used so far. -/
  | unknown (arg : String) (suggestion : Option Flag) (used : List Flag)
  /-- An option that takes a value was given none. -/
  | missingValue (f : Flag)
  /-- A value that does not read for its option. -/
  | invalidValue (f : Flag) (value : String) (reason : String)
  /-- An option that takes no value was given one. -/
  | unneededValue (f : Flag) (value : String) (used : List Flag)
  /-- An option given more than once. -/
  | repeated (f : Flag)
deriving Inhabited, Repr

namespace UsageError

/-- The closing line of every refusal. -/
def tryHelp : String := "\n\nFor more information, try '--help'.\n"

/-- The text of a refusal. -/
def message : UsageError → String
  | unknown arg suggestion used =>
    "error: unexpected argument '" ++ arg ++ "' found" ++
      (match suggestion with
        | some f => "\n\n  tip: a similar argument exists: '--" ++ f.long ++ "'"
        | none => "") ++
      "\n\n" ++ usage used ++ tryHelp
  | missingValue f =>
    "error: a value is required for '" ++ f.display ++ "' but none was supplied" ++ tryHelp
  | invalidValue f value reason =>
    "error: invalid value '" ++ value ++ "' for '" ++ f.display ++ "': " ++ reason ++ tryHelp
  | unneededValue f value used =>
    "error: unexpected value '" ++ value ++ "' for '" ++ f.display ++
      "' found; no more were expected" ++ "\n\n" ++ usage used ++ tryHelp
  | repeated f =>
    "error: the argument '" ++ f.display ++ "' cannot be used multiple times" ++ "\n\n" ++
      usage [] ++ tryHelp

end UsageError

/-- Why an unsigned count does not read. -/
inductive CountFault where
  | empty
  | invalidDigit
  | tooLarge
deriving DecidableEq, Repr

/-- The wording of a count fault. -/
def CountFault.message : CountFault → String
  | .empty => "cannot parse integer from empty string"
  | .invalidDigit => "invalid digit found in string"
  | .tooLarge => "number too large to fit in target type"

/-- Read decimal digits onto `acc`, left to right: a non-digit is refused where it stands,
and a count that reaches `2 ^ 64` is refused at the digit that makes it so. -/
def countDigits (acc : Nat) : List Char → Except CountFault Nat
  | [] => .ok acc
  | c :: rest =>
    if !c.isDigit then .error .invalidDigit
    else
      let n := acc * 10 + (c.toNat - '0'.toNat)
      if n < Nat.pow 2 64 then countDigits n rest else .error .tooLarge

/-- An unsigned 64-bit count in decimal, with an optional plus sign. -/
def readCount (s : String) : Except CountFault Nat :=
  match s.toList with
  | [] => .error .empty
  | ['+'] | ['-'] => .error .invalidDigit
  | '+' :: rest => countDigits 0 rest
  | cs => countDigits 0 cs

/-- How the reading stops early. -/
inductive Stop where
  | refuse (e : UsageError)
  | help
  | version

/-- What has been read so far: the options used, in the order first met, the settings
they made, the option waiting for its value (with the value once it came), and whether
`--` has been passed. -/
structure Reading where
  used : List Flag := []
  options : Options := {}
  waiting : Option (Flag × Option String) := none
  plain : Bool := false

/-- A step of reading the command line; what it read stays when it stops. -/
abbrev Read := ExceptT Stop (StateM Reading)

/-- Set what an option with its value makes. -/
def assign (f : Flag) (value : Option String) : Read Unit := do
  let v := value.getD ""
  let o := (← get).options
  let o ← match f with
    | .config => pure { o with config := some v }
    | .remoteAddr => pure { o with remoteAddr := v }
    | .tier => pure { o with tier := some v }
    | .requests =>
      match readCount v with
      | .ok n => pure { o with requests := n }
      | .error e => throw (.refuse (.invalidValue f v e.message))
    | .signal => pure { o with signal := true }
    | .jsonLogs => pure { o with jsonLogs := true }
    | _ => pure o
  modify fun r => { r with options := o }

/-- Take an option with its value. A repeated option is dropped from the used ones as it
is refused. -/
def accept (f : Flag) (value : Option String) : Read Unit := do
  if f.takesValue && value.isNone then throw (.refuse (.missingValue f))
  match f with
  | .help => throw .help
  | .version => throw .version
  | _ => pure ()
  let r ← get
  if r.used.contains f then
    set { r with used := r.used.erase f }
    throw (.refuse (.repeated f))
  set { r with used := r.used ++ [f] }
  assign f value

/-- Settle the waiting option, if any. -/
def settle : Read Unit := do
  match (← get).waiting with
  | none => pure ()
  | some (f, v) =>
    modify fun r => { r with waiting := none }
    accept f v

/-- Settle the waiting option, keeping what settling read but not its fault. -/
def settleQuietly : Read Unit := tryCatch settle fun _ => pure ()

/-- Settle the waiting option, then take an option with its value. -/
def react (f : Flag) (value : Option String) : Read Unit := do
  settle
  accept f value

/-- Make an option wait for its value in the next argument. -/
def expectValue (f : Flag) : Read Unit := do
  settle
  modify fun r => { r with waiting := some (f, none) }

/-- Refuse an argument as unknown. -/
def refuseUnknown {α : Type} (arg : String) (suggestion : Option Flag) (fromNow : Bool) :
    Read α := do
  settleQuietly
  let now := (← get).used
  let used := if fromNow then now else []
  let used := match suggestion with
    | some f => if used.contains f then used else used ++ [f]
    | none => used
  throw (.refuse (.unknown arg suggestion used))

/-- A plain value: the waiting option's, or refused. -/
def plainValue (arg : String) : Read Unit := do
  match (← get).waiting with
  | some (f, none) => modify fun r => { r with waiting := some (f, some arg) }
  | _ => refuseUnknown arg none false

/-- A long option, with the value after its `=`. -/
def longOption (name : String) (attached : Option String) : Read Unit :=
  match Flag.ofLong? name with
  | none =>
    let suggestion := (Text.closest? name (Flag.all.map Flag.long)).bind Flag.ofLong?
    refuseUnknown ("--" ++ name) suggestion true
  | some f =>
    if f.takesValue then
      match attached with
      | some v => react f (some v)
      | none => expectValue f
    else
      match attached with
      | some v => do
        let used := (← get).used
        let used := if used.contains f then used else used ++ [f]
        settleQuietly
        throw (.refuse (.unneededValue f v used))
      | none => react f none

/-- A run of short options after one dash. -/
def shortOptions : List Char → Read Unit
  | [] => pure ()
  | c :: rest =>
    match Flag.ofShort? c with
    | none => refuseUnknown ("-" ++ String.singleton c) none false
    | some f =>
      if f.takesValue then
        if rest.isEmpty then expectValue f
        else
          let v := match rest with
            | '=' :: r => r
            | r => r
          react f (some (String.ofList v))
      else do
        react f none
        shortOptions rest

/-- Read one argument. -/
def argument (arg : String) : Read Unit := do
  if (← get).plain then refuseUnknown arg none false
  else if arg == "--" then modify fun r => { r with plain := true }
  else if arg.startsWith "--" then
    let body := (arg.drop 2).toString
    match body.splitOn "=" with
    | name :: rest => longOption name (if rest.isEmpty then none else some ("=".intercalate rest))
    | [] => plainValue arg
  else if arg.startsWith "-" && arg != "-" then shortOptions (arg.drop 1).toString.toList
  else plainValue arg

/-- What a command line asks for. -/
inductive Command where
  | run (o : Options)
  | help
  | version
deriving Inhabited, Repr

/-- Read a command line: what it asks for, or why it is refused. -/
def Command.ofArgs (args : List String) : Except UsageError Command :=
  let read : Read Unit := do
    args.forM argument
    settle
  match (read.run.run {}) with
  | (.ok (), r) => .ok (.run r.options)
  | (.error .help, _) => .ok .help
  | (.error .version, _) => .ok .version
  | (.error (.refuse e), _) => .error e

end Cli

end Throttle

import Throttle.Cli.Run

/-! # The program

The program reads its command line, the settings files the command line may name, and the
variables that set the configuration's fixed keys, hands them to `Cli.run`, and writes what
the run leaves: the lines of its answers, its error text, and its exit code.

Variables are looked up by their names in upper case, one per key of the configuration
that is not a tier's; a file that cannot be read counts as absent.
-/

open Throttle

/-- The key paths of the configuration that a variable may set. -/
def configurationKeys : List (List String) :=
  [["limiter", "algorithm"], ["limiter", "capacity_multiplier"],
    ["limiter", "max_entries_per_key"], ["policy", "requests"], ["policy", "window_secs"],
    ["policy", "fallback_tier"], ["eviction", "enabled"], ["eviction", "idle_ttl_secs"],
    ["eviction", "sweep_interval_secs"]]

/-- The variables that set the configuration, with their values. -/
def readEnvironment : IO (List (String × String)) := do
  let names := configurationKeys.map fun k =>
    "__".intercalate (("gatekeeper" :: k).map String.toUpper)
  names.filterMapM fun n => do
    match ← IO.getEnv n with
    | some v => pure (some (n, v))
    | none => pure none

/-- The files among `names` that can be read, with their text. -/
def readFolder (names : List String) : IO Folder := do
  let entries ← names.filterMapM fun (n : String) => do
    try
      let text ← IO.FS.readFile n
      pure (some (n, Entry.file text))
    catch _ => pure none
  pure ⟨entries⟩

/-- Run the program on its command line. -/
def main (args : List String) : IO UInt32 := do
  let dir ← match Cli.Command.ofArgs args with
    | .ok (.run o) => readFolder ((o.config.map Folder.settingsNames).getD [])
    | _ => pure Folder.empty
  let out := Cli.run args dir (← readEnvironment)
  let stdout ← IO.getStdout
  for line in out.stdout do
    stdout.putStrLn line
  stdout.flush
  let stderr ← IO.getStderr
  stderr.putStr out.stderr
  stderr.flush
  pure out.exitCode.toUInt32

import Throttle.Cli.Parse
import Throttle.Config.Layered
import Throttle.Admission.Guard
import Throttle.Admission.Card
import Throttle.Json.Printer

/-! # Running the command line

A run loads the layered configuration (the file named by `--config`, then the
environment), builds its limiter and policy table, and sends the requested number of
simulated requests from one client through admission control to a greeter that answers
`Hello World`. Every answer is printed as a line of JSON. With `--signal` the client asks
for usage signals the way one does after reading the agent's card, so every answer
carries the decision of its check.

The requests follow each other with no time between them, on a clock that stands still:
what a run prints does not depend on when it runs, apart from the times in the answers.

A run ends with one of three exit codes: 0 when every request was answered, 2 when the
command line is refused (with the refusal on the error stream), and 1 when the
configuration or a request fails (with `Error: ` and the error's text).
-/

namespace Throttle

open Admission

/-- The admission control a configuration sets up: its limiter and policy table, with
the standard key. -/
def Config.control (c : Config) : Except Error Control := do
  let l ← c.buildLimiter
  let t ← c.policyTable
  pure ⟨l, Request.standardKey, t⟩

namespace Cli

/-- What a run of the program leaves: its exit code and what it wrote. -/
structure Outcome where
  exitCode : Nat
  stdout : List String
  stderr : String
deriving Inhabited, Repr

/-- The handler being protected: it greets. -/
def greeter : Handler Unit := fun st _ => (st, .ok (Message.ofText "Hello World"))

/-- The card of the simulated agent, offering usage signalling. -/
def agentCard : Card := Card.advertise ⟨"Hello World Agent", []⟩

/-- The request of the simulated client. -/
def simulatedRequest (o : Options) : Request :=
  let r : Request := Request.withRemoteAddr {} o.remoteAddr
  let r := match o.tier with
    | some t => r.withTier t
    | none => r
  if o.signal then
    match intercept (some agentCard) [] with
    | (true, h) =>
      match h.lookup capabilityHeader with
      | some v => r.withExtensionHeader v
      | none => r
    | (false, _) => r
  else r

/-- Send `n` copies of a request through guarded control at `now`: the answers printed,
up to the first failure, and the failure. -/
def burst (c : Control) (now : Duration) (r : Request) : Nat → List String × Option Error
  | 0 => ([], none)
  | n + 1 =>
    match guard c now greeter () r with
    | (_, _, .error e) => ([], some e)
    | (c, _, .ok m) =>
      let (lines, e) := burst c now r n
      (m.toJson.render :: lines, e)

/-- Run the simulation the options ask for, with the files of `dir` and the variables of
`env`. -/
def simulate (o : Options) (dir : Folder) (env : List (String × String)) : Outcome :=
  let fail (e : Error) (lines : List String) : Outcome :=
    ⟨1, lines, "Error: " ++ e.message ++ "\n"⟩
  match (Config.load dir env o.config).bind Config.control with
  | .error e => fail e []
  | .ok c =>
    match burst c Duration.zero (simulatedRequest o) o.requests with
    | (lines, some e) => fail e lines
    | (lines, none) => ⟨0, lines, ""⟩

/-- Run the program on a command line, with the files of `dir` and the variables of `env`. -/
def run (args : List String) (dir : Folder) (env : List (String × String)) : Outcome :=
  match Command.ofArgs args with
  | .error e => ⟨2, [], e.message⟩
  | .ok .help => ⟨0, helpLines, ""⟩
  | .ok .version => ⟨0, [versionLine], ""⟩
  | .ok (.run o) => simulate o dir env

end Cli

end Throttle

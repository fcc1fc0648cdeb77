import Throttle.Admission.Request
import Throttle.Admission.Message
import Throttle.Policy.Table
import Throttle.Policy.Override
import Throttle.Limiter.Text

/-!
# Admission control

Admission control puts one limiter behind requests. A request's key comes from the key
source, or is `global:default` when the source fails. Its policy is its tier's policy,
with the caller's override from the request metadata applied field by field.

Enforcement always happens; communication is opt-in. A caller that requests the signalling
capability has it activated, and only then does `checkIfActivated` consult the limiter.
A refused request is admitted as `denied` with the standard refusal text.
-/

namespace Throttle

namespace Admission

/-- The result of admitting a request: allowed, or denied with the refusal text. -/
inductive Outcome where
  | allowed (d : Decision)
  | denied (d : Decision) (message : String)

/-- The decision behind an outcome. -/
def Outcome.decision : Outcome → Decision
  | .allowed d => d
  | .denied d _ => d

/-- A limiter with its key source and policy table. -/
structure Control where
  limiter : Limiter
  keyOf : Request → Except Error String
  policies : PolicyTable

namespace Control

/-- Control over a limiter with the standard key and the default table. -/
def ofLimiter (l : Limiter) : Control := ⟨l, Request.standardKey, .ofDefault .standard⟩

/-- The key of a request, or the fallback key when none can be named. -/
def keyFor (c : Control) (r : Request) : String :=
  match c.keyOf r with
  | .ok k => k
  | .error _ => Request.fallbackKey

/-- Whether the caller requested usage signalling. -/
def isActivated (r : Request) : Bool := r.isRequested signalUri

/-- Mark usage signalling active on the request when it was requested. -/
def activate (r : Request) : Bool × Request :=
  if isActivated r then (true, r.activate signalUri) else (false, r)

/-- The request's policy: its tier's, with the caller's override applied. -/
def policyFor (c : Control) (r : Request) : Except Error Policy :=
  let base := c.policies.resolve r.tier
  match r.metadata.lookup limitsField with
  | some v => do (← Override.ofJson v).apply base
  | none => .ok base

/-- Check the limiter for the request's key at `now`. -/
def check (c : Control) (now : Duration) (r : Request) (p : Policy) :
    Control × Except Error Decision :=
  let (l, out) := c.limiter.check now (c.keyFor r) p
  ({ c with limiter := l }, out)

/-- The outcome of a decision. -/
def outcome (d : Decision) : Outcome :=
  if d.allowed then .allowed d else .denied d d.denialText

/-- Check the request and turn the decision into an outcome. -/
def enforce (c : Control) (now : Duration) (r : Request) (p : Policy) :
    Control × Except Error Outcome :=
  let (c', out) := c.check now r p
  (c', out.map outcome)

/-- Check only when the caller activated usage signalling. -/
def checkIfActivated (c : Control) (now : Duration) (r : Request) (p : Policy) :
    Control × Request × Except Error (Option Decision) :=
  let (on, r) := activate r
  if on then
    let (c', out) := c.check now r p
    (c', r, out.map some)
  else (c, r, .ok none)

/-- Forget the limiter's state for a key. -/
def resetLimits (c : Control) (key : String) : Control :=
  { c with limiter := c.limiter.reset key }

/-- Diagnostic text of a policy table. -/
def tableDiagnostic (t : PolicyTable) : String :=
  recordText "PolicyTable" [("default", t.default.diagnostic),
    ("tiers", "\x7b" ++ ", ".intercalate (t.tiers.map fun (n, p) => Text.quote n ++ ": " ++
      p.diagnostic) ++ "\x7d"),
    ("fallback_tier", optionText Text.quote t.fallback)]

/-- Diagnostic text of the control: its limiter and policy table. -/
def diagnostic (c : Control) : String :=
  "AdmissionControl \x7b limiter: " ++ c.limiter.diagnostic ++ ", policies: " ++
    tableDiagnostic c.policies ++ ", .. \x7d"

end Control

end Admission

end Throttle

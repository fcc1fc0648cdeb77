import Throttle.Admission.Guard
import Throttle.Session

/-!
# Admission sessions

A session drives admission control on a manual clock with a guarded handler of state `σ`:
the limiter commands of a limiter session, and the admission operations on requests.
Each step answers on its own; a step that fails answers with its error and the session
goes on.
-/

namespace Throttle

namespace Admission

/-- A call made through a per-request helper: a check or an enforced admission. -/
inductive HelperCall where
  | check (p : Policy)
  | enforce (p : Policy)

/-- The answer to a helper call; `none` when signalling is not active. -/
inductive HelperAnswer where
  | checked (r : Except Error (Option Decision))
  | enforced (r : Except Error (Option Outcome))

/-- One step of an admission session. -/
inductive Step (σ : Type) where
  | limiter (c : Command)
  | handle (r : Request) (h : Handler σ)
  | check (r : Request) (p : Policy)
  | enforce (r : Request) (p : Policy)
  | policyFor (r : Request)
  | keyFor (r : Request)
  | isActivated (r : Request)
  | checkIfActivated (r : Request) (p : Policy)
  | helper (r : Request) (calls : List HelperCall)
  | resetLimits (key : String)
  | resolve (tier : Option String)
  | describe

/-- The answer to one step. -/
inductive Answer where
  | limiter (r : Reply)
  | handled (m : Except Error Message)
  | decision (r : Except Error Decision)
  | admission (r : Except Error Outcome)
  | policy (r : Except Error Policy)
  | key (k : String)
  | activated (b : Bool)
  | checkedIfActivated (r : Except Error (Option Decision)) (activated : List String)
  | helper (active : Bool) (calls : List HelperAnswer) (activated : List String)
  | keyCount (n : Nat)
  | resolved (p : Policy)
  | text (s : String)

/-- Admission control on a clock, with the state of the guarded handler. -/
structure Desk (σ : Type) where
  clock : Clock
  control : Control
  handler : σ

namespace Desk

variable {σ : Type}

/-- Run the helper calls for a request in order, when signalling is active. -/
def helperCalls (c : Control) (now : Duration) (active : Bool) (r : Request) :
    List HelperCall → Control × List HelperAnswer
  | [] => (c, [])
  | call :: calls =>
    let (c, a) : Control × HelperAnswer := match call with
      | .check p =>
        if active then let (c, out) := c.check now r p; (c, .checked (out.map some))
        else (c, .checked (.ok none))
      | .enforce p =>
        if active then let (c, out) := c.enforce now r p; (c, .enforced (out.map some))
        else (c, .enforced (.ok none))
    let (c, as) := helperCalls c now active r calls
    (c, a :: as)

/-- Run one step. -/
def step (d : Desk σ) : Step σ → Desk σ × Answer
  | .limiter cmd =>
    let (s, reply) := Session.step ⟨d.clock, d.control.limiter⟩ cmd
    ({ d with clock := s.clock, control := { d.control with limiter := s.limiter } }, .limiter reply)
  | .handle r h =>
    let (c, st, out) := guard d.control d.clock.now h d.handler r
    ({ d with control := c, handler := st }, .handled out)
  | .check r p =>
    let (c, out) := d.control.check d.clock.now r p
    ({ d with control := c }, .decision out)
  | .enforce r p =>
    let (c, out) := d.control.enforce d.clock.now r p
    ({ d with control := c }, .admission out)
  | .policyFor r => (d, .policy (d.control.policyFor r))
  | .keyFor r => (d, .key (d.control.keyFor r))
  | .isActivated r => (d, .activated (Control.isActivated r))
  | .checkIfActivated r p =>
    let (c, r, out) := d.control.checkIfActivated d.clock.now r p
    ({ d with control := c }, .checkedIfActivated out r.activated)
  | .helper r calls =>
    let (active, r) := Control.activate r
    let (c, answers) := helperCalls d.control d.clock.now active r calls
    ({ d with control := c }, .helper active answers r.activated)
  | .resetLimits key =>
    let c := d.control.resetLimits key
    ({ d with control := c }, .keyCount c.limiter.keyCount)
  | .resolve tier => (d, .resolved (d.control.policies.resolve tier))
  | .describe => (d, .text d.control.diagnostic)

end Desk

end Admission

end Throttle

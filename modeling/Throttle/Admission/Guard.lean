import Throttle.Admission.Control

/-!
# Guarded handlers

A handler answers a request with a message, keeping a state of its own between requests.
Guarding it with admission control resolves the request's policy and admits the request
first: a denied request is answered with the refusal text and never reaches the handler;
an allowed one is answered by the handler. When the caller requested usage signalling the
answer carries the decision's signal.
-/

namespace Throttle

namespace Admission

/-- A handler with state `σ`. -/
abbrev Handler (σ : Type) := σ → Request → σ × Except Error Message

/-- Handle a request at `now` behind admission control. -/
def guard {σ : Type} (c : Control) (now : Duration) (inner : Handler σ) (st : σ) (r : Request) :
    Control × σ × Except Error Message :=
  let signal := Control.isActivated r
  let attach (m : Message) (d : Decision) := if signal then m.attach d else m
  match c.policyFor r with
  | .error e => (c, st, .error e)
  | .ok p =>
    match c.enforce now r p with
    | (c, .error e) => (c, st, .error e)
    | (c, .ok (.denied d text)) => (c, st, .ok (attach (Message.ofText text) d))
    | (c, .ok (.allowed d)) =>
      match inner st r with
      | (st, .ok m) => (c, st, .ok (attach m d))
      | (st, .error e) => (c, st, .error e)

end Admission

end Throttle

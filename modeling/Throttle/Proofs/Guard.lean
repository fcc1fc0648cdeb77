import Mathlib
import Throttle.Proofs.Service

/-! # Guarded handlers change nothing but admission

Guarding a handler with admission control answers a request in one of four ways. A request
whose policy does not resolve fails with that error, before the limiter is consulted or the
handler runs. Otherwise the limiter is checked exactly once, for the request's key under
its policy; an error of that check is the answer, and the handler does not run. A refused
request is answered with the refusal text, carrying the decision's signal and nothing else
when the caller asked for signalling, and the handler does not run. An admitted request runs
the handler once; its error is passed on unchanged, and its message too, with the signal
field set when the caller asked for signalling and every other field as the handler left it.

Over any sequence of requests the handler therefore runs on exactly the admitted ones, in
order (`Admission.serve_handler`).
-/

namespace Throttle

/-! ## Setting one field of an object -/

namespace Json.Value

theorem lookup_insertField_self (k : String) (v : Value) :
    ∀ fs : List (String × Value), (insertField k v fs).lookup k = some v
  | [] => by simp [insertField]
  | (k', v') :: rest => by
      unfold insertField
      by_cases hk : k = k'
      · simp [hk]
      · by_cases hlt : k < k'
        · simp [hk, hlt]
        · simp only [hk, hlt, if_false, List.lookup_cons, beq_false_of_ne hk]
          exact lookup_insertField_self k v rest

theorem lookup_insertField_of_ne {k k' : String} (h : k' ≠ k) (v : Value) :
    ∀ fs : List (String × Value), (insertField k v fs).lookup k' = fs.lookup k'
  | [] => by simp [insertField, h]
  | (k'', v'') :: rest => by
      unfold insertField
      by_cases hk : k = k''
      · subst hk
        simp [List.lookup_cons, beq_false_of_ne h]
      · by_cases hlt : k < k''
        · simp [hk, hlt, List.lookup_cons, beq_false_of_ne h]
        · simp only [hk, hlt, if_false, List.lookup_cons]
          rw [lookup_insertField_of_ne h v rest]

end Json.Value

namespace Admission

/-! ## Attaching the signal to a message -/

namespace Message

variable (m : Message) (d : Decision)

@[simp] theorem text_attach : (m.attach d).text = m.text := rfl

/-- An attached message carries the decision's signal under the result field. -/
theorem lookup_attach_self : (m.attach d).metadata.lookup resultField = some d.toSignal.toJson :=
  Json.Value.lookup_insertField_self _ _ _

theorem lookup_attach_of_ne {k : String} (h : k ≠ resultField) :
    (m.attach d).metadata.lookup k = m.metadata.lookup k :=
  Json.Value.lookup_insertField_of_ne h _ _

/-- The refusal text with the signal attached holds the signal and nothing else. -/
theorem ofText_attach (text : String) :
    (ofText text).attach d = ⟨text, [(resultField, d.toSignal.toJson)]⟩ := rfl

end Message

/-! ## One request -/

section Guard

variable {σ : Type} {c : Control} {now : Duration} {inner : Handler σ} {st : σ} {r : Request}
  {p : Policy} {d : Decision}

theorem Control.check_eq (c : Control) (now : Duration) (r : Request) (p : Policy) :
    c.check now r p =
      ({ c with limiter := (c.limiter.check now (c.keyFor r) p).1 },
        (c.limiter.check now (c.keyFor r) p).2) := rfl

/-- A request whose policy does not resolve fails with that error, and neither the limiter
nor the handler state changes. -/
theorem guard_of_policyFor_error {e : Error} (h : c.policyFor r = .error e) :
    guard c now inner st r = (c, st, .error e) := by
  simp [guard, h]

/-- A failed check is the answer, and the handler does not run. -/
theorem guard_of_check_error {e : Error} (hp : c.policyFor r = .ok p)
    (hc : (c.limiter.check now (c.keyFor r) p).2 = .error e) :
    guard c now inner st r = ((c.check now r p).1, st, .error e) := by
  simp [guard, hp, Control.enforce, Control.check_eq, hc, Except.map]

/-- A refused request is answered with the refusal text, with the signal attached when the
caller asked for it, and the handler does not run. -/
theorem guard_of_refused (hp : c.policyFor r = .ok p)
    (hc : (c.limiter.check now (c.keyFor r) p).2 = .ok d) (hd : d.allowed = false) :
    guard c now inner st r =
      ((c.check now r p).1, st, .ok ⟨d.denialText,
        if r.isRequested signalUri then [(resultField, d.toSignal.toJson)] else []⟩) := by
  simp only [guard, hp, Control.enforce, Control.check_eq, hc, Except.map, Control.outcome, hd,
    Bool.false_eq_true, if_false]
  by_cases hs : r.isRequested signalUri
  · simp [Control.isActivated, hs, Message.ofText_attach]
  · simp [Control.isActivated, hs, Message.ofText]

/-- An admitted request runs the handler once, and its answer is passed on with the signal
attached when the caller asked for it. -/
theorem guard_of_admitted (hp : c.policyFor r = .ok p)
    (hc : (c.limiter.check now (c.keyFor r) p).2 = .ok d) (hd : d.allowed = true) :
    guard c now inner st r =
      ((c.check now r p).1, (inner st r).1,
        (inner st r).2.map fun m => if r.isRequested signalUri then m.attach d else m) := by
  simp only [guard, hp, Control.enforce, Control.check_eq, hc, Except.map, Control.outcome, hd,
    if_true]
  rcases inner st r with ⟨st', _ | m⟩ <;> rfl

/-- Whether the guard lets the request through to the handler: its policy resolves and the
limiter admits it. -/
def Control.admits (c : Control) (now : Duration) (r : Request) : Bool :=
  match c.policyFor r with
  | .ok p =>
    match (c.limiter.check now (c.keyFor r) p).2 with
    | .ok d => d.allowed
    | .error _ => false
  | .error _ => false

/-- The handler runs, once, exactly when the guard lets the request through. -/
theorem guard_handler :
    (guard c now inner st r).2.1 = if c.admits now r then (inner st r).1 else st := by
  rcases hp : c.policyFor r with e | p
  · simp [guard_of_policyFor_error hp, Control.admits, hp]
  rcases hc : (c.limiter.check now (c.keyFor r) p).2 with e | d
  · simp [guard_of_check_error hp hc, Control.admits, hp, hc]
  cases hd : d.allowed
  · simp [guard_of_refused hp hc hd, Control.admits, hp, hc, hd]
  · simp [guard_of_admitted hp hc hd, Control.admits, hp, hc, hd]

end Guard

/-! ## A sequence of requests -/

section Serve

variable {σ : Type}

/-- Handle the requests one after another, each at its instant, through the guard around
`inner`: the control and the handler's state after them. -/
def serve (inner : Handler σ) : Control × σ → List (Duration × Request) → Control × σ
  | x, [] => x
  | (c, st), (now, r) :: rs =>
    let g := guard c now inner st r
    serve inner (g.1, g.2.1) rs

/-- The requests that the guard lets through along such a run, in order. -/
def admitted (inner : Handler σ) : Control × σ → List (Duration × Request) → List Request
  | _, [] => []
  | (c, st), (now, r) :: rs =>
    let g := guard c now inner st r
    (if c.admits now r then [r] else []) ++ admitted inner (g.1, g.2.1) rs

/-- Along any sequence of requests, the handler's state is what running it on exactly the
admitted requests, in order, makes of it: it runs once per admission and never otherwise. -/
theorem serve_handler (inner : Handler σ) :
    ∀ (rs : List (Duration × Request)) (c : Control) (st : σ),
      (serve inner (c, st) rs).2 =
        (admitted inner (c, st) rs).foldl (fun st r => (inner st r).1) st
  | [], _, _ => rfl
  | (now, r) :: rs, c, st => by
      simp only [serve, admitted, List.foldl_append]
      rw [serve_handler inner rs, guard_handler]
      cases c.admits now r <;> rfl

/-- Guarding a handler with admission control changes nothing but admission. A request
whose policy does not resolve fails with that error, leaving the control and the handler's
state as they were. Otherwise the limiter is checked exactly once, for the request's key
under its policy, and the control keeps what that check left. A failed check is the answer,
and the handler does not run. A refusal is answered with the refusal text, whose metadata is
the decision's signal alone when the caller asked for signalling and empty otherwise, and the
handler does not run. An admission runs the handler once and passes on its error unchanged,
or its message with the signal field set when the caller asked for signalling and every
other field as the handler left it. Along any sequence of requests the handler runs on
exactly the admitted ones, in order. -/
theorem guard_transparent (c : Control) (now : Duration) (inner : Handler σ) (st : σ)
    (r : Request) :
    (∀ e, c.policyFor r = .error e → guard c now inner st r = (c, st, .error e)) ∧
    (∀ p, c.policyFor r = .ok p →
      (guard c now inner st r).1 = { c with limiter := (c.limiter.check now (c.keyFor r) p).1 } ∧
      (∀ e, (c.limiter.check now (c.keyFor r) p).2 = .error e →
        (guard c now inner st r).2 = (st, .error e)) ∧
      (∀ d, (c.limiter.check now (c.keyFor r) p).2 = .ok d → d.allowed = false →
        (guard c now inner st r).2 = (st, .ok ⟨d.denialText,
          if r.isRequested signalUri then [(resultField, d.toSignal.toJson)] else []⟩)) ∧
      (∀ d, (c.limiter.check now (c.keyFor r) p).2 = .ok d → d.allowed = true →
        (guard c now inner st r).2.1 = (inner st r).1 ∧
        (∀ e, (inner st r).2 = .error e → (guard c now inner st r).2.2 = .error e) ∧
        ∀ m, (inner st r).2 = .ok m → ∃ m', (guard c now inner st r).2.2 = .ok m' ∧
          m'.text = m.text ∧
          m'.metadata.lookup resultField = (if r.isRequested signalUri then
            some d.toSignal.toJson else m.metadata.lookup resultField) ∧
          ∀ k, k ≠ resultField → m'.metadata.lookup k = m.metadata.lookup k)) ∧
    ∀ (rs : List (Duration × Request)) (c₀ : Control) (st₀ : σ),
      (serve inner (c₀, st₀) rs).2 =
        (admitted inner (c₀, st₀) rs).foldl (fun st r => (inner st r).1) st₀ := by
  refine ⟨fun e he => guard_of_policyFor_error he, fun p hp => ?_, serve_handler inner⟩
  refine ⟨?_, fun e he => ?_, fun d hd hallowed => ?_, fun d hd hallowed => ?_⟩
  · -- each way of answering keeps what the one check left
    rcases hc : (c.limiter.check now (c.keyFor r) p).2 with e | d
    · rw [guard_of_check_error hp hc]
      rfl
    · cases hallowed : d.allowed
      · rw [guard_of_refused hp hc hallowed]
        rfl
      · rw [guard_of_admitted hp hc hallowed]
        rfl
  · rw [guard_of_check_error hp he]
  · rw [guard_of_refused hp hd hallowed]
  · rw [guard_of_admitted hp hd hallowed]
    refine ⟨rfl, fun e he => by simp [he, Except.map], fun m hm => ?_⟩
    -- the handler's message, with the signal attached only when the caller asked for it
    by_cases hs : r.isRequested signalUri
    · refine ⟨m.attach d, by simp [hm, Except.map, hs], Message.text_attach m d, ?_,
        fun k hk => Message.lookup_attach_of_ne m d hk⟩
      simpa [hs] using Message.lookup_attach_self m d
    · exact ⟨m, by simp [hm, Except.map, hs], rfl, by simp [hs], fun k _ => rfl⟩

end Serve

end Admission

end Throttle

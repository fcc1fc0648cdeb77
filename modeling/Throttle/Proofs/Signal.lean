import Mathlib
import Throttle.Proofs.JsonText
import Throttle.Proofs.Guard
import Throttle.Proofs.TokenBucket

/-! # The usage signal on the wire

A decision reaches the caller as its signal, in one of two ways. Attached to a message, the
signal is handed over as a value: the result field holds it, every other field of the
message is left as it was, and the signal read from the field is the decision's own
(`Admission.Message.signal?_attach`). Written as JSON text, the signal is read back field by
field: the flag, the count below `2 ^ 64` and the limit type always read back as themselves,
the fields come back sorted by key, and the `retry_after` field is written exactly for
refusals and defaults to none when absent. So the text reads back as the signal exactly when
each of its times does, however floats are written and read (`Signal.roundTripsWith_iff`).
When floats are written in a round-trip form and read with correct rounding, every time
reads back and so does the signal (`Decision.signal_transport`). The program's own reading
rounds twice, and there a time can fail to read back: 3.579409818 s is written
3.5794098180000002 and read as the neighbouring value below.
-/

namespace Throttle

open Json

theorem Duration.isFinite_toSeconds (d : Duration) : d.toSeconds.isFinite = true := by
  obtain ⟨w, ⟨m, e, -, hx, -⟩, -⟩ := d.toSeconds_represents
  rw [hx]
  rfl

/-- A float that reads back as itself from the text `ft` writes for it, floats being made by
`ofParts` from the decimals read. -/
def Json.FloatReadsBack (ft : Binary64 → String) (ofParts : Bool → Nat → Int → Option Binary64)
    (x : Binary64) : Prop :=
  ∃ v, readWith ofParts (ft x) = .ok v ∧ v.toF64 = .ok x

section FloatSyntax

variable {ft : Binary64 → String} {ofParts : Bool → Nat → Int → Option Binary64}

theorem Json.floatReadsBack_iff {x : Binary64} :
    FloatReadsBack ft ofParts x ↔ ∃ v, (readWith ofParts (ft x)).toOption = some v ∧ v.toF64 = .ok x := by
  simp only [FloatReadsBack, toOption_eq_some_iff]

/-- Reading back as itself, checked through values that can be compared. -/
theorem Json.floatReadsBack_of_bind {x : Binary64}
    (h : ((readWith ofParts (ft x)).toOption.bind fun v => v.toF64.toOption) = some x) :
    FloatReadsBack ft ofParts x := by
  obtain ⟨v, hv, hx⟩ := Option.bind_eq_some_iff.mp h
  exact ⟨v, toOption_eq_some_iff.mp hv, toOption_eq_some_iff.mp hx⟩

theorem Json.Value.toOption_toF64_eq_some {v : Value} {w : Binary64} :
    toOption toF64 v = .ok (some w) ↔ v.toF64 = .ok w := by
  cases v <;> simp [toOption, toF64, Functor.map, Except.map, throw, throwThe, MonadExceptOf.throw,
    pure, Except.pure]

namespace Signal

/-- Every time the signal carries is finite. -/
def Finite (s : Signal) : Prop := s.resetTime.isFinite = true ∧ ∀ w ∈ s.retryAfter, w.isFinite = true

/-- A signal with finite times decodes from its JSON form as itself. -/
theorem decode_toJson {s : Signal} (hs : s.Finite) : decode s.toJson = .ok s := by
  obtain ⟨a, n, x, w?, t⟩ := s
  obtain ⟨hx, hw⟩ := hs
  cases w? <;>
    simp +decide [List.lookup_cons, toJson, decode, Value.ofBinary64, hx, hw, Value.nat, FieldSet.of,
      FieldSet.check, FieldSet.required, FieldSet.withDefault, FieldSet.finish, Value.toBool,
      Value.toU64, Value.toF64, Value.toStr, Value.toOption, Functor.map, Except.map, bind,
      Except.bind, pure, Except.pure]

/-! ## Reading the text back -/

/-- The object the text of a signal reads back as: its fields in key order, the times `vx`
and `vw?` as their texts read. -/
def keyOrdered (a : Bool) (n : Nat) (vx : Value) (vw? : Option Value) (t : String) : Value :=
  .obj ([("allowed", .bool a), ("limit_type", .str t), ("remaining", .int n), ("reset_time", vx)] ++
    (vw?.map fun vw => [("retry_after", vw)]).getD [])

/-- Decoding the read-back object reads the times and keeps the other fields. -/
theorem decode_keyOrdered (a : Bool) (n : Nat) (vx : Value) (vw? : Option Value) (t : String) :
    decode (keyOrdered a n vx vw? t) =
      (do
        let x ← vx.toF64
        let w ← (vw?.map (Value.toOption Value.toF64)).getD (pure none)
        pure ⟨a, n, x, w, t⟩) := by
  cases vw? with
  | none =>
    rcases hx : vx.toF64 with e | x <;>
      simp +decide [keyOrdered, hx, List.lookup_cons, decode, FieldSet.of, FieldSet.check,
        FieldSet.required, FieldSet.withDefault, FieldSet.finish, Value.toBool, Value.toU64,
        Value.toStr, bind, Except.bind, pure, Except.pure]
  | some vw =>
    rcases hx : vx.toF64 with e | x <;> rcases hw : Value.toOption Value.toF64 vw with e' | w <;>
      simp +decide [keyOrdered, hx, hw, List.lookup_cons, decode, FieldSet.of, FieldSet.check,
        FieldSet.required, FieldSet.withDefault, FieldSet.finish, Value.toBool, Value.toU64,
        Value.toStr, bind, Except.bind, pure, Except.pure]

theorem decode_keyOrdered_eq_ok {a : Bool} {n : Nat} {vx : Value} {vw? : Option Value} {t : String}
    {x : Binary64} {w? : Option Binary64} :
    decode (keyOrdered a n vx vw? t) = .ok ⟨a, n, x, w?, t⟩ ↔
      vx.toF64 = .ok x ∧ (vw?.map (Value.toOption Value.toF64)).getD (pure none) = .ok w? := by
  rw [decode_keyOrdered]
  rcases vx.toF64 with e | x' <;> rcases (vw?.map (Value.toOption Value.toF64)).getD (pure none) with e' | w' <;>
    simp [bind, Except.bind, pure, Except.pure]

/-- The text of a signal reads back as the key-ordered object of its fields, each time read
from its own text; the count must fit the reader's significand, and the times be written as
numbers. -/
theorem readWith_write_toJson (a : Bool) (n : Nat) (x : Binary64) (w? : Option Binary64) (t : String)
    (hn : n ≤ maxSignificand) (hx : x.isFinite = true) (hw : ∀ w ∈ w?, w.isFinite = true)
    (hxt : NumberText (ft x)) (hwt : ∀ w ∈ w?, NumberText (ft w)) :
    (readWith ofParts ((toJson ⟨a, n, x, w?, t⟩).write ft)).toOption =
      (readWith ofParts (ft x)).toOption.bind fun vx =>
        (w?.map fun w => (readWith ofParts (ft w)).toOption.map some).getD (some none) |>.map
          (keyOrdered a n vx · t) := by
  -- every field is text that reads inside the object; the read fields are then sorted by key
  cases w? with
  | none =>
    have hread := readWith_write_obj ft ofParts "allowed" (.bool a)
      [("remaining", .int n), ("reset_time", .float x), ("limit_type", .str t)]
      (by simp [Value.rereadIn, readsIn_bool, readsIn_int hn, readsIn_float hxt, readsIn_str])
    simp only [toJson, Value.ofBinary64, hx, if_true, Value.nat, Option.map_none, Option.getD_none,
      List.append_nil, List.cons_append, List.nil_append, hread, rereadFields, List.foldlM,
      Value.rereadIn]
    cases (readWith ofParts (ft x)).toOption <;> simp +decide [keyOrdered, Value.insertField]
  | some w =>
    have hw : w.isFinite = true := hw w rfl
    have hread := readWith_write_obj ft ofParts "allowed" (.bool a)
      [("remaining", .int n), ("reset_time", .float x), ("retry_after", .float w), ("limit_type", .str t)]
      (by simp [Value.rereadIn, readsIn_bool, readsIn_int hn, readsIn_float hxt,
        readsIn_float (hwt w rfl), readsIn_str])
    simp only [toJson, Value.ofBinary64, hx, hw, if_true, Value.nat, Option.map_some, Option.getD_some,
      List.cons_append, List.nil_append, hread, rereadFields, List.foldlM, Value.rereadIn]
    cases (readWith ofParts (ft x)).toOption <;> cases (readWith ofParts (ft w)).toOption <;>
      simp +decide [keyOrdered, Value.insertField]

theorem roundTripsWith_eq_true_iff (s : Signal) :
    s.roundTripsWith ft ofParts = true ↔
      ∃ v, (readWith ofParts (s.toJson.write ft)).toOption = some v ∧ decode v = .ok s := by
  unfold roundTripsWith
  rcases readWith ofParts (s.toJson.write ft) with e | v
  · simp
  · rcases hd : decode v with e | s' <;> simp [hd]

/-- The text of a signal with finite times written as numbers reads back as the signal exactly
when each of its times reads back as itself. -/
theorem roundTripsWith_iff {s : Signal} (hs : s.Finite) (hn : s.remaining ≤ maxSignificand)
    (hxt : NumberText (ft s.resetTime)) (hwt : ∀ w ∈ s.retryAfter, NumberText (ft w)) :
    s.roundTripsWith ft ofParts = true ↔
      FloatReadsBack ft ofParts s.resetTime ∧ ∀ w ∈ s.retryAfter, FloatReadsBack ft ofParts w := by
  obtain ⟨a, n, x, w?, t⟩ := s
  rw [roundTripsWith_eq_true_iff, readWith_write_toJson a n x w? t hn hs.1 hs.2 hxt hwt]
  cases w? with
  | none =>
    simp [Option.bind_eq_some_iff, floatReadsBack_iff, decode_keyOrdered_eq_ok, pure, Except.pure]
  | some w =>
    simp only [Option.bind_eq_some_iff, Option.map_some, Option.getD_some, Option.map_eq_some_iff,
      Option.mem_def, Option.some.injEq, forall_eq', floatReadsBack_iff]
    constructor
    · rintro ⟨v, ⟨vx, hvx, ⟨vw?, ⟨vw, hvw, rfl⟩, rfl⟩⟩, hdecode⟩
      obtain ⟨hx, hw⟩ := decode_keyOrdered_eq_ok.mp hdecode
      exact ⟨⟨vx, hvx, hx⟩, vw, hvw, Value.toOption_toF64_eq_some.mp hw⟩
    · rintro ⟨⟨vx, hvx, hx⟩, vw, hvw, hw⟩
      exact ⟨_, ⟨vx, hvx, _, ⟨vw, hvw, rfl⟩, rfl⟩,
        decode_keyOrdered_eq_ok.mpr ⟨hx, Value.toOption_toF64_eq_some.mpr hw⟩⟩

-- The program's own reading rounds twice: a reset time of 3.579409818 s does not read back.
example : (Decision.allow "token_bucket" 10 4 (Duration.ofNanos 3579409818)).toSignal.roundTrips = false := by
  decide +kernel

end Signal

end FloatSyntax

/-! ## The signal of a decision -/

namespace Decision

variable (d : Decision)

theorem toSignal_finite : d.toSignal.Finite := by
  refine ⟨d.resetTime.isFinite_toSeconds, fun w hw => ?_⟩
  obtain ⟨r, -, rfl⟩ := Option.mem_map.mp hw
  exact r.isFinite_toSeconds

/-- The written signal has a wait field exactly for a refusal. -/
theorem retryAfter_field_eq_none_iff : d.toSignal.toJson.field? "retry_after" = none ↔ d.allowed = true := by
  obtain ⟨verdict, limit, resetTime, limitType⟩ := d
  cases verdict <;>
    simp +decide [toSignal, allowed, retryAfter?, Signal.toJson, Json.Value.field?, List.lookup_cons]

end Decision

namespace Admission.Message

/-- The signal read from an attached message is the decision's own. -/
theorem signal?_attach (m : Message) (d : Decision) : (m.attach d).signal? = some d.toSignal := by
  rw [signal?, lookup_attach_self]
  simp only [Signal.decode_toJson d.toSignal_finite]

end Admission.Message

/-- The signal of a decision reaches the caller intact when attached to a message, which keeps
every other field as it was. Written as JSON text it has a wait field exactly for a refusal,
and it reads back as itself whenever floats are written (by `ft`) as numbers that read back
(floats being made by `ofParts`) as themselves, as every float does when written in a
round-trip form and read with correct rounding; this is asked only of the decision's own
times. -/
theorem Decision.signal_transport (d : Decision) (m : Admission.Message) (hrem : d.remaining < 2 ^ 64)
    (ft : Binary64 → String) (ofParts : Bool → Nat → Int → Option Binary64)
    (hreset : NumberText (ft d.resetTime.toSeconds) ∧ FloatReadsBack ft ofParts d.resetTime.toSeconds)
    (hretry : ∀ w ∈ d.retryAfter?, NumberText (ft w.toSeconds) ∧ FloatReadsBack ft ofParts w.toSeconds) :
    (m.attach d).signal? = some d.toSignal ∧
      (∀ k, k ≠ Admission.resultField → (m.attach d).metadata.lookup k = m.metadata.lookup k) ∧
      (d.toSignal.toJson.field? "retry_after" = none ↔ d.allowed = true) ∧
      d.toSignal.roundTripsWith ft ofParts = true := by
  have hn : d.toSignal.remaining ≤ maxSignificand := by
    simp only [Decision.toSignal, maxSignificand, Nat.pow_eq]
    omega
  -- the signal's times are the decision's, in seconds
  have htimes : ∀ w ∈ d.toSignal.retryAfter, NumberText (ft w) ∧ FloatReadsBack ft ofParts w := by
    intro w hw
    obtain ⟨r, hr, rfl⟩ := Option.mem_map.mp hw
    exact hretry r hr
  refine ⟨m.signal?_attach d, fun k hk => m.lookup_attach_of_ne d hk, d.retryAfter_field_eq_none_iff, ?_⟩
  rw [Signal.roundTripsWith_iff d.toSignal_finite hn hreset.1 fun w hw => (htimes w hw).1]
  exact ⟨hreset.2, fun w hw => (htimes w hw).2⟩

theorem Decision.signal_transport_refusal :
    let d := deny "token_bucket" 10 (Duration.ofSecs 60) (Duration.ofSecs 3)
    let m := Admission.Message.ofText "Rate limit exceeded."
    d.remaining < 2 ^ 64 ∧
      (NumberText (floatText d.resetTime.toSeconds) ∧ FloatReadsBack floatText fromParts d.resetTime.toSeconds) ∧
      (∀ w ∈ d.retryAfter?, NumberText (floatText w.toSeconds) ∧ FloatReadsBack floatText fromParts w.toSeconds) ∧
      ((m.attach d).signal? = some d.toSignal ∧
        (∀ k, k ≠ Admission.resultField → (m.attach d).metadata.lookup k = m.metadata.lookup k) ∧
        (d.toSignal.toJson.field? "retry_after" = none ↔ d.allowed = true) ∧
        d.toSignal.roundTripsWith floatText fromParts = true) := by
  intro d m
  -- sixty and three seconds are written as whole numbers and read back exactly
  have hreset : NumberText (floatText d.resetTime.toSeconds) ∧
      FloatReadsBack floatText fromParts d.resetTime.toSeconds :=
    ⟨numberText_floatText (Duration.isFinite_toSeconds _), floatReadsBack_of_bind (by decide +kernel)⟩
  have hretry : ∀ w ∈ d.retryAfter?, NumberText (floatText w.toSeconds) ∧
      FloatReadsBack floatText fromParts w.toSeconds := by
    intro w hw
    obtain rfl : w = Duration.ofSecs 3 := (Option.mem_some_iff.mp hw).symm
    exact ⟨numberText_floatText (Duration.isFinite_toSeconds _), floatReadsBack_of_bind (by decide +kernel)⟩
  have h := Decision.signal_transport d m (by decide) floatText fromParts hreset hretry
  exact ⟨by decide, hreset, hretry, h⟩

end Throttle

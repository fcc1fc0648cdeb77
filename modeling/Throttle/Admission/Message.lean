import Throttle.Json.Decode
import Throttle.Json.Reader
import Throttle.Decision
import Throttle.Admission.Card

/-!
# Messages and usage signals

A message is the text returned to a caller with a metadata map. The signal of a decision
travels in the metadata under `resultField` as a JSON object: `allowed`, `remaining`,
`reset_time` and `limit_type`, and `retry_after` when the request was refused, the times
in seconds.
-/

namespace Throttle

namespace Signal

/-- The JSON form of a signal; `retry_after` only when present. -/
def toJson (s : Signal) : Json.Value :=
  .obj ([("allowed", .bool s.allowed), ("remaining", .nat s.remaining),
    ("reset_time", .ofBinary64 s.resetTime)] ++
    (s.retryAfter.map fun r => [("retry_after", Json.Value.ofBinary64 r)]).getD [] ++
    [("limit_type", .str s.limitType)])

/-- Read a signal from its JSON form. -/
def decode (v : Json.Value) : Json.Decoded Signal := do
  let fs ← Json.FieldSet.of "UsageSignal"
    ["allowed", "remaining", "reset_time", "retry_after", "limit_type"] v
  let retry := Json.Value.toOption Json.Value.toF64
  fs.check [("allowed", fun x => do let _ ← x.toBool), ("remaining", fun x => do let _ ← x.toU64),
    ("reset_time", fun x => do let _ ← x.toF64), ("retry_after", fun x => do let _ ← retry x),
    ("limit_type", fun x => do let _ ← x.toStr)]
  let allowed ← fs.required "allowed" Json.Value.toBool
  let remaining ← fs.required "remaining" Json.Value.toU64
  let resetTime ← fs.required "reset_time" Json.Value.toF64
  let retryAfter ← fs.withDefault "retry_after" none retry
  let limitType ← fs.required "limit_type" Json.Value.toStr
  fs.finish
  pure ⟨allowed, remaining, resetTime, retryAfter, limitType⟩

/-- Whether writing the signal as JSON text, each float written by `ft`, and reading it back,
each float made by `ofParts`, gives the same signal. -/
def roundTripsWith (ft : Binary64 → String) (ofParts : Bool → Nat → Int → Option Binary64)
    (s : Signal) : Bool :=
  match Json.readWith ofParts (s.toJson.write ft) with
  | .ok v =>
    match decode v with
    | .ok s' => s' == s
    | .error _ => false
  | .error _ => false

/-- Whether writing the signal as JSON text and reading it back gives the same signal. -/
def roundTrips (s : Signal) : Bool := roundTripsWith Json.floatText Json.fromParts s

end Signal

namespace Admission

/-- A message for the caller: its text and metadata. -/
structure Message where
  text : String
  metadata : List (String × Json.Value)
deriving Inhabited

namespace Message

/-- A message with text only. -/
def ofText (text : String) : Message := ⟨text, []⟩

/-- The JSON form; empty metadata is left out. -/
def toJson (m : Message) : Json.Value :=
  .obj ([("text", .str m.text)] ++ (if m.metadata.isEmpty then [] else [("metadata", .obj m.metadata)]))

/-- Read a message from its JSON form. -/
def decode (v : Json.Value) : Json.Decoded Message := do
  let fs ← Json.FieldSet.of "Message" ["text", "metadata"] v
  fs.check [("text", fun x => do let _ ← x.toStr), ("metadata", fun x => do let _ ← x.toFields)]
  let text ← fs.required "text" Json.Value.toStr
  let metadata ← fs.withDefault "metadata" [] Json.Value.toFields
  fs.finish
  pure ⟨text, metadata⟩

/-- The message with a decision's signal attached under `resultField`. -/
def attach (m : Message) (d : Decision) : Message :=
  { m with metadata := Json.Value.insertField resultField d.toSignal.toJson m.metadata }

/-- The signal attached to the message, if it reads as one. -/
def signal? (m : Message) : Option Signal :=
  match m.metadata.lookup resultField with
  | some v =>
    match Signal.decode v with
    | .ok s => some s
    | .error _ => none
  | none => none

end Message

end Admission

end Throttle

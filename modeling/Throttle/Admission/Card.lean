import Throttle.Json.Decode
import Throttle.Text.Space

/-!
# Capability cards and the signalling capability

A service publishes a card listing the capabilities it offers. Usage signalling is one of
them, named by `signalUri`: a caller that lists this name in the `X-A2A-Extensions` header
of a request receives the decision of every check with the response.

Advertising the capability on a card adds it once. Requesting it adds its name to the
header value, after the names already there, unless one of them (trimmed) is it already.
-/

namespace Throttle

namespace Admission

/-- The name of the usage signalling capability. -/
def signalUri : String := "https://github.com/a2aproject/a2a-samples/extensions/ratelimiter/v1"

/-- The metadata field carrying a caller's policy override. -/
def limitsField : String := "github.com/a2aproject/a2a-samples/extensions/ratelimiter/v1/limits"

/-- The metadata field carrying the decision's signal. -/
def resultField : String := "github.com/a2aproject/a2a-samples/extensions/ratelimiter/v1/result"

/-- The header listing the capabilities a caller requests. -/
def capabilityHeader : String := "X-A2A-Extensions"

/-- One capability offered on a card. -/
structure Capability where
  uri : String
  description : Option String
  required : Bool
deriving DecidableEq, Inhabited

/-- A service's published card: its name and its capabilities. -/
structure Card where
  name : String
  capabilities : List Capability
deriving DecidableEq, Inhabited

/-- The card entry for usage signalling. -/
def signalCapability : Capability :=
  ⟨signalUri, some "Provides rate limiting capabilities for agent requests.", false⟩

namespace Card

/-- Whether the card offers usage signalling. -/
def supportsSignal (c : Card) : Bool := c.capabilities.any (·.uri == signalUri)

/-- The card offering usage signalling; adding it twice changes nothing. -/
def advertise (c : Card) : Card :=
  if c.supportsSignal then c else { c with capabilities := c.capabilities ++ [signalCapability] }

end Card

/-- Request headers, one value per name. -/
abbrev Headers := List (String × String)

/-- The headers with `name` set to `value`. -/
def Headers.set (h : Headers) (name value : String) : Headers :=
  if h.any (·.1 == name) then h.map fun (n, v) => if n == name then (n, value) else (n, v)
  else h ++ [(name, value)]

/-- The headers asking for usage signalling, keeping the names already requested. -/
def requestSignal (h : Headers) : Headers :=
  let current := Text.trim ((h.lookup capabilityHeader).getD "")
  if (Text.pieces ',' current).any (fun u => Text.trim u == signalUri) then h
  else h.set capabilityHeader (if current.isEmpty then signalUri else current ++ ", " ++ signalUri)

/-- Ask for usage signalling when the card offers it; also tells whether it asked. -/
def intercept (card : Option Card) (h : Headers) : Bool × Headers :=
  if card.any Card.supportsSignal then (true, requestSignal h) else (false, h)

namespace Capability

/-- Read a capability from its JSON form. -/
def decode (v : Json.Value) : Json.Decoded Capability := do
  let fs ← Json.FieldSet.of "AgentExtension" ["uri", "description", "required"] v
  let description := Json.Value.toOption Json.Value.toStr
  fs.check [("uri", fun x => do let _ ← x.toStr), ("description", fun x => do let _ ← description x),
    ("required", fun x => do let _ ← x.toBool)]
  let uri ← fs.required "uri" Json.Value.toStr
  let d ← fs.withDefault "description" none description
  let r ← fs.withDefault "required" false Json.Value.toBool
  fs.finish
  pure ⟨uri, d, r⟩

/-- The JSON form; an absent description is left out. -/
def toJson (c : Capability) : Json.Value :=
  .obj ([("uri", .str c.uri)] ++ (c.description.map fun d => [("description", .str d)]).getD [] ++
    [("required", .bool c.required)])

end Capability

namespace Card

/-- Read the capability list of a card. -/
def decodeCapabilities (v : Json.Value) : Json.Decoded (List Capability) := do
  let fs ← Json.FieldSet.of "AgentCapabilities" ["extensions"] v
  let items (x : Json.Value) : Json.Decoded (List Capability) := do
    (← x.toItems).mapM Capability.decode
  fs.check [("extensions", fun x => do let _ ← items x)]
  let cs ← fs.withDefault "extensions" [] items
  fs.finish
  pure cs

/-- Read a card from its JSON form. -/
def decode (v : Json.Value) : Json.Decoded Card := do
  let fs ← Json.FieldSet.of "AgentCard" ["name", "capabilities"] v
  fs.check [("name", fun x => do let _ ← x.toStr),
    ("capabilities", fun x => do let _ ← decodeCapabilities x)]
  let name ← fs.required "name" Json.Value.toStr
  let cs ← fs.withDefault "capabilities" [] decodeCapabilities
  fs.finish
  pure ⟨name, cs⟩

/-- The JSON form of a card. -/
def toJson (c : Card) : Json.Value :=
  .obj [("name", .str c.name),
    ("capabilities", .obj [("extensions", .arr (c.capabilities.map Capability.toJson))])]

end Card

end Admission

end Throttle

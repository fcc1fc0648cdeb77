import Throttle.Json.Value
import Throttle.Text.Space
import Throttle.Error

/-!
# Requests

What the admission layer knows about an incoming request: who sends it (client id,
network address, user id), its subscription tier, the capabilities it requests, its
metadata, and the capabilities activated while it is handled. Requested and activated
capabilities are sets, kept as sorted lists without repeats.

A request's key names its sender: the first of client id, address and user id that is
present and not empty, as `client:…`, `ip:…` or `user:…`.
-/

namespace Throttle

namespace Admission

/-- The set with `s` added, as a sorted list without repeats. -/
def insertSorted (s : String) : List String → List String
  | [] => [s]
  | x :: xs => if s = x then x :: xs else if s < x then s :: x :: xs else x :: insertSorted s xs

/-- An incoming request. -/
structure Request where
  clientId : Option String := none
  remoteAddr : Option String := none
  userId : Option String := none
  tier : Option String := none
  requested : List String := []
  metadata : List (String × Json.Value) := []
  activated : List String := []
deriving Inhabited

namespace Request

/-- The request with a client id. -/
def withClientId (r : Request) (id : String) : Request := { r with clientId := some id }

/-- The request with a network address. -/
def withRemoteAddr (r : Request) (addr : String) : Request := { r with remoteAddr := some addr }

/-- The request with a user id. -/
def withUserId (r : Request) (id : String) : Request := { r with userId := some id }

/-- The request with a tier. -/
def withTier (r : Request) (tier : String) : Request := { r with tier := some tier }

/-- The request asking for one more capability. -/
def withRequested (r : Request) (uri : String) : Request :=
  { r with requested := insertSorted uri r.requested }

/-- The capabilities listed in a header value: the comma-separated pieces, trimmed, that are
not empty. -/
def headerEntries (header : String) : List String :=
  ((Text.pieces ',' header).map Text.trim).filter (!·.isEmpty)

/-- The request asking for every capability listed in a header value. -/
def withExtensionHeader (r : Request) (header : String) : Request :=
  (headerEntries header).foldl withRequested r

/-- The request with a metadata entry set. -/
def withMetadata (r : Request) (k : String) (v : Json.Value) : Request :=
  { r with metadata := Json.Value.insertField k v r.metadata }

/-- Whether the request asks for a capability. -/
def isRequested (r : Request) (uri : String) : Bool := r.requested.contains uri

/-- The request with a capability marked active. -/
def activate (r : Request) (uri : String) : Request :=
  { r with activated := insertSorted uri r.activated }

/-- The key used when no sender can be named. -/
def fallbackKey : String := "global:default"

/-- A field that is present and not empty. -/
def present : Option String → Option String
  | some s => if s.isEmpty then none else some s
  | none => none

/-- The standard key: client id, then address, then user id. -/
def standardKey (r : Request) : Except Error String :=
  match present r.clientId, present r.remoteAddr, present r.userId with
  | some id, _, _ => .ok ("client:" ++ id)
  | none, some addr, _ => .ok ("ip:" ++ addr)
  | none, none, some id => .ok ("user:" ++ id)
  | none, none, none =>
    .error (.keyExtraction "request carries no client id, remote address or user id")

end Request

end Admission

end Throttle

import Throttle.Binary64.Text

/-!
# Errors

Every failure of the library is an `Error`: a refused policy, a request without a key, a
configuration that cannot be used, a failing handler, or a file that cannot be read. Each
kind carries its cause as data; `Error.message` is the one place that words them.

A refused request is not an error: it is a decision that says so.
-/

namespace Throttle

/-- Why a policy or a policy override is refused. -/
inductive PolicyFault where
  | limitZero
  | windowZero
  | requestsNotPositive (requests : Int)
  | windowNotPositive (window : Int)
  | malformedOverride (detail : String)
  | noMemberPolicy (member : String)
deriving DecidableEq, Inhabited

/-- Numbers in messages: positional, a whole number without a point. -/
def messageLayout : Layout := ⟨none, false, "NaN", "inf"⟩

/-- The wording of a policy fault. -/
def PolicyFault.text : PolicyFault → String
  | .limitZero => "limit must be positive"
  | .windowZero => "window must be positive"
  | .requestsNotPositive n => "requests must be positive, got " ++ toString n
  | .windowNotPositive n => "window must be positive, got " ++ toString n
  | .malformedOverride detail => "malformed policy override: " ++ detail
  | .noMemberPolicy member => "no policy for composite member '" ++ member ++ "'"

/-- Why a limiter, a sweeper or a configuration cannot be used. -/
inductive ConfigFault where
  | multiplierInvalid (m : Binary64)
  | maxEntriesZero
  | sweepIntervalZero
  | compositeEmpty
  | nestedComposite
  | fallbackUndefined (tier : String)
  | tierPolicy (tier : String) (fault : PolicyFault)
  | multiplierNotPositive (m : Binary64)
  | sweepIntervalSecsZero
  | membersMissing
  | memberComposite (member : String)
  | memberPolicyPartial (member : String)
  | memberPolicy (member : String) (fault : PolicyFault)
  | unreadable (detail : String)
  | source (detail : String)
deriving DecidableEq, Inhabited

/-- The message of a policy error, as it is quoted inside other messages. -/
def PolicyFault.message (f : PolicyFault) : String := "Invalid policy: " ++ f.text

/-- The wording of a configuration fault. -/
def ConfigFault.text : ConfigFault → String
  | .multiplierInvalid m =>
    "capacity multiplier must be a positive number, got " ++ messageLayout.render m
  | .maxEntriesZero => "max_entries_per_key must be positive"
  | .sweepIntervalZero => "sweep interval must be positive"
  | .compositeEmpty => "composite limiter has no members"
  | .nestedComposite => "nested composite limiters are not supported"
  | .fallbackUndefined tier => "fallback tier '" ++ tier ++ "' is not defined"
  | .tierPolicy tier f => "tier '" ++ tier ++ "': " ++ f.message
  | .multiplierNotPositive m => "capacity_multiplier must be positive, got " ++ messageLayout.render m
  | .sweepIntervalSecsZero => "sweep_interval_secs must be positive"
  | .membersMissing => "composite limiter requires at least one member"
  | .memberComposite member => "composite member '" ++ member ++ "' cannot itself be composite"
  | .memberPolicyPartial member =>
    "member '" ++ member ++ "' must set both requests and window_secs, or neither"
  | .memberPolicy member f => "member '" ++ member ++ "': " ++ f.message
  | .unreadable detail => "Failed to parse configuration: " ++ detail
  | .source detail => detail

/-- Why a file cannot be read. -/
inductive IoFault where
  | notFound
  | isDirectory
deriving DecidableEq, Inhabited

/-- The operating system's wording of a file fault. -/
def IoFault.text : IoFault → String
  | .notFound => "No such file or directory (os error 2)"
  | .isDirectory => "Is a directory (os error 21)"

/-- A failure of the library. -/
inductive Error where
  | policy (fault : PolicyFault)
  | keyExtraction (detail : String)
  | config (fault : ConfigFault)
  | handler (detail : String)
  | io (fault : IoFault)
  /-- The program stops at a check of its own that fails, with the check's reason. -/
  | abort (reason : String)
deriving DecidableEq, Inhabited

/-- The message of an error. -/
def Error.message : Error → String
  | .policy f => f.message
  | .keyExtraction detail => "Key extraction failed: " ++ detail
  | .config f => "Configuration error: " ++ f.text
  | .handler detail => "Handler error: " ++ detail
  | .io f => "I/O error: " ++ f.text
  | .abort reason => reason

end Throttle

import VpnPanel.Lib.PyVal

/-!
# VpnPanel.RateLimit

The fixed-window limiter: `repositories/rate_limit.py` and the rules of
`panel.yaml` it is called with.

The count of a window is incremented by one upsert, which locks the entry until
its transaction ends; the table holds what is committed.
-/

namespace VpnPanel

/-- `RateLimitRule`. -/
structure RateLimitRule where
  maxAttempts : Option Nat := none
  maxRequests : Option Nat := none
  windowSeconds : Nat
  deriving DecidableEq, Repr

/-- `rule.max_requests or 30`. -/
def RateLimitRule.requests (rule : RateLimitRule) : Nat :=
  match rule.maxRequests with
  | some (n + 1) => n + 1
  | _ => 30

theorem RateLimitRule.requests_pos (rule : RateLimitRule) : 0 < rule.requests := by
  unfold RateLimitRule.requests
  split <;> omega

/-- The primary key of `rate_limit_entries`. -/
structure RateKey where
  key : String
  windowStart : Nat
  deriving DecidableEq, Repr

/-- `rate_limit_entries`; a missing entry counts nothing. -/
abbrev RateTable := RateKey → Nat

/-- The entry `check_and_increment` counts in; `now` is in microseconds. -/
def rateKey (scope identifier : String) (windowSeconds now : Nat) : RateKey where
  key := scope ++ ":" ++ identifier
  windowStart := now / 1000000 / windowSeconds * windowSeconds

def rateLimitExceeded : PyErr := ⟨.other "RateLimitExceeded", ""⟩

/-- The upsert. -/
def RateTable.increment (rates : RateTable) (key : RateKey) : RateTable :=
  fun key' => if key' = key then rates key' + 1 else rates key'

/-- What `check_and_increment` makes of the count its upsert returned. -/
def checkCount (count limit : Nat) : Except PyErr Unit :=
  if limit < count then .error rateLimitExceeded else .ok ()

end VpnPanel

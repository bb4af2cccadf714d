import ClusterCensus.Health.Basic
import ClusterCensus.Lifecycle.State
import ClusterCensus.Store.Basic
import ClusterCensus.Time.Span

/-!
# The health of the store and of the backend link

What the health of the store and of the backend link is derived from. The store is degraded when a
kind that has records was not touched for longer than a threshold; a kind without records never is.
-/

namespace ClusterCensus.Health

/-- The greatest number of 64 bits with a sign. -/
def maxInt64 : Int := Int64.maxValue.toInt

/-- An integer held within 64 bits with a sign. -/
def clampInt64 (n : Int) : Int := max Int64.minValue.toInt (min maxInt64 n)

/-- How long ago a time was, held within 64 bits with a sign. -/
def elapsedMs (nowMs thenMs : Int) : Int := clampInt64 (nowMs - thenMs)

/-- A threshold in milliseconds, held within 64 bits with a sign. -/
def thresholdMs (threshold : Span) : Int := min maxInt64 threshold.millis

/-- Whether a kind has records but was not touched for longer than a threshold. -/
def isStale (s : Store) (threshold : Span) (nowMs : Int) (k : Kind) : Bool :=
  0 < s.count k && thresholdMs threshold < elapsedMs nowMs (s.updatedMs k)

/-- The stale kinds, in their fixed order. -/
def staleKinds (s : Store) (threshold : Span) (nowMs : Int) : List Kind :=
  Kind.all.filter (isStale s threshold nowMs)

/-- The health of the store. The wall clock gives the time of the check only. -/
def ofStore (s : Store) (threshold : Span) (nowMs wallMs : Int) : Component :=
  match staleKinds s threshold nowMs with
  | [] => .healthy wallMs
  | stale =>
    .degraded wallMs
      ("no updates within threshold: " ++ String.intercalate ", " (stale.map Kind.name))

/-- The health of the link to the backend. -/
def ofLifecycle (status : Lifecycle.Status) (wallMs : Int) : Component :=
  match status.state with
  | .starting | .running => .healthy wallMs
  | .backoff =>
    .degraded wallMs
      (status.reason ++ " (" ++ toString status.backoffRemainingSecs.toNat ++ "s remaining)")
  | .stopped | .exiting => .unhealthy wallMs status.reason

end ClusterCensus.Health

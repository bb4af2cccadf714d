import ClusterCensus.Json.Decode

/-!
# The states of the lifecycle

The states of the agent's lifecycle and their names.
-/

namespace ClusterCensus.Lifecycle

/-- What the agent is doing. -/
inductive State where
  | starting
  | running
  | backoff
  | stopped
  | exiting
deriving DecidableEq, Repr

namespace State

/-- Every state, in a fixed order. -/
def all : List State := [starting, running, backoff, stopped, exiting]

theorem mem_all (s : State) : s ∈ all := by
  cases s <;> decide

/-- The name of a state in records and metrics. -/
def name : State → String
  | starting => "starting"
  | running => "running"
  | backoff => "backoff"
  | stopped => "stopped"
  | exiting => "exiting"

/-- The name of a state as a heading. -/
def title (s : State) : String := s.name.capitalize

/-- The place of a state in the fixed order. -/
def index (s : State) : Nat := all.idxOf s

/-- The choices of a field that names a state. -/
def choices : List (String × State) := all.map fun s => (s.name, s)

/-- A state by its name. -/
def decode : Decoder State := Json.decodeChoice choices

/-- The states that only a direct order leaves. -/
def isTerminal : State → Bool
  | stopped | exiting => true
  | _ => false

end State

/-- The lifecycle as it is shown to operators. -/
structure Status where
  state : State
  reason : String
  backoffRemainingSecs : UInt64
deriving DecidableEq

namespace Status

/-- The written form of a status. An empty reason is left out. -/
def encode (s : Status) : Json :=
  .object (("backoff_remaining_secs", Json.ofUInt64 s.backoffRemainingSecs) ::
    (if s.reason = "" then [] else [("reason", .string s.reason)]) ++
    [("state", .string s.state.name)])

/-- The fields of a status. -/
def fields : Json.Fields Status :=
  (Json.Fields.start Status.mk)
  |>.required "state" State.decode
  |>.defaulted "reason" Json.decodeString ""
  |>.required "backoff_remaining_secs" Json.decodeUInt64

/-- Reads a status. -/
def decode : Decoder Status := fields.decode "LifecycleStatus"

end Status

end ClusterCensus.Lifecycle

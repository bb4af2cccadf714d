import ClusterCensus.Agent.Environment
import ClusterCensus.Log
import ClusterCensus.Text.Quoted
import ClusterCensus.Time.Span

/-!
# The configuration

The agent takes its configuration from the settings of its environment. What is not set has a
default; what is set to an unusable value is an error and not replaced.
-/

namespace ClusterCensus

/-- A configuration of the agent. -/
structure Config where
  nodeName : String
  apiPort : UInt16
  snapshotIntervalSecs : UInt64
  syncTimeoutSecs : UInt64
  stalenessThresholdSecs : UInt64
deriving DecidableEq, Repr

/-- Why an environment has no configuration. -/
inductive ConfigError where
  | misplaced (fault : PlaceFault)
  | compoundText (key : String) (kind : Compound)
  | compoundInteger (key : String) (kind : Compound)
  | notInteger (key value : String)
  | noPort (key : String) (n : Nat)
  | zero (key : String)
deriving DecidableEq, Repr

/-- The failure of a configuration with a value that does not fit its key. -/
def ConfigError.misfit (found wanted key : String) : Failure :=
  ⟨["invalid agent configuration",
    "invalid type: " ++ found ++ ", expected " ++ wanted ++ " for key `" ++ key ++ "`"]⟩

/-- The causes of an error, the outermost first. -/
def ConfigError.failure : ConfigError → Failure
  | misplaced fault => .ofCause fault.message
  | compoundText key kind => misfit kind.name "a string" key
  | compoundInteger key kind => misfit kind.name "an integer" key
  | notInteger key value =>
    ⟨["invalid agent configuration",
      "invalid type: string " ++ Text.quoted value ++ ", expected an integer for key `" ++ key ++
        "` in the environment"]⟩
  | noPort key n =>
    misfit ("64-bit unsigned integer `" ++ toString n ++ "`") "an unsigned 16 bit integer" key
  | zero key => .ofCause (key ++ " must be greater than zero")

namespace Config

/-- A number as a setting gives it: by a word for one or zero, or by digits. -/
def readNumber? (value : String) : Option Nat :=
  let word := value.toLower
  if word ∈ ["true", "on", "yes"] then some 1
  else if word ∈ ["false", "off", "no"] then some 0
  else Natural.read? value.toList

/-- The text that sets a key, or its default. -/
def text (env : Environment) (key : String) (otherwise : String) : Except ConfigError String :=
  match env.setting? key with
  | none => .ok otherwise
  | some (.text value) => .ok value
  | some (.compound kind) => .error (.compoundText key kind)

/-- The number that sets a key, or its default. -/
def number (env : Environment) (key : String) (otherwise : UInt64) : Except ConfigError UInt64 :=
  match env.setting? key with
  | none => .ok otherwise
  | some (.text value) =>
    match readNumber? value with
    | some n => .ok (.ofNat n)
    | none => .error (.notInteger key value)
  | some (.compound kind) => .error (.compoundInteger key kind)

/-- The port that sets a key, or its default. -/
def port (env : Environment) (key : String) (otherwise : UInt16) : Except ConfigError UInt16 := do
  let n ← number env key otherwise.toUInt64
  if n.toNat < UInt16.size then pure n.toUInt16 else throw (.noPort key n.toNat)

/-- The name of the node where the configuration gives none. -/
def defaultNode (env : Environment) : String := (env.get? "NODE_NAME").getD "unknown"

/-- The configuration of an environment without settings. -/
def default (env : Environment) : Config := ⟨defaultNode env, 8080, 60, 300, 900⟩

/-- The settings of an environment, if each of them has a place. -/
def read (env : Environment) : Except ConfigError Config := do
  if let some fault := env.fault? then throw (.misplaced fault)
  let d := default env
  let nodeName ← text env "node_name" d.nodeName
  let apiPort ← port env "api_port" d.apiPort
  let snapshotIntervalSecs ← number env "snapshot_interval_secs" d.snapshotIntervalSecs
  let syncTimeoutSecs ← number env "sync_timeout_secs" d.syncTimeoutSecs
  let stalenessThresholdSecs ← number env "staleness_threshold_secs" d.stalenessThresholdSecs
  pure ⟨nodeName, apiPort, snapshotIntervalSecs, syncTimeoutSecs, stalenessThresholdSecs⟩

/-- Refuses an interval or a timeout of zero. -/
def check (c : Config) : Except ConfigError Config :=
  if c.snapshotIntervalSecs = 0 then .error (.zero "snapshot_interval_secs")
  else if c.syncTimeoutSecs = 0 then .error (.zero "sync_timeout_secs")
  else .ok c

/-- The configuration of an environment. -/
def load (env : Environment) : Except ConfigError Config := do (← read env).check

/-- The time between snapshots. -/
def snapshotInterval (c : Config) : Span := .ofSecs c.snapshotIntervalSecs.toNat

/-- How long the collectors may take to load their first state. -/
def syncTimeout (c : Config) : Span := .ofSecs c.syncTimeoutSecs.toNat

/-- How long a kind with records may stay untouched. -/
def stalenessThreshold (c : Config) : Span := .ofSecs c.stalenessThresholdSecs.toNat

end Config

end ClusterCensus

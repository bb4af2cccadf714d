import ClusterCensus.Json.Value

/-!
# Failures and records of the log

Why something failed is a chain of causes, the outermost first. A record of the log is a level, a
message and named fields. It also knows which part of the agent wrote it, which is not written but
is what filters go by.
-/

namespace ClusterCensus

/-- A chain of causes, the outermost first. -/
structure Failure where
  causes : List String
deriving DecidableEq, Repr

namespace Failure

/-- A failure with a single cause. -/
def ofCause (cause : String) : Failure := ⟨[cause]⟩

/-- The outermost cause. -/
def headline (f : Failure) : String := f.causes.headD ""

/-- The whole chain. -/
def text (f : Failure) : String := String.intercalate ": " f.causes

end Failure

end ClusterCensus

namespace ClusterCensus.Log

/-- How much a record matters. -/
inductive Level where
  | error
  | warn
  | info
  | debug
  | trace
deriving DecidableEq, Repr

namespace Level

/-- The name of a level. -/
def name : Level → String
  | error => "ERROR"
  | warn => "WARN"
  | info => "INFO"
  | debug => "DEBUG"
  | trace => "TRACE"

/-- How far a level is from the most important one. -/
def rank : Level → Nat
  | error => 1
  | warn => 2
  | info => 3
  | debug => 4
  | trace => 5

end Level

/-- The content of a field. -/
inductive Value where
  | text (s : String)
  | number (n : Nat)
deriving DecidableEq, Repr

instance : Coe String Value := ⟨.text⟩

instance : Coe Nat Value := ⟨.number⟩

/-- The parts of the agent that write records. -/
inductive Origin where
  | program
  | api
  | server
  | shipping
  | journal
  | registry
  | task
  | ownership
  | lifecycle
deriving DecidableEq, Repr

/-- The name by which filters know a part of the agent. -/
def Origin.name : Origin → String
  | program => "cluster_agent"
  | api => "cluster_agent::api"
  | server => "axum::serve"
  | shipping => "agent_lib::snapshot"
  | journal => "agent_lib::observability"
  | registry => "agent_lib::collector::registry"
  | task => "agent_lib::collector::task"
  | ownership => "agent_lib::ownership"
  | lifecycle => "agent_lib::lifecycle"

/-- A record of the log. -/
structure Record where
  origin : Origin
  level : Level
  message : String
  fields : List (String × Value)
deriving DecidableEq, Repr

namespace Origin

/-- A record of an error. -/
def error (o : Origin) (message : String) (fields : List (String × Value) := []) : Record :=
  ⟨o, .error, message, fields⟩

/-- A record of a warning. -/
def warn (o : Origin) (message : String) (fields : List (String × Value) := []) : Record :=
  ⟨o, .warn, message, fields⟩

/-- A record of an event. -/
def info (o : Origin) (message : String) (fields : List (String × Value) := []) : Record :=
  ⟨o, .info, message, fields⟩

/-- A record of a detail. -/
def debug (o : Origin) (message : String) (fields : List (String × Value) := []) : Record :=
  ⟨o, .debug, message, fields⟩

/-- A record of a step. -/
def trace (o : Origin) (message : String) (fields : List (String × Value) := []) : Record :=
  ⟨o, .trace, message, fields⟩

end Origin

/-- The written form of the content of a field. -/
def Value.encode : Value → Json
  | text s => .string s
  | number n => .nat n

/-- The written form of a record. -/
def Record.encode (r : Record) : Json :=
  .object [
    ("fields", Json.ofMembers (r.fields.map fun f => (f.1, f.2.encode))),
    ("level", r.level.name),
    ("message", .string r.message)]

/-- Whether a record has a field. -/
def Record.hasField (r : Record) (name : String) : Bool := r.fields.any fun f => f.1 = name

end ClusterCensus.Log

import ClusterCensus.Json.Decode

/-!
# Health

The health of components and of the agent as a whole, which is that of its worst component.
-/

namespace ClusterCensus.Health

/-- How well a component works. -/
inductive Grade where
  | healthy
  | degraded
  | unhealthy
deriving DecidableEq, Repr

namespace Grade

/-- Every grade, the best one first. -/
def all : List Grade := [healthy, degraded, unhealthy]

/-- The name of a grade. -/
def name : Grade → String
  | healthy => "healthy"
  | degraded => "degraded"
  | unhealthy => "unhealthy"

/-- The choices of a field that names a grade. -/
def choices : List (String × Grade) := all.map fun g => (g.name, g)

/-- A grade by its name. -/
def decode : Decoder Grade := Json.decodeChoice choices

/-- Whether the component works at least in part. -/
def isOperational : Grade → Bool
  | unhealthy => false
  | _ => true

/-- The worse of two grades. -/
def worse : Grade → Grade → Grade
  | unhealthy, _ => unhealthy
  | _, unhealthy => unhealthy
  | degraded, _ => degraded
  | _, degraded => degraded
  | healthy, healthy => healthy

end Grade

/-- The health of a component, and when it was looked at, in seconds. -/
structure Component where
  grade : Grade
  message : Option String
  checkedAt : Int64
deriving DecidableEq

namespace Component

/-- The whole seconds of a time in milliseconds. -/
def secondsOf (nowMs : Int) : Int64 := Int64.ofInt (Int.fdiv nowMs 1000)

/-- A component that works. -/
def healthy (nowMs : Int) : Component := ⟨.healthy, none, secondsOf nowMs⟩

/-- A component that works in part. -/
def degraded (nowMs : Int) (message : String) : Component :=
  ⟨.degraded, some message, secondsOf nowMs⟩

/-- A component that does not work. -/
def unhealthy (nowMs : Int) (message : String) : Component :=
  ⟨.unhealthy, some message, secondsOf nowMs⟩

/-- The written form of a component's health. An absent message is left out. -/
def encode (c : Component) : Json :=
  .object (("last_check_timestamp", Json.ofInt64 c.checkedAt) ::
    (c.message.map fun m => ("message", Json.string m)).toList ++
    [("status", .string c.grade.name)])

/-- The fields of a component's health. -/
def fields : Json.Fields Component :=
  (Json.Fields.start Component.mk)
  |>.required "status" Grade.decode
  |>.optional "message" Json.decodeString
  |>.required "last_check_timestamp" Json.decodeInt64

/-- Reads a component's health. -/
def decode : Decoder Component := fields.decode "ComponentHealth"

end Component

/-- The components by name. -/
abbrev Components := SortedMap Component

/-- The worst grade among components. -/
def overall (components : Components) : Grade :=
  (components.values.map (·.grade)).foldl Grade.worse .healthy

/-- Reads components by name. -/
def decodeComponents : Decoder Components := Json.decodeMap Component.decode

/-- The health of the agent. -/
structure Report where
  grade : Grade
  components : Components
deriving DecidableEq

namespace Report

/-- The written form of a report. -/
def encode (r : Report) : Json :=
  .object [
    ("components", .object (r.components.entries.map fun e => (e.1, e.2.encode))),
    ("status", .string r.grade.name)]

/-- The fields of a report. -/
def fields : Json.Fields Report :=
  (Json.Fields.start Report.mk)
  |>.required "status" Grade.decode
  |>.required "components" decodeComponents

/-- Reads a report. -/
def decode : Decoder Report := fields.decode "HealthResponse"

end Report

/-- Whether the agent is ready, and why not. -/
structure Readiness where
  ready : Bool
  reason : Option String
deriving DecidableEq

namespace Readiness

/-- The written form of readiness. An absent reason is left out. -/
def encode (r : Readiness) : Json :=
  .object (("ready", .bool r.ready) :: (r.reason.map fun s => ("reason", Json.string s)).toList)

/-- The fields of readiness. -/
def fields : Json.Fields Readiness :=
  (Json.Fields.start Readiness.mk)
  |>.required "ready" Json.decodeBool
  |>.optional "reason" Json.decodeString

/-- Reads readiness. -/
def decode : Decoder Readiness := fields.decode "ReadinessResponse"

end Readiness

end ClusterCensus.Health

import ClusterCensus.Health.Basic

/-!
# The health registry

The registry keeps the latest health of each component, and whether the agent was declared ready.
-/

namespace ClusterCensus.Health

/-- The names of the agent's own components. -/
def collectorsName : String := "collectors"

/-- The component that stands for the store. -/
def storeName : String := "store"

/-- The component that stands for the link to the backend. -/
def backendName : String := "backend"

/-- The latest health of each component, and whether the agent was declared ready. -/
structure Registry where
  components : Components
  ready : Bool
deriving DecidableEq

namespace Registry

/-- A registry without components. -/
def empty : Registry := ⟨∅, false⟩

instance : Inhabited Registry := ⟨empty⟩

/-- Sets the health of a component. -/
def update (r : Registry) (name : String) (c : Component) : Registry :=
  { r with components := r.components.insert name c }

/-- Declares the agent ready or not. -/
def setReady (r : Registry) (ready : Bool) : Registry := { r with ready }

/-- The health of the agent. -/
def report (r : Registry) : Report := ⟨overall r.components, r.components⟩

/-- Whether the agent is ready: it was declared so, and no component is unhealthy. -/
def readiness (r : Registry) : Readiness :=
  if !r.ready then ⟨false, some "Collectors not yet synced"⟩
  else if r.report.grade = .unhealthy then ⟨false, some "Critical component unhealthy"⟩
  else ⟨true, none⟩

end Registry

end ClusterCensus.Health

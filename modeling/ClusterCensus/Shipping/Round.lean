import ClusterCensus.Agent.Api
import ClusterCensus.Shipping.Loop
import ClusterCensus.Shipping.Tick
import ClusterCensus.Time.Clock

/-!
# Rounds

A round is a tick together with what others did to the agent since the last one. Records are written
to the store, requests are answered, the callback for the end of the agent's support is registered,
but only ticks move the lifecycle. What others do while a sink is at work is told with the tick
before or after: the tick has read the store by then, and looks at the callback when the sink is
done. The shipping loop goes on from round to round, whatever surrounds it.
-/

namespace ClusterCensus.Shipping

/-- What others do to an agent between two ticks. -/
inductive Aside where
  | write (wallMs : Int) (change : Store.Change)
  | onCancel (callback : String)
  | request (wallMs : Int) (now : Instant) (method : Api.Method) (target : String)

/-- A tick and what surrounds it: what others did before, what the clocks say, and the sink. -/
structure Round where
  asides : List Aside
  reading : Reading
  sink : Sink

end ClusterCensus.Shipping

namespace ClusterCensus.Agent

open Shipping

/-- The agent after others did something to it. -/
def aside (a : Agent) : Aside → Agent
  | .write wallMs change => { a with store := a.store.apply wallMs change }
  | .onCancel callback => { a with lifecycle := a.lifecycle.onCancel callback }
  | .request wallMs now method target => (a.respond wallMs now method target).2

/-- The agent as a tick finds it. -/
def beforeTick (a : Agent) (r : Round) : Agent := r.asides.foldl aside a

/-- The tick of a round. -/
def round (a : Agent) (r : Round) : Tick := (a.beforeTick r).tick r.reading r.sink

/-- What is left of a tick that could not read the wall clock. -/
def brokenTick (a : Agent) : Agent := { a with metrics := a.metrics.setStore a.store }

end ClusterCensus.Agent

namespace ClusterCensus.Shipping

/-- The surroundings of a loop: the next round for an agent at a time, how long it takes, and the
surroundings after it. The wall clock may be unreadable. -/
abbrev Surroundings (ε : Type) := ε → Agent → Nat → Except Wall.Fault (Round × Nat × ε)

/-- A tick of a loop, and when it began and ended. -/
structure Timed where
  began : Nat
  ended : Nat
  tick : Tick

/-- A loop under way: the agent, what surrounds it, the ticks, and what broke the last one off. -/
structure Progress (ε : Type) where
  agent : Agent
  around : ε
  ticks : List Timed
  fault : Option Wall.Fault

/-- A loop that begins. -/
def Progress.start {ε : Type} (a : Agent) (around : ε) : Progress ε := ⟨a, around, [], none⟩

/-- The work of a loop: each tick is a turn, and a lifecycle at its end or a broken tick ends them.
-/
def Surroundings.work {ε : Type} (m : Surroundings ε) : Work (Progress ε) where
  turn := fun start p =>
    match m p.around p.agent start with
    | .ok (r, took, around) =>
      let t := p.agent.round r
      ({ p with agent := t.agent, around, ticks := p.ticks ++ [⟨start, start + took, t⟩] }, took)
    | .error fault => ({ p with agent := p.agent.brokenTick, fault := some fault }, 0)
  finished := fun p => p.fault.isSome || p.agent.lifecycle.machine.state.isTerminal

end ClusterCensus.Shipping

import ClusterCensus.Shipping.Round

/-!
# What happens to an agent

What happens to an agent in the course of time. Its lifecycle is moved by ticks and by orders, and
an order is logged by the lifecycle itself. Besides that, others write to its store, send requests,
hand it answers of the backend, judge the health of components and declare it ready or not.
-/

namespace ClusterCensus

/-- What moves the lifecycle of an agent: a tick with what surrounds it, or an order. -/
inductive Shipping.Move where
  | round (r : Round)
  | order (state : Lifecycle.State) (reason : String)

/-- Whatever is done to an agent. -/
inductive Agent.Deed where
  | aside (x : Shipping.Aside)
  | move (m : Shipping.Move)
  | answer (now : Instant) (code hint : Nat)
  | judge (name : String) (c : Health.Component)
  | declare (ready : Bool)

namespace Agent

open Shipping

/-- The agent after an order. -/
def order (a : Agent) (state : Lifecycle.State) (reason : String) : Agent :=
  { a with lifecycle := a.lifecycle.order state reason }

/-- The agent after a move. -/
def move (a : Agent) : Move → Agent
  | .round r => (a.round r).agent
  | .order state reason => a.order state reason

/-- What is logged about a move. -/
def moveLogs (a : Agent) : Move → List Log.Record
  | .round r => (a.round r).logs
  | .order state reason => [a.lifecycle.orderLog state reason]

/-- The agent after a deed. -/
def deed (a : Agent) : Deed → Agent
  | .aside x => a.aside x
  | .move m => a.move m
  | .answer now code hint => { a with lifecycle := a.lifecycle.answer now code hint }
  | .judge name c => { a with health := a.health.update name c }
  | .declare ready => { a with health := a.health.setReady ready }

end Agent

end ClusterCensus

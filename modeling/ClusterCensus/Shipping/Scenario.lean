import ClusterCensus.Shipping.Round
import ClusterCensus.Time.Clock

/-!
# Shipping in simulated time

A scenario is an agent under clocks that are set by hand, with a sink that answers from a script.
The loop that ships its snapshots runs in simulated time.
-/

namespace ClusterCensus.Shipping

/-- What the script says about one shipment: what comes of it, and how long that takes. -/
structure Scripted where
  delivery : Delivery
  delayMs : Nat
deriving DecidableEq, Repr

/-- What comes of a shipment that no script tells of. -/
def Scripted.otherwise : Scripted := ⟨.answered 200 0, 0⟩

/-- An agent, the clock of its lifecycle, the wall clock, the time passed since the beginning, and
what is left of the script. -/
structure Scenario where
  agent : Agent
  clock : Clock
  wallMs : Int
  elapsedMs : Nat
  script : List Scripted

/-- How the loop of a scenario ended: by itself, before it was told to shut down; after it was told
to, whatever made it end then; or broken. -/
inductive RunEnding where
  | terminal
  | shutdown
  | noInterval
  | noWall (fault : Wall.Fault)
deriving DecidableEq, Repr

/-- A run of the loop: why it ended, its ticks, the scenario after it, and what is logged. -/
structure Run where
  ending : RunEnding
  ticks : List Timed
  scenario : Scenario
  logs : List Log.Record

namespace Scenario

/-- What the wall clock shows. -/
def readWall (s : Scenario) : Except Wall.Fault Int := Wall.read s.wallMs

/-- What the clock of the lifecycle shows. -/
def now (s : Scenario) : Instant := s.clock.now s.wallMs s.elapsedMs

/-- What the clock of the lifecycle shows to someone who looks only if it matters. The wall clock
may be unreadable. -/
def look (s : Scenario) (matters : Bool) : Except Wall.Fault Instant :=
  if matters ∧ s.clock = .wall then s.readWall.map fun _ => s.now else .ok s.now

/-- What the clock of the lifecycle shows to a reader of the lifecycle. -/
def lookAtLifecycle (s : Scenario) : Except Wall.Fault Instant :=
  s.look s.agent.lifecycle.machine.isTimed

/-- The answer to a request, and the scenario after it. -/
def respond (s : Scenario) (method : Api.Method) (target : String) :
    Except Wall.Fault (Api.Response × Scenario) := do
  let wallMs ←
    if (Api.Endpoint.ofTarget? target).any Api.Endpoint.readsWall ∧ method ≠ .other then s.readWall
    else pure s.wallMs
  let now ←
    if (Api.Endpoint.ofTarget? target).isSome ∧ method ≠ .other then s.lookAtLifecycle
    else pure s.now
  let (r, agent) := s.agent.respond wallMs now method target
  pure (r, { s with agent })

/-- What comes of the next shipment, and the script after it. -/
def nextDelivery (s : Scenario) : Scripted × List Scripted :=
  match s.script with
  | d :: rest => (d, rest)
  | [] => (.otherwise, [])

/-- The next round of a scenario, and the scenario when it is over, but for the agent. The script
goes on only if the lifecycle allows a shipment. -/
def round (s : Scenario) : Except Wall.Fault (Round × Scenario) := do
  let gate ← s.look s.agent.lifecycle.machine.isGateTimed
  if s.agent.lifecycle.machine.canSend gate then
    let wallMs ← s.readWall
    let (d, script) := s.nextDelivery
    let later := { s with elapsedMs := s.elapsedMs + d.delayMs, script }
    let reading : Reading := ⟨wallMs, gate, later.now, later.now, .zero false⟩
    pure (⟨[], reading, .answering d.delivery⟩, later)
  else
    let reading : Reading := ⟨s.wallMs, gate, gate, gate, .zero false⟩
    pure (⟨[], reading, .answering Scripted.otherwise.delivery⟩, s)

/-- A tick. -/
def tick (s : Scenario) : Except Wall.Fault (Tick × Scenario) := do
  let (r, later) ← s.round
  let t := s.agent.round r
  pure (t, { later with agent := t.agent })

/-- The surroundings of a loop in a scenario, whose agent is the one that the loop has. -/
def surroundings : Surroundings Scenario := fun s a start => do
  let (r, later) ← ({ s with agent := a, elapsedMs := start } : Scenario).round
  pure (r, later.elapsedMs - start, later)

/-- The record of a loop that begins. -/
def loopStarting (intervalMs : Nat) : Log.Record :=
  Log.Origin.shipping.info "Starting snapshot loop"
    [("interval_secs", (Span.ofMillis intervalMs).secs)]

/-- The record of a loop that ends. -/
def loopEnding (state : Lifecycle.State) : Ending → Log.Record
  | .finished =>
    Log.Origin.shipping.info "Lifecycle is terminal, stopping snapshot loop" [("state", state.name)]
  | .shutdown => Log.Origin.shipping.info "Shutting down snapshot loop"

/-- Runs the loop with an interval and shuts it down after some time. When a tick and the shutdown
are there at once, the list says which is taken. A broken tick ends the loop without a word. -/
def run (s : Scenario) (intervalMs shutdownAfterMs : Nat) (favours : List Bool) : Run :=
  if h : 0 < intervalMs then
    let shutdown := s.elapsedMs + shutdownAfterMs
    let c := surroundings.work.run shutdown ⟨intervalMs, s.elapsedMs, h⟩ favours s.elapsedMs
      (.start s.agent s)
    let ended := loopEnding c.state.agent.lifecycle.machine.state c.ending
    let (ending, last) := match c.state.fault with
      | some fault => (RunEnding.noWall fault, [])
      | none => (if c.time < shutdown then .terminal else .shutdown, [ended])
    { ending
      ticks := c.state.ticks
      scenario := { c.state.around with agent := c.state.agent, elapsedMs := c.time }
      logs := loopStarting intervalMs :: c.state.ticks.flatMap (·.tick.logs) ++ last }
  else ⟨.noInterval, [], s, [loopStarting intervalMs]⟩

end Scenario

/-- When snapshots were shipped in a run, and how many records they held. -/
def Run.ships (r : Run) : List (Nat × Nat) :=
  r.ticks.filterMap fun t => t.tick.seen.map fun s => (t.began, s.totalItems)

end ClusterCensus.Shipping

import ClusterCensus.Agent.Api
import ClusterCensus.Agent.Config
import ClusterCensus.Log.Filter
import ClusterCensus.Shipping.Scenario

/-!
# The agent as a program

As a program the agent takes its configuration from the environment, ships snapshots to the log, and
ends when it is interrupted. It has no collectors of its own, so its snapshots are empty.
-/

namespace ClusterCensus.Program

open Shipping

/-- The version of the program. -/
def version : String := "0.1.0"

/-- A program that has ended: its exit code, what it wrote as its error, and its log. -/
structure Ended where
  exit : Nat
  stderr : String
  logs : List Log.Record

/-- A failure as a program reports it: the headline, then the causes, numbered if there are several.
-/
def report (f : Failure) : String :=
  let causes := match f.causes.tail with
    | [] => ""
    | [cause] => "\n\nCaused by:\n    " ++ cause
    | causes =>
      "\n\nCaused by:" ++ String.join (causes.zipIdx.map fun c =>
        "\n    " ++ toString c.2 ++ ": " ++ c.1)
  "Error: " ++ f.headline ++ causes ++ "\n"

/-- The failure of a program without a configuration. -/
def noConfig (e : ConfigError) : Failure := ⟨"failed to load configuration" :: e.failure.causes⟩

/-- The exit code of a program that is broken off. -/
def brokenExit : Nat := 101

/-- The first record of the program. -/
def starting : Log.Record := Log.Origin.program.info "Starting cluster-agent"

/-- The agent of a configuration. -/
def agent (c : Config) : Agent := .initial c.nodeName c.stalenessThreshold

/-- The records from the configuration to the first tick. -/
def opening (c : Config) : List Log.Record := [
  Log.Origin.program.info "Agent configured"
    [("node_name", c.nodeName), ("snapshot_interval_secs", c.snapshotIntervalSecs.toNat),
      ("sync_timeout_secs", c.syncTimeoutSecs.toNat)],
  Log.Origin.program.warn "No collectors registered, snapshots will be empty",
  (agent c).journal.started version 0,
  Agent.listening c.apiPort,
  (agent c).journal.collectorsStarted 0 [],
  Scenario.loopStarting c.snapshotInterval.millis]

/-- The records of the server as it ends without requests. -/
def serverEnding : List Log.Record := [
  Log.Origin.server.trace "received graceful shutdown signal. Telling tasks to shutdown",
  Log.Origin.server.trace "signal received, not accepting new connections",
  Log.Origin.server.trace "waiting for 0 task(s) to finish"]

/-- The records from an interrupt to the end. -/
def closing (c : Config) (state : Lifecycle.State) : List Log.Record := [
  (agent c).journal.stopping "SIGINT received",
  Scenario.loopEnding state .shutdown,
  Log.Origin.registry.info "All collectors stopped"] ++
  serverEnding ++
  [Log.Origin.program.info "Shutdown complete"]

/-- What the program does in an environment if it is interrupted after its first snapshot, the wall
clock standing still. -/
def run (env : Environment) (wallMs : Int) : Ended :=
  let filter := Log.Filter.ofText? (env.get? "RUST_LOG")
  match Config.load env with
  | .error (.misplaced fault) => ⟨brokenExit, fault.message ++ "\n", filter.apply [starting]⟩
  | .error e => ⟨1, report (noConfig e), filter.apply [starting]⟩
  | .ok c =>
    let now := Instant.ofMillis wallMs
    let t := (agent c).tick ⟨wallMs, now, now, now, .zero false⟩ Sink.logging
    ⟨0, "",
      filter.apply
        ([starting] ++ opening c ++ t.logs ++ closing c t.agent.lifecycle.machine.state)⟩

end ClusterCensus.Program

import ClusterCensus.Agent.Program
import Std.Time.DateTime.Timestamp

/-!
# The agent as a process

As a process the agent takes its settings from the environment, writes its log to the standard
output, one record to a line, and ships a snapshot to the log at every interval until it is
interrupted.
-/

namespace ClusterCensus.Main

open Program Shipping

/-- The variables of a block in which each ends with a zero character, its name before the first
equals sign after the name's first character and its value behind. -/
def ofBlock (block : String) : Environment :=
  (Text.pieces '\x00' block.toList).filterMap fun cs =>
    match cs with
    | [] => none
    | first :: rest =>
      match rest.span (· ≠ '=') with
      | (name, _ :: value) => some (.ofList (first :: name), .ofList value)
      | (_, []) => none

/-- The environment that the process was started with. -/
def environment : IO Environment := ofBlock <$> IO.FS.readFile "/proc/self/environ"

/-- The wall clock in milliseconds. -/
def wallMs : IO Int := do
  pure (← Std.Time.Timestamp.now).toMillisecondsSinceUnixEpoch.val

/-- Writes the records that a filter lets through. -/
def write (filter : Log.Filter) (rs : List Log.Record) : IO Unit := do
  for r in filter.apply rs do
    IO.println r.encode.compact
  (← IO.getStdout).flush

/-- Ticks at every interval until the lifecycle is at its end. -/
partial def ticks (filter : Log.Filter) (c : Config) (a : Agent) : IO Agent := do
  let wall ← wallMs
  let now := Instant.ofMillis wall
  let t := a.tick ⟨wall, now, now, now, .zero false⟩ Sink.logging
  write filter t.logs
  if t.agent.lifecycle.machine.state.isTerminal then pure t.agent
  else do
    IO.sleep (.ofNat c.snapshotInterval.millis)
    ticks filter c t.agent

/-- Runs the agent: its exit code. -/
def run : IO UInt32 := do
  let env ← environment
  let filter := Log.Filter.ofText? (env.get? "RUST_LOG")
  write filter [starting]
  match Config.load env with
  | .error e => do
    (← IO.getStderr).putStr (report (noConfig e))
    pure 1
  | .ok c => do
    write filter (opening c)
    let a ← ticks filter c (agent c)
    write filter [Scenario.loopEnding a.lifecycle.machine.state .finished]
    pure 0

end ClusterCensus.Main

/-- The agent as a process. -/
def main : IO UInt32 := ClusterCensus.Main.run

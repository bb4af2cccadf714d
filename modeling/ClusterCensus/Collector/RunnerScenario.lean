import ClusterCensus.Collector.Runner

/-!
# A runner in simulated time

A scenario of a runner and a signal in simulated time, in microseconds.
-/

namespace ClusterCensus.Collector

/-- A runner and a signal at a time. -/
structure RunnerScenario where
  time : Nat
  runner : Runner
  signal : Signal
deriving DecidableEq, Repr

namespace RunnerScenario

/-- A runner without a duty and a signal that is not raised. -/
def initial : RunnerScenario := ⟨0, .idle, .unset⟩

instance : Inhabited RunnerScenario := ⟨initial⟩

/-- What the duty has done so far. -/
def deeds (s : RunnerScenario) : List String :=
  (s.runner.deeds.filter fun d => d.1 ≤ s.time).map (·.2)

/-- Gives the runner its duty. -/
def assign (s : RunnerScenario) (d : Duty) : Except AssignError RunnerScenario :=
  (s.runner.assign s.time d).map fun runner => { s with runner }

/-- Cancels the runner. -/
def cancel (s : RunnerScenario) : RunnerScenario := { s with runner := s.runner.cancel s.time }

/-- Stops the runner and waits for its duty to end. -/
def stop (s : RunnerScenario) : RunnerScenario × List Log.Record :=
  let stopped := s.runner.stop s.time
  ({ s with time := stopped.time, runner := stopped.runner }, stopped.logs)

/-- Lets time pass. -/
def sleep (s : RunnerScenario) (span : Nat) : RunnerScenario := { s with time := s.time + span }

/-- Raises the signal. -/
def mark (s : RunnerScenario) : RunnerScenario := { s with signal := s.signal.raise s.time }

/-- Waits for the signal, which may be raised some time from now; the wait may be called off some
time from now. Nothing comes of a wait that never ends. -/
def wait (s : RunnerScenario) (cancelAfter markAfter : Option Nat) :
    Option (Option Failure) × RunnerScenario :=
  let signal := match markAfter with
    | some span => s.signal.raise (s.time + span)
    | none => s.signal
  match signal.wait s.time (cancelAfter.map (s.time + ·)) with
  | some (time, failure) => (some failure, { s with time, signal })
  | none => (none, { s with signal })

end RunnerScenario

end ClusterCensus.Collector

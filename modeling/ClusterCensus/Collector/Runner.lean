import ClusterCensus.Collector.FanOut
import ClusterCensus.Log

/-!
# Runners and signals

Runners and signals are the two things that collectors are made of. A runner has at most one duty,
which it is given once and which ends some time after the runner was cancelled at the latest, if it
heeds that. Stopping a runner cancels it and waits for its duty to end. Times are in microseconds.
-/

namespace ClusterCensus.Collector

/-- A duty: it takes some time, waits until it is cancelled, if it heeds that, takes some time
again, and may crash in the end. -/
structure Duty where
  lead : Nat
  heedsCancel : Bool
  lasts : Nat
  crash : Option String
deriving DecidableEq, Repr

/-- A runner: its duty and when it was given it, when it was cancelled, and whether it was stopped.
-/
structure Runner where
  duty : Option (Nat × Duty)
  cancelledAt : Moment
  stopped : Bool
deriving DecidableEq, Repr

/-- Why a runner takes no duty. -/
inductive AssignError where
  | stopped
  | started
deriving DecidableEq, Repr

/-- The wording of an error. -/
def AssignError.failure : AssignError → Failure
  | stopped => .ofCause "background task already stopped"
  | started => .ofCause "background task already started"

/-- The end of a call to stop: when it comes, the runner then, and what is logged. -/
structure Runner.Stopped where
  time : Nat
  runner : Runner
  logs : List Log.Record

namespace Runner

/-- A runner without a duty. -/
def idle : Runner := ⟨none, none, false⟩

instance : Inhabited Runner := ⟨idle⟩

/-- Gives a runner its duty. -/
def assign (r : Runner) (now : Nat) (d : Duty) : Except AssignError Runner :=
  if r.stopped then .error .stopped
  else if r.duty.isSome then .error .started
  else .ok { r with duty := some (now, d) }

/-- Whether a runner was given a duty and not stopped. -/
def isRunning (r : Runner) : Bool := r.duty.isSome && !r.stopped

/-- Cancels a runner; only the first time counts. -/
def cancel (r : Runner) (now : Nat) : Runner :=
  { r with cancelledAt := r.cancelledAt.earlier (some now) }

/-- When the first part of the duty is over. -/
def ready (r : Runner) : Moment := r.duty.map fun d => d.1 + d.2.lead

/-- When the last part of the duty begins. -/
def resumes (r : Runner) : Moment :=
  match r.duty with
  | none => none
  | some (_, d) => if d.heedsCancel then r.ready.later r.cancelledAt else r.ready

/-- When the duty ends. -/
def endsAt (r : Runner) : Moment :=
  match r.duty with
  | none => none
  | some (_, d) => r.resumes.map (· + d.lasts)

/-- The record of a duty that has ended. -/
def exitLog (d : Duty) : Log.Record :=
  match d.crash with
  | none => Log.Origin.task.debug "Background task exited"
  | some message =>
    Log.Origin.task.warn "Background task ended abnormally" [("error", crashText message)]

/-- Cancels a runner and lets it take no duty any more. -/
def halt (r : Runner) (now : Nat) : Runner := { r.cancel now with stopped := true }

/-- Stops a runner: it is cancelled, and its duty is waited for. Only the first call does anything.
-/
def stop (r : Runner) (now : Nat) : Stopped :=
  if r.stopped then ⟨now, r, []⟩
  else
    let runner := r.halt now
    match runner.duty with
    | none => ⟨now, runner, []⟩
    | some (_, d) => ⟨max now (runner.endsAt.getD now), runner, [exitLog d]⟩

/-- What the duty does, as far as it is known by now. -/
def deeds (r : Runner) : List (Nat × String) :=
  match r.duty with
  | none => []
  | some (began, d) =>
    [(began, "begin")] ++
      (if d.heedsCancel then (r.resumes.map fun time => (time, "cancelled")).toList else []) ++
      (if d.crash = none then (r.endsAt.map fun time => (time, "end")).toList else [])

end Runner

/-- A signal that is raised once the first state is loaded. -/
structure Signal where
  raisedAt : Moment
deriving DecidableEq, Repr

namespace Signal

/-- A signal that is not raised. -/
def unset : Signal := ⟨none⟩

instance : Inhabited Signal := ⟨unset⟩

/-- Raises a signal at a time; only the first time counts. -/
def raise (s : Signal) (time : Nat) : Signal := ⟨s.raisedAt.earlier (some time)⟩

/-- Whether a signal is raised by a time. -/
def isRaised (s : Signal) (now : Nat) : Bool := s.raisedAt.hasCome now

/-- The failure of a wait that was called off. -/
def calledOff : Failure := .ofCause "cancelled while waiting for initial sync"

/-- The end of a wait from a time on that is called off at a moment: when it comes, and the failure
if it was called off. -/
def wait (s : Signal) (now : Nat) (cancel : Moment) : Option (Nat × Option Failure) :=
  let raised : Moment := s.raisedAt.map (max now)
  let cancelled : Moment := cancel.map (max now)
  if raised.noLater cancelled then raised.map fun t => (t, none)
  else cancelled.map fun t => (t, some calledOff)

end Signal

end ClusterCensus.Collector

import ClusterCensus.Collector.Runner

/-!
# Collectors

A collector is started, waited for and stopped. A scripted collector does what its script says. A
loader does its work in a runner: it loads a list of namespaces, raises a signal and waits to be
stopped. Times are in microseconds.
-/

namespace ClusterCensus

/-- A collector that follows a script. -/
structure Collector.Script where
  startDelay : Nat
  start : Collector.Ending
  syncDelay : Nat
  sync : Collector.Ending
  ignoresCancel : Bool
  cancelsOnSync : Bool
  stopDelay : Nat
deriving DecidableEq, Repr

/-- What a collector does. -/
inductive Collector.Behaviour where
  | scripted (script : Collector.Script)
  | loader (namespaces : List String) (loadDelay : Nat)
deriving DecidableEq, Repr

/-- A collector. -/
structure Collector where
  name : String
  behaviour : Collector.Behaviour
deriving DecidableEq, Repr

namespace Collector

/-- What a collector is seen doing. -/
inductive Deed where
  | start
  | started
  | sync
  | syncCancelled
  | synced
  | stop
  | stopped
  | loaded
  | drained
deriving DecidableEq, Repr

/-- The name of a deed. -/
def Deed.name : Deed → String
  | start => "start"
  | started => "started"
  | sync => "sync"
  | syncCancelled => "sync_cancelled"
  | synced => "synced"
  | stop => "stop"
  | stopped => "stopped"
  | loaded => "loaded"
  | drained => "drained"

/-- A registered collector, with the runner of a loader and whether it has loaded everything. -/
structure Member where
  collector : Collector
  runner : Runner
  loaded : Bool
deriving DecidableEq, Repr

namespace Member

/-- A collector that was not used yet. -/
def ofCollector (c : Collector) : Member := ⟨c, .idle, false⟩

/-- The name of a collector. -/
def name (m : Member) : String := m.collector.name

/-- The start of a collector: the collector once it is started, its worker, what it is seen doing,
and when it has loaded what it loads. -/
structure Start where
  member : Member
  worker : Worker
  deeds : List (Nat × Deed)
  loads : Moment

/-- Starts a collector at a time. -/
def start (m : Member) (now : Nat) : Start :=
  match m.collector.behaviour with
  | .scripted s =>
    let done := now + s.startDelay
    let started := if s.start = .ok then [(done, Deed.started)] else []
    ⟨m, ⟨m.name, some done, s.start⟩, (now, .start) :: started, none⟩
  | .loader _ delay =>
    match m.runner.assign now ⟨delay, true, 0, none⟩ with
    | .ok runner => ⟨{ m with runner }, ⟨m.name, some now, .ok⟩, [], some (now + delay)⟩
    | .error e => ⟨m, ⟨m.name, some now, .failed e.failure⟩, [], none⟩

/-- The signal that a loader raises. -/
def signal (m : Member) : Signal := ⟨m.runner.ready⟩

/-- A collector that is waited for: when it is done if it is let, how it ends then, whether it
ends early when the wait is called off, whether it calls off the wait itself in the end, and
whether it is seen. -/
structure Sync where
  name : String
  wakes : Moment
  ending : Ending
  yields : Bool
  cancels : Bool
  seen : Bool

/-- Waits for a collector from a time on. -/
def sync (m : Member) (now : Nat) : Sync :=
  match m.collector.behaviour with
  | .scripted s =>
    ⟨m.name, some (now + s.syncDelay), s.sync, !s.ignoresCancel, s.cancelsOnSync, true⟩
  | .loader .. => ⟨m.name, m.signal.raisedAt.map (max now), .ok, true, false, false⟩

/-- How a collector ends whose wait was called off. -/
def Sync.calledOff (s : Sync) : Ending :=
  if s.seen then .failed (.ofCause (s.name ++ " sync cancelled")) else .failed Signal.calledOff

/-- Halts the runner of a loader. -/
def halt (m : Member) (now : Nat) : Member := { m with runner := m.runner.halt now }

/-- The namespaces that a loader loads. -/
def namespaces (m : Member) : List String :=
  match m.collector.behaviour with
  | .scripted _ => []
  | .loader names _ => names

end Member

end Collector

end ClusterCensus

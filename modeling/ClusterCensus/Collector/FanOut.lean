import ClusterCensus.Log
import ClusterCensus.Text.Quoted
import ClusterCensus.Time.Moment

/-!
# Fanning out

Each collector is given a worker of its own, and what becomes of the workers is reported one by one.
A worker reports its own end. One that crashes cannot; a supervisor, which waits for the workers in
their order, reports it once all workers before it have ended too.
-/

namespace ClusterCensus.Collector

/-- How a worker ends. -/
inductive Ending where
  | ok
  | failed (failure : Failure)
  | crashed (message : String)
deriving DecidableEq, Repr

/-- The course of a worker: whose it is, and when and how it ends. -/
structure Worker where
  name : String
  endsAt : Moment
  ending : Ending
deriving DecidableEq, Repr

/-- What is told about a worker in the end: whose it was, and the failure if there was one. -/
structure Notice where
  name : String
  failure : Option Failure
deriving DecidableEq, Repr

/-- A notice, when it is given, the place of the worker among all, and whether it is the supervisor
who gives it. -/
structure Report where
  time : Nat
  place : Nat
  supervised : Bool
  notice : Notice
deriving DecidableEq, Repr

/-- Whether a report is made before another one, or is the same. At one time the supervisor is the
last to report. -/
def Report.noLater (a b : Report) : Bool :=
  a.time < b.time || a.time = b.time &&
    (!a.supervised && b.supervised || a.supervised = b.supervised && a.place ≤ b.place)

/-- How a crash is told. The number of the task is not told. -/
def crashText (message : String) : String :=
  "task N panicked with message " ++ Text.quoted message

/-- The failure of a worker that crashed. -/
def crashFailure (message : String) : Failure :=
  .ofCause ("collector task failed: " ++ crashText message)

namespace Ending

/-- Whether a worker ends by a crash. -/
def isCrash : Ending → Bool
  | crashed _ => true
  | _ => false

/-- The failure of a worker that did not end well. -/
def failure? : Ending → Option Failure
  | ok => none
  | failed f => some f
  | crashed message => some (crashFailure message)

end Ending

namespace Worker

/-- What is told about a worker. -/
def notice (w : Worker) : Notice := ⟨w.name, w.ending.failure?⟩

/-- When the last worker ends, for workers that began at a time. -/
def closing (began : Nat) (ws : List Worker) : Moment :=
  ws.foldl (fun m w => m.later w.endsAt) (some began)

/-- When it is told how the worker at a place ended: at once, or after a crash when the supervisor
has seen the end of it and of all before it. -/
def toldAt (ws : List Worker) (place : Nat) (w : Worker) : Moment :=
  if w.ending.isCrash then closing 0 (ws.take (place + 1)) else w.endsAt

/-- The report about the worker at a place. -/
def report? (ws : List Worker) (place : Nat) (w : Worker) : Option Report :=
  (toldAt ws place w).map fun t => ⟨t, place, w.ending.isCrash, w.notice⟩

/-- All reports, in the order in which they are made. -/
def reports (ws : List Worker) : List Report :=
  (ws.zipIdx.filterMap fun w => report? ws w.2 w.1).mergeSort Report.noLater

end Worker

end ClusterCensus.Collector

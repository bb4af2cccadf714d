import ClusterCensus.Collector.Scenario
import ClusterCensus.Collector.Starting

/-!
# When collectors are started and stopped

A start in time makes the moves of a start, where that of a collector takes some time from its call
on. All that can be done at a time is done before time passes, in any order. Collectors are stopped
one after the other; in simulated time the calls that stop them and their returns are told with
their times.
-/

namespace ClusterCensus.Collector

/-- A collector that is started: its name, how long its start takes, and how that ends. -/
structure Launch where
  name : String
  lasts : Nat
  ending : Ending
deriving DecidableEq, Repr

namespace Launch

/-- The course of a collector whose start is called at a time. -/
def worker (l : Launch) (called : Nat) : Worker := ⟨l.name, some (called + l.lasts), l.ending⟩

/-- The start of a collector that follows a script. -/
def ofScript (c : String × Script) : Launch := ⟨c.1, c.2.startDelay, c.2.start⟩

/-- How long the slowest of some starts takes. -/
def slowest (ls : List Launch) : Nat := (ls.map (·.lasts)).foldr max 0

/-- When it is told how a start ended, for starts that are called at a time: as soon as it has, or
after a crash when all those before it have ended too. -/
def toldAt (called : Nat) (ls : List Launch) (place : Nat) (l : Launch) : Nat :=
  called + if l.ending.isCrash then slowest (ls.take (place + 1)) else l.lasts

/-- Whether names are those of the collectors whose starts fail, none of them before one of which it
is told earlier. -/
def FailInOrder (called : Nat) (ls : List Launch) (names : List String) : Prop :=
  ∃ failures : List (Launch × Nat),
    failures.Perm (ls.zipIdx.filter (·.1.ending ≠ .ok))
      ∧ failures.Pairwise (fun a b => toldAt called ls a.2 a.1 ≤ toldAt called ls b.2 b.1)
      ∧ names = failures.map (·.1.name)

end Launch

/-- A start at a time, with the places of the collectors whose start was called, each with the time
of the call. -/
structure TimedStart where
  time : Nat
  calledAt : List (Nat × Nat)
  start : Starting

namespace TimedStart

/-- The courses of collectors whose starts are called at a time. -/
def workers (ls : List Launch) (called : Nat) : List Worker := ls.map (·.worker called)

/-- A start that begins at a time. -/
def initial (ls : List Launch) (began : Nat) (started : Bool) : TimedStart :=
  ⟨began, [], .initial (workers ls began) started⟩

/-- Whether the start of a collector that ends with a move has lasted its time. -/
def Timely (ls : List Launch) (x : TimedStart) (y : Starting) : Prop :=
  ∀ i, x.start.stages[i]? = some .working → y.stages[i]? ≠ some .working →
    ∃ l called, ls[i]? = some l ∧ (i, called) ∈ x.calledAt ∧ called + l.lasts ≤ x.time

/-- A start after a move, with the calls that were made by it. -/
def moved (x : TimedStart) (y : Starting) : TimedStart where
  time := x.time
  calledAt := x.calledAt ++ (y.calls.drop x.start.calls.length).map fun i => (i, x.time)
  start := y

/-- A start that is not over makes a move, or time passes when it can make none. -/
inductive Step (ls : List Launch) (began : Nat) : TimedStart → TimedStart → Prop where
  | move {x : TimedStart} {y : Starting} (open_ : x.start.result = none)
    (h : Starting.Move (workers ls began) x.start y) (timely : Timely ls x y) :
    Step ls began x (x.moved y)
  | pass {x : TimedStart} (open_ : x.start.result = none)
    (idle : ∀ y, Starting.Move (workers ls began) x.start y → ¬ Timely ls x y) :
    Step ls began x { x with time := x.time + 1 }

/-- A number of steps, one after the other. -/
inductive Steps (ls : List Launch) (began : Nat) : Nat → TimedStart → TimedStart → Prop where
  | refl (x : TimedStart) : Steps ls began 0 x x
  | step {n : Nat} {x y z : TimedStart} (run : Steps ls began n x y) (last : Step ls began y z) :
    Steps ls began (n + 1) x z

end TimedStart

namespace Scenario

/-- The calls to stop, and their returns, that were made in a scenario since another one, with the
time in it. -/
def newStops (s t : Scenario) : List (Nat × StopMark) :=
  (t.stops.drop s.stops.length).map fun mark => (t.time, mark)

/-- The calls to stop, and their returns, while a condition holds, each with its time. -/
def stopsWhile (p : Scenario → Bool) (s : Scenario) : List (Nat × StopMark) :=
  if _h : s.agenda ≠ [] ∧ p s then newStops s s.next ++ stopsWhile p s.next else []
termination_by (s.begins, s.weight)
decreasing_by exact next_lt _h.1

/-- The calls of a stop of all collectors, and their returns, each with its time. -/
def timedStops (s : Scenario) : List (Nat × StopMark) :=
  newStops s (s.beginStop .step) ++ stopsWhile isStopping (s.beginStop .step)

/-- A registry with collectors that follow scripts. -/
def ofScripts (cs : List (String × Script)) : List Collector :=
  cs.map fun c => ⟨c.1, .scripted c.2⟩

/-- How long it takes to stop some collectors that follow scripts, one after the other. -/
def stopsLast (cs : List (String × Script)) : Nat := (cs.map (·.2.stopDelay)).foldr (· + ·) 0

end Scenario

end ClusterCensus.Collector

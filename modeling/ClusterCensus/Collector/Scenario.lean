import ClusterCensus.Collector.Outcome
import ClusterCensus.Collector.Scenario.Run
import ClusterCensus.Collector.Wait

/-!
# The steps of a scenario

Collectors are started and waited for all at once, each by a worker of its own, and stopped one
after the other. On the side, collectors may be registered, the token cancelled or all collectors
stopped. A step begins with what it does by itself; then what was put on the agenda before has its
turn, and then the workers. What is still on the agenda at the end of a step is left for later ones.
-/

namespace ClusterCensus.Collector.Scenario

/-- The clock moves by whole milliseconds. -/
def wholeMillis (time : Nat) : Nat := (time + 999) / 1000 * 1000

/-- Whether something is due by a time. -/
def isDue (time : Nat) (s : Scenario) : Bool := s.agenda.head?.any (·.1.time ≤ time)

/-- Lets time pass until a step ends. -/
def passUntil (s : Scenario) (time : Nat) : Scenario :=
  let time := wholeMillis time
  { s.runWhile (isDue time) with time }

/-- The end of a step that needs no time. -/
def settle (s : Scenario) : Scenario := s.passUntil s.time

/-- Something done on the side. -/
inductive Side where
  | register (c : Collector)
  | cancel
  | stopAll

/-- The acts of something that is done on the side. -/
def sideActs : Side → List Act
  | .register c => [.register c, .sideDone "register"]
  | .cancel => [.cancelInUse, .sideDone "cancel"]
  | .stopAll => [.stopAll]

/-- Puts on the agenda what is done on the side, each at some time from now. -/
def planSides (s : Scenario) (sides : List (Nat × Side)) : Scenario :=
  s.plan .usual (sides.flatMap fun d => (sideActs d.2).map fun a => (s.time + d.1, a))

/-- Lets a number of entries of the agenda happen. -/
def nexts : Nat → Scenario → Scenario
  | 0, s => s
  | n + 1, s => nexts n s.next

/-- Lets happen what is due now, but not what comes of it. -/
def yield (s : Scenario) : Scenario :=
  s.nexts (s.agenda.takeWhile fun e => e.1.time ≤ s.time).length

/-- Carries out what workers do now, and puts the rest on the agenda. -/
def launch (s : Scenario) (acts : List (Nat × Act)) : Scenario :=
  let begun := (acts.filter (·.1 ≤ s.time)).foldl (fun s a => s.perform a.2) s
  begun.plan .usual (acts.filter (s.time < ·.1))

/-- The acts for the deeds of a collector. -/
def deedActs (member : Nat) (deeds : List (Nat × Deed)) : List (Nat × Act) :=
  deeds.map fun d => (d.1, .deed member d.2)

/-- The acts for records. -/
def logActs (logs : List (Nat × Log.Record)) : List (Nat × Act) :=
  logs.map fun l => (l.1, .log l.2)

/-- The scenario when the workers of a start begin. -/
def announced (s : Scenario) : Scenario := (s.log (startingLog s.members.length)).yield

/-- The starts of all collectors that are registered. -/
def starts (s : Scenario) : List Member.Start :=
  (s.announced.members.take s.members.length).map (·.start s.announced.time)

/-- The workers of a start. -/
def startWorkers (s : Scenario) : List Worker := s.starts.map (·.worker)

/-- What is told of a start, in the order in which it is told. -/
def startNotices (s : Scenario) : List Notice := (Worker.reports s.startWorkers).map (·.notice)

/-- When a start is over. -/
def startEnd (s : Scenario) : Nat :=
  (Worker.closing s.announced.time s.startWorkers).getD s.announced.time

/-- The records of a start, each with its time. -/
def startLogs (s : Scenario) : List (Nat × Log.Record) :=
  (Worker.reports s.startWorkers).map (fun r => (r.time, startLog r.notice)) ++
    (startedLogs (failedNames s.startNotices) s.members.length).map fun l => (s.startEnd, l)

/-- The scenario in which the workers of a start have begun, with what comes of that on the agenda.
-/
def beginStart (s : Scenario) : Scenario :=
  let deeds := s.starts.zipIdx.flatMap fun st => deedActs st.2 st.1.deeds
  let loads := s.starts.zipIdx.filterMap fun st => st.1.loads.map fun t => (t, Act.load st.2)
  let members := s.starts.map (·.member) ++ s.announced.members.drop s.members.length
  let begun := { s.announced with members }.launch deeds
  (begun.plan .usual loads).plan .last (logActs s.startLogs ++ [(s.startEnd, Act.markStarted)])

/-- Starts all collectors at once. Those that are registered on the side meanwhile are not started.
-/
def startAll (s : Scenario) : Except GroupError Unit × Scenario :=
  if s.members.length = 0 then (.ok (), { s with started := true }.settle)
  else
    (startResult (failedNames s.startNotices) s.members.length, s.beginStart.passUntil s.startEnd)

/-- When the token in use is cancelled if it stays in use: at once if it was before, or as the
agenda has it. -/
def cancelMoment (s : Scenario) : Moment :=
  if s.token ∈ s.cancelled then some s.time
  else
    Moment.earliest (s.agenda.filterMap fun e =>
      match e.2 with
      | .cancel token => if token = s.token then some (some e.1.time) else none
      | .cancelInUse => some (some e.1.time)
      | _ => none)

/-- Waits for the first state of all collectors, with a limit or without. A wait with a limit has a
token of its own that is cancelled together with the one in use, but not the other way round.
Nothing comes of a wait that never ends. -/
def waitAll (s : Scenario) (limit : Option Nat) : Option (Except GroupError Unit) × Scenario :=
  let total := s.members.length
  if total = 0 then (some (.ok ()), s.settle)
  else
    let s := s.yield
    let syncs : List Member.Sync := (s.members.take total).map (·.sync s.time)
    let outside := s.cancelMoment
    let cancel := outside.earlier (selfCancels syncs)
    let deadline : Moment := limit.map (s.time + ·)
    let known := outside = some s.time ∨ limit = some 0
    let courses := syncCourses s.time (cancel.earlier deadline) known syncs
    let deeds := courses.zipIdx.flatMap fun c => deedActs c.2 c.1.deeds
    let cancelDeeds := courses.zipIdx.flatMap fun c => deedActs c.2 c.1.cancelDeeds
    let cancels := match limit with
      | some _ => []
      | none => courses.filterMap fun c => c.cancelsAt.map fun t => (t, Act.cancel s.token)
    match waitEnd? s.time (courses.map (·.worker)) cancel limit with
    | none => (none, s)
    | some e =>
      let planned := ((s.launch (cancels ++ deeds)).plan .usual cancelDeeds).plan .last
        (logActs e.logs)
      (some e.result, planned.passUntil e.time)

/-- Whether a step is stopping all collectors. -/
def isStopping (s : Scenario) : Bool :=
  s.waiting.any (·.caller = .step) ||
    s.agenda.any fun e =>
      match e.2 with
      | .resume stop => stop.caller = .step
      | _ => false

/-- Stops all collectors, one after the other, if they count as started. -/
def stopAll (s : Scenario) : Scenario := ((s.beginStop .step).runWhile isStopping).settle

/-- Cancels the token in use. -/
def cancel (s : Scenario) : Scenario := (s.cancelToken s.token).settle

/-- Takes a new token into use. -/
def newToken (s : Scenario) : Scenario := { s with token := s.token + 1 }.settle

/-- What can be asked of a registry, one thing after the other: a wait has a limit or none, and time
may pass in between. -/
inductive Call where
  | register (c : Collector)
  | startAll
  | waitAll (limit : Option Nat)
  | stopAll
  | cancel
  | newToken
  | sleep (time : Nat)
deriving DecidableEq, Repr

/-- The scenario after a call. -/
def call (s : Scenario) : Call → Scenario
  | .register c => (s.register c).settle
  | .startAll => s.startAll.2
  | .waitAll limit => (s.waitAll limit).2
  | .stopAll => s.stopAll
  | .cancel => s.cancel
  | .newToken => s.newToken
  | .sleep time => s.passUntil (s.time + time)

/-- The scenario after calls to a new registry. -/
def after (calls : List Call) : Scenario := calls.foldl call empty

/-- The registry in a dump. -/
def dump (s : Scenario) : String :=
  "CollectorRegistry \x7b collectors: " ++ Text.quotedList (s.members.map (·.name)) ++
    ", started: " ++ toString s.started ++ " \x7d"

end ClusterCensus.Collector.Scenario

import ClusterCensus.Collector.FanOut
import ClusterCensus.Log
import ClusterCensus.Time.Span

/-!
# Outcomes of starting and of waiting

What comes of starting all collectors and of waiting for their first state, told from the courses of
their workers. A start that fails for some collectors only is a partial one. Waiting ends with the
last report, when it is called off, or at a deadline, whichever comes first.
-/

namespace ClusterCensus.Collector

/-- Why starting or waiting failed. -/
inductive GroupError where
  | allFailed (total : Nat)
  | partialStart (failed : List String) (total : Nat)
  | sync (collector : String) (source : Failure)
  | cancelled
  | syncTimeout (limit : Span)
deriving DecidableEq, Repr

namespace GroupError

/-- The wording of an error. -/
def message : GroupError → String
  | allFailed total => "all " ++ toString total ++ " collectors failed to start"
  | partialStart failed total =>
    toString failed.length ++ " of " ++ toString total ++ " collectors failed to start: " ++
      String.intercalate ", " failed
  | sync collector source => "collector `" ++ collector ++ "` failed to sync: " ++ source.headline
  | cancelled => "collector sync cancelled"
  | syncTimeout limit => "collectors did not sync within " ++ limit.text

/-- Whether some collectors were started all the same. -/
def isPartial : GroupError → Bool
  | partialStart .. => true
  | _ => false

/-- The collectors that were not started, while others were. -/
def failedCollectors : GroupError → List String
  | partialStart failed _ => failed
  | _ => []

end GroupError

/-- The collectors that failed, in the order in which it is told. -/
def failedNames (ns : List Notice) : List String :=
  ns.filterMap fun n => n.failure.map fun _ => n.name

/-- What comes of a start, by the names of those that failed and the number of all. -/
def startResult (failed : List String) (total : Nat) : Except GroupError Unit :=
  if failed = [] then .ok ()
  else if failed.length = total then .error (.allFailed total)
  else .error (.partialStart failed total)

/-- The record at the beginning of a start. -/
def startingLog (total : Nat) : Log.Record :=
  Log.Origin.registry.info "Starting collectors" [("count", total)]

/-- The record of a notice about a start. -/
def startLog (n : Notice) : Log.Record :=
  match n.failure with
  | none => Log.Origin.registry.debug "Collector started" [("collector", n.name)]
  | some f =>
    Log.Origin.registry.error "Failed to start collector"
      [("collector", n.name), ("error", f.text)]

/-- The record at the end of a start. -/
def startedLogs (failed : List String) (total : Nat) : List Log.Record :=
  match startResult failed total with
  | .ok () => [Log.Origin.registry.info "All collectors started" [("count", total)]]
  | .error (.partialStart failed total) =>
    [Log.Origin.registry.warn "Collectors partially started, continuing degraded"
      [("failed", failed.length), ("total", total)]]
  | .error _ => []

/-- The record of a notice about a wait. -/
def syncLog (n : Notice) : Log.Record :=
  match n.failure with
  | none => Log.Origin.registry.debug "Collector synced" [("collector", n.name)]
  | some f =>
    Log.Origin.registry.warn "Collector failed to sync" [("collector", n.name), ("error", f.text)]

/-- What comes of the notices about a wait: the first failure counts. -/
def syncResult (ns : List Notice) : Except GroupError Unit :=
  match ns.findSome? fun n => n.failure.map fun f => (n.name, f) with
  | none => .ok ()
  | some (name, f) => .error (.sync name f)

/-- The end of a wait: when it comes, with what result, and the records made until then, each with
its time. -/
structure SyncEnd where
  time : Nat
  result : Except GroupError Unit
  logs : List (Nat × Log.Record)

/-- The records of the reports that are made before a time. -/
def syncLogsBefore (time : Nat) (rs : List Report) : List (Nat × Log.Record) :=
  (rs.filter fun r => r.time < time).map fun r => (r.time, syncLog r.notice)

/-- The end of a wait with the last report. -/
def allReported (rs : List Report) (time : Nat) : SyncEnd :=
  let logs := rs.map fun r => (r.time, syncLog r.notice)
  match syncResult (rs.map (·.notice)) with
  | .ok () => ⟨time, .ok (), logs ++ [(time, Log.Origin.registry.info "All collectors synced")]⟩
  | .error e => ⟨time, .error e, logs⟩

/-- The end of a wait that is broken off at a time. -/
def brokenOff (rs : List Report) (time : Nat) (e : GroupError) : SyncEnd :=
  ⟨time, .error e, syncLogsBefore time rs⟩

/-- The end of a wait without a deadline: it is called off, unless the last report comes before. -/
def settle? (rs : List Report) (cancel closing : Moment) : Option SyncEnd :=
  if closing.isBefore cancel then closing.map (allReported rs)
  else cancel.map fun c => brokenOff rs c .cancelled

/-- The end of a wait that began at a time, for workers whose course is known. It may be called off
at a moment, and it may have a limit in microseconds. -/
def waitEnd? (began : Nat) (ws : List Worker) (cancel : Moment) (limit : Option Nat) :
    Option SyncEnd :=
  let rs := Worker.reports ws
  let closing := Worker.closing began ws
  match limit with
  | none => settle? rs cancel closing
  | some l =>
    if Moment.noLater (some (began + l)) (Moment.earlier cancel closing) then
      some (brokenOff rs (began + l) (.syncTimeout (.ofMicros l)))
    else settle? rs cancel closing

end ClusterCensus.Collector

import ClusterCensus.Collector.Scenario.Basic

/-!
# Stopping all collectors

All collectors are stopped, one after the other. A scripted collector takes some time to stop. A
loader stops at once if it was stopped before or has nothing to do; otherwise its duty is waited
for, which ends when it has loaded what it loads and is told to stop.
-/

namespace ClusterCensus.Collector

/-- The turn in which a stop goes on that was waiting for others. -/
def Caller.turnAfterOthers : Caller → Turn
  | step => .last
  | side => .usual

/-- The turn in which a stop goes on that was only waiting for a time. -/
def Caller.turnAtTime : Caller → Turn
  | step => .first
  | side => .usual

namespace Scenario

/-- The stop of all collectors is over. -/
def stopOver (s : Scenario) : Caller → Scenario
  | .step => s
  | .side => s.seeSide "stop_all"

/-- Stops collectors until one has to be waited for. -/
def proceed (caller : Caller) : List Nat → Scenario → Scenario
  | [], s => (s.log (Log.Origin.registry.info "All collectors stopped")).stopOver caller
  | i :: rest, s =>
    let s := s.callStop i
    match s.members[i]? with
    | none => proceed caller rest s
    | some m =>
      match m.collector.behaviour with
      | .scripted script =>
        let s := s.see i .stop
        if script.stopDelay = 0 then proceed caller rest (s.stopReturns i)
        else s.put ⟨s.time + script.stopDelay, caller.turnAtTime⟩ (.resume ⟨caller, i, false, rest⟩)
      | .loader .. =>
        if m.runner.stopped then proceed caller rest (s.stopReturns i)
        else
          let s := s.change i (·.halt s.time)
          if m.runner.duty.isNone then proceed caller rest (s.stopReturns i)
          else
            let s := s.await ⟨caller, i, true, rest⟩
            if m.loaded then s.put ⟨s.time, .usual⟩ (.drain i) else s

/-- Stops all collectors, if they count as started. -/
def beginStop (s : Scenario) (caller : Caller) : Scenario :=
  if s.started then
    proceed caller (List.range s.members.length) { s with started := false }
  else s.stopOver caller

/-- Goes on with a stop when the collector that it waited for has stopped. -/
def resume (s : Scenario) (stop : Stopping) : Scenario :=
  let s := if stop.onDuty then s.log (Log.Origin.task.debug "Background task exited") else s
  proceed stop.caller stop.rest (s.stopReturns stop.member)

/-- The duty of a loader ends, and who waits for that goes on. -/
def drain (s : Scenario) (member : Nat) : Scenario :=
  let woken := s.waiting.filter (·.member = member)
  let s := { s.see member .drained with waiting := s.waiting.filter (·.member ≠ member) }
  woken.foldl (fun s w => s.put ⟨s.time, w.caller.turnAfterOthers⟩ (.resume w)) s

/-- A loader has loaded what it loads. If it was told to stop before, its duty ends with that. -/
def load (s : Scenario) (member : Nat) : Scenario :=
  match s.members[member]? with
  | none => s
  | some m =>
    let namespaces := m.namespaces.foldl (fun ns n => ns.insert n (loadedNamespace n)) s.namespaces
    let s := ({ s with namespaces }.change member ({ · with loaded := true })).see member .loaded
    if m.runner.cancelledAt.isSome then s.drain member else s

end Scenario

end ClusterCensus.Collector

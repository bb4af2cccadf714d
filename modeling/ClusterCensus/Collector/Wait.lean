import ClusterCensus.Collector.Basic

/-!
# Waiting for all collectors

All collectors are waited for at once, under one token. They are asked in their order at the time
the wait begins. The token may be cancelled from outside, by a deadline, or by a collector that has
just finished; who heeds it then ends early.
-/

namespace ClusterCensus.Collector

open Member

/-- What a worker does while it is waited for: how it ends, and what it is seen doing, both in its
own time and as soon as it learns that the token was cancelled. -/
structure SyncCourse where
  worker : Worker
  deeds : List (Nat × Deed)
  cancelDeeds : List (Nat × Deed)
  cancelsAt : Moment

/-- When collectors cancel the token, if nobody does before. -/
def selfCancels (ss : List Sync) : Moment :=
  Moment.earliest ((ss.filter (·.cancels)).map (·.wakes))

/-- A deed of a collector that is seen. -/
def Member.Sync.deed (s : Sync) (time : Nat) (d : Deed) : List (Nat × Deed) :=
  if s.seen then [(time, d)] else []

/-- The course of a worker for which the wait began at a time and whose token is cancelled at a
moment; `known` tells whether it was cancelled before the worker was asked. -/
def Member.Sync.course (s : Sync) (began : Nat) (cancelled : Moment) (known : Bool) : SyncCourse :=
  let asked := s.deed began .sync
  if s.yields && cancelled.isBefore s.wakes then
    let noticed := (cancelled.map fun c => s.deed c .syncCancelled).getD []
    let worker : Worker := ⟨s.name, cancelled, s.calledOff⟩
    if known then ⟨worker, asked ++ noticed, [], none⟩ else ⟨worker, asked, noticed, none⟩
  else
    let synced :=
      if s.ending = .ok then (s.wakes.map fun t => s.deed t .synced).getD [] else []
    ⟨⟨s.name, s.wakes, s.ending⟩, asked ++ synced, [], if s.cancels then s.wakes else none⟩

/-- The courses of workers for a token that is cancelled at a moment. A worker after one that
cancels the token at once finds it cancelled. -/
def syncCourses (began : Nat) (cancelled : Moment) : Bool → List Sync → List SyncCourse
  | _, [] => []
  | known, s :: rest =>
    let cancelsNow := s.cancels && s.wakes = some began
    s.course began cancelled known :: syncCourses began cancelled (known || cancelsNow) rest

end ClusterCensus.Collector

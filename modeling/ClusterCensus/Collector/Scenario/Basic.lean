import ClusterCensus.Collector.Basic
import ClusterCensus.Record.Basic
import ClusterCensus.SortedMap
import ClusterCensus.Time.Agenda

/-!
# Scenarios

A scenario is a registry of collectors in simulated time, with an agenda of what is still to come. A
step of the scenario is carried out by one task, and what it sets going by others: at any time the
step goes on first if it was only waiting for that time, and last if it was waiting for the others.
-/

namespace ClusterCensus.Collector

/-- What is seen of a scenario: a collector's deed, or the end of something done on the side, with
the number of collectors and whether they count as started. -/
inductive Seen where
  | deed (member : Nat) (name : String) (d : Deed)
  | side (action : String) (count : Nat) (started : Bool)
deriving DecidableEq, Repr

/-- What is seen, in words. -/
def Seen.text : Seen → String
  | deed _ name d => d.name ++ ":" ++ name
  | side action count started =>
    "during:" ++ action ++ ":len=" ++ toString count ++ " started=" ++ toString started

/-- A call to stop a collector begins, or it returns. -/
inductive StopMark where
  | called (member : Nat)
  | returned (member : Nat)
deriving DecidableEq, Repr

/-- Who stops all collectors: a step, or something done on the side. -/
inductive Caller where
  | step
  | side
deriving DecidableEq, Repr

/-- A stop of all collectors that waits for one of them: for the end of its duty, or just for some
time. The others are still to be stopped. -/
structure Stopping where
  caller : Caller
  member : Nat
  onDuty : Bool
  rest : List Nat
deriving DecidableEq, Repr

/-- What may be on an agenda. A token is cancelled by a collector that was given it, or on the side
as the one that is then in use. -/
inductive Act where
  | deed (member : Nat) (d : Deed)
  | log (r : Log.Record)
  | cancel (token : Nat)
  | cancelInUse
  | markStarted
  | register (c : Collector)
  | sideDone (action : String)
  | load (member : Nat)
  | drain (member : Nat)
  | stopAll
  | resume (stop : Stopping)

/-- A registry with its collectors, the token in use and those that were cancelled, the namespaces
that were loaded, what is still to come, the stops that wait for a duty to end, the calls to stop a
collector so far, and what was seen and logged. -/
structure Scenario where
  time : Nat
  members : List Member
  started : Bool
  token : Nat
  cancelled : List Nat
  namespaces : SortedMap Namespace
  agenda : Agenda Act
  waiting : List Stopping
  stops : List StopMark
  seen : List Seen
  logs : List Log.Record

/-- The namespace that a loader loads for a name. -/
def loadedNamespace (name : String) : Namespace := ⟨name, name ++ "-uid", "Active", ∅⟩

namespace Scenario

/-- A scenario without collectors. -/
def empty : Scenario := ⟨0, [], false, 0, [], ∅, [], [], [], [], []⟩

instance : Inhabited Scenario := ⟨empty⟩

/-- The name of a collector. -/
def nameOf (s : Scenario) (member : Nat) : String := (s.members[member]?.map (·.name)).getD ""

/-- A collector is seen doing something. -/
def see (s : Scenario) (member : Nat) (d : Deed) : Scenario :=
  { s with seen := s.seen ++ [.deed member (s.nameOf member) d] }

/-- Something done on the side is seen to be over. -/
def seeSide (s : Scenario) (action : String) : Scenario :=
  { s with seen := s.seen ++ [.side action s.members.length s.started] }

/-- A record is logged. -/
def log (s : Scenario) (r : Log.Record) : Scenario := { s with logs := s.logs ++ [r] }

/-- A call to stop a collector begins. -/
def callStop (s : Scenario) (member : Nat) : Scenario :=
  { s.log (Log.Origin.registry.info "Stopping collector" [("collector", s.nameOf member)]) with
    stops := s.stops ++ [.called member] }

/-- A call to stop a collector returns. -/
def stopReturns (s : Scenario) (member : Nat) : Scenario :=
  { s.see member .stopped with stops := s.stops ++ [.returned member] }

/-- A token is cancelled. -/
def cancelToken (s : Scenario) (token : Nat) : Scenario :=
  { s with cancelled := token :: s.cancelled }

/-- A collector becomes another. -/
def change (s : Scenario) (member : Nat) (f : Member → Member) : Scenario :=
  { s with members := s.members.modify member f }

/-- Puts something on the agenda. -/
def put (s : Scenario) (slot : Slot) (a : Act) : Scenario :=
  { s with agenda := s.agenda.insert slot a }

/-- Puts acts on the agenda, each at its time. -/
def plan (s : Scenario) (turn : Turn) (acts : List (Nat × Act)) : Scenario :=
  acts.foldl (fun s a => s.put ⟨a.1, turn⟩ a.2) s

/-- A stop waits for a duty to end. -/
def await (s : Scenario) (stop : Stopping) : Scenario := { s with waiting := s.waiting ++ [stop] }

/-- Adds a collector. -/
def register (s : Scenario) (c : Collector) : Scenario :=
  ({ s with members := s.members ++ [Member.ofCollector c] } : Scenario).log
    (Log.Origin.registry.debug "Registering collector" [("collector", c.name)])

end Scenario

end ClusterCensus.Collector

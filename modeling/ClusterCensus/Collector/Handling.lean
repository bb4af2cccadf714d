import ClusterCensus.Collector.RunnerScenario

/-!
# Handling a runner

A runner is handled move by move. One request is made after the other, and each of them is completed
before the next one. Who asks for a duty to be done looks first whether the runner was stopped, then
takes the mark that it was given a duty, and then sets the duty going. Who stops it takes the mark
that it was stopped, cancels the token, takes the handle of the duty, and waits for the end of that.
A duty that was set going ends at any time, if it does not wait for the token. Between these moves
there is no other order.
-/

namespace ClusterCensus.Collector

/-- What is asked of a runner. -/
inductive Request where
  | assign (d : Duty)
  | stop
deriving DecidableEq, Repr

/-- What comes of a request. -/
inductive Reply where
  | assigned
  | refused (e : AssignError)
  | stopped
deriving DecidableEq, Repr

/-- The parts of a runner: whether its token is cancelled, the place of the duty whose end can be
waited for, and the marks that it was given a duty and that it was stopped. -/
structure Runner.Parts where
  cancelled : Bool
  handle : Option Nat
  launched : Bool
  stopped : Bool
deriving DecidableEq, Repr

/-- Whether a runner was given a duty and not stopped. -/
def Runner.Parts.isRunning (p : Parts) : Bool := p.launched && !p.stopped

/-- The parts of a runner in simulated time, of which nothing is asked at the moment. -/
def Runner.parts (r : Runner) : Parts where
  cancelled := r.cancelledAt.isSome
  handle := if r.stopped then none else r.duty.map fun _ => 0
  launched := r.duty.isSome
  stopped := r.stopped

namespace Handling

/-- How far a request is: none is under way, the runner was found not to be stopped, the mark of a
duty was taken, the mark of a stop was taken, the token was cancelled, or the end of the duty at a
place is waited for. -/
inductive Phase where
  | idle
  | entered (d : Duty)
  | marked (d : Duty)
  | halted
  | cancelled
  | joining (place : Nat)
deriving DecidableEq, Repr

end Handling

/-- A runner being handled: its parts, the duties that were set going, each with whether it has
ended, how far the request is that is under way, the requests that are still to be made, and the
replies and records so far. -/
structure Handling where
  parts : Runner.Parts
  duties : List (Duty × Bool)
  phase : Handling.Phase
  requests : List Request
  replies : List Reply
  logs : List Log.Record

namespace Handling

/-- A new runner, of which nothing was asked yet. -/
def initial (requests : List Request) : Handling :=
  ⟨⟨false, none, false, false⟩, [], .idle, requests, [], []⟩

/-- A request is completed. -/
def reply (x : Handling) (r : Reply) : Handling :=
  { x with phase := .idle, replies := x.replies ++ [r] }

/-- The moves of those who handle a runner, and of its duty. -/
inductive Move : Handling → Handling → Prop where
  | enter {x : Handling} {d : Duty} {rest : List Request} (idle : x.phase = .idle)
    (h : x.requests = .assign d :: rest) (open_ : x.parts.stopped = false) :
    Move x { x with phase := .entered d, requests := rest }
  | refuseStopped {x : Handling} {d : Duty} {rest : List Request} (idle : x.phase = .idle)
    (h : x.requests = .assign d :: rest) (stopped : x.parts.stopped = true) :
    Move x ({ x with requests := rest }.reply (.refused .stopped))
  | mark {x : Handling} {d : Duty} (h : x.phase = .entered d)
    (first : x.parts.launched = false) :
    Move x { x with parts := { x.parts with launched := true }, phase := .marked d }
  | refuseStarted {x : Handling} {d : Duty} (h : x.phase = .entered d)
    (again : x.parts.launched = true) :
    Move x ({ x with parts := { x.parts with launched := true } }.reply (.refused .started))
  | launch {x : Handling} {d : Duty} (h : x.phase = .marked d) :
    Move x ({ x with
      parts := { x.parts with handle := some x.duties.length }
      duties := x.duties ++ [(d, false)] }.reply .assigned)
  | ignore {x : Handling} {rest : List Request} (idle : x.phase = .idle)
    (h : x.requests = .stop :: rest) (again : x.parts.stopped = true) :
    Move x ({ x with requests := rest }.reply .stopped)
  | halt {x : Handling} {rest : List Request} (idle : x.phase = .idle)
    (h : x.requests = .stop :: rest) (first : x.parts.stopped = false) :
    Move x { x with
      parts := { x.parts with stopped := true }
      phase := .halted
      requests := rest }
  | cancel {x : Handling} (h : x.phase = .halted) :
    Move x { x with parts := { x.parts with cancelled := true }, phase := .cancelled }
  | leave {x : Handling} (h : x.phase = .cancelled) (nobody : x.parts.handle = none) :
    Move x (x.reply .stopped)
  | take {x : Handling} {place : Nat} (h : x.phase = .cancelled)
    (handle : x.parts.handle = some place) :
    Move x { x with parts := { x.parts with handle := none }, phase := .joining place }
  | join {x : Handling} {place : Nat} {d : Duty} (h : x.phase = .joining place)
    (ended : x.duties[place]? = some (d, true)) :
    Move x ({ x with logs := x.logs ++ [Runner.exitLog d] }.reply .stopped)
  | finish {x : Handling} {place : Nat} {d : Duty} (h : x.duties[place]? = some (d, false))
    (let_ : d.heedsCancel = true → x.parts.cancelled = true) :
    Move x { x with duties := x.duties.set place (d, true) }

/-- A number of moves, one after the other. -/
inductive Moves : Nat → Handling → Handling → Prop where
  | refl (x : Handling) : Moves 0 x x
  | move {n : Nat} {x y z : Handling} (run : Moves n x y) (last : Move y z) : Moves (n + 1) x z

/-- Whether all requests are completed. -/
def IsOver (x : Handling) : Prop := x.phase = .idle ∧ x.requests = []

end Handling

namespace RunnerScenario

/-- What comes of a request that is made some time from now: the reply, the records, and the
scenario when it is completed. -/
def ask (s : RunnerScenario) (pause : Nat) (q : Request) :
    Reply × List Log.Record × RunnerScenario :=
  let s := s.sleep pause
  match q with
  | .assign d =>
    match s.assign d with
    | .ok after => (.assigned, [], after)
    | .error e => (.refused e, [], s)
  | .stop =>
    let (after, logs) := s.stop
    (.stopped, logs, after)

/-- What comes of requests, each made some time after the one before was completed. -/
def askAll (s : RunnerScenario) : List (Nat × Request) →
    List Reply × List Log.Record × RunnerScenario
  | [] => ([], [], s)
  | (pause, q) :: rest =>
    let (reply, logs, after) := s.ask pause q
    let (replies, more, last) := after.askAll rest
    (reply :: replies, logs ++ more, last)

end RunnerScenario

end ClusterCensus.Collector

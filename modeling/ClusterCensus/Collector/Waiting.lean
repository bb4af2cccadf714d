import ClusterCensus.Collector.Outcome

/-!
# A wait with a limit, move by move

A task waits for each collector and sends the outcome, unless that crashed. The supervisor waits for
the tasks in their order and sends the outcomes of those that crashed. Who waits looks at a token of
its own first, then takes one outcome after the other until no more can come; it remembers the first
failure and goes on. Its token, which the collectors have as well, is cancelled after that of the
caller, or when the limit is reached. A collector whose token is cancelled may end in any way. All
that can be done at a time is done before time passes, in any order.
-/

namespace ClusterCensus.Collector

/-- How far a task is: it waits for its collector, it has an outcome to send, or it is over, with a
crash that the supervisor has to tell, or without. -/
inductive Errand where
  | waiting
  | sending (n : Notice)
  | over (crash : Option Notice)
deriving DecidableEq, Repr

/-- What a task has to do when its collector has ended. -/
def Errand.ended (name : String) (e : Ending) : Errand :=
  if e.isCrash then .over (some ⟨name, e.failure?⟩) else .sending ⟨name, e.failure?⟩

/-- What who waits is at: listening for what comes first, looking at an outcome, or past the last of
them. -/
inductive Attention where
  | listening
  | looking (n : Notice)
  | drained
deriving DecidableEq, Repr

/-- A wait under way: how far the tasks are, for which one the supervisor waits, what was sent and
not yet received, what was received, the first failure, which tokens are cancelled, the records made
and the result. -/
structure Waiting where
  time : Nat
  errands : List Errand
  awaited : Nat
  queue : List Notice
  attention : Attention
  received : List Notice
  first : Option (String × Failure)
  callerCancelled : Bool
  cancelled : Bool
  logs : List Log.Record
  result : Option (Except GroupError Unit)

namespace Waiting

/-- The terms of a wait: when it begins, the courses that the collectors take from then on if they
are let, when the caller's token is cancelled, and the limit in microseconds. -/
structure Terms where
  began : Nat
  workers : List Worker
  cancel : Moment
  limit : Nat
  ends_later : ∀ w ∈ workers, ∀ time, w.endsAt.hasCome time = true → began ≤ time

namespace Terms

/-- When the last outcome is told, if the collectors are let. -/
def closing (t : Terms) : Moment := Worker.closing t.began t.workers

/-- When the wait is called off: at once, if the caller's token was cancelled before. -/
def calledOffAt (t : Terms) : Moment := Moment.later (some t.began) t.cancel

/-- When the limit is reached. -/
def deadline (t : Terms) : Nat := t.began + t.limit

end Terms

/-- A wait that begins. Without collectors it is over at once. -/
def initial (t : Terms) : Waiting where
  time := t.began
  errands := List.replicate t.workers.length .waiting
  awaited := 0
  queue := []
  attention := .listening
  received := []
  first := none
  callerCancelled := t.cancel.hasCome t.began
  cancelled := t.cancel.hasCome t.began
  logs := []
  result := if t.workers = [] then some (.ok ()) else none

/-- How many outcomes the channel holds. -/
def capacity (t : Terms) : Nat := max t.workers.length 1

/-- A task comes to a point. -/
def setErrand (x : Waiting) (place : Nat) (e : Errand) : Waiting :=
  { x with errands := x.errands.set place e }

/-- Something is sent. -/
def send (x : Waiting) (n : Notice) : Waiting := { x with queue := x.queue ++ [n] }

/-- The wait is over. -/
def finish (x : Waiting) (r : Except GroupError Unit) : Waiting := { x with result := some r }

/-- An outcome is looked at. A failure after the token was cancelled is taken for that. -/
def look (x : Waiting) (n : Notice) : Waiting :=
  if n.failure.isSome && x.cancelled then x.finish (.error .cancelled)
  else
    { x with
      attention := .listening
      received := x.received ++ [n]
      first := x.first.or (n.failure.map fun f => (n.name, f))
      logs := x.logs ++ [syncLog n] }

/-- No more outcomes come. -/
def conclude (x : Waiting) : Waiting :=
  if x.cancelled then x.finish (.error .cancelled)
  else
    match x.first with
    | none =>
      { x with
        logs := x.logs ++ [Log.Origin.registry.info "All collectors synced"] }.finish (.ok ())
    | some (name, f) => x.finish (.error (.sync name f))

/-- The moves of a wait, all of them at one time. -/
inductive Move (t : Terms) : Waiting → Waiting → Prop where
  | finish {x : Waiting} {i : Nat} {w : Worker} {e : Ending} (h : x.errands[i]? = some .waiting)
    (hw : t.workers[i]? = some w)
    (how : w.endsAt.hasCome x.time = true ∧ e = w.ending ∨ x.cancelled = true) :
    Move t x (x.setErrand i (Errand.ended w.name e))
  | send {x : Waiting} {i : Nat} {n : Notice} (h : x.errands[i]? = some (.sending n))
    (room : x.queue.length < capacity t) :
    Move t x ((x.setErrand i (.over none)).send n)
  | pass {x : Waiting} (h : x.errands[x.awaited]? = some (.over none)) :
    Move t x { x with awaited := x.awaited + 1 }
  | report {x : Waiting} {n : Notice} (h : x.errands[x.awaited]? = some (.over (some n)))
    (room : x.queue.length < capacity t) :
    Move t x ({ x with awaited := x.awaited + 1 }.send n)
  | receive {x : Waiting} {n : Notice} {rest : List Notice} (listening : x.attention = .listening)
    (let_ : x.cancelled = false) (h : x.queue = n :: rest) :
    Move t x { x with queue := rest, attention := .looking n }
  | look {x : Waiting} {n : Notice} (looking : x.attention = .looking n) : Move t x (x.look n)
  | drain {x : Waiting} (listening : x.attention = .listening) (let_ : x.cancelled = false)
    (empty : x.queue = []) (allOver : ∀ e ∈ x.errands, ∃ crash, e = .over crash)
    (waited : x.awaited = t.workers.length) :
    Move t x { x with attention := .drained }
  | conclude {x : Waiting} (drained : x.attention = .drained) : Move t x x.conclude
  | callOff {x : Waiting} (listening : x.attention = .listening) (h : x.cancelled = true) :
    Move t x (x.finish (.error .cancelled))
  | cancel {x : Waiting} (due : t.cancel.hasCome x.time = true) (h : x.callerCancelled = false) :
    Move t x { x with callerCancelled := true }
  | spread {x : Waiting} (h : x.callerCancelled = true) (let_ : x.cancelled = false) :
    Move t x { x with cancelled := true }
  | expire {x : Waiting} (listening : x.attention = .listening) (due : t.deadline ≤ x.time) :
    Move t x ({ x with cancelled := true }.finish (.error (.syncTimeout (.ofMicros t.limit))))

/-- A wait that is not over makes a move, or time passes when it can make none. -/
inductive Step (t : Terms) : Waiting → Waiting → Prop where
  | move {x y : Waiting} (open_ : x.result = none) (h : Move t x y) : Step t x y
  | pass {x : Waiting} (open_ : x.result = none) (idle : ∀ y, ¬ Move t x y) :
    Step t x { x with time := x.time + 1 }

/-- A number of steps, one after the other. -/
inductive Steps (t : Terms) : Nat → Waiting → Waiting → Prop where
  | refl (x : Waiting) : Steps t 0 x x
  | step {n : Nat} {x y z : Waiting} (run : Steps t n x y) (last : Step t y z) :
    Steps t (n + 1) x z

end Waiting

end ClusterCensus.Collector

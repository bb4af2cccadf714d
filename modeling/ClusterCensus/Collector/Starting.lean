import ClusterCensus.Collector.Outcome

/-!
# Starting all collectors, move by move

A task is spawned for each collector and then one for the supervisor. A task calls its collector's
start, and sends the outcome unless that crashed. The supervisor waits for the tasks in their order
and sends the outcomes of those that crashed. Who started the collectors receives all that is sent,
until nothing more can come. The channel holds as many outcomes as there are collectors. Between
these moves there is no other order.
-/

namespace ClusterCensus.Collector

/-- How far a task is. -/
inductive Stage where
  | ready
  | working
  | sending
  | ended
deriving DecidableEq, Repr

/-- A start under way: how far the tasks are that were spawned, whose start was called, for which
task the supervisor waits, what was sent and not yet received, what was received, the records made,
whether the collectors count as started, and the result. -/
structure Starting where
  stages : List Stage
  calls : List Nat
  awaited : Nat
  queue : List Notice
  received : List Notice
  logs : List Log.Record
  started : Bool
  result : Option (Except GroupError Unit)

namespace Starting

/-- A start that begins. Without collectors it is over at once. -/
def initial (ws : List Worker) (started : Bool) : Starting :=
  if ws = [] then ⟨[], [], 0, [], [], [], true, some (.ok ())⟩
  else ⟨[], [], 0, [], [], [startingLog ws.length], started, none⟩

/-- How many outcomes the channel holds. -/
def capacity (ws : List Worker) : Nat := max ws.length 1

/-- A task comes to a stage. -/
def setStage (x : Starting) (place : Nat) (stage : Stage) : Starting :=
  { x with stages := x.stages.set place stage }

/-- Something is sent. -/
def send (x : Starting) (n : Notice) : Starting := { x with queue := x.queue ++ [n] }

/-- The moves of a start. -/
inductive Move (ws : List Worker) : Starting → Starting → Prop where
  | spawn {x : Starting} (h : x.stages.length < ws.length) :
    Move ws x { x with stages := x.stages ++ [.ready] }
  | call {x : Starting} {i : Nat} (h : x.stages[i]? = some .ready) :
    Move ws x { x.setStage i .working with calls := x.calls ++ [i] }
  | finish {x : Starting} {i : Nat} {w : Worker} (h : x.stages[i]? = some .working)
    (hw : ws[i]? = some w) :
    Move ws x (x.setStage i (if w.ending.isCrash then .ended else .sending))
  | send {x : Starting} {i : Nat} {w : Worker} (h : x.stages[i]? = some .sending)
    (hw : ws[i]? = some w) (room : x.queue.length < capacity ws) :
    Move ws x ((x.setStage i .ended).send w.notice)
  | pass {x : Starting} {w : Worker} (spawned : x.stages.length = ws.length)
    (h : x.stages[x.awaited]? = some .ended) (hw : ws[x.awaited]? = some w)
    (ended : w.ending.isCrash = false) :
    Move ws x { x with awaited := x.awaited + 1 }
  | report {x : Starting} {w : Worker} (spawned : x.stages.length = ws.length)
    (h : x.stages[x.awaited]? = some .ended) (hw : ws[x.awaited]? = some w)
    (crashed : w.ending.isCrash = true) (room : x.queue.length < capacity ws) :
    Move ws x ({ x with awaited := x.awaited + 1 }.send w.notice)
  | receive {x : Starting} {n : Notice} {rest : List Notice}
    (spawned : x.stages.length = ws.length) (h : x.queue = n :: rest) (open_ : x.result = none) :
    Move ws x
      { x with queue := rest, received := x.received ++ [n], logs := x.logs ++ [startLog n] }
  | close {x : Starting} (spawned : x.stages.length = ws.length) (empty : x.queue = [])
    (allEnded : ∀ stage ∈ x.stages, stage = .ended) (waited : x.awaited = ws.length)
    (open_ : x.result = none) :
    Move ws x
      { x with
        logs := x.logs ++ startedLogs (failedNames x.received) ws.length
        started := true
        result := some (startResult (failedNames x.received) ws.length) }

/-- A number of moves, one after the other. -/
inductive Moves (ws : List Worker) : Nat → Starting → Starting → Prop where
  | refl (x : Starting) : Moves ws 0 x x
  | move {n : Nat} {x y z : Starting} (run : Moves ws n x y) (last : Move ws y z) :
    Moves ws (n + 1) x z

end Starting

end ClusterCensus.Collector

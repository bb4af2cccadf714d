import ClusterCensus.Log
import ClusterCensus.Snapshot

/-!
# Sinks

A sink is where snapshots are handed over.
-/

namespace ClusterCensus.Shipping

/-- What comes of handing a snapshot over: a code, with a retry hint in seconds, zero meaning none,
or no answer at all. -/
inductive Delivery where
  | answered (code hint : Nat)
  | failed (failure : Failure)
deriving DecidableEq, Repr

/-- Takes a snapshot, and says what came of it and what is logged. -/
abbrev Sink := Snapshot → Delivery × List Log.Record

namespace Sink

/-- A sink that has its answer ready. -/
def answering (d : Delivery) : Sink := fun _ => (d, [])

/-- The record of a snapshot: how much it holds and the size of its written form in bytes. -/
def capture (s : Snapshot) : Log.Record :=
  Log.Origin.shipping.info "Snapshot captured"
    [("items", s.totalItems), ("pods", s.pods.length), ("nodes", (s.entries .nodes).length),
      ("bytes", s.encode.compact.utf8ByteSize)]

/-- A sink that only logs what it is given. -/
def logging : Sink := fun s => (.answered 200 0, [capture s])

end Sink

end ClusterCensus.Shipping

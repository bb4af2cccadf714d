import ClusterCensus.Number.Binary64

/-!
# Histograms

A histogram counts observations under a fixed list of bounds and adds them up. An observation counts
under every bound that it does not exceed, so the counts never decrease along the bounds.
-/

namespace ClusterCensus.Metrics

/-- A bound, in ten-thousandths, and how a label shows it. -/
structure Bound where
  tenThousandths : Nat
  label : String
deriving DecidableEq, Repr

namespace Bound

/-- Whether an observation counts under a bound. -/
def admits (b : Bound) (x : Binary64) : Bool := x.atMost b.tenThousandths 10000

/-- The bounds for the time that a snapshot takes to build, in seconds. -/
def buildSeconds : List Bound :=
  [⟨5, "0.0005"⟩, ⟨10, "0.001"⟩, ⟨25, "0.0025"⟩, ⟨50, "0.005"⟩, ⟨100, "0.01"⟩, ⟨250, "0.025"⟩,
    ⟨500, "0.05"⟩, ⟨1000, "0.1"⟩, ⟨2500, "0.25"⟩, ⟨5000, "0.5"⟩, ⟨10000, "1"⟩, ⟨25000, "2.5"⟩]

end Bound

/-- The observations under each bound, all of them, and their sum. -/
structure Histogram where
  buckets : List (Bound × Nat)
  count : Nat
  sum : Binary64
deriving DecidableEq, Repr

namespace Histogram

/-- A histogram without observations. -/
def empty (bounds : List Bound) : Histogram := ⟨bounds.map fun b => (b, 0), 0, .zero false⟩

/-- Adds an observation. -/
def observe (h : Histogram) (x : Binary64) : Histogram where
  buckets := h.buckets.map fun b => (b.1, if b.1.admits x then b.2 + 1 else b.2)
  count := h.count + 1
  sum := h.sum + x

end Histogram

end ClusterCensus.Metrics

/-!
# Spans of time

Spans of time, in nanoseconds, and how a message shows them.
-/

namespace ClusterCensus

/-- A span of time in nanoseconds. -/
structure Span where
  ns : Nat
deriving DecidableEq, Repr

namespace Span

/-- A span of seconds and nanoseconds. -/
def ofParts (secs nanos : Nat) : Span := ⟨secs * 1000000000 + nanos⟩

/-- A span of whole seconds. -/
def ofSecs (secs : Nat) : Span := ofParts secs 0

/-- A span of whole milliseconds. -/
def ofMillis (ms : Nat) : Span := ⟨ms * 1000000⟩

/-- A span of whole microseconds. -/
def ofMicros (us : Nat) : Span := ⟨us * 1000⟩

/-- The whole seconds of a span. -/
def secs (s : Span) : Nat := s.ns / 1000000000

/-- What a span has beyond its whole seconds, in nanoseconds. -/
def subsecNanos (s : Span) : Nat := s.ns % 1000000000

/-- The whole milliseconds of a span. -/
def millis (s : Span) : Nat := s.ns / 1000000

/-- Drops zeros at the end of digits. -/
def trimDigits (ds : List Char) : List Char := (ds.reverse.dropWhile (· = '0')).reverse

/-- A number of units with the digits of a fraction of a given width, without zeros at its end. -/
def decimal (whole part width : Nat) : String :=
  let ds := Nat.toDigits 10 part
  let digits := trimDigits (List.replicate (width - ds.length) '0' ++ ds)
  toString whole ++ (if part = 0 then "" else "." ++ String.ofList digits)

/-- A span in the greatest unit of which it has at least one. -/
def text (s : Span) : String :=
  if s.ns ≥ 1000000000 then decimal s.secs s.subsecNanos 9 ++ "s"
  else if s.ns ≥ 1000000 then decimal (s.ns / 1000000) (s.ns % 1000000) 6 ++ "ms"
  else if s.ns ≥ 1000 then decimal (s.ns / 1000) (s.ns % 1000) 3 ++ "µs"
  else decimal s.ns 0 0 ++ "ns"

end Span

end ClusterCensus

import ClusterCensus.Time.Instant

/-!
# Clocks

The wall clock shows milliseconds since the beginning of 1970. It may be set to anything, but it can
only be read while it shows a time of the calendar that is not before that beginning. The lifecycle
takes its readings from a clock of its own, which may be the wall clock.
-/

namespace ClusterCensus

namespace Wall

/-- Why the wall clock cannot be read: it is behind the beginning of 1970 by some span, or beyond
the calendar. -/
inductive Fault where
  | behind (by_ : Span)
  | beyond
deriving DecidableEq, Repr

/-- The text of a fault. -/
def Fault.message : Fault → String
  | behind by_ => "system time before Unix epoch: SystemTimeError(" ++ by_.text ++ ")"
  | beyond => "called `Option::unwrap()` on a `None` value"

/-- The first millisecond beyond the calendar. -/
def limitMs : Int := 8210266876800000

/-- What a wall clock shows that is set to some milliseconds. -/
def read (ms : Int) : Except Fault Int :=
  if ms < 0 then .error (.behind (.ofMillis ms.natAbs))
  else if ms < limitMs then .ok ms
  else .error .beyond

end Wall

/-- A clock that is moved by hand, the wall clock, or a clock that shows the time passed since it
was started. -/
inductive Clock where
  | manual (reading : Instant)
  | wall
  | elapsed (start : Instant)
deriving DecidableEq, Repr

namespace Clock

/-- What a clock shows, given the wall clock and the time passed, in milliseconds. -/
def now (c : Clock) (wallMs : Int) (elapsedMs : Nat) : Instant :=
  match c with
  | manual reading => reading
  | wall => .ofMillis wallMs
  | elapsed start => start.addOrMax (.ofMillis elapsedMs)

/-- Moves a clock forward by hand, unless that leads out of the calendar. -/
def advance (c : Clock) (by_ : Span) : Clock :=
  match c with
  | manual reading => manual ((reading.add? by_).getD reading)
  | c => c

/-- Sets a clock by hand. -/
def set (c : Clock) (reading : Instant) : Clock :=
  match c with
  | manual _ => manual reading
  | c => c

end Clock

end ClusterCensus

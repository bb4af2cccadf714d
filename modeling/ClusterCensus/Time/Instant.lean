import ClusterCensus.Time.Span

/-!
# Instants

Instants, in seconds since the beginning of 1970 and nanoseconds beyond them, and how they are shown
in the calendar. The calendar ends with the year 262142; nothing is added to an instant that would
lead beyond its last second. The last second of a minute may be a leap second: its nanoseconds go
on to count the second that is inserted after it.
-/

namespace ClusterCensus

/-- An instant: seconds since the beginning of 1970, and nanoseconds beyond them. -/
structure Instant where
  secs : Int
  nanos : Nat
deriving DecidableEq, Repr

namespace Instant

/-- The nanoseconds of a second. -/
def perSec : Nat := 1000000000

/-- The seconds of a day. -/
def perDay : Nat := 86400

instance : LE Instant := ⟨fun a b => a.secs < b.secs ∨ a.secs = b.secs ∧ a.nanos ≤ b.nanos⟩

instance (a b : Instant) : Decidable (a ≤ b) :=
  inferInstanceAs (Decidable (a.secs < b.secs ∨ a.secs = b.secs ∧ a.nanos ≤ b.nanos))

/-- Whether an instant lies in an inserted second. -/
def isLeap (t : Instant) : Bool := perSec ≤ t.nanos

/-- The instant of seconds and nanoseconds. Nanoseconds beyond a second are an inserted second at
the end of a minute, and count as later seconds anywhere else. -/
def ofParts (secs : Int) (nanos : Nat) : Instant :=
  if nanos < 2 * perSec ∧ secs % 60 = 59 then ⟨secs, nanos⟩
  else ⟨secs + (nanos / perSec : Nat), nanos % perSec⟩

/-- The instant of milliseconds. -/
def ofMillis (ms : Int) : Instant := ⟨Int.fdiv ms 1000, (Int.fmod ms 1000).toNat * 1000000⟩

/-- The last instant of the calendar. -/
def max : Instant := ⟨8210266876799, 999999999⟩

/-- The instant of seconds and less than two seconds in nanoseconds. -/
def ofCarry (secs : Int) (nanos : Nat) : Instant :=
  if nanos < perSec then ⟨secs, nanos⟩ else ⟨secs + 1, nanos - perSec⟩

/-- The instant a span later. An inserted second is not counted once it is left. -/
def later (t : Instant) (by_ : Span) : Instant :=
  let secs := t.secs + by_.secs
  let nanos := t.nanos + by_.subsecNanos
  if t.isLeap then
    if by_.secs = 0 ∧ nanos < 2 * perSec then ⟨secs, nanos⟩ else ofCarry secs (nanos - perSec)
  else ofCarry secs nanos

/-- The instant a span later, if the calendar has it. -/
def add? (t : Instant) (by_ : Span) : Option Instant :=
  if (t.later by_).secs ≤ max.secs then some (t.later by_) else none

/-- The instant a span later, or the last one of the calendar. -/
def addOrMax (t : Instant) (by_ : Span) : Instant := (t.add? by_).getD max

/-- The seconds since the beginning of the day. -/
def secOfDay (t : Instant) : Int := Int.fmod t.secs perDay

/-- The nanoseconds from one instant to another. An inserted second at one end lengthens the way to
the other, if that is on the other side of it by the time of day. -/
def nanosUntil (t later : Instant) : Int :=
  let inserted : Int :=
    if t.secOfDay < later.secOfDay ∧ t.isLeap then 1
    else if later.secOfDay < t.secOfDay ∧ later.isLeap then -1
    else 0
  (later.secs - t.secs + inserted) * perSec + ((later.nanos : Int) - t.nanos)

/-- The span from an instant to a later one; nothing if it is not later. -/
def until_ (t later : Instant) : Span := ⟨(t.nanosUntil later).toNat⟩

/-- Year, month and day of a day counted from the beginning of 1970, by eras of four hundred years
that begin in March. -/
def civil (day : Int) : Int × Nat × Nat :=
  let z := day + 719468
  let era := Int.fdiv z 146097
  let doe := (z - era * 146097).toNat
  let yoe := (doe - doe / 1460 + doe / 36524 - doe / 146096) / 365
  let doy := doe - (365 * yoe + yoe / 4 - yoe / 100)
  let mp := (5 * doy + 2) / 153
  let d := doy - (153 * mp + 2) / 5 + 1
  let m := if mp < 10 then mp + 3 else mp - 9
  let y := (yoe : Int) + era * 400
  (if m ≤ 2 then y + 1 else y, m, d)

/-- A number with at least a number of digits. -/
def padded (width n : Nat) : String :=
  let ds := Nat.toDigits 10 n
  String.ofList (List.replicate (width - ds.length) '0' ++ ds)

/-- A year: four digits, or a sign and at least four digits outside the years 0 to 9999. -/
def yearText (y : Int) : String :=
  if 0 ≤ y ∧ y ≤ 9999 then padded 4 y.toNat
  else (if y < 0 then "-" else "+") ++ padded 4 y.natAbs

/-- A fraction of a second in three, six or nine digits, whichever is enough. -/
def fractionText (nanos : Nat) : String :=
  if nanos = 0 then ""
  else if nanos % 1000000 = 0 then "." ++ padded 3 (nanos / 1000000)
  else if nanos % 1000 = 0 then "." ++ padded 6 (nanos / 1000)
  else "." ++ padded 9 nanos

/-- An instant in the calendar. An inserted second is the sixtieth of its minute. -/
def text (t : Instant) : String :=
  let day := Int.fdiv t.secs perDay
  let s := t.secOfDay.toNat
  let (sec, nanos) := if t.isLeap then (s % 60 + 1, t.nanos - perSec) else (s % 60, t.nanos)
  let (y, m, d) := civil day
  yearText y ++ "-" ++ padded 2 m ++ "-" ++ padded 2 d ++ "T" ++ padded 2 (s / 3600) ++ ":" ++
    padded 2 (s / 60 % 60) ++ ":" ++ padded 2 sec ++ fractionText nanos ++ "Z"

end Instant

end ClusterCensus

import ClusterCensus.Lifecycle.State
import ClusterCensus.Time.Instant

/-!
# The lifecycle machine

The machine holds a state, the reason for it, and during backoff the instant at which the next send
is allowed. It moves by the answers of the backend and by direct orders.
-/

namespace ClusterCensus.Lifecycle

/-- How long a 429 answer without a hint holds back. -/
def rateLimitBackoff : Span := .ofSecs 30

/-- How long a 402 answer without a hint holds back. -/
def quotaBackoff : Span := .ofSecs 300

/-- The longest backoff that a hint is followed for. -/
def maxBackoff : Span := .ofSecs 86400

/-- A lifecycle. -/
structure Machine where
  state : State
  reason : String
  deadline : Option Instant
deriving DecidableEq, Repr

/-- What moves a lifecycle: an answer of the backend, with its retry hint in seconds, zero meaning
none, or an order to be in a state. -/
inductive Event where
  | answer (code hint : Nat)
  | order (state : State) (reason : String)
deriving DecidableEq, Repr

/-- How long to hold back for a hint, or without one. -/
def backoffWindow (hint : Nat) (otherwise : Span) : Span :=
  if hint > 0 then ⟨min (Span.ofSecs hint).ns maxBackoff.ns⟩ else otherwise

namespace Machine

/-- A new lifecycle. -/
def initial : Machine := ⟨.starting, "", none⟩

instance : Inhabited Machine := ⟨initial⟩

/-- Holds back for a window from now on. -/
def enterBackoff (now : Instant) (reason : String) (window : Span) : Machine :=
  ⟨.backoff, reason, some (now.addOrMax window)⟩

/-- The lifecycle after an answer of the backend. -/
def answer (m : Machine) (now : Instant) (code hint : Nat) : Machine :=
  if code = 200 then ⟨.running, "", none⟩
  else if code = 401 ∨ code = 403 then ⟨.stopped, "authentication failed", none⟩
  else if code = 402 then enterBackoff now "quota exceeded" (backoffWindow hint quotaBackoff)
  else if code = 410 then ⟨.exiting, "agent deprecated", none⟩
  else if code = 429 then enterBackoff now "rate limited" (backoffWindow hint rateLimitBackoff)
  else if 500 ≤ code then { m with reason := "server error: HTTP " ++ toString code }
  else m

/-- The lifecycle after an order. Only the order to hold back keeps a deadline. -/
def order (m : Machine) (state : State) (reason : String) : Machine :=
  ⟨state, reason, if state = .backoff then m.deadline else none⟩

/-- The lifecycle after an event at an instant. -/
def step (m : Machine) (now : Instant) : Event → Machine
  | .answer code hint => m.answer now code hint
  | .order state reason => m.order state reason

/-- The lifecycle after a run of events, each with the reading of the clock at it. -/
def run (m : Machine) (events : List (Instant × Event)) : Machine :=
  events.foldl (fun m e => m.step e.1 e.2) m

/-- Whether readers of the lifecycle look at the clock. -/
def isTimed (m : Machine) : Bool := m.deadline.isSome

/-- Whether the gate for sends looks at the clock. -/
def isGateTimed (m : Machine) : Bool := m.state = .backoff && m.isTimed

/-- Whether an answer of the backend is taken with a look at the clock. -/
def holdsBack (code : Nat) : Bool := code = 402 || code = 429

/-- Whether the deadline has passed, or there is none. -/
def expired (m : Machine) (now : Instant) : Bool :=
  match m.deadline with
  | some d => d ≤ now
  | none => true

/-- What is left until the deadline. -/
def remaining (m : Machine) (now : Instant) : Span :=
  match m.deadline with
  | some d => now.until_ d
  | none => ⟨0⟩

/-- Whether a send may be attempted. -/
def canSend (m : Machine) (now : Instant) : Bool :=
  match m.state with
  | .starting | .running => true
  | .backoff => m.expired now
  | .stopped | .exiting => false

/-- The lifecycle as it is shown to operators. -/
def status (m : Machine) (now : Instant) : Status :=
  ⟨m.state, m.reason, UInt64.ofNat (m.remaining now).secs⟩

/-- The deadline in a dump of the lifecycle. -/
def deadlineText (m : Machine) : String :=
  match m.deadline with
  | some d => "Some(" ++ d.text ++ ")"
  | none => "None"

/-- A dump of the lifecycle. -/
def dump (m : Machine) : String :=
  "StateMachine \x7b inner: Inner \x7b state: " ++ m.state.title ++ ", reason: " ++
    Text.quoted m.reason ++ ", backoff_until: " ++ m.deadlineText ++ " \x7d, .. \x7d"

end Machine

end ClusterCensus.Lifecycle

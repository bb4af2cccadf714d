import ClusterCensus.Lifecycle.Supervisor

/-!
# The lifecycle under its guard

A lifecycle under its guard. Who moves it holds the guard meanwhile, and who looks at it while the
guard is held waits. The callback for the end of the agent's support is taken as it is registered
then and called when the guard is free again, so that it may look at the lifecycle.
-/

namespace ClusterCensus.Lifecycle

/-- What is done to a lifecycle and its callback: one is registered, or an event comes while the
clock shows an instant. -/
inductive Supervisor.Act where
  | onCancel (callback : String)
  | event (now : Instant) (e : Event)

namespace Supervisor

/-- What an act brings about. -/
def act (s : Supervisor) : Act → Supervisor
  | .onCancel callback => s.onCancel callback
  | .event now (.answer code hint) => s.answer now code hint
  | .event _ (.order state reason) => s.order state reason

/-- What acts bring about, one after the other. -/
def run (s : Supervisor) (acts : List Act) : Supervisor := acts.foldl act s

/-- Whether an act announces the end of the agent's support. -/
def Act.endsSupport : Act → Bool
  | event _ (.answer code _) => code = 410
  | _ => false

/-- A step of an act. -/
inductive Step where
  | hold
  | move (now : Instant) (e : Event)
  | free
  | register (callback : String)
  | take
  | call

/-- The steps of an act. The callback is taken and called after the guard is free. -/
def Act.steps : Act → List Step
  | onCancel callback => [.register callback]
  | event now e =>
    [.hold, .move now e, .free] ++ if (event now e).endsSupport then [.take, .call] else []

end Supervisor

/-- A lifecycle and its callback under a guard, and the callback taken to be called. -/
structure Guarded where
  supervisor : Supervisor
  held : Bool
  taken : Option String

namespace Guarded

/-- The lifecycle with nobody at work on it. -/
def idle (s : Supervisor) : Guarded := ⟨s, false, none⟩

/-- What is seen of the lifecycle: nothing, for one who waits. -/
def look (g : Guarded) : Option Machine := if g.held then none else some g.supervisor.machine

/-- The call of a callback, which looks at the lifecycle. -/
def called (g : Guarded) (callback : String) (seen : Machine) : Guarded :=
  { g with
    supervisor :=
      { g.supervisor with calls := g.supervisor.calls ++ [⟨callback, seen⟩] }
    taken := none }

/-- What a step brings about, unless it waits for what does not happen. -/
def step? (g : Guarded) : Supervisor.Step → Option Guarded
  | .hold => if g.held then none else some { g with held := true }
  | .move now e =>
    if g.held then
      some { g with
        supervisor := { g.supervisor with machine := g.supervisor.machine.step now e } }
    else none
  | .free => some { g with held := false }
  | .register callback => some { g with supervisor := g.supervisor.onCancel callback }
  | .take => some { g with taken := g.supervisor.callback }
  | .call =>
    match g.taken with
    | none => some g
    | some callback => g.look.map (g.called callback)

/-- What steps bring about, one after the other. -/
def run? (g : Guarded) (steps : List Supervisor.Step) : Option Guarded := steps.foldlM step? g

end Guarded

end ClusterCensus.Lifecycle

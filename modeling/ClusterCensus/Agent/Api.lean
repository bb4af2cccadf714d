import ClusterCensus.Agent.Basic
import ClusterCensus.Metrics.Exposition

/-!
# The HTTP interface

The agent answers four kinds of requests: two probes, the metrics and a status page. A probe derives
the health of the store and of the backend link anew before it answers. The target of a request is a
path, or a scheme and an authority with a path behind them, as in `http://host:80/status`; after the
path there may be a query and a fragment, which do not count.
-/

namespace ClusterCensus

namespace Target

/-- The characters of a scheme. -/
def isSchemeChar (c : Char) : Bool := c.isAlphanum || c = '+' || c = '-' || c = '.'

/-- The characters that end an authority. -/
def endsAuthority (c : Char) : Bool := c = '/' || c = '?' || c = '#'

/-- What follows a scheme and the marks after it. A target need not have a scheme. -/
def afterScheme? (cs : List Char) : Option (List Char) :=
  match cs.dropWhile isSchemeChar with
  | ':' :: '/' :: '/' :: rest => some rest
  | _ => none

/-- A path without query and fragment. -/
def pathOnly (cs : List Char) : List Char := cs.takeWhile fun c => c ≠ '?' && c ≠ '#'

/-- The path of a target. There is none without a scheme unless the target begins with it, and none
where a scheme has no authority. -/
def path? (target : String) : Option (List Char) :=
  let cs := target.toList
  match cs with
  | '/' :: _ => some (pathOnly cs)
  | _ =>
    match afterScheme? cs with
    | none => none
    | some rest =>
      if rest.takeWhile (fun c => !endsAuthority c) = [] then none
      else some (pathOnly (rest.dropWhile fun c => !endsAuthority c))

end Target

namespace Api

/-- What can be asked for. -/
inductive Endpoint where
  | health
  | readiness
  | metrics
  | status
deriving DecidableEq, Repr

/-- What a request asks to be done. -/
inductive Method where
  | get
  | head
  | other
deriving DecidableEq, Repr

/-- What a response carries. -/
inductive Body where
  | empty
  | json (v : Json)
  | metrics (m : Metrics)

/-- A response: its code, two of its headers, and its body. -/
structure Response where
  code : Nat
  contentType : Option String
  allow : Option String
  body : Body

/-- A method by its name. -/
def Method.ofName (name : String) : Method :=
  if name = "GET" then .get else if name = "HEAD" then .head else .other

namespace Endpoint

/-- The path of an endpoint. -/
def path : Endpoint → String
  | health => "/healthz"
  | readiness => "/readyz"
  | metrics => "/metrics"
  | status => "/status"

/-- Every endpoint. -/
def all : List Endpoint := [health, readiness, metrics, status]

/-- The endpoint that a target names. -/
def ofTarget? (target : String) : Option Endpoint :=
  all.find? fun e => Target.path? target = some e.path.toList

/-- Whether an endpoint looks at the wall clock for itself. -/
def readsWall : Endpoint → Bool
  | metrics => false
  | _ => true

end Endpoint

namespace Response

/-- An answer in the record format. -/
def ofJson (code : Nat) (v : Json) : Response := ⟨code, some "application/json", none, .json v⟩

/-- There is no such endpoint. -/
def notFound : Response := ⟨404, none, none, .empty⟩

/-- There is such an endpoint, but this cannot be done with it. -/
def notAllowed : Response := ⟨405, none, some "GET,HEAD", .empty⟩

end Response

/-- How long ago a kind was last touched, in whole seconds; zero if it never was. -/
def ageSecs (wallMs updatedMs : Int) : Int :=
  if 0 < updatedMs then Int.tdiv (Health.elapsedMs wallMs updatedMs) 1000 else 0

end Api

namespace Agent

open Api

/-- What the status page says about a kind. The members stand in order of name, as in every written
form here; the page itself lists `items`, `last_updated_ms` and `age_secs`. -/
def kindStatus (a : Agent) (wallMs : Int) (k : Kind) : Json :=
  .object [
    ("age_secs", .integer (ageSecs wallMs (a.store.updatedMs k))),
    ("items", .nat (a.store.count k)),
    ("last_updated_ms", .integer (a.store.updatedMs k))]

/-- The status page. The members stand in order of name; the page itself lists `lifecycle`,
`total_items` and `kinds`. -/
def statusPage (a : Agent) (wallMs : Int) (now : Instant) : Json :=
  .object [
    ("kinds", Json.ofMembers (Kind.all.map fun k => (k.name, a.kindStatus wallMs k))),
    ("lifecycle", (a.status now).encode),
    ("total_items", .nat a.store.totalItems)]

/-- The code of a health report: a degraded agent is still up. -/
def healthCode : Health.Grade → Nat
  | .healthy | .degraded => 200
  | .unhealthy => 503

/-- The answer of an endpoint, and the agent after it. -/
def serve (a : Agent) (wallMs : Int) (now : Instant) : Endpoint → Response × Agent
  | .health =>
    let a := a.refresh wallMs now
    (.ofJson (healthCode a.health.report.grade) a.health.report.encode, a)
  | .readiness =>
    let a := a.refresh wallMs now
    (.ofJson (if a.health.readiness.ready then 200 else 503) a.health.readiness.encode, a)
  | .metrics =>
    let a := a.showMetrics now
    (⟨200, some "text/plain; version=0.0.4", none, .metrics a.metrics⟩, a)
  | .status => (.ofJson 200 (a.statusPage wallMs now), a)

/-- The answer to a request, and the agent after it. Asking for the head only has the same effects
as asking for all, but the body is left out. -/
def respond (a : Agent) (wallMs : Int) (now : Instant) (method : Method) (target : String) :
    Response × Agent :=
  match Endpoint.ofTarget? target with
  | none => (.notFound, a)
  | some e =>
    match method with
    | .get => a.serve wallMs now e
    | .head =>
      let (r, a) := a.serve wallMs now e
      ({ r with body := .empty }, a)
    | .other => (.notAllowed, a)

/-- The record of an interface that begins to listen on a port. -/
def listening (port : UInt16) : Log.Record :=
  Log.Origin.api.info "Starting API server" [("addr", "0.0.0.0:" ++ toString port.toNat)]

end Agent

end ClusterCensus

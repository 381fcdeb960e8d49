import Tenure.Gauge
import Tenure.Json
import Tenure.State.Graph

/-!
# What a replica shows over HTTP

Three resources can be read: the state, the graph of moves, and the gauges. They answer GET,
and HEAD with the same headers and no body.
-/
namespace Tenure.Api

structure Response where
  status : Nat
  contentType : Option String := none
  allow : Option String := none
  body : String := ""
  deriving DecidableEq

inductive Resource where
  | lifecycle
  | transitions
  | metrics
  deriving DecidableEq

/-- Leaves out scheme and authority of an absolute reference. -/
def dropAuthority (uri : List Char) : List Char :=
  if uri.head? = some '/' then uri
  else match uri.dropWhile (· ≠ ':') with
    | ':' :: '/' :: '/' :: rest => rest.dropWhile fun c => c ≠ '/' ∧ c ≠ '?' ∧ c ≠ '#'
    | _ => uri

/-- The path that a reference names, without query and fragment. -/
def path (uri : String) : String :=
  .ofList ((dropAuthority uri.toList).takeWhile fun c => c ≠ '?' ∧ c ≠ '#')

def Resource.ofPath? : String → Option Resource
  | "/api/v1/lifecycle" => some .lifecycle
  | "/api/v1/lifecycle/transitions" => some .transitions
  | "/metrics" => some .metrics
  | _ => none

def succeeded (data : Json) : String :=
  (Json.object [("success", .bool true), ("data", data)]).render

def edgeJson (e : Edge) : Json :=
  .object [("from", .text e.source.label), ("to", .text e.target.label),
    ("has_action", .bool e.duty.isSome)]

def Resource.body (s : Snapshot) : Resource → String
  | lifecycle =>
    succeeded (.object [("state", .text s.state.label), ("registered", .bool s.registered)])
  | transitions => succeeded (.array (Edge.all.map edgeJson))
  | metrics => s.exposition

def Resource.contentType : Resource → String
  | lifecycle | transitions => "application/json"
  | metrics => "text/plain; version=0.0.4; charset=utf-8"

def respond (s : Snapshot) (method uri : String) : Response :=
  match Resource.ofPath? (path uri) with
  | none => { status := 404 }
  | some resource =>
    if method = "GET" then
      { status := 200, contentType := some resource.contentType, body := resource.body s }
    else if method = "HEAD" then
      { status := 200, contentType := some resource.contentType }
    else
      { status := 405, allow := some "GET,HEAD" }

end Tenure.Api

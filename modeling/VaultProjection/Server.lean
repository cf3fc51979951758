import VaultProjection.Telemetry.Exposition
import VaultProjection.Web.Request
/-!
The health and metrics server: three pages that can be read, whether the controller is ready, and
what happens when the port is taken.
-/

namespace VaultProjection.Server

/-- What the server shows. -/
structure State where
  /-- The first list of resources has been loaded and the controller is not stopping. -/
  ready : Bool
  /-- The meters have been registered. -/
  registered : Bool
  registry : Registry

def State.initial : State := ⟨false, false, .empty⟩

structure Response where
  status : Nat
  contentType : Option String
  body : String
  deriving DecidableEq, Repr

/-- An answer without content. -/
def Response.bare (status : Nat) : Response := ⟨status, none, ""⟩

inductive Page where
  | metrics
  | health
  | readiness
  deriving DecidableEq, Repr

/-- The page that a request asks for; a query behind its path does not matter. -/
def Page.ofPath? (text : String) : Option Page :=
  match Web.Target.pathOf? text with
  | some "/metrics" => some .metrics
  | some "/healthz" => some .health
  | some "/readyz" => some .readiness
  | _ => none

def metricsContentType : String := "text/plain; version=0.0.4; charset=utf-8"

/-- What reading a page gives. -/
def read (s : State) : Page → Response
  | .metrics => ⟨200, some metricsContentType, Exposition.text s.registered s.registry⟩
  | .health => .bare 200
  | .readiness => .bare (if s.ready then 200 else 503)

/-- The answer to a request. Pages can be read, with or without their content. -/
def respond (s : State) (method path : String) : Response :=
  match Page.ofPath? path with
  | none => .bare 404
  | some page =>
    if method = "GET" then read s page
    else if method = "HEAD" then { read s page with body := "" }
    else .bare 405

/-- The complaint about meters that are registered already. -/
def duplicateMeters : String := "Duplicate metrics collector registration attempted"

/-- Registers the meters, which is possible once. -/
def register (s : State) : Except String State :=
  if s.registered then .error duplicateMeters else .ok { s with registered := true }

/-- The complaint about a port that somebody else holds. -/
def portTaken : String := "Address already in use (os error 98)"

end VaultProjection.Server

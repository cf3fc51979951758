import VaultProjection.Cluster.Call
import VaultProjection.Event
import VaultProjection.Telemetry.Meter
/-!
Writing events to the cluster. The first of a kind becomes an object of its own; those that follow
raise the count of that object, which keeps all that the first one said.
-/

namespace VaultProjection.Cluster

open Json (Raw)

/-! ## Events alike -/

/-- Both are about the same object, whichever version of it. -/
def sameObject (a b : Kube.ObjectReference) : Bool :=
  a.apiVersion == b.apiVersion && a.kind == b.kind && a.name == b.name && a.ns == b.ns
    && a.uid == b.uid

/-- Events that count as one; what they say in words may differ. -/
def sameOccasion (a b : Event) : Bool :=
  a.severity == b.severity && a.reason == b.reason && a.action == b.action
    && sameObject a.object b.object

/-- An event with the name and time of its object, and how often it happened. -/
structure Occasion where
  first : Event
  name : String
  time : String
  count : Nat
  /-- When it happened last, if it happened more than once. -/
  last : Option String
  deriving DecidableEq, Repr

structure Recorder where
  /-- Who reports: the controller, and which copy of it. -/
  controller : String
  copy : String
  seen : List Occasion
  deriving DecidableEq, Repr

namespace Recorder

/-- The recorder of a pod; without one it bears the name of the controller. -/
def new (pod : Option String) : Recorder := ⟨controllerName, pod.getD controllerName, []⟩

/-! ## Form -/

def apiVersion : String := "events.k8s.io/v1"

def toJson (r : Recorder) (o : Occasion) : Json :=
  .ofPresent [("apiVersion", some (.str apiVersion)), ("kind", some (.str "Event")),
    ("action", some (.str o.first.action)), ("eventTime", some (.str o.time)),
    ("metadata", some (.ofPresent
      [("name", some (.str o.name)), ("namespace", o.first.object.ns.map .str)])),
    ("note", some (.str o.first.message)), ("reason", some (.str o.first.reason)),
    ("regarding", some o.first.object.toJson),
    ("reportingController", some (.str r.controller)), ("reportingInstance", some (.str r.copy)),
    ("series", o.last.map fun t =>
      .ofMembers [("count", .int o.count), ("lastObservedTime", .str t)]),
    ("type", some (.str o.first.severity.name))]

/-- Whether a document can be read as an event. A series needs the time when it was seen last. -/
def isEvent (r : Raw) : Bool :=
  let fits {α : Type} (ms : List (String × Raw)) (name : String) (read : Raw → Option α) : Bool :=
    (Raw.present? ms name read).isSome
  let record (check : List (String × Raw) → Bool) (r : Raw) : Option Unit := do
    if check (← r.members?) then some () else none
  let isSource := record fun ms => fits ms "component" Raw.str? && fits ms "host" Raw.str?
  let isSeries := record fun ms => fits ms "count" Raw.int32?
    && (Raw.last? ms "lastObservedTime" Kube.time?).join.isSome
  (record (fun ms => Raw.hasOnly ms "apiVersion" apiVersion && Raw.hasOnly ms "kind" "Event"
    && ["action", "note", "reason", "reportingController", "reportingInstance", "type"].all
      (fits ms · Raw.str?)
    && ["eventTime", "deprecatedFirstTimestamp", "deprecatedLastTimestamp"].all
      (fits ms · Kube.time?)
    && fits ms "deprecatedCount" Raw.int32? && fits ms "metadata" Kube.ObjectMeta.read?
    && ["regarding", "related"].all (fits ms · Kube.ObjectReference.read?)
    && fits ms "deprecatedSource" isSource && fits ms "series" isSeries) r).isSome

/-! ## Publishing -/

/-- The occasion of an event: a new one, or one more time of an earlier one. -/
def occasion (r : Recorder) (now id : String) (e : Event) : Occasion :=
  match r.seen.find? (sameOccasion ·.first e) with
  | some o => { o with count := o.count + 1, last := some now }
  | none => ⟨e, e.object.name.getD r.controller ++ "." ++ id, now, 1, none⟩

/-- The namespace of an event's object. -/
def place (o : Occasion) : String := o.first.object.ns.getD "default"

def eventsPath (ns : String) : String := "/apis/" ++ apiVersion ++ "/namespaces/" ++ ns ++ "/events"

def request? (r : Recorder) (o : Occasion) : Option Web.Request :=
  let path := eventsPath (place o)
  if o.last.isSome then
    (Web.Target.read? (path ++ "/" ++ o.name ++ "?") []).map fun t =>
      ⟨.patch, t, some Web.mergePatchType, some Web.jsonType, some (r.toJson o)⟩
  else
    (Web.Target.read? (path ++ "?") []).map fun t =>
      ⟨.post, t, some Web.jsonType, none, some (r.toJson o)⟩

/-- Keeps an occasion in place of an earlier state of it. -/
def keep (r : Recorder) (o : Occasion) : Recorder :=
  { r with seen := o :: r.seen.filter (!sameOccasion ·.first o.first) }

/-- What follows from the answer to an occasion's request. Only one that was written counts. -/
def finish (r : Recorder) (o : Occasion) (e : Event) (answer : Option Web.Response) :
    Recorder × List Signal :=
  match understand (fun r => if isEvent r then some () else none) answer with
  | .ok () => (r.keep o, [])
  | .error f => (r, [.say .warn .events "Failed to publish Kubernetes event"
      [.text "reason" e.reason, .text "action" e.action,
        .text "object.name" (e.object.name.getD ""), .text "error" f.text]])

def debugText : String := "KubeEventRecorder \x7b .. \x7d"

end Recorder

/-- The client of the API server in debug output. -/
def clientDebugText : String := "KubeClusterApi \x7b .. \x7d"

end VaultProjection.Cluster

import VaultProjection.Queue.Pair
/-!
Which queue an event on a resource sends its key to.

| Event | Output asked for | Route |
|---|---|---|
| added | yes | structural |
| updated to the same version | by the new copy | drift |
| updated to another version | by either copy | structural |
| deleted | yes | structural, and pending drift retries are given up |
| any | no | none |

A deleted output sends the key of the resource that controlled it to the structural queue.
-/

namespace VaultProjection

/-- What happened to a resource. -/
inductive Change where
  | added (resource : Resource)
  | updated (old new : Resource)
  | deleted (resource : Resource)
  deriving BEq, Repr

/-- The copy of the resource that names the key. -/
def Change.resource : Change → Resource
  | .added r | .deleted r => r
  | .updated _ new => new

inductive Route where
  | structural
  | drift
  | structuralAndForget
  | drop
  deriving DecidableEq, Repr

def Route.name : Route → String
  | .structural => "Structural"
  | .drift => "VaultDrift"
  | .structuralAndForget => "StructuralAndForget"
  | .drop => "Drop"

namespace Change

/-- The same version before and after; a copy without a version is never the same. -/
def sameVersion (old new : Resource) : Bool :=
  old.metadata.resourceVersion.isSome &&
    old.metadata.resourceVersion == new.metadata.resourceVersion

def route : Change → Route
  | .added r => if r.hasOutput then .structural else .drop
  | .updated old new =>
    if sameVersion old new then (if new.hasOutput then .drift else .drop)
    else if old.hasOutput || new.hasOutput then .structural
    else .drop
  | .deleted r => if r.hasOutput then .structuralAndForget else .drop

end Change

/-- The key of the resource that controls an output, by the first reference that says so. -/
def Kube.ObjectMeta.controllerKey? (m : Kube.ObjectMeta) : Option String := do
  let ns ← m.ns
  let r ← (m.ownerReferences.getD []).find? fun r =>
    r.controller == some true && r.kind == Resource.kind
  some (Key.join ns r.name)

namespace Queues

/-- Sends the key of a change along its route. -/
def dispatch (qs : Queues) (c : Change) : Queues × Route × List Signal :=
  match c.resource.metadata.ns, c.resource.metadata.name with
  | some ns, some name =>
    let key := Key.join ns name
    let route := c.route
    let (qs, ss) := match route with
      | .structural => qs.add .structural key
      | .drift => qs.add .drift key
      | .structuralAndForget =>
        let (qs, ss) := qs.add .structural key
        (qs.forget .drift key, ss)
      | .drop => (qs, [])
    (qs, route, ss ++ [.say .debug .dispatch "Dispatched AzureKeyVaultSecret event"
      [.text "key" key, .text "route" route.name]])
  | _, _ => (qs, .drop, [.say .warn .dispatch
      "Dropping event for AzureKeyVaultSecret without namespace or name" []])

/-- A name that may be absent, in debug output. -/
def nameText (name : Option String) : String :=
  match name with
  | some s => "Some(" ++ Text.quoted s ++ ")"
  | none => "None"

/-- Sends the key of a deleted output's resource to the structural queue. -/
def dispatchDeleted (qs : Queues) (kind : String) (m : Kube.ObjectMeta) :
    Queues × Option String × List Signal :=
  match m.controllerKey? with
  | none => (qs, none, [.say .debug .dispatch
      "Deleted object has no controlling AzureKeyVaultSecret"
      [.text "kind" kind, .text "name" (nameText m.name)]])
  | some key =>
    let (qs, ss) := qs.add .structural key
    (qs, some key, .say .info .dispatch "Output object deleted, queueing structural pass"
      [.text "key" key, .text "kind" kind, .text "output" (nameText m.name)] :: ss)

end Queues

end VaultProjection

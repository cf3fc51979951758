import VaultProjection.Cluster.Error
import VaultProjection.Json.Read
import VaultProjection.Json.Write
import VaultProjection.Resource.Form
import VaultProjection.Web.Request
/-!
Calls to the API server: the request of each, and what an answer to it means. A call makes at most
one request; it makes none if an object lacks the metadata that it is addressed by, or if its
address cannot be written.
-/

namespace VaultProjection.Cluster

open Json (Raw)

/-! ## Addresses -/

/-- The word for a kind in paths. -/
def plural : Kube.Kind → String
  | .declaring => "azurekeyvaultsecrets"
  | .secret => "secrets"
  | .configMap => "configmaps"

/-- The group and version under which a kind is served. -/
def apiPath : Kube.Kind → String
  | .declaring => "/apis/" ++ Resource.apiVersion
  | .secret | .configMap => "/api/v1"

def collectionPath (kind : Kube.Kind) (ns : String) : String :=
  apiPath kind ++ "/namespaces/" ++ ns ++ "/" ++ plural kind

/-- The address of one object, with more behind it; an object needs a name. -/
def objectTarget? (o : ObjectName) (suffix : String) (query : List (String × String)) :
    Option Web.Target :=
  if o.name.isEmpty then none
  else Web.Target.read? (collectionPath o.kind o.ns ++ "/" ++ o.name ++ suffix) query

/-! ## Answers -/

namespace ErrorResponse

def read? (r : Raw) : Option ErrorResponse := do
  let fs ← r.fields? ["status", "message", "reason", "code"]
  some ⟨← Raw.required? fs "status" Raw.str?, ← Raw.defaulted? fs "message" "" Raw.str?,
    ← Raw.defaulted? fs "reason" "" Raw.str?,
    (← Raw.required? fs "code" (Raw.intWithin? 0 65535)).toNat⟩

def ofJson? (j : Json) : Option ErrorResponse := read? (.ofJson j)

/-- The failure that a response reports: its own account, or else what can be told without it. -/
def ofResponse (r : Web.Response) : ErrorResponse :=
  ((Raw.read? r.body).bind read?).getD
    ⟨Web.statusText r.status, Text.quoted r.body, "Failed to parse error data", r.status⟩

end ErrorResponse

/-- Why a request did not give what it asks for. -/
inductive Failure where
  | response (r : ErrorResponse)
  /-- There was no answer that could be understood. -/
  | connection
  deriving DecidableEq, Repr

namespace Failure

def text : Failure → String
  | .response r => r.text
  | .connection => "<client>"

def error (f : Failure) (o : ObjectName) : ClusterError :=
  match f with
  | .response r => .ofResponse o r
  | .connection => .connection

end Failure

/-- What an answer gives; a connection may break without one. -/
def understand {α : Type} (read : Raw → Option α) : Option Web.Response → Except Failure α
  | none => .error .connection
  | some r =>
    if r.isFailure then .error (.response (.ofResponse r))
    else match (Raw.read? r.body).bind read with
      | some a => .ok a
      | none => .error .connection

/-! ## Calls -/

/-- A call about an object. -/
structure Call (α : Type) where
  object : ObjectName
  /-- Nothing if the address cannot be written. -/
  request : Option Web.Request
  read : Raw → Option α

namespace Call

variable {α : Type}

def result (c : Call α) (answer : Option Web.Response) : Except ClusterError α :=
  match understand c.read answer with
  | .ok a => .ok a
  | .error f => .error (f.error c.object)

end Call

def objectJson : {k : OutputKind} → k.Object → Json
  | .secret, o => o.toJson
  | .configMap, o => o.toJson

def object? : (k : OutputKind) → Raw → Option k.Object
  | .secret, r => Kube.Secret.read? r
  | .configMap, r => Kube.ConfigMap.read? r

/-- A name in metadata, without which there is nowhere to write. -/
def named (field : String) (value : Option String) : Except ClusterError String :=
  match value with
  | some s => .ok s
  | none => .error (.missingMetadata field)

def get (k : OutputKind) (ns name : String) : Call k.Object :=
  let o : ObjectName := ⟨k.kind, ns, name⟩
  ⟨o, (objectTarget? o "" []).map fun t => ⟨.get, t, none, none, none⟩, object? k⟩

def create (k : OutputKind) (ns : String) (object : k.Object) :
    Except ClusterError (Call k.Object) := do
  let name ← named "name" (OutputKind.metadata object).name
  let target := Web.Target.read? (collectionPath k.kind ns ++ "?") []
  return ⟨⟨k.kind, ns, name⟩,
    target.map fun t => ⟨.post, t, some Web.jsonType, none, some (objectJson object)⟩, object? k⟩

def update (k : OutputKind) (ns : String) (object : k.Object) :
    Except ClusterError (Call k.Object) := do
  let name ← named "name" (OutputKind.metadata object).name
  let o : ObjectName := ⟨k.kind, ns, name⟩
  return ⟨o, (objectTarget? o "?" []).map fun t =>
    ⟨.put, t, some Web.jsonType, none, some (objectJson object)⟩, object? k⟩

def getDeclaring (ns name : String) : Call Resource :=
  let o : ObjectName := ⟨.declaring, ns, name⟩
  ⟨o, (objectTarget? o "" []).map fun t => ⟨.get, t, none, none, none⟩, Resource.read?⟩

/-- Writes the status of a resource over the version that it was read from. -/
def updateStatus (r : Resource) : Except ClusterError (Call Resource) := do
  let name ← named "name" r.metadata.name
  let ns ← named "namespace" r.metadata.ns
  let version ← named "resourceVersion" r.metadata.resourceVersion
  let o : ObjectName := ⟨.declaring, ns, name⟩
  let change := Json.ofMembers
    [("metadata", .ofMembers [("resourceVersion", .str version)]),
      ("status", .ofOption Status.toJson r.status)]
  return ⟨o, (objectTarget? o "/status?" [("fieldManager", controllerName)]).map fun t =>
    ⟨.patch, t, some Web.mergePatchType, some Web.jsonType, some change⟩, Resource.read?⟩

end VaultProjection.Cluster

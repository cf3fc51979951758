import VaultProjection.Pass.Basic
/-!
A cluster in memory, with one counter from which every stored object takes its version. Calls can be
made to fail, objects to vanish, and another writer to come first.
-/

namespace VaultProjection.Simulation

/-! ## Calls -/

/-- The calls that a pass makes to the cluster. -/
inductive Method where
  | get (kind : OutputKind)
  | create (kind : OutputKind)
  | update (kind : OutputKind)
  | getDeclaring
  | updateStatus
  deriving DecidableEq, Repr

namespace Method

def objectWord : OutputKind → String
  | .secret => "secret"
  | .configMap => "config_map"

def name : Method → String
  | .get k => "get_" ++ objectWord k
  | .create k => "create_" ++ objectWord k
  | .update k => "update_" ++ objectWord k
  | .getDeclaring => "get_declaring"
  | .updateStatus => "update_status"

def all : List Method := [.get .secret, .create .secret, .update .secret, .get .configMap,
  .create .configMap, .update .configMap, .getDeclaring, .updateStatus]

def ofName? (s : String) : Option Method := all.find? (·.name == s)

/-- The kind of the object that is called for. -/
def kind : Method → Kube.Kind
  | .get k | .create k | .update k => k.kind
  | .getDeclaring | .updateStatus => .declaring

end Method

/-- A failure without the object that it is about. -/
inductive CallFault where
  | response (r : Cluster.ErrorResponse)
  | missing (field : String)
  deriving DecidableEq, Repr

def CallFault.error (f : CallFault) (o : Cluster.ObjectName) : Cluster.ClusterError :=
  match f with
  | .response r => .ofResponse o r
  | .missing field => .missingMetadata field

/-- The next `times` calls of a method fail. -/
structure Failing where
  method : Method
  times : Nat
  fault : CallFault

/-- Another writer is faster at the next `times` writes of a status; it may write one itself. -/
structure Race where
  times : Nat
  status : Option Status

/-- An object is gone when the method is called next. -/
structure Vanishing where
  method : Method
  kind : Kube.Kind
  key : String

/-! ## State -/

structure ObjectStore where
  resources : Entries Resource
  secrets : Entries Kube.Secret
  configMaps : Entries Kube.ConfigMap
  version : Nat
  failing : List Failing
  races : List Race
  vanishing : List Vanishing

namespace ObjectStore

def empty : ObjectStore := ⟨[], [], [], 0, [], [], []⟩

def outputs (c : ObjectStore) : (k : OutputKind) → Entries k.Object
  | .secret => c.secrets
  | .configMap => c.configMaps

def setOutputs (c : ObjectStore) : (k : OutputKind) → Entries k.Object → ObjectStore
  | .secret, os => { c with secrets := os }
  | .configMap, os => { c with configMaps := os }

/-- The next version. -/
def tick (c : ObjectStore) : ObjectStore × String :=
  ({ c with version := c.version + 1 }, toString (c.version + 1))

def remove (c : ObjectStore) (kind : Kube.Kind) (key : String) : ObjectStore :=
  match kind with
  | .declaring => { c with resources := c.resources.erase key }
  | .secret => { c with secrets := c.secrets.erase key }
  | .configMap => { c with configMaps := c.configMaps.erase key }

def putResource (c : ObjectStore) (key : String) (r : Resource) : ObjectStore :=
  let (c, v) := c.tick
  let stored := { r with metadata := { r.metadata with resourceVersion := some v } }
  { c with resources := c.resources.insert key stored }

def withVersion (v : String) : {k : OutputKind} → k.Object → k.Object
  | .secret, o => { o with metadata := { o.metadata with resourceVersion := some v } }
  | .configMap, o => { o with metadata := { o.metadata with resourceVersion := some v } }

/-! ## Faults -/

/-- The objects that are gone when a method is called. -/
def applyVanishing (c : ObjectStore) (m : Method) : ObjectStore :=
  let (now, later) := c.vanishing.partition (·.method = m)
  now.foldl (fun c v => c.remove v.kind v.key) { c with vanishing := later }

/-- The failure of a call, if one is due; those of one method are used up in order. -/
def nextFault (c : ObjectStore) (m : Method) : Option CallFault × ObjectStore :=
  match c.failing.find? fun f => f.method = m ∧ 0 < f.times with
  | none => (none, c)
  | some f =>
    let rec use : List Failing → List Failing
      | [] => []
      | g :: rest =>
        if g.method = m ∧ 0 < g.times then { g with times := g.times - 1 } :: rest
        else g :: use rest
    (some f.fault, { c with failing := use c.failing })

/-- What happens at the start of every call: the failure it ends in, or the cluster it finds. -/
def begin (c : ObjectStore) (m : Method) : Option CallFault × ObjectStore :=
  (c.applyVanishing m).nextFault m

def response (code : Nat) (message : String) : Cluster.ErrorResponse :=
  ⟨"Failure", message, "", code⟩

/-! ## Answers -/

variable {k : OutputKind}

def get (c : ObjectStore) (o : Cluster.ObjectName) (k : OutputKind) (key : String) :
    Except Cluster.ClusterError k.Object :=
  match (c.outputs k).get? key with
  | some object => .ok object
  | none => .error (.ofResponse o (response 404 "not found"))

def create (c : ObjectStore) (o : Cluster.ObjectName) (key : String) (object : k.Object) :
    Except Cluster.ClusterError k.Object × ObjectStore :=
  if (c.outputs k).contains key then
    (.error (.ofResponse o (response 409 "already exists")), c)
  else
    let (c, v) := c.tick
    let object := withVersion v object
    (.ok object, c.setOutputs k ((c.outputs k).insert key object))

def update (c : ObjectStore) (o : Cluster.ObjectName) (key : String) (object : k.Object) :
    Except Cluster.ClusterError k.Object × ObjectStore :=
  if (c.outputs k).contains key then
    let (c, v) := c.tick
    let object := withVersion v object
    (.ok object, c.setOutputs k ((c.outputs k).insert key object))
  else (.error (.ofResponse o (response 404 "not found")), c)

def getDeclaring (c : ObjectStore) (o : Cluster.ObjectName) (key : String) :
    Except Cluster.ClusterError Resource :=
  match c.resources.get? key with
  | some r => .ok r
  | none => .error (.ofResponse o (response 404 "not found"))

/-- Another writer's change of a stored resource. -/
def applyRace (c : ObjectStore) (key : String) : ObjectStore :=
  match c.races with
  | [] => c
  | race :: rest =>
    let c := { c with races :=
      if race.times ≤ 1 then rest else { race with times := race.times - 1 } :: rest }
    if race.times = 0 then c
    else match c.resources.get? key with
      | none => c
      | some r =>
        c.putResource key (match race.status with
          | some s => { r with status := some s }
          | none => r)

/-- A status is stored only over the version that it was read from. Every attempt takes a version,
also one that fails. -/
def updateStatus (c : ObjectStore) (o : Cluster.ObjectName) (key : String) (r : Resource) :
    Except Cluster.ClusterError Resource × ObjectStore :=
  let (c, v) := (c.applyRace key).tick
  match c.resources.get? key with
  | none => (.error (.ofResponse o (response 404 "not found")), c)
  | some stored =>
    if stored.metadata.resourceVersion ≠ r.metadata.resourceVersion then
      (.error (.ofResponse o (response 409 "stale")), c)
    else
      let stored := { stored with
        metadata := { stored.metadata with resourceVersion := some v }, status := r.status }
      (.ok stored, { c with resources := c.resources.insert key stored })

end ObjectStore

end VaultProjection.Simulation

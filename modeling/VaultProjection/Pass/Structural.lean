import VaultProjection.Pass.Status
/-!
The structural pass: every output that a resource asks for exists and belongs to it. Outputs that
are missing are created without content of the vault; their noted content is cleared and the key
goes to the queue that fills them. Content is never touched.
-/

namespace VaultProjection.Pass

/-- Fails, with an event on the resource, unless the object belongs to it. -/
def ensureOwned (r : Resource) (owner : Kube.OwnerReference) (kind : OutputKind)
    (m : Kube.ObjectMeta) (action : String) : Pass Unit := do
  if m.isControlledBy owner then return
  let ns := m.ns.getD ""
  let name := m.name.getD ""
  tell (.say .warn .reconciler "Output object exists and is not owned by this AzureKeyVaultSecret"
    [.text "kind" kind.kind.name, .text "namespace" ns, .text "name" name,
      .text "owner" owner.name])
  tell (.count .ownershipConflicts kind.kind.name)
  record r.reference .warning Event.resourceExists action
    ("Resource " ++ name ++ " already exists and is not managed by AzureKeyVaultSecret")
  throw (.notOwned ⟨kind.kind, ns, name⟩ owner.name)

/-- The owner reference of a resource's outputs. -/
def ownerOf (r : Resource) : Pass Kube.OwnerReference :=
  match r.ownerReference? with
  | some owner => pure owner
  | none => throw (.missingMetadata "uid")

namespace Structural

/-- The metadata of a new output. -/
def outputMeta (ns name : String) (owner : Kube.OwnerReference) : Kube.ObjectMeta :=
  { Kube.ObjectMeta.empty with
    name := some name
    ns := some ns
    ownerReferences := some [owner]
    labels := some [(managedByLabel, controllerName)] }

/-- Entries without which the API server accepts no Secret of the type. -/
def placeholder? (secretType : String) : Option (Entries Bytes) :=
  if secretType = tlsSecretType then some [(tlsCertKey, []), (tlsPrivateKeyKey, [])]
  else if secretType = dockerSecretType then some [(dockerConfigKey, Bytes.ofText "\x7b\x7d")]
  else none

/-- A new output of a resource. -/
def fresh (r : Resource) (m : Kube.ObjectMeta) : (k : OutputKind) → k.Object
  | .secret => ⟨m, placeholder? r.secretType, none, none, some r.secretType⟩
  | .configMap => ⟨m, none, none, none⟩

/-- The field of a record that names an output. -/
def logField : OutputKind → String
  | .secret => "secret"
  | .configMap => "config_map"

/-- One output exists and belongs to the resource. -/
def ensure (r : Resource) (key ns : String) (owner : Kube.OwnerReference) (k : OutputKind)
    (name : String) : Pass Unit := do
  match ← ask (.get k ns name) with
  | .ok object => ensureOwned r owner k (OutputKind.metadata object) Event.reconcileOutput
  | .error e =>
    if !e.isNotFound then throw (.cluster e)
    let created ← ofCluster (← ask (.create k ns (fresh r (outputMeta ns name owner) k)))
    tell (.count .outputsCreated k.kind.name)
    tell (.say .info .outputPass ("Created output " ++ k.kind.name)
      [.text "key" key, .text (logField k) name])
    let (ns, resourceName) ← splitKey key
    let _ ← persistStatus ns resourceName (.invalidate k)
    ask (.enqueue .drift key)
    ensureOwned r owner k (OutputKind.metadata created) Event.reconcileOutput

end Structural

/-- The pass over a key. A resource that is gone or asks for nothing is left alone. -/
def structural (key : String) : Pass Unit := do
  let (ns, name) ← splitKey key
  match ← ask (.lookup ns name) with
  | none =>
    tell (.say .debug .outputPass "AzureKeyVaultSecret no longer exists, nothing to reconcile"
      [.text "key" key])
  | some r =>
    if !r.hasOutput then
      tell (.say .debug .outputPass "AzureKeyVaultSecret has no output, nothing to reconcile"
        [.text "key" key])
    else
      let owner ← ownerOf r
      if let some o := r.secretOutput? then Structural.ensure r key ns owner .secret o.name
      if let some o := r.configMapOutput? then Structural.ensure r key ns owner .configMap o.name
      record r.reference .normal Event.synced Event.reconcileOutput
        "AzureKeyVaultSecret synced successfully"

end VaultProjection.Pass

import VaultProjection.Pass.Structural
import VaultProjection.Projection.Handler
/-!
The drift pass: every output that a resource asks for holds what the vault holds. The digest of the
wanted content is compared with the content of the object and with what the status notes. The object
is rewritten only if its content differs, the status only if it notes something else.
-/

namespace VaultProjection.Pass

namespace Drift

/-- Notes a failed projection on the resource and fails. -/
def failProjection {α : Type} (r : Resource) (e : ProjectionError) : Pass α := do
  let reason := if e.isMalformed then Event.misconfigured else Event.vaultFailed
  record r.reference .warning reason Event.syncVault e.message
  throw (.projection e)

/-- Follows a recipe, with at most one read. -/
def follow {α : Type} (r : Resource) : Recipe α → Pass α
  | .given (.ok a) => pure a
  | .given (.error e) => failProjection r e
  | .read kind finish => do
    match ← ask (.readVault r.spec.vault kind) with
    | .error e => failProjection r (.vault e)
    | .ok raw =>
      match finish raw with
      | .ok a => pure a
      | .error e => failProjection r e

def updatedReason : OutputKind → String
  | .secret => Event.secretUpdated
  | .configMap => Event.configMapUpdated

def say (level : Level) (k : OutputKind) (key name text : String) (more : List Field) : Pass Unit :=
  tell (.say level .vaultPass (k.kind.name ++ text)
    ([.text "key" key, .text (Structural.logField k) name] ++ more))

/-- One output holds what the vault holds, and the status says so. -/
def sync (r : Resource) (key ns name : String) (owner : Kube.OwnerReference) (h : Handler)
    (k : OutputKind) (output : String) : Pass Unit := do
  let wanted ← follow r (h.recipe r k)
  let digest := Digest.ofPayload wanted
  match ← ask (.get k ns output) with
  | .error e =>
    if !e.isNotFound then throw (.cluster e)
    ask (.enqueue .structural key)
    throw (.outputMissing ⟨k.kind, ns, output⟩)
  | .ok object =>
    ensureOwned r owner k (OutputKind.metadata object) Event.syncVault
    let status := r.status.getD .empty
    let recorded := status.outputName k == some output && digest.matches? (status.outputHash k)
    let current := Digest.ofPayload (OutputKind.content object) == digest
    if recorded && current then
      say .debug k key output " data unchanged" []
      return
    if !current then
      let _ ← ofCluster (← ask (.update k ns (OutputKind.replaceContent object wanted)))
      tell (.count .outputsUpdated k.kind.name)
      say .info k key output " updated from Azure Key Vault" [.text "hash" digest.hex]
    let _ ← persistStatus ns name (.record k output digest)
    if current then say .debug k key output " data already current, status recorded" []
    else
      record r.reference .normal (updatedReason k) Event.syncVault
        (k.kind.name ++ " " ++ output ++ " updated from Azure Key Vault")

end Drift

/-- The pass over a key. A resource that is gone or asks for nothing is left alone. -/
def drift (key : String) : Pass Unit := do
  let (ns, name) ← splitKey key
  match ← ask (.lookup ns name) with
  | none =>
    tell (.say .debug .vaultPass "AzureKeyVaultSecret no longer exists, skipping vault sync"
      [.text "key" key])
  | some r =>
    if r.hasOutput then
      match Handler.select r with
      | .error e => Drift.failProjection r e
      | .ok h =>
        let owner ← ownerOf r
        if let some o := r.secretOutput? then Drift.sync r key ns name owner h .secret o.name
        if let some o := r.configMapOutput? then Drift.sync r key ns name owner h .configMap o.name

/-- The pass of a queue. -/
def ofQueue : QueueId → String → Pass Unit
  | .structural => structural
  | .drift => drift

end VaultProjection.Pass

import VaultProjection.Pem
import VaultProjection.Projection.Document
/-!
How each kind of vault object becomes the data of a Secret or a ConfigMap.

| Kind | Secret | ConfigMap |
|---|---|---|
| secret | by the Secret's type: one value, certificate and key, or registry access | one value |
| certificate | by the Secret's type: certificate and key, or the whole bundle | the chain |
| key | the JSON Web Key | the JSON Web Key |
| multi-key secret | one entry per member of the document | the same, as text |

What can be known without the vault is decided first: a `Recipe` either is finished, or says what to
read and what to make of it, so no recipe reads more than once.
-/

namespace VaultProjection

/-! ## Recipes -/

/-- Data that is known already, or one read and what to make of the object. -/
inductive Recipe (α : Type) where
  | given (result : Except ProjectionError α)
  | read (kind : Vault.ObjectKind) (finish : Vault.RawObject → Except ProjectionError α)

namespace Recipe

variable {α : Type}

/-- Fails without a read unless there is a key; the key stands for the one entry's name. -/
def underKey (output : OutputKind) (kind : Vault.ObjectKind) (key : Option String)
    (finish : Vault.RawObject → Except ProjectionError α) : Recipe (Entries α) :=
  match key with
  | none => .given (.error (.missingDataKey output kind))
  | some k => .read kind fun raw => (finish raw).map fun v => [(k, v)]

end Recipe

/-! ## Steps -/

/-- The text of a value that may be no text. -/
def asText (object : String) (value : Bytes) : Except ProjectionError String :=
  match value.toText? with
  | some s => .ok s
  | none => .error (.noText object)

def splitPem (text : String) : Except ProjectionError Pem.Bundle :=
  (Pem.split text).mapError fun f => .invalidPem f.message

/-- The entries of a Secret with a certificate chain and its key. -/
def tlsData (withoutKey : String) (text : String) : Except ProjectionError (Entries Bytes) := do
  let bundle ← splitPem text
  match bundle.privateKey with
  | none => .error (.invalidPem withoutKey)
  | some key => .ok [(tlsCertKey, Bytes.ofText (String.ofList bundle.chain)),
      (tlsPrivateKeyKey, Bytes.ofText (String.ofList key))]

/-! ## Handlers -/

/-- What to do for a resource: its kind of object, and the steps of a plain secret. -/
inductive Handler where
  | secret (pipeline : Pipeline)
  | certificate
  | key
  | multiKey
  deriving DecidableEq, Repr

namespace Handler

/-- The handler of a resource, found without reading the vault. -/
def select (r : Resource) : Except ProjectionError Handler :=
  match Vault.ObjectKind.ofName? r.spec.vault.object.type with
  | none => .error (.unknownObjectKind r.spec.vault.object.type)
  | some .secret =>
    match Pipeline.ofNames r.spec.output.transform with
    | .ok p => .ok (.secret p)
    | .error s => .error (.unknownTransform s)
  | some .certificate => .ok .certificate
  | some .key => .ok .key
  | some .multiKeySecret => .ok .multiKey

/-- The value of a plain secret after its steps. -/
def transformed (p : Pipeline) (raw : Vault.RawObject) : Except ProjectionError Bytes :=
  (p.apply (Bytes.ofText raw.value)).mapError fun (t, f) => .transformFailed t f.message

/-- The bundle of a certificate, unless the vault keeps it in another format than PEM. -/
def bundleText (raw : Vault.RawObject) : Except ProjectionError String :=
  match raw.contentType with
  | some ct =>
    if Text.sameIgnoringCase ct "application/x-pkcs12" then .error (.certificateFormat ct)
    else .ok raw.value
  | none => .ok raw.value

/-- The members of a document; its format is checked without a read. -/
def documentRecipe {α : Type} (r : Resource) (value : String → α) : Recipe (Entries α) :=
  match Document.format r.spec.vault.object.contentType with
  | .error ct => .given (.error (.documentFormat ct))
  | .ok format => .read .multiKeySecret fun raw =>
    match Document.entries format raw.value with
    | .ok es => .ok (es.mapValues value)
    | .error f => .error (.invalidDocument format f)

/-- The data of the Secret that a resource asks for. -/
def secretData (h : Handler) (r : Resource) : Recipe (Entries Bytes) :=
  let key := r.secretOutput?.bind (·.key?)
  let object := r.spec.vault.object.name
  match h with
  | .secret p =>
    if r.secretType = tlsSecretType then
      .read .secret fun raw => do
        tlsData "secret holds no private key" (← asText object (← transformed p raw))
    else if r.secretType = dockerSecretType then
      .read .secret fun raw => (transformed p raw).map fun v => [(dockerConfigKey, v)]
    else .underKey .secret .secret key (transformed p)
  | .certificate =>
    if r.secretType = tlsSecretType then
      .read .certificate fun raw => do
        tlsData "certificate has no exportable private key" (← bundleText raw)
    else .underKey .secret .certificate key fun raw => (bundleText raw).map Bytes.ofText
  | .key => .underKey .secret .key key fun raw => .ok (Bytes.ofText raw.value)
  | .multiKey => documentRecipe r Bytes.ofText

/-- The data of the ConfigMap that a resource asks for. -/
def configMapData (h : Handler) (r : Resource) : Recipe (Entries String) :=
  let key := r.configMapOutput?.bind (·.key?)
  match h with
  | .secret p => .underKey .configMap .secret key fun raw => do
    asText r.spec.vault.object.name (← transformed p raw)
  | .certificate => .underKey .configMap .certificate key fun raw => do
    let bundle ← splitPem (← bundleText raw)
    .ok (String.ofList bundle.chain)
  | .key => .underKey .configMap .key key fun raw => .ok raw.value
  | .multiKey => documentRecipe r id

/-- The content of an output that a resource asks for. -/
def recipe (h : Handler) (r : Resource) : (k : OutputKind) → Recipe k.Payload
  | .secret => h.secretData r
  | .configMap => h.configMapData r

end Handler

end VaultProjection

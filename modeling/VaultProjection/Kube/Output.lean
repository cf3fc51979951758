import VaultProjection.Base64
import VaultProjection.Kube.Meta
/-!
The two kinds of objects that hold projected content: Secrets with binary data and ConfigMaps with
text, and their JSON forms.
-/

namespace VaultProjection

/-- The two kinds of output. -/
inductive OutputKind where
  | secret
  | configMap
  deriving DecidableEq, Repr

namespace Kube

/-! ## Kinds -/

/-- The kinds of objects in the cluster that the controller touches. -/
inductive Kind where
  | declaring
  | secret
  | configMap
  deriving DecidableEq, Repr

def Kind.name : Kind → String
  | .declaring => "AzureKeyVaultSecret"
  | .secret => "Secret"
  | .configMap => "ConfigMap"

/-- The kind of an output's object. -/
def Kind.ofOutput : OutputKind → Kind
  | .secret => .secret
  | .configMap => .configMap

/-! ## Objects -/

structure Secret where
  metadata : ObjectMeta
  data : Option (Entries Bytes)
  immutable : Option Bool
  stringData : Option (Entries String)
  type : Option String
  deriving BEq, Repr

structure ConfigMap where
  metadata : ObjectMeta
  binaryData : Option (Entries Bytes)
  data : Option (Entries String)
  immutable : Option Bool
  deriving BEq, Repr

/-! ## JSON form -/

open Json (Raw)

/-- Binary values are written in base64. -/
def bytesMap (m : Entries Bytes) : Json := .obj (m.mapValues fun b => .str (Base64.encodeText b))

/-- A binary value; `null` stands for no bytes. -/
def bytes? (r : Raw) : Option Bytes :=
  if r.isNull then some [] else r.str?.bind Base64.decodeText?

/-- A map from names to binary values. -/
def bytesMap? : Raw → Option (Entries Bytes) := Raw.entries? bytes?

/-- The API version, if there is one, must be `v1`, and the kind, if there is one, must fit. -/
def hasKind (kind : Kind) (ms : List (String × Raw)) : Bool :=
  Raw.hasOnly ms "apiVersion" "v1" && Raw.hasOnly ms "kind" kind.name

/-- Absent metadata is empty. -/
def metadata? (ms : List (String × Raw)) : Option ObjectMeta :=
  (Raw.present? ms "metadata" ObjectMeta.read?).map (·.getD .empty)

namespace Secret

def toJson (s : Secret) : Json :=
  .ofPresent [("apiVersion", some (.str "v1")), ("kind", some (.str Kind.secret.name)),
    ("metadata", some s.metadata.toJson), ("data", s.data.map bytesMap),
    ("immutable", s.immutable.map .bool), ("stringData", s.stringData.map textMap),
    ("type", s.type.map .str)]

def read? (r : Raw) : Option Secret := do
  let ms ← r.members?
  if !hasKind .secret ms then none
  some ⟨← metadata? ms, ← Raw.present? ms "data" bytesMap?, ← Raw.present? ms "immutable" Raw.bool?,
    ← Raw.present? ms "stringData" texts?, ← Raw.present? ms "type" Raw.str?⟩

def ofJson? (j : Json) : Option Secret := read? (.ofJson j)

end Secret

namespace ConfigMap

def toJson (c : ConfigMap) : Json :=
  .ofPresent [("apiVersion", some (.str "v1")), ("kind", some (.str Kind.configMap.name)),
    ("metadata", some c.metadata.toJson), ("binaryData", c.binaryData.map bytesMap),
    ("data", c.data.map textMap), ("immutable", c.immutable.map .bool)]

def read? (r : Raw) : Option ConfigMap := do
  let ms ← r.members?
  if !hasKind .configMap ms then none
  some ⟨← metadata? ms, ← Raw.present? ms "binaryData" bytesMap?, ← Raw.present? ms "data" texts?,
    ← Raw.present? ms "immutable" Raw.bool?⟩

def ofJson? (j : Json) : Option ConfigMap := read? (.ofJson j)

end ConfigMap

end Kube

namespace OutputKind

/-- The member of a resource's spec that declares the output. -/
def member : OutputKind → String
  | .secret => "secret"
  | .configMap => "configMap"

/-- The kind of the object in the cluster. -/
def kind (k : OutputKind) : Kube.Kind := .ofOutput k

/-- The objects of a kind of output. -/
abbrev Object : OutputKind → Type
  | .secret => Kube.Secret
  | .configMap => Kube.ConfigMap

/-- The content of an output's object by data key: bytes in a Secret, text in a ConfigMap. -/
abbrev Payload : OutputKind → Type
  | .secret => Entries Bytes
  | .configMap => Entries String

/-- The entries of a payload as bytes. -/
def bytes : {k : OutputKind} → k.Payload → Entries Bytes
  | .secret, p => p
  | .configMap, p => p.mapValues Bytes.ofText

def metadata : {k : OutputKind} → k.Object → Kube.ObjectMeta
  | .secret, o => o.metadata
  | .configMap, o => o.metadata

/-- What an object holds. -/
def content : {k : OutputKind} → k.Object → k.Payload
  | .secret, o => o.data.getD []
  | .configMap, o => o.data.getD []

/-- The object with another content in the place of all that it held. -/
def replaceContent : {k : OutputKind} → k.Object → k.Payload → k.Object
  | .secret, o, p => { o with data := some p, stringData := none }
  | .configMap, o, p => { o with data := some p, binaryData := none }

@[simp] theorem metadata_replaceContent {k : OutputKind} (o : k.Object) (p : k.Payload) :
    metadata (replaceContent o p) = metadata o := by
  cases k <;> rfl

@[simp] theorem content_replaceContent {k : OutputKind} (o : k.Object) (p : k.Payload) :
    content (replaceContent o p) = p := by
  cases k <;> rfl

end OutputKind

end VaultProjection

import VaultProjection.Resource.Basic
/-!
The JSON form of declaring resources. All records but the metadata are closed: each field is named
once at most, and an array may list them in order. Writing gives one form to each resource: absent
optional fields are `null`, except that a status that is absent is left out.
-/

namespace VaultProjection

open Json.Raw

/-! ## Spec -/

namespace VaultObject

def toJson (o : VaultObject) : Json :=
  .ofMembers [("name", .str o.name), ("type", .str o.type), ("version", .ofText? o.version),
    ("contentType", .ofText? o.contentType)]

def read? (r : Json.Raw) : Option VaultObject := do
  let fs ← r.fields? ["name", "type", "version", "contentType"]
  some ⟨← required? fs "name" str?, ← required? fs "type" str?,
    ← maybe? fs "version" str?, ← maybe? fs "contentType" str?⟩

end VaultObject

namespace VaultRef

def toJson (v : VaultRef) : Json :=
  .ofMembers [("name", .str v.name), ("object", v.object.toJson)]

def read? (r : Json.Raw) : Option VaultRef := do
  let fs ← r.fields? ["name", "object"]
  some ⟨← required? fs "name" str?, ← required? fs "object" VaultObject.read?⟩

def ofJson? (j : Json) : Option VaultRef := read? (.ofJson j)

end VaultRef

namespace SecretOutput

def toJson (o : SecretOutput) : Json :=
  .ofMembers [("name", .str o.name), ("type", .ofText? o.type), ("dataKey", .ofText? o.dataKey)]

def read? (r : Json.Raw) : Option SecretOutput := do
  let fs ← r.fields? ["name", "type", "dataKey"]
  some ⟨← required? fs "name" str?, ← maybe? fs "type" str?,
    ← maybe? fs "dataKey" str?⟩

end SecretOutput

namespace ConfigMapOutput

def toJson (o : ConfigMapOutput) : Json :=
  .ofMembers [("name", .str o.name), ("dataKey", .ofText? o.dataKey)]

def read? (r : Json.Raw) : Option ConfigMapOutput := do
  let fs ← r.fields? ["name", "dataKey"]
  some ⟨← required? fs "name" str?, ← maybe? fs "dataKey" str?⟩

end ConfigMapOutput

namespace Outputs

def toJson (o : Outputs) : Json :=
  .ofMembers [("secret", .ofOption SecretOutput.toJson o.secret),
    ("configMap", .ofOption ConfigMapOutput.toJson o.configMap),
    ("transform", .arr (o.transform.map .str))]

def read? (r : Json.Raw) : Option Outputs := do
  let fs ← r.fields? ["secret", "configMap", "transform"]
  some ⟨← maybe? fs "secret" SecretOutput.read?, ← maybe? fs "configMap" ConfigMapOutput.read?,
    ← defaulted? fs "transform" [] (list? str?)⟩

end Outputs

namespace Spec

def toJson (s : Spec) : Json :=
  .ofMembers [("vault", s.vault.toJson), ("output", s.output.toJson)]

def read? (r : Json.Raw) : Option Spec := do
  let fs ← r.fields? ["vault", "output"]
  some ⟨← required? fs "vault" VaultRef.read?, ← defaulted? fs "output" .none Outputs.read?⟩

end Spec

/-! ## Status -/

namespace Status

def toJson (s : Status) : Json :=
  .ofMembers [("secretName", .ofText? s.secretName), ("secretHash", .ofText? s.secretHash),
    ("configMapName", .ofText? s.configMapName), ("configMapHash", .ofText? s.configMapHash),
    ("lastAzureUpdate", .ofText? s.lastAzureUpdate)]

def read? (r : Json.Raw) : Option Status := do
  let fs ← r.fields?
    ["secretName", "secretHash", "configMapName", "configMapHash", "lastAzureUpdate"]
  let text (name : String) := maybe? fs name str?
  some ⟨← text "secretName", ← text "secretHash", ← text "configMapName", ← text "configMapHash",
    ← text "lastAzureUpdate"⟩

def ofJson? (j : Json) : Option Status := read? (.ofJson j)

end Status

/-! ## Resource -/

namespace Resource

def toJson (r : Resource) : Json :=
  .ofPresent [("apiVersion", some (.str apiVersion)), ("kind", some (.str kind)),
    ("metadata", some r.metadata.toJson), ("spec", some r.spec.toJson),
    ("status", r.status.map Status.toJson)]

def read? (r : Json.Raw) : Option Resource := do
  let fs ← r.fields? ["metadata", "spec", "status"] 3
  some ⟨← required? fs "metadata" Kube.ObjectMeta.read?, ← required? fs "spec" Spec.read?,
    ← maybe? fs "status" Status.read?⟩

def ofJson? (j : Json) : Option Resource := read? (.ofJson j)

end Resource

end VaultProjection

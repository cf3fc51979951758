import VaultProjection.Resource.Basic
import VaultProjection.Yaml.Block
/-!
The definition of declaring resources that a cluster needs before it accepts any: names, printed
columns, and the schema of spec and status.
-/

namespace VaultProjection.Definition

open Yaml (Block)

/-! ## Schema parts -/

def lines (ls : List String) : String := String.intercalate "\n" ls

/-- A text that must be there. -/
def text (description : String) : Block :=
  .map [("description", .text description), ("type", .text "string")]

/-- A text that may be absent. -/
def optionalText (description : String) : Block :=
  .map [("description", .text description), ("nullable", .flag true), ("type", .text "string")]

def names (ns : List String) : Block := .seq (ns.map .text)

/-- A record; `extra` stands between its description and its properties. -/
def record (description : String) (extra properties : List (String × Block))
    (required : List String) : Block :=
  .map ([("description", .text description)] ++ extra ++ [("properties", .map properties)]
    ++ (if required.isEmpty then [] else [("required", names required)])
    ++ [("type", .text "object")])

def nullable : List (String × Block) := [("nullable", .flag true)]

/-! ## Schema -/

def object : Block :=
  record "Object inside the vault" [] [
    ("contentType", optionalText ("Content type of a `multi-key-value-secret`: " ++
      "`application/x-json` (default) or `application/x-yaml`")),
    ("name", text "Object name"),
    ("type", text "Object type: `secret`, `certificate`, `key` or `multi-key-value-secret`"),
    ("version", optionalText "Object version (latest when not set)")] ["name", "type"]

def vault : Block :=
  record "The Key Vault object to read" [] [
    ("name", text
      "Key Vault name (`my-vault`) or full vault URL (`https://my-vault.vault.azure.net/`)"),
    ("object", object)] ["name", "object"]

def configMap : Block :=
  record "Kubernetes ConfigMap output" nullable [
    ("dataKey", optionalText
      "Data key to store the value under (not used by `multi-key-value-secret`)"),
    ("name", text "ConfigMap name")] ["name"]

def secret : Block :=
  record "Kubernetes Secret output" nullable [
    ("dataKey", optionalText (lines ["Data key to store the value under",
      "Required unless the secret type defines its own keys " ++
        "(`kubernetes.io/tls`, `kubernetes.io/dockerconfigjson`)"])),
    ("name", text "Secret name"),
    ("type", optionalText "Secret type, `Opaque` when not set")] ["name"]

def transform : Block :=
  .map [("default", .seq []),
    ("description", .text ("Transformations applied, in order, to `secret` objects " ++
      "(`trim`, `base64encode`, `base64decode`)")),
    ("items", .map [("type", .text "string")]), ("type", .text "array")]

def output : Block :=
  .map [("default", .map [("configMap", .null), ("secret", .null), ("transform", .seq [])]),
    ("description", .text "Where to write the object; a resource without any output is ignored"),
    ("properties", .map [("configMap", configMap), ("secret", secret), ("transform", transform)]),
    ("type", .text "object")]

/-- What the schema says about a whole resource, with an example. -/
def about : String := lines ["AzureKeyVaultSecret Custom Resource Definition", "",
  "Declares that one Azure Key Vault object should be projected into a Kubernetes",
  "Secret, a ConfigMap, or both.", "", "# Example", "", "```yaml",
  "apiVersion: spv.no/v2alpha1", "kind: AzureKeyVaultSecret", "metadata:", "  name: db-password",
  "  namespace: default", "spec:", "  vault:", "    name: my-vault", "    object:",
  "      name: db-password", "      type: secret", "  output:", "    secret:",
  "      name: db-password", "      dataKey: password", "```"]

def spec : Block := record about [] [("output", output), ("vault", vault)] ["vault"]

def status : Block :=
  record "Status of the AzureKeyVaultSecret resource" nullable [
    ("configMapHash", optionalText "Content digest of the ConfigMap data last written"),
    ("configMapName", optionalText "Name of the ConfigMap last written from Key Vault"),
    ("lastAzureUpdate", optionalText
      "Last time an output was updated from Key Vault (RFC3339)"),
    ("secretHash", optionalText "Content digest of the Secret data last written"),
    ("secretName", optionalText "Name of the Secret last written from Key Vault")] []

/-! ## Definition -/

/-- A column that listings of resources show. -/
def column (name type path : String) : Block :=
  .map [("jsonPath", .text path), ("name", .text name), ("type", .text type)]

def version : Block :=
  .map [("additionalPrinterColumns", .seq [column "Vault" "string" ".spec.vault.name",
      column "Vault Object" "string" ".spec.vault.object.name",
      column "Secret Name" "string" ".status.secretName",
      column "ConfigMap Name" "string" ".status.configMapName",
      column "Last Update" "date" ".status.lastAzureUpdate"]),
    ("name", .text "v2alpha1"),
    ("schema", .map [("openAPIV3Schema", .map [
      ("description", .text
        "Auto-generated derived type for AzureKeyVaultSecretSpec via `CustomResource`"),
      ("properties", .map [("spec", spec), ("status", status)]),
      ("required", names ["spec"]), ("title", .text Resource.kind), ("type", .text "object")])]),
    ("served", .flag true), ("storage", .flag true),
    ("subresources", .map [("status", .map [])])]

def document : Block :=
  .map [("apiVersion", .text "apiextensions.k8s.io/v1"),
    ("kind", .text "CustomResourceDefinition"),
    ("metadata", .map [("name", .text "azurekeyvaultsecrets.spv.no")]),
    ("spec", .map [("group", .text "spv.no"),
      ("names", .map [("categories", .seq []), ("kind", .text Resource.kind),
        ("plural", .text "azurekeyvaultsecrets"), ("shortNames", names ["akvs"]),
        ("singular", .text "azurekeyvaultsecret")]),
      ("scope", .text "Namespaced"), ("versions", .seq [version])])]

/-- The definition as a YAML document. -/
def yaml : String := document.render

end VaultProjection.Definition

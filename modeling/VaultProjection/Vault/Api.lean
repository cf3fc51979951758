import VaultProjection.Vault.Error
import VaultProjection.Web.Address
/-!
The web API of vaults: where a vault is, and which request reads an object of it.
-/

namespace VaultProjection.Vault

/-! ## Addresses -/

/-- The address of a vault: a name that already is one stays as it is. -/
def address (vault : String) : String :=
  if "https://".toList.isPrefixOf vault.toList then vault
  else "https://" ++ vault ++ ".vault.azure.net/"

/-! ## The two parts of the API -/

inductive Api where
  | secrets
  | keys
  deriving DecidableEq, Repr

namespace Api

def ofKind : ObjectKind → Api
  | .key => .keys
  | .secret | .certificate | .multiKeySecret => .secrets

/-- The first segment of a path, and what the part is called. -/
def segment : Api → String
  | .secrets => "secrets"
  | .keys => "keys"

def word : Api → String
  | .secrets => "secret"
  | .keys => "key"

def clientName : Api → String
  | .secrets => "SecretClient"
  | .keys => "KeyClient"

/-- The version of the API. -/
def version : String := "2025-07-01"

end Api

/-- A request of a vault; all of them only read. -/
structure Call where
  host : String
  target : String
  deriving DecidableEq, Repr

/-- The place of an object's name or version in a path. -/
def Api.blank (api : Api) (field : String) : String := "\x7b" ++ api.word ++ "-" ++ field ++ "\x7d"

/-- The path of an object. The name is put into its place first, so a name may contain the place of
the version; the latest version has no name. -/
def Api.objectPath (api : Api) (name : String) (version : Option String) : String :=
  let fill (field value : String) (path : List Char) : List Char :=
    Text.replaceAll (api.blank field).toList value.toList path
  String.ofList (fill "version" (version.getD "") (fill "name" name
    (api.segment ++ "/" ++ api.blank "name" ++ "/" ++ api.blank "version").toList))

/-- The request for an object. -/
def Call.of (vault : Web.Address) (api : Api) (name : String) (version : Option String) : Call :=
  let a := vault.extend (api.objectPath name version)
  ⟨vault.hostText,
    Web.pathText a.path ++ "?" ++ Web.Query.setting a.query "api-version" Api.version⟩

end VaultProjection.Vault

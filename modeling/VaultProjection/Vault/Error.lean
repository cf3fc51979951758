import VaultProjection.Resource.Basic
/-!
What a vault holds and how reading it fails: the kinds of objects that can be projected, the value
of an object, and the two ways in which a read ends without one.
-/

namespace VaultProjection.Vault

/-! ## Kinds of objects -/

inductive ObjectKind where
  | secret
  /-- Read through the secret behind it, a PEM bundle. -/
  | certificate
  /-- Read as a JSON Web Key. -/
  | key
  /-- A secret whose value is a document of named values. -/
  | multiKeySecret
  deriving DecidableEq, Repr

namespace ObjectKind

def all : List ObjectKind := [.secret, .certificate, .key, .multiKeySecret]

def name : ObjectKind → String
  | .secret => "secret"
  | .certificate => "certificate"
  | .key => "key"
  | .multiKeySecret => "multi-key-value-secret"

/-- The kind of a name; blanks around it and the case of its letters do not matter. -/
def ofName? (s : String) : Option ObjectKind :=
  all.find? fun k => k.name == Text.lowered (Text.trimmed s)

end ObjectKind

/-! ## Reads -/

/-- An object as read: for a key, its value is the JSON Web Key. -/
structure RawObject where
  value : String
  contentType : Option String
  deriving DecidableEq, Repr

/-- The object that a failed read asked for. -/
structure Target where
  vault : String
  object : String
  kind : ObjectKind
  deriving DecidableEq, Repr

inductive ReadError where
  /-- The object or the version of it is not there. -/
  | notFound (target : Target)
  /-- Any other failure, after which the object may well be there. -/
  | transient (target : Target) (message : String)
  deriving DecidableEq, Repr

def ReadError.message : ReadError → String
  | .notFound t => t.kind.name ++ " '" ++ t.object ++ "' not found in vault '" ++ t.vault ++ "'"
  | .transient t m =>
    "failed to read " ++ t.kind.name ++ " '" ++ t.object ++ "' from vault '" ++ t.vault ++
      "': " ++ m

end VaultProjection.Vault

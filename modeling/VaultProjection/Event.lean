import VaultProjection.Kube.Meta
/-!
Events on declaring resources: what happened to their outputs, for people to read. Recording one
never changes how a pass ends.
-/

namespace VaultProjection

inductive Severity where
  | normal
  | warning
  deriving DecidableEq, Repr

def Severity.name : Severity → String
  | .normal => "Normal"
  | .warning => "Warning"

structure Event where
  object : Kube.ObjectReference
  severity : Severity
  reason : String
  /-- What was being done. -/
  action : String
  message : String
  deriving DecidableEq, Repr

namespace Event

/-! ## Reasons -/

/-- The outputs exist and belong to the resource. -/
def synced : String := "Synced"

/-- The name of an output is taken. -/
def resourceExists : String := "ErrResourceExists"

/-- The vault could not be read. -/
def vaultFailed : String := "ErrAzureVault"

/-- The resource or the content of its object cannot be processed. -/
def misconfigured : String := "ErrConfiguration"

def secretUpdated : String := "SecretUpdated"
def configMapUpdated : String := "ConfigMapUpdated"

/-! ## Actions -/

def reconcileOutput : String := "ReconcileOutput"
def syncVault : String := "SyncVault"

end Event

end VaultProjection

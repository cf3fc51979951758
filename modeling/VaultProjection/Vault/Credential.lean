import VaultProjection.Telemetry.Meter
import VaultProjection.Web.Address
/-!
How the controller proves to a vault who it is: with the token that its platform mounts as a file,
or else with the identity of the machine that it runs on. Environment variables decide which, and
whether it can be set up at all; no token is asked for yet.
-/

namespace VaultProjection.Vault

inductive Credential where
  /-- A token in a file, for a client of a tenant. -/
  | workload (tenant client file : String)
  /-- The identity that the platform gives to an app. -/
  | appService (address : String)
  /-- The identity of the machine. -/
  | machine
  deriving DecidableEq, Repr

/-- What cannot be set up. -/
inductive CredentialError where
  | workload
  | managed
  deriving DecidableEq, Repr

def CredentialError.message : CredentialError → String
  | .workload => "Failed to create WorkloadIdentityCredential"
  | .managed => "Failed to create ManagedIdentityCredential"

namespace Credential

/-- The name of the variable that says where the token is. -/
def tokenFileVariable : String := "AZURE_FEDERATED_TOKEN_FILE"

/-- Letters, digits, points and dashes. -/
def isTenant (s : String) : Bool :=
  !s.isEmpty && s.toList.all fun c => c.isAlphanum || c = '.' || c = '-'

/-- A token needs a tenant, a client and a file that can be read. -/
def workload? (canRead : String → Bool) (file : String) (tenant client : Option String) :
    Option Credential := do
  let tenant ← tenant
  let client ← client
  if isTenant tenant ∧ !client.isEmpty ∧ !file.isEmpty ∧ canRead file then
    some (.workload tenant client file)
  else none

/-- The platform shows by its environment what it is; some are not supported. -/
def managed? (environment : List (String × String)) : Option Credential :=
  let isSet (name : String) : Bool := (environment.lookup name).isSome
  match environment.lookup "IDENTITY_ENDPOINT" with
  | some address =>
    if isSet "IDENTITY_HEADER" then
      if isSet "IDENTITY_SERVER_THUMBPRINT" ∨ !Web.Address.isAddress address then none
      else some (.appService address)
    else if isSet "IMDS_ENDPOINT" then none
    else some .machine
  | none => if isSet "MSI_ENDPOINT" then none else some .machine

/-- The credential in some environment, and what is said about it. -/
def ofEnvironment (canRead : String → Bool) (environment : List (String × String)) :
    Except CredentialError Credential × List Signal :=
  match environment.lookup tokenFileVariable with
  | some file =>
    let client := environment.lookup "AZURE_CLIENT_ID"
    let said := .say .info .vaultService "Using Azure Workload Identity authentication"
      [.text "client_id" (client.getD "<default>")]
    match workload? canRead file (environment.lookup "AZURE_TENANT_ID") client with
    | some c => (.ok c, [said])
    | none => (.error .workload, [said])
  | none =>
    let said := .say .info .vaultService "No federated token found, using Managed Identity" []
    match managed? environment with
    | some c => (.ok c, [said])
    | none => (.error .managed, [said])

end Credential

end VaultProjection.Vault

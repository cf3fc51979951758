import VaultProjection.Telemetry.Meter
import VaultProjection.Text.Quoted
import VaultProjection.Vault.Answer
/-!
Reading objects of vaults over their web API. Secrets, certificates and documents are read as
secrets, keys as keys. Any vault may be read from, so a client for each is made when it is first
needed and kept.
-/

namespace VaultProjection.Vault

/-! ## The service -/

/-- The addresses of the vaults that have a client, for each part of the API. -/
structure Service where
  secretVaults : List String
  keyVaults : List String
  deriving DecidableEq, Repr

namespace Service

def new : Service := ⟨[], []⟩

def vaults (s : Service) : Api → List String
  | .secrets => s.secretVaults
  | .keys => s.keyVaults

def keep (s : Service) (address : String) : Api → Service
  | .secrets => { s with secretVaults := s.secretVaults ++ [address] }
  | .keys => { s with keyVaults := s.keyVaults ++ [address] }

def debugText (s : Service) : String :=
  "AzureKeyVaultService \x7b vaults: [" ++ String.intercalate ", " (s.secretVaults.map Text.quoted)
    ++ "], .. \x7d"

/-- The client of a vault; a new one needs an address that can be understood. -/
def client (s : Service) (api : Api) (address : String) :
    Except Failure Web.Address × Service × List Signal :=
  let known := (s.vaults api).contains address
  let said := if known then [] else [.say .debug .vaultService
    ("Creating Azure Key Vault " ++ api.clientName) [.text "vault.url" address]]
  match Web.Address.read? address with
  | some a => (.ok a, if known then s else s.keep address api, said)
  | none =>
    (.error (.plain ("Failed to create Azure Key Vault " ++ api.clientName ++ ": " ++ someCause)),
      s, said)

/-- What a read gives: the object or the failure, the requests and what was said. -/
structure Reading where
  result : Except Failure RawObject
  service : Service
  calls : List Call
  signals : List Signal

/-- Reads an object, with at most one request. -/
def get (s : Service) (answer : Call → Reply) (api : Api) (vault name : String)
    (version : Option String) : Reading :=
  match s.client api (address vault) with
  | (.error e, s, said) => ⟨.error e, s, [], said⟩
  | (.ok a, s, said) =>
    if name.isEmpty then
      ⟨.error (.plain ("parameter " ++ api.word ++ "_name cannot be empty")), s, [], said⟩
    else
      let call := Call.of a api name version
      ⟨api.result name (answer call), s, [call], said⟩

/-- The span around a read. -/
def span (target : Target) : Span :=
  ⟨.debug, .vaultService, "azure.keyvault.fetch", [.text "vault.name" target.vault,
    .text "object.name" target.object, .text "object.kind" target.kind.name]⟩

/-- Reads the object of a reference as an object of a kind. -/
def fetch (s : Service) (answer : Call → Reply) (v : VaultRef) (kind : ObjectKind) :
    Except ReadError RawObject × Service × List Call × List Signal :=
  let target : Target := ⟨v.name, v.object.name, kind⟩
  let r := s.get answer (.ofKind kind) v.name v.object.name (nonempty? v.object.version)
  let said := r.signals.map (·.within (span target))
  match r.result with
  | .ok raw => (.ok raw, r.service, r.calls, said ++
      [.count .vaultFetches kind.name, .observe .vaultFetchDuration kind.name .zero])
  | .error f =>
    (.error (.ofFailure target f), r.service, r.calls, said ++ [.count .vaultFetchErrors kind.name])

end Service

end VaultProjection.Vault

import VaultProjection.Backoff
import VaultProjection.Text.Basic
/-!
Settings of the controller and how environment variables set them. A variable that cannot be read
as its setting is treated as if it were not set.
-/

namespace VaultProjection

structure Config where
  /-- The namespace to watch, all of them if it is absent. -/
  watchNamespace : Option String
  resyncPeriodSecs : Nat
  structuralWorkers : Nat
  vaultWorkers : Nat
  /-- How often a failing key comes back before it is dropped. -/
  maxRetries : Nat
  backoffBaseMs : Nat
  backoffMaxSecs : Nat
  metricsPort : Nat
  logLevel : String
  logFormat : String
  deriving DecidableEq, Repr

namespace Config

def default : Config := ⟨none, 30, 1, 1, 5, 5, 1000, 5000, "INFO", "json"⟩

/-! ## Derived settings -/

/-- At least one second. -/
def resyncPeriod (c : Config) : Duration := .ofSeconds (Nat.max c.resyncPeriodSecs 1)

def backoffBase (c : Config) : Duration := .ofMillis c.backoffBaseMs
def backoffMax (c : Config) : Duration := .ofSeconds c.backoffMaxSecs

def backoff (c : Config) : Backoff := ⟨c.backoffBase, c.backoffMax⟩

/-! ## Reading settings -/

/-- Decimal digits, with or without a plus sign, of a number that fits in `bits`. -/
def number? (bits : Nat) (s : String) : Option Nat :=
  let ds := match s.toList with
    | '+' :: ds => ds
    | ds => ds
  if ds.isEmpty ∨ !ds.all Char.isDigit then none
  else
    let n := ds.foldl (fun n c => n * 10 + (c.toNat - 48)) 0
    if n < Nat.pow 2 bits then some n else none

/-- The variables that count. -/
def variableNames : List String :=
  ["WATCH_NAMESPACE", "RESYNC_PERIOD_SECS", "STRUCTURAL_WORKERS", "VAULT_WORKERS", "MAX_RETRIES",
    "BACKOFF_BASE_MS", "BACKOFF_MAX_SECS", "METRICS_PORT", "LOG_LEVEL", "LOG_FORMAT"]

/-- The settings in an environment. -/
def ofEnvironment (environment : List (String × String)) : Config :=
  let number (name : String) (bits fallback : Nat) : Nat :=
    ((environment.lookup name).bind (number? bits)).getD fallback
  { watchNamespace := (environment.lookup "WATCH_NAMESPACE").filter (!Text.isAllBlank ·)
    resyncPeriodSecs := number "RESYNC_PERIOD_SECS" 64 default.resyncPeriodSecs
    structuralWorkers := number "STRUCTURAL_WORKERS" 64 default.structuralWorkers
    vaultWorkers := number "VAULT_WORKERS" 64 default.vaultWorkers
    maxRetries := number "MAX_RETRIES" 32 default.maxRetries
    backoffBaseMs := number "BACKOFF_BASE_MS" 64 default.backoffBaseMs
    backoffMaxSecs := number "BACKOFF_MAX_SECS" 64 default.backoffMaxSecs
    metricsPort := number "METRICS_PORT" 16 default.metricsPort
    logLevel := (environment.lookup "LOG_LEVEL").getD default.logLevel
    logFormat := (environment.lookup "LOG_FORMAT").getD default.logFormat }

end Config

end VaultProjection

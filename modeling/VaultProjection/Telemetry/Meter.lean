import VaultProjection.Decimal.Double
import VaultProjection.Entries
import VaultProjection.Telemetry.Log
/-!
The meters of the controller, the signals that passes and queues emit, and the registry that adds
the signals up.
-/

namespace VaultProjection

/-! ## Meters -/

inductive Meter where
  | reconciliations
  | reconciliationErrors
  | reconciliationDuration
  | requeues
  | droppedKeys
  | queueDepth
  | outputsCreated
  | outputsUpdated
  | ownershipConflicts
  | vaultFetches
  | vaultFetchErrors
  | vaultFetchDuration
  | statusConflicts
  | watchErrors
  deriving DecidableEq, Repr

/-- How a meter counts. A histogram has the upper bounds of its buckets. -/
inductive MeterKind where
  | counter
  | gauge
  | histogram (bounds : List Double)

namespace Meter

def all : List Meter := [.reconciliations, .reconciliationErrors, .reconciliationDuration,
  .requeues, .droppedKeys, .queueDepth, .outputsCreated, .outputsUpdated, .ownershipConflicts,
  .vaultFetches, .vaultFetchErrors, .vaultFetchDuration, .statusConflicts, .watchErrors]

/-- What every exported name starts with. -/
def namespacePart : String := "keyvault_controller_"

def shortName : Meter → String
  | .reconciliations => "reconciliations_total"
  | .reconciliationErrors => "reconciliation_errors_total"
  | .reconciliationDuration => "reconciliation_duration_seconds"
  | .requeues => "requeues_total"
  | .droppedKeys => "dropped_keys_total"
  | .queueDepth => "queue_depth"
  | .outputsCreated => "outputs_created_total"
  | .outputsUpdated => "outputs_updated_total"
  | .ownershipConflicts => "ownership_conflicts_total"
  | .vaultFetches => "vault_fetches_total"
  | .vaultFetchErrors => "vault_fetch_errors_total"
  | .vaultFetchDuration => "vault_fetch_duration_seconds"
  | .statusConflicts => "status_conflicts_total"
  | .watchErrors => "watch_errors_total"

def name (m : Meter) : String := namespacePart ++ m.shortName

def help : Meter → String
  | .reconciliations => "Total number of reconciliation passes by queue"
  | .reconciliationErrors => "Total number of failed reconciliation passes by queue"
  | .reconciliationDuration => "Duration of reconciliation passes in seconds by queue"
  | .requeues => "Total number of rate-limited requeues by queue"
  | .droppedKeys => "Total number of keys dropped after exhausting their retries, by queue"
  | .queueDepth => "Current number of keys waiting in each queue"
  | .outputsCreated => "Total number of output objects created by kind"
  | .outputsUpdated => "Total number of output objects updated from Key Vault by kind"
  | .ownershipConflicts =>
    "Total number of output objects found owned by another resource, by kind"
  | .vaultFetches => "Total number of Key Vault reads by object type"
  | .vaultFetchErrors => "Total number of failed Key Vault reads by object type"
  | .vaultFetchDuration => "Duration of Key Vault reads in seconds by object type"
  | .statusConflicts =>
    "Total number of status writes retried after a resource version conflict"
  | .watchErrors => "Total number of errors surfaced by the AzureKeyVaultSecret watch stream"

/-- The label that tells the series of a meter apart; none when it has a single series. -/
def label? : Meter → Option String
  | .reconciliations | .reconciliationErrors | .reconciliationDuration | .requeues
  | .droppedKeys | .queueDepth => some "queue"
  | .outputsCreated | .outputsUpdated | .ownershipConflicts => some "kind"
  | .vaultFetches | .vaultFetchErrors | .vaultFetchDuration => some "object_type"
  | .statusConflicts | .watchErrors => none

def kind : Meter → MeterKind
  | .queueDepth => .gauge
  | .reconciliationDuration => .histogram
    [.ofDecimal false 1 (-2), .ofDecimal false 5 (-2), .ofDecimal false 1 (-1),
      .ofDecimal false 5 (-1), .ofNat 1, .ofNat 2, .ofNat 5, .ofNat 10, .ofNat 30]
  | .vaultFetchDuration => .histogram
    [.ofDecimal false 5 (-2), .ofDecimal false 1 (-1), .ofDecimal false 5 (-1), .ofNat 1,
      .ofNat 2, .ofNat 5, .ofNat 10]
  | _ => .counter

end Meter

/-! ## Signals -/

/-- What the parts of the controller report while they work. -/
inductive Signal where
  | log (record : LogRecord)
  /-- A counter goes up by one. -/
  | count (meter : Meter) (label : String)
  /-- A gauge takes a value. -/
  | level (meter : Meter) (label : String) (value : Nat)
  /-- A histogram sees a number of seconds. -/
  | observe (meter : Meter) (label : String) (seconds : Double)
  deriving BEq, Repr

namespace Signal

def say (level : Level) (part : Part) (message : String) (fields : List Field) : Signal :=
  .log ⟨level, part, message, fields, []⟩

/-- Puts the record of a signal into a span. -/
def within (span : Span) : Signal → Signal
  | .log r => .log { r with spans := r.spans ++ [span] }
  | s => s

def record? : Signal → Option LogRecord
  | .log r => some r
  | _ => none

end Signal

/-! ## The registry -/

/-- What a series has seen: a count or the value of a gauge, and for a histogram the sum and how
many values lie within each bound. -/
structure Series where
  count : Nat
  sum : Double
  within : List Nat
  deriving DecidableEq, Repr

namespace Series

def empty : Series := ⟨0, .zero, []⟩

/-- Adds an observation to the sum, the count and every bucket that holds it. -/
def observe (s : Series) (bounds : List Double) (x : Double) : Series :=
  let old := if s.within.isEmpty then bounds.map fun _ => 0 else s.within
  ⟨s.count + 1, s.sum.add x, (bounds.zip old).map fun (b, n) => if x.le b then n + 1 else n⟩

end Series

/-- All series by meter and label. -/
abbrev Registry := List (Meter × Entries Series)

namespace Registry

def empty : Registry := Meter.all.map (·, [])

def series (r : Registry) (m : Meter) : Entries Series := (r.lookup m).getD []

def update (r : Registry) (m : Meter) (label : String) (f : Series → Series) : Registry :=
  r.map fun (m', es) =>
    if m' = m then (m', es.insert label (f ((es.get? label).getD .empty))) else (m', es)

/-- Gauges hold 64 bits with a sign. -/
def maxLevel : Nat := Nat.pow 2 63 - 1

def apply (r : Registry) : Signal → Registry
  | .log _ => r
  | .count m l => r.update m l fun s => { s with count := s.count + 1 }
  | .level m l v => r.update m l fun s => { s with count := Nat.min v maxLevel }
  | .observe m l x => r.update m l fun s =>
    match m.kind with
    | .histogram bounds => s.observe bounds x
    | _ => s

def ofSignals (signals : List Signal) : Registry := signals.foldl apply empty

end Registry

end VaultProjection

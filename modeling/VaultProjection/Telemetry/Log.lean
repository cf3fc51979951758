import VaultProjection.Json.Basic
/-!
Log records: a level, the part of the controller that speaks, a message with named fields, and the
spans that were open around it.
-/

namespace VaultProjection

/-- Severity of a record; `error` is the most severe. -/
inductive Level where
  | error
  | warn
  | info
  | debug
  | trace
  deriving DecidableEq, Repr

namespace Level

def all : List Level := [.error, .warn, .info, .debug, .trace]

def name : Level → String
  | .error => "ERROR"
  | .warn => "WARN"
  | .info => "INFO"
  | .debug => "DEBUG"
  | .trace => "TRACE"

/-- One for the most severe, five for the least. -/
def verbosity : Level → Nat
  | .error => 1
  | .warn => 2
  | .info => 3
  | .debug => 4
  | .trace => 5

end Level

/-- The part of the controller that a record comes from. -/
inductive Part where
  | queue
  | dispatch
  | status
  | reconciler
  | outputPass
  | vaultPass
  | events
  | server
  | vaultService
  | retry
  | workers
  | watch
  | startup
  | runtime
  deriving DecidableEq, Repr

namespace Part

/-- The name under which all parts report. -/
def root : String := "keyvault_secret_controller"

/-- The target of the part's records, by which filters select them. -/
def target (p : Part) : String :=
  root ++ "::" ++ match p with
  | .queue => "controller::queue"
  | .dispatch => "controller::dispatch"
  | .status => "controller::status"
  | .reconciler => "controller::reconciler"
  | .outputPass => "controller::reconciler::output"
  | .vaultPass => "controller::reconciler::vault"
  | .events => "controller::events"
  | .server => "controller::server"
  | .vaultService => "provider::azure::key_vault"
  | .retry => "runtime::error_policy"
  | .workers => "runtime::workers"
  | .watch => "runtime::watch_loop"
  | .startup => "runtime::initialization"
  | .runtime => "runtime"

end Part

/-- A named field of a record or span. -/
abbrev Field := String × Json

namespace Field

def text (name value : String) : Field := (name, .str value)
def number (name : String) (n : Nat) : Field := (name, .int n)

end Field

/-- A stretch of work that records belong to. -/
structure Span where
  level : Level
  part : Part
  name : String
  fields : List Field
  deriving BEq, Repr

structure LogRecord where
  level : Level
  part : Part
  message : String
  fields : List Field
  /-- The open spans, the innermost first. -/
  spans : List Span
  deriving BEq, Repr

end VaultProjection

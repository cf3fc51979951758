import VaultProjection.Server
import VaultProjection.Telemetry.Filter
/-!
Setting up a process: where log records go, and the health and metrics server. Both are possible
once only.
-/

namespace VaultProjection

inductive LogFormat where
  | json
  | text
  deriving DecidableEq, Repr

/-- Any word but `text` stands for JSON. -/
def LogFormat.ofName (s : String) : LogFormat :=
  if Text.sameIgnoringCase s "text" then .text else .json

/-- The log of a process. -/
structure LogOutput where
  filter : LogFilter
  format : LogFormat
  deriving DecidableEq, Repr

/-- What has been set up. -/
structure Startup where
  output : Option LogOutput
  server : Server.State

namespace Startup

def new : Startup := ⟨none, .initial⟩

/-- The log that the settings ask for; a filter that is given counts more than the log level. -/
def logOutput (given : Option String) (c : Config) : LogOutput :=
  ⟨.ofSettings given c.logLevel, .ofName c.logFormat⟩

/-- Lets records be written, if they are not already. -/
def installLog (s : Startup) (given : Option String) (c : Config) : Except String Startup :=
  match s.output with
  | some _ => .error ("Failed to install tracing subscriber: "
      ++ "a global default trace dispatcher has already been set")
  | none => .ok { s with output := some (logOutput given c) }

/-- What a server says that has got its port. -/
def listening (port : Nat) : Signal :=
  .say .info .server ("HTTP server listening on 0.0.0.0:" ++ toString port) []

/-- Registers the meters and starts the server. -/
def observe (s : Startup) (c : Config) : Except String Startup × List Signal :=
  match Server.register s.server with
  | .error _ => (.error "Failed to register metrics", [])
  | .ok server =>
    (.ok { s with server := { server with ready := false } },
      [.say .info .startup "Metrics and health server started" [.number "port" c.metricsPort],
        listening c.metricsPort])

/-- The records that are written, as they are written. -/
def written (s : Startup) (signals : List Signal) : List LogRecord :=
  match s.output with
  | none => []
  | some o => (signals.filterMap Signal.record?).filterMap o.filter.apply

end Startup

end VaultProjection

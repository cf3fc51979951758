import VaultProjection.Config.Basic
/-!
Flags of the command line. Each sets one setting, over what the environment says, and may be given
once. A value follows its flag as an argument of its own or behind an equals sign; one of its own
must not start with a dash, except for a lone dash.
-/

namespace VaultProjection

/-- The flags that take a value. -/
inductive Flag where
  | watchNamespace
  | structuralWorkers
  | vaultWorkers
  | resyncPeriodSecs
  | metricsPort
  deriving DecidableEq, Repr

namespace Flag

def all : List Flag :=
  [.watchNamespace, .structuralWorkers, .vaultWorkers, .resyncPeriodSecs, .metricsPort]

def name : Flag → String
  | .watchNamespace => "namespace"
  | .structuralWorkers => "structural-workers"
  | .vaultWorkers => "vault-workers"
  | .resyncPeriodSecs => "resync-period-secs"
  | .metricsPort => "metrics-port"

def ofName? (s : String) : Option Flag := all.find? (·.name == s)

/-- The help line of the flag. -/
def help : Flag → String
  | .watchNamespace => "Only watch AzureKeyVaultSecret resources in this namespace"
  | .structuralWorkers => "Workers draining the structural queue"
  | .vaultWorkers => "Workers draining the vault-drift queue"
  | .resyncPeriodSecs => "Seconds between Key Vault re-checks of every resource"
  | .metricsPort => "Port for /metrics, /healthz and /readyz"

end Flag

/-- Why a command line is not run. -/
inductive FlagError where
  | unknownArgument
  /-- A flag has no value. -/
  | missingValue
  | badValue
  /-- A flag is given twice. -/
  | repeated
  /-- A value for what takes none. -/
  | unneededValue
  | help
  | version
  deriving DecidableEq, Repr

/-- Asking for help or the version is no failure. -/
def FlagError.exitCode : FlagError → Nat
  | .help | .version => 0
  | _ => 2

def FlagError.message : FlagError → String
  | .unknownArgument => "unexpected argument"
  | .missingValue => "a flag needs a value"
  | .badValue => "a value does not fit its flag"
  | .repeated => "a flag cannot be used more than once"
  | .unneededValue => "a flag takes no value"
  | .help => "help"
  | .version => "version"

/-! ## Values -/

namespace Flag

/-- A port may also be written as a negative zero. -/
def port? (s : String) : Option Nat :=
  match s.toList with
  | '-' :: ds => if !ds.isEmpty ∧ ds.all (· = '0') then some 0 else none
  | _ => Config.number? 16 s

/-- The setting of a flag, if the value fits. A blank namespace changes nothing. -/
def set? (f : Flag) (value : String) : Option (Config → Config) :=
  match f with
  | .watchNamespace =>
    some fun c => if Text.isAllBlank value then c else { c with watchNamespace := some value }
  | .structuralWorkers => (Config.number? 64 value).map fun n c => { c with structuralWorkers := n }
  | .vaultWorkers => (Config.number? 64 value).map fun n c => { c with vaultWorkers := n }
  | .resyncPeriodSecs => (Config.number? 64 value).map fun n c => { c with resyncPeriodSecs := n }
  | .metricsPort => (port? value).map fun n c => { c with metricsPort := n }

end Flag

/-! ## Reading -/

/-- A reader of arguments: the flags that have their value, and one that may still wait for it. A
value behind a flag is looked at only when something else comes. -/
structure FlagReader where
  given : List Flag
  settings : List (Config → Config)
  pending : Option (Flag × Option String)

namespace FlagReader

def start : FlagReader := ⟨[], [], none⟩

/-- Takes the value of a flag. -/
def take (r : FlagReader) (f : Flag) (value : String) : Except FlagError FlagReader :=
  if r.given.contains f then .error .repeated
  else match f.set? value with
    | some s => .ok ⟨f :: r.given, r.settings ++ [s], none⟩
    | none => .error .badValue

/-- Looks at the value that waits. -/
def resolve (r : FlagReader) : Except FlagError FlagReader :=
  match r.pending with
  | none => .ok r
  | some (_, none) => .error .missingValue
  | some (f, some v) => r.take f v

/-- An argument with two dashes in front. -/
def long (r : FlagReader) (text : String) : Except FlagError FlagReader :=
  let (name, value?) := match Text.cut? '=' text.toList with
    | some (n, v) => (String.ofList n, some (String.ofList v))
    | none => (text, none)
  match Flag.ofName? name, value? with
  | some f, some v => do (← r.resolve).take f v
  | some f, none => do
    let r ← r.resolve
    .ok { r with pending := some (f, none) }
  | none, none =>
    if name = "help" then do
      let _ ← r.resolve
      .error .help
    else if name = "version" then do
      let _ ← r.resolve
      .error .version
    else .error .unknownArgument
  | none, some _ =>
    .error (if name = "help" ∨ name = "version" then .unneededValue else .unknownArgument)

/-- An argument with one dash in front; its first letter decides. -/
def short (r : FlagReader) (letter : Char) : Except FlagError FlagReader :=
  if letter = 'h' then do
    let _ ← r.resolve
    .error .help
  else if letter = 'V' then do
    let _ ← r.resolve
    .error .version
  else .error .unknownArgument

/-- One argument that is not behind a lone pair of dashes. -/
def step (r : FlagReader) (arg : String) : Except FlagError FlagReader :=
  match arg.toList with
  | '-' :: '-' :: text => r.long (String.ofList text)
  | '-' :: letter :: _ => r.short letter
  | _ =>
    match r.pending with
    | some (f, none) => .ok { r with pending := some (f, some arg) }
    | _ => .error .unknownArgument

/-- All arguments; nothing may stand behind a lone pair of dashes. -/
def readAll (r : FlagReader) : List String → Except FlagError FlagReader
  | [] => r.resolve
  | "--" :: rest => if rest.isEmpty then r.resolve else .error .unknownArgument
  | arg :: rest => do (← r.step arg).readAll rest

end FlagReader

/-- What the arguments change in the settings. -/
def Config.applyFlags (c : Config) (args : List String) : Except FlagError Config := do
  let r ← FlagReader.start.readAll args
  .ok (r.settings.foldl (fun c s => s c) c)

end VaultProjection

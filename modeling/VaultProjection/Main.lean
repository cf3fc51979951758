import VaultProjection.Config.Flags
import VaultProjection.Json.Write
import VaultProjection.Resource.Definition
/-!
The command line. With `definition` it prints the definition of the declaring resource; otherwise it
reads the settings from the environment and the flags and prints them.
-/

namespace VaultProjection.Main

/-- The word that asks for the definition. -/
def definitionWord : String := "definition"

def usage : String :=
  let line (f : Flag) := "  --" ++ f.name ++ " <value>  " ++ f.help ++ "\n"
  "Projects objects of vaults into Secrets and ConfigMaps\n\n"
    ++ String.join (Flag.all.map line)
    ++ "  " ++ definitionWord ++ "  Print the definition of the declaring resource\n"

/-- The settings as one line. -/
def settingsText (c : Config) : String :=
  (Json.ofMembers [("watchNamespace", .ofText? c.watchNamespace),
    ("resyncPeriodSecs", .int c.resyncPeriodSecs), ("structuralWorkers", .int c.structuralWorkers),
    ("vaultWorkers", .int c.vaultWorkers), ("maxRetries", .int c.maxRetries),
    ("backoffBaseMs", .int c.backoffBaseMs), ("backoffMaxSecs", .int c.backoffMaxSecs),
    ("metricsPort", .int c.metricsPort), ("logLevel", .str c.logLevel),
    ("logFormat", .str c.logFormat)]).compact

/-- What is printed for some arguments, whether it is a complaint, and the exit code. -/
def reply (environment : List (String × String)) (args : List String) : String × Bool × Nat :=
  if args = [definitionWord] then (Definition.yaml, false, 0)
  else match (Config.ofEnvironment environment).applyFlags args with
    | .ok c => (settingsText c ++ "\n", false, 0)
    | .error .help => (usage, false, 0)
    | .error .version => ("0.1.0\n", false, 0)
    | .error e => ("error: " ++ e.message ++ "\n\n" ++ usage, true, e.exitCode)

end VaultProjection.Main

open VaultProjection in
def main (args : List String) : IO UInt32 := do
  let environment ← Config.variableNames.filterMapM fun name => do
    return (← IO.getEnv name).map (name, ·)
  let (text, isComplaint, code) := VaultProjection.Main.reply environment args
  if isComplaint then (← IO.getStderr).putStr text else (← IO.getStdout).putStr text
  return code.toUInt32

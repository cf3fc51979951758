import VaultProjection.Pass.Basic
/-!
Writing a change of a resource's status. Each attempt reads the resource afresh, changes the fields
of its own group and writes the result with the version that it read, so another writer's change is
never lost: its write wins, and the next attempt starts from it.
-/

namespace VaultProjection.Pass

/-- How a write of a status ended. -/
inductive StatusOutcome where
  | written
  /-- The status already said so. -/
  | unchanged
  /-- The resource is no longer there. -/
  | gone
  deriving DecidableEq, Repr

/-- Attempts before a conflict is an error. -/
def statusAttempts : Nat := 5

/-- How one attempt ended. -/
inductive Attempt where
  | finished (result : Except Cluster.ClusterError StatusOutcome)
  /-- Another writer was faster. -/
  | lost (error : Cluster.ClusterError)

/-- Reads, changes and writes once. -/
def attempt (ns name : String) (u : StatusUpdate) : Program Attempt := do
  match ← Program.question (.getDeclaring ns name) with
  | .error e => return .finished (if e.isNotFound then .ok .gone else .error e)
  | .ok fresh =>
    let current := fresh.status.getD .empty
    let desired := u.apply current (← Program.question .now)
    if current.sameGroups desired then return .finished (.ok .unchanged)
    match ← Program.question (.updateStatus { fresh with status := some desired }) with
    | .ok _ =>
      Program.question (.tell (.say .debug .status "Status updated"
        [.text "namespace" ns, .text "name" name, .text "update" u.debugText]))
      return .finished (.ok .written)
    | .error e =>
      if e.isNotFound then return .finished (.ok .gone)
      if !e.isConflict then return .finished (.error e)
      Program.question (.tell (.count .statusConflicts ""))
      return .lost e

/-- The attempts from number `n` on, with `more` to come after it. -/
def persistFrom (ns name : String) (u : StatusUpdate) (n : Nat) :
    (more : Nat) → Program (Except Cluster.ClusterError StatusOutcome)
  | 0 => do
    match ← attempt ns name u with
    | .finished r => return r
    | .lost e => return .error e
  | more + 1 => do
    match ← attempt ns name u with
    | .finished r => return r
    | .lost _ =>
      Program.question (.tell (.say .warn .status
        "Status update conflicted, retrying with a fresh copy"
        [.text "namespace" ns, .text "name" name, .number "attempt" n]))
      persistFrom ns name u (n + 1) more

def persist (ns name : String) (u : StatusUpdate) :
    Program (Except Cluster.ClusterError StatusOutcome) :=
  persistFrom ns name u 1 (statusAttempts - 1)

/-- The same as a step of a pass. -/
def persistStatus (ns name : String) (u : StatusUpdate) : Pass StatusOutcome := do
  ofCluster (← ExceptT.lift (persist ns name u))

end VaultProjection.Pass

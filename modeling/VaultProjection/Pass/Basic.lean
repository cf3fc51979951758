import VaultProjection.Event
import VaultProjection.Pass.Error
import VaultProjection.Resource.Form
import VaultProjection.Status.Update
import VaultProjection.Telemetry.Meter
/-!
Passes over a key as programs. A pass asks its surroundings one question at a time: the watch cache,
the cluster, the vault, the recorder, the queues and the clock. Each answer may depend on all that
happened before, on other writers and on failures; `run` puts any such surroundings in.
-/

namespace VaultProjection

/-! ## Questions -/

/-- The two queues: one for the existence of outputs, one for their content. -/
inductive QueueId where
  | structural
  | drift
  deriving DecidableEq, Repr

def QueueId.name : QueueId → String
  | .structural => "structural"
  | .drift => "vault-drift"

/-- What a pass asks or says. -/
inductive Request where
  /-- The copy of a resource in the watch cache. -/
  | lookup (ns name : String)
  | get (kind : OutputKind) (ns name : String)
  | create (kind : OutputKind) (ns : String) (object : kind.Object)
  | update (kind : OutputKind) (ns : String) (object : kind.Object)
  /-- A fresh copy of a resource from the API server. -/
  | getDeclaring (ns name : String)
  /-- Writes the status of a resource, if its version is still the stored one. -/
  | updateStatus (resource : Resource)
  | readVault (vault : VaultRef) (kind : Vault.ObjectKind)
  | record (event : Event)
  | enqueue (queue : QueueId) (key : String)
  /-- The time of day, as a status notes it. -/
  | now
  | tell (signal : Signal)

/-- What answers a question. -/
def Request.Answer : Request → Type
  | .lookup .. => Option Resource
  | .get k .. | .create k .. | .update k .. => Except Cluster.ClusterError k.Object
  | .getDeclaring .. | .updateStatus _ => Except Cluster.ClusterError Resource
  | .readVault .. => Except Vault.ReadError Vault.RawObject
  | .now => String
  | .record _ | .enqueue .. | .tell _ => Unit

/-! ## Programs -/

/-- A program that ends with a result or goes on after an answer. -/
inductive Program (α : Type) where
  | done (result : α)
  | ask (request : Request) (next : request.Answer → Program α)

namespace Program

variable {α β σ : Type}

def bind : Program α → (α → Program β) → Program β
  | .done a, f => f a
  | .ask r next, f => .ask r fun answer => (next answer).bind f

instance : Monad Program where
  pure := .done
  bind := bind

/-- One question. -/
def question (r : Request) : Program r.Answer := .ask r .done

/-- Runs a program in surroundings that answer each question and change with it. -/
def run (serve : (r : Request) → σ → r.Answer × σ) : Program α → σ → α × σ
  | .done a, s => (a, s)
  | .ask r next, s =>
    let (answer, s) := serve r s
    (next answer).run serve s

@[simp] theorem pure_bind (a : α) (f : α → Program β) : (Program.done a).bind f = f a := rfl

theorem run_bind (serve : (r : Request) → σ → r.Answer × σ) (p : Program α) (f : α → Program β)
    (s : σ) : (p.bind f).run serve s = (f (p.run serve s).1).run serve (p.run serve s).2 := by
  induction p generalizing s with
  | done a => rfl
  | ask r next ih => exact ih _ _

end Program

/-- A program that may fail. -/
abbrev Pass := ExceptT PassError Program

namespace Pass

variable {α : Type}

/-- A question in a pass. -/
def ask (r : Request) : Pass r.Answer := ExceptT.lift (.question r)

def tell (s : Signal) : Pass Unit := ask (.tell s)

def record (object : Kube.ObjectReference) (severity : Severity) (reason action message : String) :
    Pass Unit :=
  ask (.record ⟨object, severity, reason, action, message⟩)

/-- The value of an answer, or the failure of the pass. -/
def ofCluster : Except Cluster.ClusterError α → Pass α
  | .ok a => pure a
  | .error e => throw (.cluster e)

/-- The namespace and name of a key. -/
def splitKey (key : String) : Pass (String × String) :=
  match Key.split? key with
  | some parts => pure parts
  | none => throw (.invalidKey key)

end Pass

end VaultProjection

import VaultProjection.Pass.Drift
import VaultProjection.Retry
import VaultProjection.Simulation.ObjectStore
import VaultProjection.Watch.Cache
/-!
A bench on which passes, queues and workers run against a cluster in memory, a vault with a fixed
answer, and a clock that stands still unless it is moved.

Tasks run one at a time. A task that is called goes to the end of the row of those that are ready;
when the row is empty, the delayed adds whose time has come fire, and so on until nothing is left.
-/

namespace VaultProjection.Simulation

/-! ## The vault -/

/-- What the vault answers. -/
inductive VaultAnswer where
  | object (raw : Vault.RawObject)
  | notFound
  | transient (message : String)
  /-- Each object has an answer of its own; the others are not there. -/
  | byObject (answers : List (String × VaultAnswer))

namespace VaultAnswer

/-- The answer to one read. -/
def read (a : VaultAnswer) (target : Vault.Target) : Except Vault.ReadError Vault.RawObject :=
  let direct : VaultAnswer → Except Vault.ReadError Vault.RawObject
    | .object raw => .ok raw
    | .notFound | .byObject _ => .error (.notFound target)
    | .transient m => .error (.transient target m)
  match a with
  | .byObject answers => direct ((answers.lookup target.object).getD .notFound)
  | a => direct a

end VaultAnswer

/-- A read, as the list of calls shows it. -/
def readText (v : VaultRef) (kind : Vault.ObjectKind) : String :=
  "fetch " ++ kind.name ++ " " ++ v.name ++ "/" ++ v.object.name ++ "@"
    ++ v.object.version.getD "latest"

/-! ## Tasks -/

inductive Job where
  /-- Waits for one key. -/
  | fetcher (label : Nat)
  /-- Handles keys until the queue stops. -/
  | worker (maxRetries : Nat)

structure Task where
  number : Nat
  queue : QueueId
  job : Job

/-- The span of a worker's pass. -/
def passSpan (queue key : String) : Span :=
  ⟨.info, .workers, "controller.sync", [.text "queue" queue, .text "key" key]⟩

/-! ## The bench -/

structure Bench where
  cluster : ObjectStore
  /-- What the watch cache serves, if it is not the stored resources. -/
  frozen : Option (Entries Resource)
  vault : VaultAnswer
  queues : Queues
  clock : Duration
  tasks : List Task
  /-- The tasks that can run, the first one first. -/
  ready : List Nat
  /-- Workers started and finished. -/
  started : Nat
  finished : Nat
  calls : Array String
  events : Array Event
  /-- The keys that tasks fetched. -/
  delivered : Array (Nat × Option String)
  signals : Array Signal

namespace Bench

def new (backoff : Backoff) : Bench :=
  ⟨.empty, none, .object ⟨"", none⟩, .empty backoff, .zero, [], [], 0, 0, #[], #[], #[], #[]⟩

/-! ## Signals and calls -/

def report (b : Bench) (ss : List Signal) : Bench := { b with signals := b.signals ++ ss.toArray }

def logCall (b : Bench) (text : String) : Bench := { b with calls := b.calls.push text }

/-- The tasks that a queue called become ready. -/
def gather (b : Bench) : Bench :=
  let s := b.queues.structural
  let d := b.queues.drift
  { b with
    ready := b.ready ++ s.called ++ d.called
    queues := ⟨{ s with called := [] }, { d with called := [] }⟩ }

def setQueue (b : Bench) (id : QueueId) (q : WorkQueue) (ss : List Signal) : Bench :=
  ({ b with queues := b.queues.set id q }.report ss).gather

/-- Starts a call to the cluster. -/
def beginCall (b : Bench) (m : Method) (ns name : String) :
    Option Cluster.ClusterError × Bench :=
  let b := b.logCall (m.name ++ " " ++ Key.join ns name)
  let (fault, cluster) := b.cluster.begin m
  (fault.map (·.error ⟨m.kind, ns, name⟩), { b with cluster })

/-- What the watch cache serves. -/
def cached (b : Bench) : Entries Resource := b.frozen.getD b.cluster.resources

/-- The mark that stands for the time of day. -/
def timeMark : String := "<now>"

/-- The surroundings of a pass. -/
def serve : (r : Request) → Bench → r.Answer × Bench
  | .lookup ns name, b => (b.cached.get? (Key.join ns name), b)
  | .get k ns name, b =>
    match b.beginCall (.get k) ns name with
    | (some e, b) => (.error e, b)
    | (none, b) => (b.cluster.get ⟨k.kind, ns, name⟩ k (Key.join ns name), b)
  | .create k ns object, b =>
    let name := (OutputKind.metadata object).name.getD ""
    match b.beginCall (.create k) ns name with
    | (some e, b) => (.error e, b)
    | (none, b) =>
      let (r, cluster) := b.cluster.create ⟨k.kind, ns, name⟩ (Key.join ns name) object
      (r, { b with cluster })
  | .update k ns object, b =>
    let name := (OutputKind.metadata object).name.getD ""
    match b.beginCall (.update k) ns name with
    | (some e, b) => (.error e, b)
    | (none, b) =>
      let (r, cluster) := b.cluster.update ⟨k.kind, ns, name⟩ (Key.join ns name) object
      (r, { b with cluster })
  | .getDeclaring ns name, b =>
    match b.beginCall .getDeclaring ns name with
    | (some e, b) => (.error e, b)
    | (none, b) => (b.cluster.getDeclaring ⟨.declaring, ns, name⟩ (Key.join ns name), b)
  | .updateStatus r, b =>
    let ns := r.metadata.ns.getD ""
    let name := r.metadata.name.getD ""
    match b.beginCall .updateStatus ns name with
    | (some e, b) => (.error e, b)
    | (none, b) =>
      let (answer, cluster) :=
        b.cluster.updateStatus ⟨.declaring, ns, name⟩ (Key.join ns name) r
      (answer, { b with cluster })
  | .readVault v kind, b =>
    (b.vault.read ⟨v.name, v.object.name, kind⟩, b.logCall (readText v kind))
  | .record e, b => ((), { b with events := b.events.push e })
  | .enqueue id key, b =>
    let (q, ss) := (b.queues.get id).add key
    ((), b.setQueue id q ss)
  | .now, b => (timeMark, b)
  | .tell s, b => ((), b.report [s])

/-- Runs a pass. -/
def runPass {α : Type} (b : Bench) (p : Pass α) : Except PassError α × Bench := p.run.run serve b

/-- Runs something and puts what it logs into a span. -/
def inSpan {α : Type} (b : Bench) (span : Span) (f : Bench → α × Bench) : α × Bench :=
  let before := b.signals
  let (a, b) := f { b with signals := #[] }
  (a, { b with signals := before ++ b.signals.map (·.within span) })

/-! ## Tasks -/

/-- Starts a task. -/
def spawn (b : Bench) (queue : QueueId) (job : Job) : Bench :=
  let number := b.tasks.length
  { b with tasks := b.tasks ++ [⟨number, queue, job⟩], ready := b.ready ++ [number] }

/-- Handles one key as a worker does. -/
def handleKey (b : Bench) (id : QueueId) (maxRetries : Nat) (key : String) : Bench :=
  let name := id.name
  let b := b.report [.count .reconciliations name]
  let (result, b) := b.inSpan (passSpan name key) fun b => b.runPass (Pass.ofQueue id key)
  let b := b.report [.observe .reconciliationDuration name .zero]
  let ((), b) := b.inSpan (passSpan name key) fun b =>
    let (q, _, ss) := Retry.handle (b.queues.get id) b.clock key result maxRetries
    ((), b.setQueue id q ss)
  let (q, ss) := (b.queues.get id).done key
  b.setQueue id q ss

/-- A worker handles keys until there are none; at most as many as `n` says. -/
def work (id : QueueId) (maxRetries task : Nat) : Nat → Bench → Bench
  | 0, b => b
  | n + 1, b =>
    let (q, taken, ss) := (b.queues.get id).lookOrWait task
    let b := b.setQueue id q ss
    match taken with
    | .key key => work id maxRetries task n (b.handleKey id maxRetries key)
    | .nothing => b
    | .stopped => { b with finished := b.finished + 1 }.report
        [.say .debug .workers "Worker stopped" [.text "queue" id.name]]

/-- More steps than any run of the bench takes. -/
def patience : Nat := 100000

/-- Runs a ready task until it waits or ends. -/
def runTask (b : Bench) (t : Task) : Bench :=
  match t.job with
  | .worker maxRetries => work t.queue maxRetries t.number patience b
  | .fetcher label =>
    let (q, taken, ss) := (b.queues.get t.queue).lookOrWait t.number
    let b := b.setQueue t.queue q ss
    match taken with
    | .key key => { b with delivered := b.delivered.push (label, some key) }
    | .stopped => { b with delivered := b.delivered.push (label, none) }
    | .nothing => b

/-- Fires the delayed adds whose time has come. -/
def fireDue (b : Bench) : Bench :=
  let (s, ss) := b.queues.structural.fireDue b.clock
  let b := b.setQueue .structural s ss
  let (d, ss) := b.queues.drift.fireDue b.clock
  b.setQueue .drift d ss

def nextDeadline? (b : Bench) : Option Duration :=
  match b.queues.structural.nextDeadline?, b.queues.drift.nextDeadline? with
  | some x, some y => some (x.min y)
  | some x, none => some x
  | none, y => y

/-- Runs ready tasks and fires what is due until nothing is left to do. -/
def settle : Nat → Bench → Bench
  | 0, b => b
  | n + 1, b =>
    match b.ready with
    | number :: rest =>
      let b := { b with ready := rest }
      match b.tasks.find? (·.number = number) with
      | some t => settle n (b.runTask t)
      | none => settle n b
    | [] =>
      match b.nextDeadline? with
      | some d => if d.nanos ≤ b.clock.nanos then settle n b.fireDue else b
      | none => b

/-- Moves the clock on to a time, stopping wherever a delayed add is due. -/
def advanceTo (target : Duration) : Nat → Bench → Bench
  | 0, b => b
  | n + 1, b =>
    let b := b.settle patience
    match b.nextDeadline? with
    | some d =>
      if d.nanos ≤ target.nanos then advanceTo target n { b with clock := d }
      else { b with clock := target }
    | none => { b with clock := target }

end Bench

end VaultProjection.Simulation

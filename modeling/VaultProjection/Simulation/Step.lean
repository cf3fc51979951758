import VaultProjection.Simulation.Bench
/-!
Steps on the bench: what a scenario consists of, and what each step gives.
-/

namespace VaultProjection.Simulation

/-! ## Steps -/

/-- A step on one queue. -/
inductive QueueStep where
  | add (key : String)
  | forget (key : String)
  | done (key : String)
  | addRateLimited (key : String)
  | stop
  | get
  | spawnGet (label : Nat)
  | result (key : String) (error : Option PassError) (maxRetries : Nat)

inductive Step where
  | queue (id : QueueId) (step : QueueStep)
  | advance (time : Duration)
  | putResource (resource : Resource)
  | putSecret (key : String) (object : Kube.Secret)
  | putConfigMap (key : String) (object : Kube.ConfigMap)
  | delete (kind : Kube.Kind) (key : String)
  | vault (answer : VaultAnswer)
  | fail (failing : Failing)
  | race (race : Race)
  | vanish (vanishing : Vanishing)
  | freeze
  | thaw
  | pass (id : QueueId) (key : String)
  | persist (ns name : String) (update : StatusUpdate)
  | dispatch (change : Change)
  | outputDeleted (kind : String) (metadata : Kube.ObjectMeta)
  | drain (id : QueueId) (maxRetries : Nat)
  | workers (id : QueueId) (count maxRetries : Nat)
  | debug

/-- What a drained key led to. -/
structure Drained where
  key : String
  result : Except PassError Unit
  outcome : Outcome

/-- What a step gives. -/
inductive Reply where
  | none
  | delay (d : Duration)
  | looked (taken : Take)
  | outcome (o : Outcome)
  | pass (result : Except PassError Unit)
  | persisted (result : Except Cluster.ClusterError Pass.StatusOutcome)
  | route (r : Route)
  | key (key : Option String)
  | drained (keys : List Drained)
  | count (n : Nat)
  | text (s : String)

namespace QueueStep

/-- The key that a step names. -/
def key? : QueueStep → Option String
  | .add k | .forget k | .done k | .addRateLimited k | .result k .. => some k
  | .stop | .get | .spawnGet _ => none

end QueueStep

namespace Step

/-- The key that a step names. -/
def key? : Step → Option String
  | .queue _ s => s.key?
  | .pass _ key => some key
  | _ => none

end Step

/-! ## Running steps -/

namespace Bench

def runQueueStep (b : Bench) (id : QueueId) (step : QueueStep) : Reply × Bench :=
  let q := b.queues.get id
  match step with
  | .add key =>
    let (q, ss) := q.add key
    (.none, b.setQueue id q ss)
  | .forget key => (.none, b.setQueue id (q.forget key) [])
  | .done key =>
    let (q, ss) := q.done key
    (.none, b.setQueue id q ss)
  | .addRateLimited key =>
    let (q, d) := q.addRateLimited b.clock key
    (.delay d, b.setQueue id q [])
  | .stop => (.none, b.setQueue id q.stop [])
  | .get =>
    let (q, taken, ss) := q.look
    (.looked taken, b.setQueue id q ss)
  | .spawnGet label => (.none, b.spawn id (.fetcher label))
  | .result key error maxRetries =>
    let result := match error with
      | none => .ok ()
      | some e => .error e
    let (q, outcome, ss) := Retry.handle q b.clock key result maxRetries
    (.outcome outcome, b.setQueue id q ss)

/-- Takes waiting keys, runs the queue's pass and applies the retry policy, for at most `n` keys. -/
def drain (id : QueueId) (maxRetries : Nat) : Nat → Bench → List Drained × Bench
  | 0, b => ([], b)
  | n + 1, b =>
    if (b.queues.get id).pending.isEmpty then ([], b)
    else
      let (q, taken, ss) := (b.queues.get id).look
      let b := b.setQueue id q ss
      match taken with
      | .key key =>
        let (result, b) := b.runPass (Pass.ofQueue id key)
        let (q, outcome, ss) := Retry.handle (b.queues.get id) b.clock key result maxRetries
        let b := b.setQueue id q ss
        let (q, ss) := (b.queues.get id).done key
        let (more, b) := drain id maxRetries n (b.setQueue id q ss)
        (⟨key, result, outcome⟩ :: more, b)
      | _ => ([], b)

/-- Starts workers, at least one. -/
def startWorkers (b : Bench) (id : QueueId) (count maxRetries : Nat) : Bench :=
  let b := b.report [.say .info .workers "Starting workers"
    [.text "queue" id.name, .number "workers" count]]
  let number := Nat.max count 1
  (List.range number).foldl (fun b _ => b.spawn id (.worker maxRetries))
    { b with started := b.started + number }

/-- The collaborators in debug output. -/
def debugText : String :=
  "Context \x7b vault: Vault, vault_queue: " ++ Text.quoted QueueId.drift.name
    ++ ", structural_queue: " ++ Text.quoted QueueId.structural.name ++ ", .. \x7d"

def runStep (b : Bench) : Step → Reply × Bench
  | .queue id step => b.runQueueStep id step
  | .advance time =>
    (.none, advanceTo ⟨b.clock.nanos + time.nanos⟩ patience b)
  | .putResource r =>
    let key := Key.join (r.metadata.ns.getD "") (r.metadata.name.getD "")
    (.none, { b with cluster := b.cluster.putResource key r })
  | .putSecret key s =>
    (.none, { b with cluster := { b.cluster with secrets := b.cluster.secrets.insert key s } })
  | .putConfigMap key c =>
    (.none, { b with cluster :=
      { b.cluster with configMaps := b.cluster.configMaps.insert key c } })
  | .delete kind key => (.none, { b with cluster := b.cluster.remove kind key })
  | .vault answer => (.none, { b with vault := answer })
  | .fail f =>
    (.none, { b with cluster := { b.cluster with failing := b.cluster.failing ++ [f] } })
  | .race r => (.none, { b with cluster := { b.cluster with races := b.cluster.races ++ [r] } })
  | .vanish v =>
    (.none, { b with cluster := { b.cluster with vanishing := b.cluster.vanishing ++ [v] } })
  | .freeze => (.none, { b with frozen := some b.cluster.resources })
  | .thaw => (.none, { b with frozen := none })
  | .pass id key =>
    let (result, b) := b.runPass (Pass.ofQueue id key)
    (.pass result, b)
  | .persist ns name u =>
    let (result, b) := (Pass.persist ns name u).run serve b
    (.persisted result, b)
  | .dispatch c =>
    let (queues, route, ss) := b.queues.dispatch c
    (.route route, ({ b with queues }.report ss).gather)
  | .outputDeleted kind m =>
    let (queues, key, ss) := b.queues.dispatchDeleted kind m
    (.key key, ({ b with queues }.report ss).gather)
  | .drain id maxRetries =>
    let (keys, b) := b.drain id maxRetries 50
    (.drained keys, b)
  | .workers id count maxRetries => (.count (Nat.max count 1), b.startWorkers id count maxRetries)
  | .debug => (.text debugText, b)

/-- What is to be seen after a step. -/
structure View where
  reply : Reply
  queues : Queues
  calls : List String
  events : List Event
  delivered : List (Nat × Option String)
  resources : Entries Resource
  secrets : Entries Kube.Secret
  configMaps : Entries Kube.ConfigMap
  /-- The keys that were named so far. -/
  keys : List String

/-- Runs a step and all that follows from it. -/
def observe (b : Bench) (keys : List String) (step : Step) : View × Bench :=
  let (reply, b) := b.runStep step
  let b := b.settle patience
  let named := step.key?.toList ++ match reply with
    | .key (some k) => [k]
    | _ => []
  let keys := keys ++ named.filter (!keys.contains ·)
  (⟨reply, b.queues, b.calls.toList, b.events.toList, b.delivered.toList, b.cluster.resources,
    b.cluster.secrets, b.cluster.configMaps, keys⟩,
    { b with calls := #[], events := #[], delivered := #[] })

/-- Runs steps one after the other. -/
def observeAll (b : Bench) (keys : List String) : List Step → List View × Bench
  | [] => ([], b)
  | s :: rest =>
    let (v, b) := b.observe keys s
    let (vs, b) := b.observeAll v.keys rest
    (v :: vs, b)

/-- The failures and pending retries of the keys that have any. -/
def retries (q : WorkQueue) (keys : List String) : Entries (Nat × Bool) :=
  Entries.ofList (keys.filterMap fun k =>
    let r := (q.requeues k, q.hasPendingRetry k)
    if r = (0, false) then none else some (k, r))

end Bench

end VaultProjection.Simulation

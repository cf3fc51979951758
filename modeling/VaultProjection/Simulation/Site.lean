import VaultProjection.Config.Basic
import VaultProjection.Simulation.Bench
import VaultProjection.Simulation.Follower
/-!
The whole controller at work: its watches, queues and workers, against an API server in memory, a
vault with one answer, and a clock that is moved by hand.

Tasks run one at a time and in turn. A task gives way when it has made a request, and goes to the
end of the row behind the watches that the request woke up. When nobody has anything left to do,
time may move on to the next point at which something is due.
-/

namespace VaultProjection.Simulation

/-! ## Workers -/

inductive Activity where
  /-- Stands in line for a key. -/
  | idle
  | working (key : String) (rest : Program (Except PassError Unit))
  /-- Waits for the answer of the vault. -/
  | sleeping (till : Duration) (key : String) (rest : Program (Except PassError Unit))
  | stopped

structure Worker where
  number : Nat
  queue : QueueId
  activity : Activity

def Worker.hasStopped (w : Worker) : Bool :=
  match w.activity with
  | .stopped => true
  | _ => false

/-! ## The site -/

inductive TaskId where
  | resources
  | outputs (kind : OutputKind)
  | worker (number : Nat)
  deriving DecidableEq, Repr

inductive Life where
  | off
  | running
  /-- No more work is handed out; passes under way are being finished. -/
  | stopping
  deriving DecidableEq, Repr

structure Site where
  config : Config
  server : ApiServer
  vault : VaultAnswer
  /-- How long the vault takes to answer. -/
  vaultDelay : Duration
  clock : Duration
  life : Life
  ready : Bool
  /-- A run has ended since anybody last looked. -/
  ended : Bool
  cache : Watch.Cache
  queues : Queues
  recorder : Cluster.Recorder
  resources : Option (Follower Resource)
  secrets : Option (Follower Kube.ObjectMeta)
  configMaps : Option (Follower Kube.ObjectMeta)
  nextResync : Duration
  workers : List Worker
  /-- The tasks that have something to do, the next one first. -/
  row : List TaskId
  signals : Array Signal

namespace Site

def new (config : Config) : Site :=
  ⟨config, .new, .object ⟨"", none⟩, .zero, .zero, .off, false, false, .empty,
    .empty config.backoff, .new none, none, none, none, .zero, [], [], #[]⟩

def report (s : Site) (signals : List Signal) : Site :=
  { s with signals := s.signals ++ signals.toArray }

/-- Lets a task have a turn, if it does not stand in the row already. -/
def rouse (s : Site) (t : TaskId) : Site :=
  if s.row.contains t then s else { s with row := s.row ++ [t] }

def outputs (s : Site) : OutputKind → Option (Follower Kube.ObjectMeta)
  | .secret => s.secrets
  | .configMap => s.configMaps

def setOutputs (s : Site) (k : OutputKind) (f : Option (Follower Kube.ObjectMeta)) : Site :=
  match k with
  | .secret => { s with secrets := f }
  | .configMap => { s with configMaps := f }

/-- The watches that have something to read get a turn. -/
def rouseWatches (s : Site) : Site :=
  let output (s : Site) (k : OutputKind) : Site :=
    if (s.outputs k).any (·.hasNews s.server) then s.rouse (.outputs k) else s
  let s := output (output s .secret) .configMap
  if s.resources.any (·.hasNews s.server) then s.rouse .resources else s

/-- The workers that the queues called get a turn. -/
def gather (s : Site) : Site :=
  let a := s.queues.structural
  let b := s.queues.drift
  (a.called ++ b.called).foldl (fun s n => s.rouse (.worker n))
    { s with queues := ⟨{ a with called := [] }, { b with called := [] }⟩ }

def setQueue (s : Site) (id : QueueId) (q : WorkQueue) (signals : List Signal) : Site :=
  ({ s with queues := s.queues.set id q }.report signals).gather

/-! ## Passes -/

/-- How long an answer takes. -/
inductive Wait where
  | none
  | turn
  | till (time : Duration)

/-- Makes a request of the API server. -/
def request (s : Site) (r : Web.Request) : Option Web.Response × Site :=
  let (a, server) := s.server.answer r
  let response := match a with
    | .response r => some r
    | .stream _ => none
  (response, { s with server }.rouseWatches)

def call {α : Type} (s : Site) (c : Cluster.Call α) :
    Except Cluster.ClusterError α × Wait × Site :=
  match c.request with
  | none => (c.result none, .none, s)
  | some r =>
    let (response, s) := s.request r
    (c.result response, .turn, s)

def attempt {α : Type} (s : Site) (c : Except Cluster.ClusterError (Cluster.Call α)) :
    Except Cluster.ClusterError α × Wait × Site :=
  match c with
  | .error e => (.error e, .none, s)
  | .ok c => s.call c

/-- The time of day. -/
def now (s : Site) : String := Timestamp.text ⟨s.clock.seconds, s.clock.subsecondNanos⟩

def publish (s : Site) (span : Span) (e : Event) : Wait × Site :=
  let o := s.recorder.occasion s.now (toString s.recorder.seen.length) e
  let (wait, response, s) : Wait × Option Web.Response × Site := match s.recorder.request? o with
    | none => (.none, none, s)
    | some r =>
      let (response, s) := s.request r
      (.turn, response, s)
  let (recorder, signals) := s.recorder.finish o e response
  (wait, { s with recorder }.report (signals.map (Signal.within span)))

/-- The surroundings of a pass. -/
def serve (s : Site) (span : Span) : (r : Request) → r.Answer × Wait × Site
  | .lookup ns name => (s.cache.lookup ns name, .none, s)
  | .get k ns name => s.call (Cluster.get k ns name)
  | .create k ns object => s.attempt (Cluster.create k ns object)
  | .update k ns object => s.attempt (Cluster.update k ns object)
  | .getDeclaring ns name => s.call (Cluster.getDeclaring ns name)
  | .updateStatus r => s.attempt (Cluster.updateStatus r)
  | .readVault v kind =>
    let wait := if s.vaultDelay.nanos = 0 then Wait.none
      else .till ⟨s.clock.nanos + s.vaultDelay.nanos⟩
    (s.vault.read ⟨v.name, v.object.name, kind⟩, wait, s)
  | .record e => ((), s.publish span e)
  | .enqueue id key =>
    let (q, signals) := (s.queues.get id).add key
    ((), .none, s.setQueue id q (signals.map (·.within span)))
  | .now => (s.now, .none, s)
  | .tell signal => ((), .none, s.report [signal.within span])

/-- Goes on with a pass until it ends or must wait. -/
def stretch (span : Span) : Program (Except PassError Unit) → Site →
    Except (Wait × Program (Except PassError Unit)) (Except PassError Unit) × Site
  | .done result, s => (.ok result, s)
  | .ask r next, s =>
    match s.serve span r with
    | (answer, .none, s) => stretch span (next answer) s
    | (answer, wait, s) => (.error (wait, next answer), s)

/-! ## Turns -/

def setActivity (s : Site) (number : Nat) (activity : Activity) : Site :=
  { s with workers := s.workers.map fun w => if w.number = number then { w with activity } else w }

/-- A pass has ended. -/
def finish (s : Site) (id : QueueId) (key : String) (result : Except PassError Unit) : Site :=
  let s := s.report [.observe .reconciliationDuration id.name .zero]
  let (q, _, signals) := Retry.handle (s.queues.get id) s.clock key result s.config.maxRetries
  let s := s.setQueue id q (signals.map (·.within (passSpan id.name key)))
  let (q, signals) := (s.queues.get id).done key
  s.setQueue id q signals

/-- A worker goes on, with at most `n` keys. -/
def work (number : Nat) (id : QueueId) : Nat → Activity → Site → Site
  | 0, activity, s => s.setActivity number activity
  | n + 1, .working key rest, s =>
    match stretch (passSpan id.name key) rest s with
    | (.ok result, s) => work number id n .idle (s.finish id key result)
    | (.error (.till time, rest), s) => s.setActivity number (.sleeping time key rest)
    | (.error (_, rest), s) => (s.setActivity number (.working key rest)).rouse (.worker number)
  | n + 1, .idle, s =>
    let (q, taken, signals) := (s.queues.get id).lookOrWait number
    let s := s.setQueue id q signals
    match taken with
    | .key key =>
      let s := s.report [.count .reconciliations id.name]
      work number id n (.working key (Pass.ofQueue id key).run) s
    | .nothing => s.setActivity number .idle
    | .stopped => (s.setActivity number .stopped).report
        [.say .debug .workers "Worker stopped" [.text "queue" id.name]]
  | _, activity, s => s.setActivity number activity

def failed (s : Site) (e : Watch.Failure) (message : String) (fields : List Field) : Site :=
  s.report [.count .watchErrors "",
    .say .warn .watch message (fields ++ [.text "error" e.text])]

/-- What a watch of the declaring resources tells. -/
def hearResource (s : Site) : Except Watch.Failure (Watch.Notice Resource) → Site
  | .error e => s.failed e "AzureKeyVaultSecret watch error, the watcher will retry" []
  | .ok n =>
    let (cache, change) := s.cache.apply n
    let s := { s with cache }
    let s := match change with
      | none => s
      | some c =>
        let (queues, _, signals) := s.queues.dispatch c
        ({ s with queues }.report signals).gather
    match n with
    | .initDone =>
      if s.ready then s
      else ({ s with ready := true } : Site).report
        [.say .info .watch "Initial AzureKeyVaultSecret list loaded"
          [.number "cached" cache.resources.length]]
    | _ => s

/-- What a watch of outputs tells; only deletions matter. -/
def hearOutput (k : OutputKind) (s : Site) :
    Except Watch.Failure (Watch.Notice Kube.ObjectMeta) → Site
  | .error e =>
    s.failed e "Output watch error, the watcher will retry" [.text "kind" k.kind.name]
  | .ok (.delete m) =>
    let (queues, _, signals) := s.queues.dispatchDeleted k.kind.name m
    ({ s with queues }.report signals).gather
  | .ok _ => s

/-- More steps than any run takes. -/
def patience : Nat := 10000000

/-- A task has its turn. -/
def turn (s : Site) : TaskId → Site
  | .worker number =>
    match s.workers.find? (·.number = number) with
    | some w => work number w.queue patience w.activity s
    | none => s
  | .resources =>
    match s.resources with
    | none => s
    | some f =>
      let t := f.turn .resources s.clock patience s.server
      let s := { s with server := t.server, resources := some t.follower }
      let s := t.told.foldl hearResource s
      if t.again then s.rouse .resources else s
  | .outputs k =>
    match s.outputs k with
    | none => s
    | some f =>
      let t := f.turn .metadataOnly s.clock patience s.server
      let s := { s with server := t.server }.setOutputs k (some t.follower)
      let s := t.told.foldl (hearOutput k) s
      if t.again then s.rouse (.outputs k) else s

/-- The run ends when all workers have stopped. -/
def conclude (s : Site) : Site :=
  if s.life = .stopping ∧ s.workers.all Worker.hasStopped then
    ({ s with life := .off, ended := true, workers := [] } : Site).report
      [Signal.say .info .runtime "Controller stopped gracefully" []]
  else s

/-- Gives turns until nobody has anything to do. -/
def settle : Nat → Site → Site
  | 0, s => s
  | n + 1, s =>
    match s.row with
    | [] => s.conclude
    | t :: rest => settle n ({ s with row := rest }.turn t)

/-! ## Time -/

/-- The times at which something is due. -/
def deadlines (s : Site) : List Duration :=
  let pauseOf {α : Type} (f : Option (Follower α)) := (f.bind (·.pause.till)).toList
  let sleeper (w : Worker) : Option Duration := match w.activity with
    | .sleeping till .. => some till
    | _ => none
  s.queues.structural.nextDeadline?.toList ++ s.queues.drift.nextDeadline?.toList
    ++ s.workers.filterMap sleeper
    ++ pauseOf s.resources ++ pauseOf s.secrets ++ pauseOf s.configMaps
    ++ if s.life = .running then [s.nextResync] else []

def nextDeadline? (s : Site) : Option Duration :=
  (s.deadlines.map (·.nanos)).min?.map Duration.mk

/-- Ends the pause of a watch when its time has come. -/
def resumed {α : Type} (now : Duration) (f : Option (Follower α)) : Option (Follower α) × Bool :=
  match f with
  | some f =>
    if f.pause.till.any (·.nanos ≤ now.nanos) then (some f.resume, true) else (some f, false)
  | none => (none, false)

/-- Wakes the workers whose answers have come. -/
def wake (s : Site) : Site :=
  s.workers.foldl (fun s w => match w.activity with
    | .sleeping till key rest =>
      if till.nanos ≤ s.clock.nanos then
        (s.setActivity w.number (.working key rest)).rouse (.worker w.number)
      else s
    | _ => s) s

/-- Shows all cached resources again. -/
def resync (s : Site) : Site :=
  let (queues, signals) := s.cache.resync s.queues
  let next : Site :=
    { s with queues, nextResync := ⟨s.nextResync.nanos + s.config.resyncPeriod.nanos⟩ }
  let said := Signal.say .debug .watch "Resync of cached AzureKeyVaultSecret resources"
    [.number "count" s.cache.resources.length]
  (next.report (signals ++ [said])).gather

/-- Does what is due. -/
def fireDue (s : Site) : Site :=
  let fire (s : Site) (id : QueueId) : Site :=
    let (q, signals) := (s.queues.get id).fireDue s.clock
    s.setQueue id q signals
  let s := (fire (fire s .structural) .drift).wake
  let (resources, a) := resumed s.clock s.resources
  let (secrets, b) := resumed s.clock s.secrets
  let (configMaps, c) := resumed s.clock s.configMaps
  let s := { s with resources, secrets, configMaps }
  let s := if b then s.rouse (.outputs .secret) else s
  let s := if c then s.rouse (.outputs .configMap) else s
  let s := if a then s.rouse .resources else s
  if s.life = .running ∧ s.nextResync.nanos ≤ s.clock.nanos then s.resync else s

/-- Moves the clock on to a time, stopping wherever something is due. -/
def advanceTo (target : Duration) : Nat → Site → Site
  | 0, s => s
  | n + 1, s =>
    let s := s.settle patience
    match s.nextDeadline? with
    | some d =>
      if d.nanos ≤ target.nanos then
        advanceTo target n { s with clock := ⟨Nat.max d.nanos s.clock.nanos⟩ }.fireDue
      else { s with clock := target }
    | none => { s with clock := target }

/-! ## Starting and stopping -/

/-- Starts the controller. -/
def start (s : Site) : Site :=
  if s.life ≠ .off then s
  else
    let c := s.config
    let crew (id : QueueId) (first count : Nat) : List Worker :=
      (List.range (Nat.max count 1)).map fun i => ⟨first + i, id, .idle⟩
    let structural := crew .structural 0 c.structuralWorkers
    let drift := crew .drift structural.length c.vaultWorkers
    let started (id : QueueId) (count : Nat) : Signal :=
      .say .info .workers "Starting workers" [.text "queue" id.name, .number "workers" count]
    let watching (k : OutputKind) : Signal :=
      .say .info .watch "Watching output objects for deletion" [.text "kind" k.kind.name]
    let follow (k : OutputKind) : Follower Kube.ObjectMeta := .new (.outputs k c.watchNamespace)
    ({ s with
      life := .running
      cache := .empty
      queues := .empty c.backoff
      recorder := .new none
      resources := some (.new (.declaring c.watchNamespace))
      secrets := some (follow .secret)
      configMaps := some (follow .configMap)
      nextResync := ⟨s.clock.nanos + c.resyncPeriod.nanos⟩
      workers := structural ++ drift
      row := .resources :: (structural ++ drift).map (.worker ·.number)
        ++ [.outputs .secret, .outputs .configMap] } : Site).report
      [started .structural c.structuralWorkers, started .drift c.vaultWorkers,
        .say .info .watch "Watching AzureKeyVaultSecret resources"
          [.number "resync_period_secs" c.resyncPeriod.seconds],
        watching .secret, watching .configMap]

/-- The process is told to stop: the watches end at once, and passes under way are finished. -/
def interrupt (s : Site) : Site :=
  if s.life ≠ .running then s
  else
    let leave {α : Type} (f : Option (Follower α)) (server : ApiServer) : ApiServer :=
      match f with
      | some f => f.leave server
      | none => server
    ({ s with
      life := .stopping
      ready := false
      server := leave s.configMaps (leave s.secrets (leave s.resources s.server))
      resources := none
      secrets := none
      configMaps := none
      queues := ⟨s.queues.structural.stop, s.queues.drift.stop⟩ } : Site).gather.report
      [.say .info .runtime "Received shutdown signal, stopping controller" []]

end Site

/-! ## Steps -/

/-- What is done to a site from outside. -/
inductive SiteStep where
  | start
  | put (o : Cluster.ObjectName) (object : Json)
  | delete (o : Cluster.ObjectName)
  | vault (answer : VaultAnswer) (delay : Duration)
  | fail (outage : Outage)
  | watchError (kind : Kube.Kind) (code : Nat)
  | closeWatches
  | interrupt
  | advance (time : Duration)

/-- What is to be seen after a step. -/
structure SiteView where
  ready : Bool
  /-- The events that were sent. -/
  events : List Json
  /-- The stored objects of each kind. -/
  objects : Entries (Entries Json)
  /-- The lists and streams that were asked for. -/
  asked : List Web.Request
  watched : List Kube.Kind
  ended : Bool

namespace Site

def runStep (s : Site) : SiteStep → Site
  | .start => s.start
  | .put o object => { s with server := s.server.put o object }
  | .delete o => { s with server := s.server.delete o }
  | .vault answer delay => { s with vault := answer, vaultDelay := delay }
  | .fail o => { s with server := { s.server with outages := s.server.outages ++ [o] } }
  | .watchError kind code => { s with server := s.server.reportFailure kind code }
  | .closeWatches => { s with server := s.server.endStreams }
  | .interrupt => s.interrupt
  | .advance _ => s

/-- The time that passes with a step. -/
def timeOf : SiteStep → Duration
  | .interrupt => .ofMillis 1
  | .advance time => time
  | _ => .zero

/-- An object as it is shown: without its version, and of a declaring resource only the status. -/
def shown (kind : Kube.Kind) (object : Json) : Json :=
  match kind with
  | .declaring => object.get "status"
  | .secret | .configMap =>
    object.merged (.ofMembers [("metadata", .ofMembers [("resourceVersion", .null)])])

/-- The kinds of which there are objects. -/
def objects (s : ApiServer) : Entries (Entries Json) :=
  Entries.ofList ([Kube.Kind.declaring, .secret, .configMap].filterMap fun k =>
    if (s.objects k).isEmpty then none
    else some (Cluster.plural k, (s.objects k).mapValues (shown k)))

/-- Runs a step and all that follows from it. -/
def observe (s : Site) (step : SiteStep) : SiteView × Site :=
  let s := (s.runStep step).rouseWatches
  let s := advanceTo ⟨s.clock.nanos + (timeOf step).nanos⟩ patience s
  (⟨s.ready, s.server.events.toList, objects s.server, s.server.asked.toList, s.server.watched,
    s.ended⟩,
    { s with ended := false, server := { s.server with events := #[], asked := #[] } })

/-- Runs steps one after the other. -/
def observeAll (s : Site) : List SiteStep → List SiteView × Site
  | [] => ([], s)
  | step :: rest =>
    let (v, s) := s.observe step
    let (vs, s) := s.observeAll rest
    (v :: vs, s)

end Site

end VaultProjection.Simulation

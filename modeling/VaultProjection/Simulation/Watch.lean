import VaultProjection.Watch.Cache
/-!
The watch cache and the dispatcher on their own: notices go in, and the keys that reach the queues
are taken out at once.
-/

namespace VaultProjection.Simulation

inductive WatchStep where
  | notice (n : Watch.Notice Resource)
  | resync
  | retry (key : String)

/-- What a step gives. -/
inductive WatchReply where
  | none
  | change (c : Change) (route : Route)
  | count (n : Nat)
  | delay (d : Duration)

structure WatchBench where
  cache : Watch.Cache
  queues : Queues
  signals : List Signal

structure WatchView where
  reply : WatchReply
  resources : List Resource
  structural : List String
  drift : List String

namespace WatchBench

def new (backoff : Backoff) : WatchBench := ⟨.empty, .empty backoff, []⟩

def runStep (b : WatchBench) : WatchStep → WatchReply × WatchBench
  | .notice n =>
    let (cache, change?) := b.cache.apply n
    match change? with
    | none => (.none, { b with cache })
    | some c =>
      let (queues, route, ss) := b.queues.dispatch c
      (.change c route, ⟨cache, queues, b.signals ++ ss⟩)
  | .resync =>
    let (queues, ss) := b.cache.resync b.queues
    (.count b.cache.shown.length, { b with queues, signals := b.signals ++ ss })
  | .retry key =>
    let (q, d) := (b.queues.get .drift).addRateLimited .zero key
    let (q, ss) := q.fireDue .zero
    (.delay d, { b with queues := b.queues.set .drift q, signals := b.signals ++ ss })

/-- Takes all waiting keys out of a queue, at most `n` of them. -/
def takeAll : Nat → WorkQueue → List String × WorkQueue × List Signal
  | 0, q => ([], q, [])
  | n + 1, q =>
    match q.look with
    | (q, .key k, ss) =>
      let (q, more) := q.done k
      let (ks, q, rest) := takeAll n q
      (k :: ks, q, ss ++ more ++ rest)
    | (q, _, ss) => ([], q, ss)

def observe (b : WatchBench) (s : WatchStep) : WatchView × WatchBench :=
  let (reply, b) := b.runStep s
  let take (id : QueueId) := takeAll (b.queues.get id).length (b.queues.get id)
  let (ss, structural, s1) := take .structural
  let (ds, drift, s2) := take .drift
  (⟨reply, b.cache.resources, ss, ds⟩,
    { b with queues := ⟨structural, drift⟩, signals := b.signals ++ s1 ++ s2 })

def observeAll (b : WatchBench) : List WatchStep → List WatchView × WatchBench
  | [] => ([], b)
  | s :: rest =>
    let (v, b) := b.observe s
    let (vs, b) := b.observeAll rest
    (v :: vs, b)

end WatchBench

end VaultProjection.Simulation

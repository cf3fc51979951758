import VaultProjection.Backoff
import VaultProjection.Telemetry.Meter
/-!
Work queues of keys. A key waits at most once. While somebody works on it, adding it again only
marks it, and it waits again when the work is done, so nobody works on a key that is being worked
on. A failed key comes back after a delay that grows with its failures.

Every delayed add has a number of its own. One that was given up, because the key was forgotten or
the queue stopped, is told from the one that is due by this number, whenever its time comes.

Tasks that find the queue empty wait in line. An added key calls the first of them; with nobody in
line it leaves one permit, which the next task that looks takes along.
-/

namespace VaultProjection

/-- An add that is to happen at a point of time. -/
structure DelayedAdd where
  number : Nat
  deadline : Duration
  deriving DecidableEq, Repr

structure WorkQueue where
  name : String
  backoff : Backoff
  /-- The waiting keys, the next one first. -/
  pending : List String
  /-- The keys that somebody asked for since work on them last started. -/
  dirty : List String
  /-- The keys that are being worked on. -/
  processing : List String
  failures : Entries Nat
  delayed : Entries DelayedAdd
  /-- The number of the latest delayed add. A queue has 64 bits for it, and no queue gets as far as
  `2 ^ 64` delayed adds, so the number has no limit here. -/
  lastNumber : Nat
  stopped : Bool
  /-- A call that nobody has heard yet. -/
  permit : Bool
  /-- The tasks in line, the first one first. -/
  waiting : List Nat
  /-- The tasks that were called and have not looked yet, in the order of the calls. -/
  called : List Nat
  deriving DecidableEq, Repr

/-- What a task finds when it looks. -/
inductive Take where
  | key (key : String)
  | stopped
  | nothing
  deriving DecidableEq, Repr

namespace WorkQueue

def empty (name : String) (backoff : Backoff) : WorkQueue :=
  ⟨name, backoff, [], [], [], [], [], 0, false, false, [], []⟩

/-! ## Views -/

def length (q : WorkQueue) : Nat := q.pending.length

/-- The failures since the key was last forgotten. -/
def requeues (q : WorkQueue) (key : String) : Nat := (q.failures.get? key).getD 0

def hasPendingRetry (q : WorkQueue) (key : String) : Bool := q.delayed.contains key

/-- The gauge of the waiting keys. -/
def depth (q : WorkQueue) : Signal := .level .queueDepth q.name q.pending.length

def trace (q : WorkQueue) (key message : String) : Signal :=
  .say .trace .queue message [.text "queue" q.name, .text "key" key]

/-! ## Calls -/

/-- Calls the first task in line, or leaves a permit. -/
def callOne (q : WorkQueue) : WorkQueue :=
  match q.waiting with
  | [] => { q with permit := true }
  | w :: rest => { q with waiting := rest, called := q.called ++ [w] }

/-- Calls all tasks in line. -/
def callAll (q : WorkQueue) : WorkQueue :=
  { q with waiting := [], called := q.called ++ q.waiting }

/-! ## Adding -/

/-- Puts a key at the end of the waiting ones. -/
def append (q : WorkQueue) (key : String) : WorkQueue × List Signal :=
  let q := { q with pending := q.pending ++ [key] }
  (q.callOne, [q.depth])

def add (q : WorkQueue) (key : String) : WorkQueue × List Signal :=
  if q.stopped ∨ q.dirty.contains key then (q, [])
  else
    let q := { q with dirty := q.dirty ++ [key] }
    if q.processing.contains key then (q, [q.trace key "Key is being processed, deferring"])
    else q.append key

/-- Counts a failure and adds the key after the delay that is returned; a delayed add that is
already on its way stays as it is. -/
def addRateLimited (q : WorkQueue) (now : Duration) (key : String) : WorkQueue × Duration :=
  if q.stopped then (q, .zero)
  else
    let failures := q.requeues key
    let delay := q.backoff.delay failures
    let q := { q with
      failures := q.failures.insert key (Nat.min (failures + 1) (Nat.pow 2 32 - 1)) }
    if q.delayed.contains key then (q, delay)
    else
      let number := q.lastNumber + 1
      ({ q with
        lastNumber := number
        delayed := q.delayed.insert key ⟨number, ⟨now.nanos + delay.nanos⟩⟩ }, delay)

/-- The time of a delayed add has come; it counts only if it is still the pending one. -/
def fire (q : WorkQueue) (key : String) (number : Nat) : WorkQueue × List Signal :=
  if (q.delayed.get? key).map (·.number) = some number then
    { q with delayed := q.delayed.erase key }.add key
  else (q, [q.trace key "Delayed add was cancelled"])

/-- The delayed adds whose time has come, the earliest first. -/
def due (q : WorkQueue) (now : Duration) : List (String × DelayedAdd) :=
  (q.delayed.filter fun (_, d) => d.deadline.nanos ≤ now.nanos).mergeSort fun (_, a) (_, b) =>
    a.deadline.nanos < b.deadline.nanos ∨
      (a.deadline.nanos = b.deadline.nanos ∧ a.number ≤ b.number)

/-- Fires all delayed adds whose time has come. -/
def fireDue (q : WorkQueue) (now : Duration) : WorkQueue × List Signal :=
  (q.due now).foldl (fun (q, ss) (k, d) =>
    let (q, more) := q.fire k d.number
    (q, ss ++ more)) (q, [])

/-- The earliest time at which a delayed add fires. -/
def nextDeadline? (q : WorkQueue) : Option Duration :=
  (q.delayed.map fun (_, d) => d.deadline.nanos).min?.map Duration.mk

/-! ## Taking and finishing -/

/-- Clears the failures of a key and gives up its delayed add. -/
def forget (q : WorkQueue) (key : String) : WorkQueue :=
  { q with failures := q.failures.erase key, delayed := q.delayed.erase key }

/-- Hands out the next key. -/
def take (q : WorkQueue) : WorkQueue × Take × List Signal :=
  if q.stopped then (q, .stopped, [])
  else match q.pending with
    | [] => (q, .nothing, [])
    | k :: rest =>
      let q := { q with
        pending := rest
        dirty := q.dirty.filter (· ≠ k)
        processing := if q.processing.contains k then q.processing else q.processing ++ [k] }
      (q, .key k, [q.depth])

/-- Work on a key has ended; if somebody asked for it meanwhile it waits again. -/
def done (q : WorkQueue) (key : String) : WorkQueue × List Signal :=
  let q := { q with processing := q.processing.filter (· ≠ key) }
  if q.dirty.contains key ∧ !q.stopped then q.append key else (q, [])

/-- Hands out no more keys and gives up every delayed add. -/
def stop (q : WorkQueue) : WorkQueue :=
  { q with stopped := true, delayed := [] }.callAll

/-! ## Waiting -/

/-- A task looks for a key and does not stay if there is none. -/
def look (q : WorkQueue) : WorkQueue × Take × List Signal := { q with permit := false }.take

/-- A task looks for a key, and stands in line if there is none. -/
def lookOrWait (q : WorkQueue) (task : Nat) : WorkQueue × Take × List Signal :=
  match q.look with
  | (q, .nothing, ss) => ({ q with waiting := q.waiting ++ [task] }, .nothing, ss)
  | other => other

/-- The first task that was called, if there is one. -/
def nextCalled? (q : WorkQueue) : Option (Nat × WorkQueue) :=
  match q.called with
  | [] => none
  | w :: rest => some (w, { q with called := rest })

end WorkQueue

end VaultProjection

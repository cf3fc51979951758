import VaultProjection.Pass.Basic
import VaultProjection.Queue.Basic
/-!
The two queues of the controller side by side.
-/

namespace VaultProjection

structure Queues where
  structural : WorkQueue
  drift : WorkQueue
  deriving DecidableEq, Repr

namespace Queues

def empty (backoff : Backoff) : Queues :=
  ⟨.empty QueueId.structural.name backoff, .empty QueueId.drift.name backoff⟩

def get (qs : Queues) : QueueId → WorkQueue
  | .structural => qs.structural
  | .drift => qs.drift

def set (qs : Queues) (id : QueueId) (q : WorkQueue) : Queues :=
  match id with
  | .structural => { qs with structural := q }
  | .drift => { qs with drift := q }

def add (qs : Queues) (id : QueueId) (key : String) : Queues × List Signal :=
  let (q, ss) := (qs.get id).add key
  (qs.set id q, ss)

def forget (qs : Queues) (id : QueueId) (key : String) : Queues :=
  qs.set id ((qs.get id).forget key)

end Queues

end VaultProjection

import VaultProjection.Pass.Error
import VaultProjection.Queue.Basic
/-!
What becomes of a key after a pass. Success clears its failures. A failed key comes back with a
growing delay until it has come back `maxRetries` times; then it is dropped until something asks for
it again.
-/

namespace VaultProjection

inductive Outcome where
  | synced
  | requeued (delay : Duration)
  | dropped
  deriving DecidableEq, Repr

namespace Retry

/-- How a failure is reported. -/
def complaint (q : WorkQueue) (key : String) (e : PassError) : Signal :=
  let fields : List Field :=
    [.text "queue" q.name, .text "key" key, .text "error" e.message]
  if e.isMalformed then
    .say .error .retry "AzureKeyVaultSecret configuration is invalid" fields
  else if e.isConflict then .say .warn .retry "Output name collision" fields
  else .say .warn .retry "Error syncing AzureKeyVaultSecret" fields

/-- Applies the policy to the result of a pass over a key. -/
def handle (q : WorkQueue) (now : Duration) (key : String) (result : Except PassError Unit)
    (maxRetries : Nat) : WorkQueue × Outcome × List Signal :=
  match result with
  | .ok () =>
    (q.forget key, .synced,
      [.say .debug .retry "Successfully synced" [.text "queue" q.name, .text "key" key]])
  | .error e =>
    let before := [.count .reconciliationErrors q.name, complaint q key e]
    let requeues := q.requeues key
    if requeues < maxRetries then
      let (q, delay) := q.addRateLimited now key
      (q, .requeued delay, before ++ [.count .requeues q.name,
        .say .debug .retry "Requeued with backoff" [.text "queue" q.name, .text "key" key,
          .number "attempt" (requeues + 1), .number "delay_ms" delay.millis]])
    else
      (q.forget key, .dropped, before ++ [.count .droppedKeys q.name,
        .say .error .retry "Dropping key out of the queue after repeated failures"
          [.text "queue" q.name, .text "key" key, .number "retries" requeues,
            .text "error" e.message]])

end Retry

end VaultProjection

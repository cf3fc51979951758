import VaultProjection.Proofs.Queue.Sound
import VaultProjection.Queue.Pair

/-!
# The two queues side by side

What is done to one of the two queues leaves the other as it is.
-/

namespace VaultProjection.Queues

theorem get_set (qs : Queues) (id id' : QueueId) (q : WorkQueue) :
    (qs.set id q).get id' = if id' = id then q else qs.get id' := by
  cases id <;> cases id' <;> rfl

@[simp] theorem get_set_self (qs : Queues) (id : QueueId) (q : WorkQueue) :
    (qs.set id q).get id = q := by cases id <;> rfl

theorem get_add (qs : Queues) (id id' : QueueId) (key : String) :
    (qs.add id key).1.get id' = if id' = id then ((qs.get id).add key).1 else qs.get id' :=
  get_set qs id id' _

@[simp] theorem get_add_self (qs : Queues) (id : QueueId) (key : String) :
    (qs.add id key).1.get id = ((qs.get id).add key).1 := get_set_self qs id _

@[simp] theorem get_add_structural_drift (qs : Queues) (key : String) :
    (qs.add .structural key).1.get .drift = qs.get .drift := rfl

theorem ext_get {qs qs' : Queues} (h : ∀ id, qs.get id = qs'.get id) : qs = qs' := by
  have hs : qs.structural = qs'.structural := h .structural
  have hd : qs.drift = qs'.drift := h .drift
  cases qs
  cases qs'
  simp_all

/-- A key that is asked for twice is asked for once. -/
theorem add_add (qs : Queues) (id : QueueId) (key : String) :
    ((qs.add id key).1.add id key).1 = (qs.add id key).1 := by
  refine ext_get fun id' => ?_
  rw [get_add, get_add_self, WorkQueue.add_add, get_add]
  split <;> rfl

end VaultProjection.Queues

import VaultProjection.Proofs.Queue.Sound

/-!
# A queue key by key

What a queue has on one key is a `KeyView`. Every operation of a queue that has not stopped changes
the view of its own key, in a way that depends on nothing but this view, and leaves every other view
as it is. What is said about all keys of a queue can so be proved one key at a time.

Results:
1. `view_add`, `view_take`, `view_done`, `view_forget`, `view_addRateLimited`, `view_fire`,
   `view_handle`: each operation as a change of a view.
2. `view_conclude_ok`, `view_conclude_error`: the end of a pass, likewise.
3. `idle_iff`, `exists_work`: a sound queue is idle iff no view has anything to do, and if it is
   not there is something to do.
-/

namespace VaultProjection

/-- What a queue has on one key. -/
structure KeyView where
  /-- Asked for since work on it last started. -/
  dirty : Bool
  working : Bool
  delayed : Bool
  failures : Nat

namespace KeyView

def added (v : KeyView) : KeyView := { v with dirty := true }

def taken (v : KeyView) : KeyView := { v with dirty := false, working := true }

def finished (v : KeyView) : KeyView := { v with working := false }

def forgotten (v : KeyView) : KeyView := { v with delayed := false, failures := 0 }

def retried (v : KeyView) : KeyView :=
  { v with delayed := true, failures := Nat.min (v.failures + 1) (Nat.pow 2 32 - 1) }

def fired (v : KeyView) : KeyView := { v with delayed := false, dirty := true }

/-- What the policy makes of a failed pass. -/
def failed (maxRetries : Nat) (v : KeyView) : KeyView :=
  if v.failures < maxRetries then v.retried else v.forgotten

/-- Work is due or under way. -/
def owed (v : KeyView) : Bool := v.dirty || v.working

/-- Work is due, under way, or to come back. -/
def busy (v : KeyView) : Bool := v.owed || v.delayed

end KeyView

namespace WorkQueue

variable {q q' : WorkQueue} {key k : String}

def view (q : WorkQueue) (k : String) : KeyView :=
  ⟨decide (k ∈ q.dirty), decide (k ∈ q.processing), q.hasPendingRetry k, q.requeues k⟩

theorem view_owed : (q.view k).owed = true ↔ q.Owed k := by
  simp [view, KeyView.owed, Owed]

theorem view_add (h : q.stopped = false) :
    (q.add key).1.view k = if k = key then (q.view k).added else q.view k := by
  simp only [view, mem_dirty_add h, add_processing, hasPendingRetry, requeues, add_delayed,
    add_failures]
  split
  · next hk => simp [KeyView.added, hk]
  · next hk => simp [hk]

theorem view_take {ss : List Signal} (h : q.take = (q', .key key, ss)) :
    q'.view k = if k = key then (q.view k).taken else q.view k := by
  obtain ⟨-, -, hd, hr⟩ := take_lists h
  obtain ⟨hdelayed, hfailures, -⟩ := take_frame h
  simp only [view, hd, hr, hasPendingRetry, requeues, hdelayed, hfailures]
  split
  · next hk => simp [KeyView.taken, hk]
  · next hk => simp [hk]

/-- What a task finds waits and is not being worked on. -/
theorem view_of_take (hq : q.Sound) {ss : List Signal} (h : q.take = (q', .key key, ss)) :
    (q.view key).dirty = true ∧ (q.view key).working = false := by
  obtain ⟨-, hp, -, -⟩ := take_lists h
  have hm : key ∈ q.pending := by rw [hp]; exact List.mem_cons_self
  exact ⟨by simpa [view] using hq.pending_dirty key hm,
    by simpa [view] using hq.pending_free key hm⟩

theorem view_done (h : q.stopped = false) :
    (q.done key).1.view k = if k = key then (q.view k).finished else q.view k := by
  obtain ⟨-, hd, hr⟩ := done_lists h key
  simp only [view, hd, hr, hasPendingRetry, requeues, done_delayed, done_failures]
  split
  · next hk => simp [KeyView.finished, hk]
  · next hk => simp [hk]

theorem view_forget (q : WorkQueue) (key k : String) :
    (q.forget key).view k = if k = key then (q.view k).forgotten else q.view k := by
  simp only [view, hasPendingRetry_forget, requeues_forget]
  split <;> rfl

theorem view_addRateLimited (h : q.stopped = false) (now : Duration) (key k : String) :
    (q.addRateLimited now key).1.view k = if k = key then (q.view k).retried else q.view k := by
  obtain ⟨-, hd, hr, -⟩ := addRateLimited_frame q now key
  simp only [view, hd, hr, hasPendingRetry_addRateLimited h, requeues_addRateLimited h]
  split
  · next hk => simp [KeyView.retried, hk]
  · next hk => simp [hk]

theorem view_fire (h : q.stopped = false) {d : DelayedAdd} (hd : q.delayed.get? key = some d) :
    (q.fire key d.number).1.view k = if k = key then (q.view k).fired else q.view k := by
  have herase : ({ q with delayed := q.delayed.erase key } : WorkQueue).view k =
      if k = key then { q.view k with delayed := false } else q.view k := by
    simp only [view, hasPendingRetry, Entries.contains, Entries.get?_erase]
    split <;> rfl
  rw [fire_pending hd, view_add (by simpa using h), herase]
  split <;> rfl

/-- A sound queue is idle iff nothing is to be done about any key. -/
theorem idle_iff (hq : q.Sound) (hs : q.stopped = false) :
    q.Idle ↔ ∀ k, (q.view k).busy = false := by
  constructor
  · intro hi k
    have howed := hi.not_owed hq hs k
    rw [← view_owed] at howed
    have hdelayed : (q.view k).delayed = false := by
      simp [view, hasPendingRetry, Entries.contains, hi.delayed]
    simp [KeyView.busy, howed, hdelayed]
  · intro h
    have hfree : ∀ k, k ∉ q.dirty ∧ k ∉ q.processing ∧ q.hasPendingRetry k = false := by
      intro k
      simpa [view, KeyView.busy, KeyView.owed, and_assoc] using h k
    refine ⟨?_, ?_, ?_⟩
    · exact List.eq_nil_iff_forall_not_mem.2 fun k hk => (hfree k).1 (hq.pending_dirty k hk)
    · exact List.eq_nil_iff_forall_not_mem.2 fun k hk => (hfree k).2.1 hk
    · refine Entries.eq_nil_of_get? fun k => ?_
      simpa [hasPendingRetry, Entries.contains] using (hfree k).2.2

/-- In a queue that is not idle somebody works on a key, a key can be taken, or a delayed add is
pending. -/
theorem exists_work (hs : q.stopped = false) (h : ¬ q.Idle) :
    (∃ key, key ∈ q.processing) ∨ (∃ key q' ss, q.take = (q', .key key, ss)) ∨
      ∃ key d, q.delayed.get? key = some d := by
  cases hr : q.processing with
  | cons key rest => exact .inl ⟨key, List.mem_cons_self⟩
  | nil =>
    refine .inr ?_
    cases hp : q.pending with
    | cons key rest => exact .inl ⟨key, by simp [take, hs, hp]⟩
    | nil =>
      refine .inr (Classical.byContradiction fun hnone => h ⟨hp, hr, ?_⟩)
      refine Entries.eq_nil_of_get? fun key => Option.eq_none_iff_forall_ne_some.2 fun d hd => ?_
      exact hnone ⟨key, d, hd⟩

end WorkQueue

theorem Retry.view_handle_ok (q : WorkQueue) (now : Duration) (key k : String) (maxRetries : Nat) :
    (handle q now key (.ok ()) maxRetries).1.view k =
      if k = key then (q.view k).forgotten else q.view k :=
  q.view_forget key k

theorem Retry.view_handle_error {q : WorkQueue} (h : q.stopped = false) (now : Duration)
    (key k : String) (e : PassError) (maxRetries : Nat) :
    (handle q now key (.error e) maxRetries).1.view k =
      if k = key then (q.view k).failed maxRetries else q.view k := by
  unfold handle KeyView.failed
  by_cases hless : q.requeues key < maxRetries
  · simp only [hless, if_true]
    rw [WorkQueue.view_addRateLimited h]
    split
    · next hk => simp [WorkQueue.view, hk, hless]
    · rfl
  · simp only [hless, if_false]
    rw [WorkQueue.view_forget]
    split
    · next hk => simp [WorkQueue.view, hk, hless]
    · rfl

/-- The policy asks for nothing at once and ends no work. -/
theorem Retry.view_handle {q : WorkQueue} (h : q.stopped = false) (now : Duration) (key k : String)
    (result : Except PassError Unit) (maxRetries : Nat) :
    ((handle q now key result maxRetries).1.view k).dirty = (q.view k).dirty ∧
      ((handle q now key result maxRetries).1.view k).working = (q.view k).working := by
  cases result with
  | ok =>
    rw [view_handle_ok]
    split <;> exact ⟨rfl, rfl⟩
  | error e =>
    rw [view_handle_error h]
    split
    · unfold KeyView.failed
      split <;> exact ⟨rfl, rfl⟩
    · exact ⟨rfl, rfl⟩

/-! ## The end of a pass -/

namespace WorkQueue

variable {q : WorkQueue} {key : String}

/-- The end of a pass: the policy is applied to its result, and the work on the key is done. -/
def conclude (q : WorkQueue) (now : Duration) (key : String) (result : Except PassError Unit)
    (maxRetries : Nat) : WorkQueue :=
  ((Retry.handle q now key result maxRetries).1.done key).1

theorem Sound.conclude (h : q.Sound) (hk : key ∈ q.processing) (now : Duration)
    (result : Except PassError Unit) (maxRetries : Nat) :
    (q.conclude now key result maxRetries).Sound := by
  obtain ⟨-, -, hr, -⟩ := Retry.handle_frame q now key result maxRetries
  exact (Retry.sound_handle h now key result maxRetries).done (by rwa [hr])

@[simp] theorem conclude_stopped (q : WorkQueue) (now : Duration) (key : String)
    (result : Except PassError Unit) (maxRetries : Nat) :
    (q.conclude now key result maxRetries).stopped = q.stopped := by
  rw [conclude, done_stopped, (Retry.handle_frame q now key result maxRetries).2.2.2]

theorem view_conclude_ok (h : q.stopped = false) (now : Duration) (key k : String)
    (maxRetries : Nat) : (q.conclude now key (.ok ()) maxRetries).view k =
      if k = key then (q.view k).forgotten.finished else q.view k := by
  have hs := (Retry.handle_frame q now key (.ok ()) maxRetries).2.2.2
  rw [conclude, view_done (hs.trans h), Retry.view_handle_ok]
  split <;> rfl

theorem view_conclude_error (h : q.stopped = false) (now : Duration) (key k : String)
    (e : PassError) (maxRetries : Nat) : (q.conclude now key (.error e) maxRetries).view k =
      if k = key then ((q.view k).failed maxRetries).finished else q.view k := by
  have hs := (Retry.handle_frame q now key (.error e) maxRetries).2.2.2
  rw [conclude, view_done (hs.trans h), Retry.view_handle_error h]
  split <;> rfl

end WorkQueue

end VaultProjection

import VaultProjection.Proofs.Queue.Pair
import VaultProjection.Proofs.Queue.View
import VaultProjection.Proofs.Watch.Shelf

/-!
# What changes queue

A change adds at most its own key to the structural queue, so a resync adds some keys of cached
resources (`dispatch_structural`, `resync_structural`). Where all cached resources have versions, it
queues the keys of all that ask for outputs for drift passes, and nothing else (`resync_eq`).
-/

namespace VaultProjection

/-! ## Adding keys -/

namespace WorkQueue

variable {q : WorkQueue}

/-- Adds keys one after the other. -/
def addAll (q : WorkQueue) (keys : List String) : WorkQueue :=
  keys.foldl (fun q key => (q.add key).1) q

theorem addAll_append (q : WorkQueue) (keys keys' : List String) :
    q.addAll (keys ++ keys') = (q.addAll keys).addAll keys' := List.foldl_append

theorem view_addAll (h : q.stopped = false) (keys : List String) (k : String) :
    (q.addAll keys).view k = if k ∈ keys then (q.view k).added else q.view k := by
  induction keys generalizing q with
  | nil => rfl
  | cons key keys ih =>
    refine (ih ((add_stopped q key).trans h)).trans ?_
    rw [view_add h]
    by_cases hk : k = key <;> by_cases hm : k ∈ keys <;> simp [hk, hm, KeyView.added]

end WorkQueue

namespace Queues

variable {qs : Queues}

/-- Adds keys one after the other. -/
def addAll (qs : Queues) (id : QueueId) (keys : List String) : Queues :=
  keys.foldl (fun qs key => (qs.add id key).1) qs

/-- Both queues are sound and at work. -/
def Sane (qs : Queues) : Prop := ∀ id, (qs.get id).Sound ∧ (qs.get id).stopped = false

theorem sane_empty (backoff : Backoff) : (Queues.empty backoff).Sane := by
  intro id
  cases id <;> exact ⟨.empty _ _, rfl⟩

theorem idle_empty (backoff : Backoff) (id : QueueId) : ((Queues.empty backoff).get id).Idle := by
  cases id <;> exact ⟨rfl, rfl, rfl⟩

theorem Sane.set (h : Sane qs) (id : QueueId) {q : WorkQueue} (hq : q.Sound)
    (hs : q.stopped = false) : Sane (qs.set id q) := by
  intro id'
  rw [get_set]
  split
  · exact ⟨hq, hs⟩
  · exact h id'

theorem Sane.add (h : Sane qs) (id : QueueId) (key : String) : Sane (qs.add id key).1 :=
  h.set id ((h id).1.add key) ((WorkQueue.add_stopped _ _).trans (h id).2)

theorem Sane.addAll (h : Sane qs) (id : QueueId) (keys : List String) :
    Sane (qs.addAll id keys) := by
  induction keys generalizing qs with
  | nil => exact h
  | cons key keys ih => exact ih (h.add id key)

theorem addAll_other {id id' : QueueId} (hne : id' ≠ id) (qs : Queues) (keys : List String) :
    (qs.addAll id keys).get id' = qs.get id' := by
  induction keys generalizing qs with
  | nil => rfl
  | cons key keys ih =>
    refine (ih _).trans ?_
    rw [get_add, if_neg hne]

theorem get_addAll (qs : Queues) (id : QueueId) (keys : List String) :
    (qs.addAll id keys).get id = (qs.get id).addAll keys := by
  induction keys generalizing qs with
  | nil => rfl
  | cons key keys ih =>
    refine (ih _).trans ?_
    rw [get_add_self]
    rfl

theorem view_addAll (h : Sane qs) (id : QueueId) (keys : List String) (k : String) :
    ((qs.addAll id keys).get id).view k =
      if k ∈ keys then ((qs.get id).view k).added else (qs.get id).view k := by
  rw [get_addAll, WorkQueue.view_addAll (h id).2]

theorem Sane.forget (h : Sane qs) (id : QueueId) (key : String) : Sane (qs.forget id key) :=
  h.set id ((h id).1.forget key) (h id).2

/-! ## Changes -/

/-- An update to the version that was there before asks for a drift pass. -/
theorem dispatch_same {r : Resource} {ns name : String} (hn : r.Named ns name)
    (hv : r.metadata.resourceVersion.isSome) (qs : Queues) :
    (qs.dispatch (.updated r r)).1 = if r.hasOutput then (qs.add .drift r.key).1 else qs := by
  have hroute : (Change.updated r r).route = if r.hasOutput then .drift else .drop := by
    simp [Change.route, Change.sameVersion, hv]
  have hkey : Key.join ns name = r.key := hn.key_eq.symm
  unfold dispatch
  simp only [Change.resource, hn.ns_eq, hn.name_eq, hroute, hkey]
  cases r.hasOutput <;> rfl

theorem Sane.dispatch (h : Sane qs) (c : Change) : Sane (qs.dispatch c).1 := by
  unfold Queues.dispatch
  split
  · cases c.route with
    | structural => exact h.add .structural _
    | drift => exact h.add .drift _
    | structuralAndForget => exact (h.add .structural _).forget .drift _
    | drop => exact h
  · exact h

end Queues

/-- The keys that a change adds to the structural queue. -/
def Change.asked (c : Change) : List String :=
  match c.resource.metadata.ns, c.resource.metadata.name with
  | some ns, some name =>
    match c.route with
    | .structural | .structuralAndForget => [Key.join ns name]
    | .drift | .drop => []
  | _, _ => []

theorem Queues.dispatch_structural (qs : Queues) (c : Change) :
    (qs.dispatch c).1.get .structural = (qs.get .structural).addAll c.asked := by
  unfold dispatch Change.asked
  cases c.resource.metadata.ns with
  | none => rfl
  | some ns =>
    cases c.resource.metadata.name with
    | none => rfl
    | some name => cases c.route <;> rfl

namespace Watch.Cache

variable {c : Cache}

theorem resync_structural (c : Cache) (qs : Queues) :
    (c.resync qs).1.get .structural = (qs.get .structural).addAll
      (c.resources.flatMap fun r => (Change.updated r r).asked) := by
  unfold resync
  generalize c.resources = rs
  generalize ([] : List Signal) = ss
  induction rs generalizing qs ss with
  | nil => rfl
  | cons r rs ih =>
    refine (ih _ _).trans ?_
    refine (congrArg (WorkQueue.addAll · _) (Queues.dispatch_structural qs _)).trans ?_
    rw [List.flatMap_cons, WorkQueue.addAll_append]

theorem sane_resync (c : Cache) {qs : Queues} (h : qs.Sane) : (c.resync qs).1.Sane := by
  unfold resync
  generalize c.resources = rs
  generalize ([] : List Signal) = ss
  induction rs generalizing qs ss with
  | nil => exact h
  | cons r rs ih => exact ih (h.dispatch _) _

theorem resync_eq (hn : ∀ r ∈ c.resources, ∃ ns name, r.Named ns name)
    (hv : ∀ r ∈ c.resources, r.metadata.resourceVersion.isSome) (qs : Queues) :
    (c.resync qs).1 =
      qs.addAll .drift ((c.resources.filter (·.hasOutput)).map Resource.key) := by
  unfold resync
  generalize c.resources = rs at hn hv
  generalize ([] : List Signal) = ss
  induction rs generalizing qs ss with
  | nil => rfl
  | cons r rs ih =>
    obtain ⟨ns, name, hnamed⟩ := hn r List.mem_cons_self
    have hstep := Queues.dispatch_same hnamed (hv r List.mem_cons_self) qs
    refine (ih _ (fun r' hr' => hn r' (List.mem_cons_of_mem _ hr'))
      (fun r' hr' => hv r' (List.mem_cons_of_mem _ hr')) _).trans ?_
    refine (congrArg (Queues.addAll · .drift _) hstep).trans ?_
    cases hout : r.hasOutput <;> simp [hout, Queues.addAll]

end Watch.Cache

end VaultProjection

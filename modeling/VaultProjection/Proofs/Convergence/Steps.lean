import VaultProjection.Proofs.Convergence.Passes
import VaultProjection.Proofs.Watch.Resync

/-!
# The controller step by step

The two queues and the world around them. Tasks take keys, run whole passes over the keys they hold
and apply the retry policy, and delayed adds fire, all in any order. `step_cases` says once what a
step can do to the views of its key and to the outputs of the resource behind it; the invariant and
the bound on runs are read off it.
-/

namespace VaultProjection.Convergence

/-! ## Steps -/

structure State (σ : Type) where
  queues : Queues
  world : σ

section

variable {σ : Type}

/-- A whole pass over a key. -/
def State.pass (w : World σ) (maxRetries : Nat) (id : QueueId) (key : String) (now : Duration)
    (s : State σ) : State σ :=
  let (result, queues, world) := Pass.exec w.serve (Pass.ofQueue id key) (s.queues, s.world)
  ⟨queues.set id ((queues.get id).conclude now key result maxRetries), world⟩

/-- What can happen next. A task takes a key, a pass over a key that was taken runs, or a delayed
add fires, whatever the time. -/
inductive Step (w : World σ) (maxRetries : Nat) (s : State σ) : State σ → Prop where
  | take (id : QueueId) {key : String} {q : WorkQueue} {ss : List Signal}
      (found : (s.queues.get id).take = (q, .key key, ss)) :
      Step w maxRetries s ⟨s.queues.set id q, s.world⟩
  | pass (id : QueueId) {key : String} (held : key ∈ (s.queues.get id).processing)
      (now : Duration) : Step w maxRetries s (s.pass w maxRetries id key now)
  | fire (id : QueueId) {key : String} {d : DelayedAdd}
      (pending : (s.queues.get id).delayed.get? key = some d) :
      Step w maxRetries s ⟨s.queues.set id ((s.queues.get id).fire key d.number).1, s.world⟩

/-- Any number of steps. -/
inductive Run (w : World σ) (maxRetries : Nat) (s : State σ) : Nat → State σ → Prop where
  | refl : Run w maxRetries s 0 s
  | step {n : Nat} {s' s'' : State σ} (run : Run w maxRetries s n s')
      (next : Step w maxRetries s' s'') : Run w maxRetries s (n + 1) s''

/-- Both queues are idle. -/
def State.Quiet (s : State σ) : Prop := ∀ id, (s.queues.get id).Idle

/-- What a queue has on a key. -/
def State.view (s : State σ) (id : QueueId) (key : String) : KeyView := (s.queues.get id).view key

/-! ## The setting -/

/-- What the cache, the cluster, the vault and the handlers are assumed to be like. -/
structure Setting (w : World σ) (cache : Watch.Cache) (vault : Vaults) (start : σ) : Prop where
  calm : w.Calm cache vault
  sound : cache.shown.Sound
  named : ∀ r ∈ cache.resources, ∃ ns name, r.Named ns name
  uid : ∀ r ∈ cache.resources, r.metadata.uid.isSome
  version : ∀ r ∈ cache.resources, r.metadata.resourceVersion.isSome
  /-- No two resources ask for the same output. -/
  apart : ∀ r ∈ cache.resources, ∀ r' ∈ cache.resources, r.home = r'.home →
    ∀ d ∈ r.declared, d ∈ r'.declared → r = r'
  /-- Every handler makes data of what the vault holds. -/
  yields : ∀ r ∈ cache.resources, ∀ d ∈ r.declared, ∃ p, Yields vault r d.1 p
  /-- What is there at the start belongs to its resource. -/
  tidy : ∀ r ∈ cache.resources, ∀ owner, r.ownerReference? = some owner →
    ∀ d ∈ r.declared, Tidy w vault r owner r.home d start
  /-- The digest tells a new output from one that holds what the vault holds. -/
  fresh : ∀ r ∈ cache.resources, ∀ d ∈ r.declared, ∀ m p, Yields vault r d.1 p →
    ToldApart (OutputKind.content (Pass.Structural.fresh r m d.1)) p

/-- Some output of the resource is missing. -/
def missing (w : World σ) (r : Resource) (s : σ) : Bool :=
  r.declared.any fun d => (w.object s d.1 r.home d.2).isNone

/-- What a step can do to the key of a resource and to its outputs. -/
inductive Move (w : World σ) (vault : Vaults) (maxRetries : Nat) (r : Resource)
    (owner : Kube.OwnerReference) (s s' : State σ) : Prop where
  | take (id : QueueId) (dirty : (s.view id r.key).dirty = true)
      (free : (s.view id r.key).working = false)
      (views : ∀ id', s'.view id' r.key =
        if id' = id then (s.view id' r.key).taken else s.view id' r.key)
      (world : s'.world = s.world)
  | fire (delayed : (s.view .drift r.key).delayed = true)
      (drift : s'.view .drift r.key = (s.view .drift r.key).fired)
      (structural : s'.view .structural r.key = s.view .structural r.key)
      (world : s'.world = s.world)
  | fill (working : (s.view .structural r.key).working = true)
      (structural : s'.view .structural r.key = (s.view .structural r.key).forgotten.finished)
      (drift : s'.view .drift r.key =
        if missing w r s.world then (s.view .drift r.key).added else s.view .drift r.key)
      (fills : Fills w r owner r.home r.declared s.world s'.world)
      (there : missing w r s'.world = false)
  | sync (working : (s.view .drift r.key).working = true)
      (drift : s'.view .drift r.key = (s.view .drift r.key).forgotten.finished)
      (structural : s'.view .structural r.key = s.view .structural r.key)
      (syncs : Syncs w vault r r.home r.declared s.world s'.world)
      (holds : ∀ d ∈ r.declared, Holds w vault r owner r.home d s'.world)
  | fail (working : (s.view .drift r.key).working = true)
      (drift : s'.view .drift r.key = ((s.view .drift r.key).failed maxRetries).finished)
      (structural : s'.view .structural r.key = (s.view .structural r.key).added)
      (syncs : Syncs w vault r r.home r.declared s.world s'.world)
      (lacks : missing w r s.world = true)

/-- A step that is about one key: the queues stay sane, and all else is as before. -/
structure Concerns (w : World σ) (vault : Vaults) (maxRetries : Nat) (r : Resource)
    (owner : Kube.OwnerReference) (s s' : State σ) : Prop where
  sane : s'.queues.Sane
  otherKeys : ∀ id key, key ≠ r.key → s'.view id key = s.view id key
  move : Move w vault maxRetries r owner s s'

end

/-! ## What a step can do -/

section

variable {σ : Type} {w : World σ} {cache : Watch.Cache} {vault : Vaults} {start : σ}
  {r r' : Resource} {owner : Kube.OwnerReference} {maxRetries : Nat} {s s' : State σ}

theorem missing_iff {s : σ} :
    missing w r s = true ↔ ∃ d ∈ r.declared, w.object s d.1 r.home d.2 = none := by
  simp [missing]

theorem missing_eq_false_iff {s : σ} :
    missing w r s = false ↔ ∀ d ∈ r.declared, w.object s d.1 r.home d.2 ≠ none := by
  simp [missing, Option.isNone_iff_eq_none]

theorem Setting.key_inj (h : Setting w cache vault start) (hr : r ∈ cache.resources)
    (hr' : r' ∈ cache.resources) (hk : r.key = r'.key) : r = r' :=
  Watch.Cache.key_inj h.sound h.named hr hr' hk

/-- A shown resource is found under its key, and it has an owner reference. -/
theorem Setting.find (h : Setting w cache vault start) (hr : r ∈ cache.resources) :
    ∃ name owner, Key.split? r.key = some (r.home, name) ∧
      cache.lookup r.home name = some r ∧ r.ownerReference? = some owner := by
  obtain ⟨ns, name, hn⟩ := h.named r hr
  obtain ⟨uid, huid⟩ := Option.isSome_iff_exists.1 (h.uid r hr)
  have howner : r.ownerReference? = some
      ⟨Resource.apiVersion, none, some true, Resource.kind, name, uid⟩ := by
    simp only [Resource.ownerReference?, hn.name_eq, huid]
  refine ⟨name, _, hn.split?_key, ?_, howner⟩
  rw [hn.home_eq]
  exact Watch.Cache.lookup_of_mem h.sound hr hn

/-- A pass over a resource with outputs in the structural queue. -/
theorem pass_structural (hset : Setting w cache vault start) (hr : r ∈ cache.resources)
    (hout : r.hasOutput = true) (howner : r.ownerReference? = some owner)
    (htidy : ∀ d ∈ r.declared, Tidy w vault r owner r.home d s.world) (maxRetries : Nat)
    (now : Duration) :
    ∃ world' queues', s.pass w maxRetries .structural r.key now =
        ⟨queues'.set .structural
          ((queues'.get .structural).conclude now r.key (.ok ()) maxRetries), world'⟩ ∧
      Fills w r owner r.home r.declared s.world world' ∧ missing w r world' = false ∧
      queues' = if missing w r s.world then (s.queues.add .drift r.key).1 else s.queues := by
  obtain ⟨name, owner', hkey, hfound, howner'⟩ := hset.find hr
  obtain rfl : owner = owner' := by simpa [howner] using howner'
  obtain ⟨queues', world', hrun, hfills, hthere, hkick⟩ := structural_calm hset.calm hkey
    hfound hout howner (fun d hd o ho => (htidy d hd o ho).1) s.queues
  refine ⟨world', queues', ?_, hfills, missing_eq_false_iff.2 hthere, ?_⟩
  · simp only [State.pass, Pass.ofQueue, hrun]
  · rcases hkick with ⟨hall, rfl⟩ | ⟨hsome, rfl⟩
    · rw [missing_eq_false_iff.2 hall]
      rfl
    · rw [missing_iff.2 hsome]
      rfl

/-- A pass over a resource with outputs in the drift queue. -/
theorem pass_drift (hset : Setting w cache vault start) (hr : r ∈ cache.resources)
    (hout : r.hasOutput = true) (howner : r.ownerReference? = some owner)
    (htidy : ∀ d ∈ r.declared, Tidy w vault r owner r.home d s.world) (maxRetries : Nat)
    (now : Duration) :
    (∃ world', s.pass w maxRetries .drift r.key now =
          ⟨s.queues.set .drift
            ((s.queues.get .drift).conclude now r.key (.ok ()) maxRetries), world'⟩ ∧
        Syncs w vault r r.home r.declared s.world world' ∧
        ∀ d ∈ r.declared, Holds w vault r owner r.home d world') ∨
      ∃ e world', s.pass w maxRetries .drift r.key now =
          ⟨(s.queues.add .structural r.key).1.set .drift
            ((s.queues.get .drift).conclude now r.key (.error e) maxRetries), world'⟩ ∧
        Syncs w vault r r.home r.declared s.world world' ∧ missing w r s.world = true := by
  obtain ⟨name, owner', hkey, hfound, howner'⟩ := hset.find hr
  obtain rfl : owner = owner' := by simpa [howner] using howner'
  rcases drift_calm hset.calm hkey hfound hout howner (hset.yields r hr) htidy s.queues with
    ⟨world', hrun, hsyncs, hholds⟩ | ⟨e, world', hrun, hsyncs, hnone⟩
  · refine .inl ⟨world', ?_, hsyncs, hholds⟩
    simp only [State.pass, Pass.ofQueue, hrun]
  · refine .inr ⟨e, world', ?_, hsyncs, missing_iff.2 hnone⟩
    simp only [State.pass, Pass.ofQueue, hrun, Queues.get_add_structural_drift]

/-! ## The invariant -/

/-- What holds from the resync on, however the controller goes on. -/
structure Inv (w : World σ) (cache : Watch.Cache) (vault : Vaults) (s : State σ) : Prop where
  sane : s.queues.Sane
  /-- The queues hold nothing but keys of resources that ask for outputs. -/
  keys : ∀ id key, (s.view id key).busy = true →
    ∃ r ∈ cache.resources, r.hasOutput = true ∧ r.key = key
  /-- No structural pass fails. -/
  noRetry : ∀ key, (s.view .structural key).delayed = false
  tidy : ∀ r ∈ cache.resources, ∀ owner, r.ownerReference? = some owner →
    ∀ d ∈ r.declared, Tidy w vault r owner r.home d s.world
  /-- Either the outputs of a resource are as wanted, or a drift pass is due, or something is
  missing and a structural pass is due. -/
  due : ∀ r ∈ cache.resources, ∀ owner, r.ownerReference? = some owner →
    (∀ d ∈ r.declared, Holds w vault r owner r.home d s.world) ∨
      (s.view .drift r.key).owed = true ∨
      missing w r s.world = true ∧ (s.view .structural r.key).owed = true

/-! ## Step by step -/

theorem concerns_take (hinv : Inv w cache vault s) {id : QueueId} {q : WorkQueue}
    {ss : List Signal} (found : (s.queues.get id).take = (q, .key r.key, ss)) :
    Concerns w vault maxRetries r owner s ⟨s.queues.set id q, s.world⟩ := by
  obtain ⟨hsound, hrunning⟩ := hinv.sane id
  obtain ⟨hdirty, hfree⟩ := WorkQueue.view_of_take hsound found
  have hviews : ∀ id' key', State.view ⟨s.queues.set id q, s.world⟩ id' key' =
      if id' = id ∧ key' = r.key then (s.view id' key').taken else s.view id' key' := by
    intro id' key'
    simp only [State.view, Queues.get_set]
    by_cases hid : id' = id
    · simp [hid, WorkQueue.view_take found]
    · simp [hid]
  constructor
  · exact hinv.sane.set id (hsound.take found) ((WorkQueue.take_frame found).2.2.trans hrunning)
  · intro id' key' hk
    simp [hviews, hk]
  · exact .take id hdirty hfree (fun id' => by simp [hviews]) rfl

theorem concerns_fire (hinv : Inv w cache vault s) {d : DelayedAdd}
    (pending : (s.queues.get .drift).delayed.get? r.key = some d)
    (hdelayed : (s.view .drift r.key).delayed = true) :
    Concerns w vault maxRetries r owner s
      ⟨s.queues.set .drift ((s.queues.get .drift).fire r.key d.number).1, s.world⟩ := by
  obtain ⟨hsound, hrunning⟩ := hinv.sane .drift
  have hview : ∀ key', State.view ⟨s.queues.set .drift
      ((s.queues.get .drift).fire r.key d.number).1, s.world⟩ .drift key' =
      if key' = r.key then (s.view .drift key').fired else s.view .drift key' := by
    intro key'
    simp only [State.view, Queues.get_set_self, WorkQueue.view_fire hrunning pending]
  constructor
  · refine hinv.sane.set .drift (hsound.fire r.key d.number) ?_
    rw [WorkQueue.fire_pending pending, WorkQueue.add_stopped]
    exact hrunning
  · intro id' key' hk
    cases id' with
    | structural => rfl
    | drift => simp [hview, hk]
  · exact .fire hdelayed (by simp [hview]) rfl rfl

theorem concerns_structural (hset : Setting w cache vault start) (hinv : Inv w cache vault s)
    (hr : r ∈ cache.resources) (hout : r.hasOutput = true)
    (howner : r.ownerReference? = some owner)
    (held : r.key ∈ (s.queues.get .structural).processing) (now : Duration) :
    Concerns w vault maxRetries r owner s (s.pass w maxRetries .structural r.key now) := by
  obtain ⟨hsound, hrunning⟩ := hinv.sane .structural
  obtain ⟨world', queues', hpass, hfills, hthere, hqueues⟩ :=
    pass_structural hset hr hout howner (hinv.tidy r hr owner howner) maxRetries now
  have hsame : queues'.get .structural = s.queues.get .structural := by
    rw [hqueues]
    split <;> rfl
  have hsane : queues'.Sane := by
    rw [hqueues]
    split
    · exact hinv.sane.add .drift r.key
    · exact hinv.sane
  have hdrift : ∀ key', (queues'.get .drift).view key' =
      if key' = r.key ∧ missing w r s.world = true then (s.view .drift key').added
      else s.view .drift key' := by
    intro key'
    rw [hqueues]
    by_cases hm : missing w r s.world = true
    · simp [hm, State.view, WorkQueue.view_add (hinv.sane .drift).2]
    · simp [hm, State.view]
  rw [hpass, hsame]
  constructor
  · exact hsane.set .structural (hsound.conclude held now _ _) (by simpa using hrunning)
  · intro id' key' hk
    cases id' with
    | structural => simp [State.view, WorkQueue.view_conclude_ok hrunning, hk]
    | drift => exact (hdrift key').trans (by simp [hk])
  · refine .fill (by simpa [State.view, WorkQueue.view] using held) ?_ ?_ hfills hthere
    · simp [State.view, WorkQueue.view_conclude_ok hrunning]
    · exact (hdrift r.key).trans (by simp)

theorem concerns_drift (hset : Setting w cache vault start) (hinv : Inv w cache vault s)
    (hr : r ∈ cache.resources) (hout : r.hasOutput = true)
    (howner : r.ownerReference? = some owner)
    (held : r.key ∈ (s.queues.get .drift).processing) (now : Duration) :
    Concerns w vault maxRetries r owner s (s.pass w maxRetries .drift r.key now) := by
  obtain ⟨hsound, hrunning⟩ := hinv.sane .drift
  have hworking : (s.view .drift r.key).working = true := by
    simpa [State.view, WorkQueue.view] using held
  rcases pass_drift hset hr hout howner (hinv.tidy r hr owner howner) maxRetries now with
    ⟨world', hpass, hsyncs, hholds⟩ | ⟨e, world', hpass, hsyncs, hmissing⟩
  · rw [hpass]
    constructor
    · exact hinv.sane.set .drift (hsound.conclude held now _ _) (by simpa using hrunning)
    · intro id' key' hk
      cases id' with
      | structural => rfl
      | drift => simp [State.view, WorkQueue.view_conclude_ok hrunning, hk]
    · refine .sync hworking ?_ rfl hsyncs hholds
      simp [State.view, WorkQueue.view_conclude_ok hrunning]
  · have hadd : ∀ key', ((s.queues.get .structural).add r.key).1.view key' =
        if key' = r.key then (s.view .structural key').added else s.view .structural key' :=
      fun key' => WorkQueue.view_add (hinv.sane .structural).2
    rw [hpass]
    constructor
    · exact (hinv.sane.add .structural r.key).set .drift (hsound.conclude held now _ _)
        (by simpa using hrunning)
    · intro id' key' hk
      cases id' with
      | structural => exact (hadd key').trans (by simp [hk])
      | drift => simp [State.view, WorkQueue.view_conclude_error hrunning, hk]
    · refine .fail hworking ?_ ?_ hsyncs hmissing
      · simp [State.view, WorkQueue.view_conclude_error hrunning]
      · exact (hadd r.key).trans (by simp)

/-- What a step can do: it is about one key of a resource with outputs. -/
theorem step_cases (hset : Setting w cache vault start) (hinv : Inv w cache vault s)
    (h : Step w maxRetries s s') :
    ∃ r ∈ cache.resources, ∃ owner, r.ownerReference? = some owner ∧ r.hasOutput = true ∧
      Concerns w vault maxRetries r owner s s' := by
  cases h with
  | @take id key q ss found =>
    obtain ⟨hdirty, -⟩ := WorkQueue.view_of_take (hinv.sane id).1 found
    have hbusy : (s.view id key).busy = true := by
      show ((s.queues.get id).view key).busy = true
      simp [KeyView.busy, KeyView.owed, hdirty]
    obtain ⟨r, hr, hout, rfl⟩ := hinv.keys id key hbusy
    obtain ⟨name, owner, -, -, howner⟩ := hset.find hr
    exact ⟨r, hr, owner, howner, hout, concerns_take hinv found⟩
  | @fire id key d pending =>
    have hdelayed : (s.view id key).delayed = true := by
      simp [State.view, WorkQueue.view, WorkQueue.hasPendingRetry, Entries.contains, pending]
    obtain ⟨r, hr, hout, rfl⟩ := hinv.keys id key (by simp [KeyView.busy, hdelayed])
    obtain ⟨name, owner, -, -, howner⟩ := hset.find hr
    cases id with
    | structural => simp [hinv.noRetry] at hdelayed
    | drift => exact ⟨r, hr, owner, howner, hout, concerns_fire hinv pending hdelayed⟩
  | @pass id key held now =>
    have hworking : (s.view id key).working = true := by
      simpa [State.view, WorkQueue.view] using held
    obtain ⟨r, hr, hout, rfl⟩ := hinv.keys id key (by simp [KeyView.busy, KeyView.owed, hworking])
    obtain ⟨name, owner, -, -, howner⟩ := hset.find hr
    refine ⟨r, hr, owner, howner, hout, ?_⟩
    cases id with
    | structural => exact concerns_structural hset hinv hr hout howner held now
    | drift => exact concerns_drift hset hinv hr hout howner held now

end

end VaultProjection.Convergence

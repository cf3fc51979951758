import VaultProjection.Proofs.Pass.Outputs
import VaultProjection.Proofs.Pass.Transcript
import VaultProjection.Proofs.Queue.Pair
import VaultProjection.Proofs.Watch.Steps

/-!
# A resource without outputs causes no work

The watch loop, the ticks of its timer, the deletion of output objects and the passes of both queues
run side by side. No copy of one resource ever asks for an output. Then no change of it reaches a
queue. Its key may wait all the same, as a deleted object may name the resource as its controller;
but a pass over the key looks at the cache, finds nothing to do, and succeeds.

Results:
1. `quiet_ofQueue`: what a pass asks that finds no resource with outputs.
2. `dispatch_sameOn`, `resync_sameOn`: what changes and ticks leave as it is.
3. `Inv.step`: what every step preserves.
4. `inert_causes_no_work`: all this in every state that can be reached.
-/

namespace VaultProjection

/-! ## What a queue has on one key -/

namespace WorkQueue

variable {q q' q'' : WorkQueue} {key k : String}

/-- The queues have the same on the key. -/
structure SameOn (key : String) (q q' : WorkQueue) : Prop where
  pending : key ∈ q'.pending ↔ key ∈ q.pending
  dirty : key ∈ q'.dirty ↔ key ∈ q.dirty
  processing : key ∈ q'.processing ↔ key ∈ q.processing
  failures : q'.failures.get? key = q.failures.get? key
  delayed : q'.delayed.get? key = q.delayed.get? key

theorem SameOn.refl (key : String) (q : WorkQueue) : SameOn key q q :=
  ⟨.rfl, .rfl, .rfl, rfl, rfl⟩

theorem SameOn.trans (h : SameOn key q q') (h' : SameOn key q' q'') : SameOn key q q'' where
  pending := h'.pending.trans h.pending
  dirty := h'.dirty.trans h.dirty
  processing := h'.processing.trans h.processing
  failures := h'.failures.trans h.failures
  delayed := h'.delayed.trans h.delayed

theorem sameOn_add (hk : key ≠ k) (q : WorkQueue) : SameOn key q (q.add k).1 := by
  obtain ⟨hr, hd, hf, -⟩ := add_frame q k
  cases hs : q.stopped with
  | true =>
    have hq : (q.add k).1 = q := by simp [add, hs]
    rw [hq]
    exact .refl key q
  | false =>
    refine ⟨?_, ?_, by rw [hr], by rw [hf], by rw [hd]⟩
    · rw [(add_lists hs k).1]
      split <;> simp [hk]
    · rw [(add_lists hs k).2]
      split <;> simp [hk]

theorem sameOn_forget (hk : key ≠ k) (q : WorkQueue) : SameOn key q (q.forget k) :=
  ⟨.rfl, .rfl, .rfl, by simp [forget, Entries.get?_erase, hk],
    by simp [forget, Entries.get?_erase, hk]⟩

end WorkQueue

/-! ## Changes that reach no queue -/

/-- The copies that a change speaks of. -/
def Change.copies : Change → List Resource
  | .added r | .deleted r => [r]
  | .updated old new => [old, new]

theorem Change.route_drop {c : Change} (h : ∀ r ∈ c.copies, r.hasOutput = false) :
    c.route = .drop := by
  cases c with
  | added r | deleted r => simp [route, h r (by simp [copies])]
  | updated old new =>
    simp [route, h old (by simp [copies]), h new (by simp [copies])]

namespace Queues

variable {c : Change} {key : String}

theorem dispatch_drop (h : c.route = .drop) (qs : Queues) : (qs.dispatch c).1 = qs := by
  unfold dispatch
  split
  · simp only [h]
  · rfl

/-- A change touches no key but its own, and not even this one if it goes nowhere. -/
theorem dispatch_sameOn
    (h : ∀ ns name, c.resource.metadata.ns = some ns → c.resource.metadata.name = some name →
      Key.join ns name = key → c.route = .drop) (qs : Queues) (id : QueueId) :
    WorkQueue.SameOn key (qs.get id) ((qs.dispatch c).1.get id) := by
  by_cases hdrop : c.route = .drop
  · rw [dispatch_drop hdrop]
    exact .refl key _
  unfold dispatch
  split
  · next ns name hns hname =>
    have hk : key ≠ Key.join ns name := fun hk => hdrop (h ns name hns hname hk.symm)
    have hadd (id' : QueueId) : WorkQueue.SameOn key (qs.get id)
        ((qs.add id' (Key.join ns name)).1.get id) := by
      rw [get_add]
      split
      · next hid => exact hid ▸ WorkQueue.sameOn_add hk _
      · exact .refl key _
    cases hroute : c.route with
    | structural => exact hadd .structural
    | drift => exact hadd .drift
    | drop => exact absurd hroute hdrop
    | structuralAndForget =>
      refine (hadd .structural).trans ?_
      show WorkQueue.SameOn key _ ((Queues.forget _ .drift _).get id)
      unfold Queues.forget
      rw [get_set]
      split
      · next hid => exact hid ▸ WorkQueue.sameOn_forget hk _
      · exact .refl key _
  · exact .refl key _

end Queues

namespace Inert

/-! ## The resource -/

/-- The copy is one of the resource with this namespace and name. -/
def IsCopy (ns name : String) (r : Resource) : Prop :=
  r.metadata.ns = some ns ∧ r.metadata.name = some name

/-- The copy has a namespace, as all that the API server gives, and if it is one of the resource it
asks for no output. -/
def Fits (ns name : String) (r : Resource) : Prop :=
  r.metadata.ns ≠ none ∧ (IsCopy ns name r → r.hasOutput = false)

/-- All that is on the shelf stands at its own place, and fits. -/
def Fine (ns name : String) (s : Watch.Shelf) : Prop :=
  ∀ e ∈ s, e.1 = Watch.Place.of e.2 ∧ Fits ns name e.2

variable {ns name : String} {s : Watch.Shelf} {r : Resource}

theorem Fine.put (h : Fine ns name s) (hr : Fits ns name r) : Fine ns name (s.put r) := by
  intro e he
  rcases (Watch.Shelf.mem_put e).1 he with rfl | ⟨he, -⟩
  · exact ⟨rfl, hr⟩
  · exact h e he

theorem Fine.drop (h : Fine ns name s) (p : Watch.Place) : Fine ns name (s.drop p) :=
  fun e he => h e ((Watch.Shelf.mem_drop e).1 he).1

/-- What is found under the name of the resource is a copy of it. -/
theorem Fine.find? (h : Fine ns name s) (hname : name ≠ "")
    (hfound : s.find? ⟨some ns, name⟩ = some r) : r.hasOutput = false := by
  have hplaced : ∀ e ∈ s, e.1.ns ≠ none := fun e he => by
    rw [(h e he).1]
    exact (h e he).2.1
  obtain ⟨hplace, -, hout⟩ := h _ (Watch.Shelf.mem_of_find? hplaced hfound)
  obtain ⟨hns, hn⟩ := Watch.Place.mk.inj hplace
  refine hout ⟨hns.symm, ?_⟩
  have hn' : name = r.metadata.name.getD "" := hn
  cases hr : r.metadata.name with
  | none => exact absurd (by simpa [hr] using hn') hname
  | some n => simpa [hr, eq_comm] using hn'

/-! ## Passes -/

/-- No look at the cache has found a resource that asks for outputs. -/
def Blank (t : Transcript) : Prop :=
  ∀ ns name (r : Resource), (⟨.lookup ns name, some r⟩ : Exchange) ∈ t → r.hasOutput = false

theorem blank_nil : Blank [] := fun _ _ _ h => absurd h List.not_mem_nil

/-- The request looks at the cache for the resource, or says something. It reads and writes neither
vault nor cluster, records no event and asks for no pass. -/
def Quiet (ns name : String) (q : Request) : Prop :=
  q = .lookup ns name ∨ ∃ m, q = .tell m

theorem guarded_of_not_blank {α : Type} {ok : Transcript → Request → Prop}
    {post : α → Transcript → Prop} {t : Transcript} (ht : ¬ Blank t) (p : Program α) :
    p.Guarded (fun t q => Blank t → ok t q) (fun a t => Blank t → post a t) t := by
  induction p generalizing t with
  | done a => exact fun h => absurd h ht
  | ask q next ih =>
    refine ⟨fun h => absurd h ht, fun answer => ih answer fun h => ht fun ns name r hr => ?_⟩
    exact h ns name r (List.mem_append_left _ hr)

/-- A pass that finds nothing to do looks once, says something at most, and succeeds. -/
theorem quiet_ofQueue (id : QueueId) {key : String} (hkey : Key.split? key = some (ns, name)) :
    (Pass.ofQueue id key).Guarded (fun t q => Blank t → t.length < 2 ∧ Quiet ns name q)
      (fun result t => Blank t → result = .ok ()) [] := by
  -- What a pass does that has looked, and has found nothing to do.
  have htells (m : Signal) (found : Option Resource) :
      (Pass.tell m).Guarded (fun t q => Blank t → t.length < 2 ∧ Quiet ns name q)
        (fun result t => Blank t → result = .ok ()) [⟨.lookup ns name, found⟩] :=
    ⟨fun _ => ⟨Nat.lt_succ_self 1, .inr ⟨m, rfl⟩⟩, fun _ _ => rfl⟩
  have hbusy {r : Resource} (hr : r.hasOutput = true) : ¬ Blank [⟨.lookup ns name, some r⟩] :=
    fun h => absurd (h ns name r List.mem_cons_self) (by simp [hr])
  cases id with
  | structural =>
    show Program.Guarded _ _ (Pass.structural key).run []
    rw [Pass.structural_run hkey]
    refine ⟨fun _ => ⟨Nat.zero_lt_two, .inl rfl⟩, fun found => ?_⟩
    cases found with
    | none => exact htells _ none
    | some r =>
      cases hr : r.hasOutput with
      | true => exact guarded_of_not_blank (hbusy hr) _
      | false =>
        simp only [Pass.Structural.after, hr]
        exact htells _ (some r)
  | drift =>
    show Program.Guarded _ _ (Pass.drift key).run []
    rw [Pass.drift_run hkey]
    refine ⟨fun _ => ⟨Nat.zero_lt_two, .inl rfl⟩, fun found => ?_⟩
    cases found with
    | none => exact htells _ none
    | some r =>
      cases hr : r.hasOutput with
      | true => exact guarded_of_not_blank (hbusy hr) _
      | false =>
        simp only [Pass.Drift.after, hr]
        exact fun _ => rfl

/-! ## The watch and the passes of both queues -/

/-- The object that a notice is about. -/
def object? : Watch.Notice Resource → Option Resource
  | .apply r | .initApply r | .delete r => some r
  | .init | .initDone => none

structure State where
  cache : Watch.Cache
  queues : Queues
  /-- A change that the watch loop is about to send to the queues. -/
  pending : Option Change
  /-- The passes under way, by queue and key. -/
  visits : QueueId → String → Option Coverage.Visit

namespace State

def start (backoff : Backoff) : State := ⟨.empty, .empty backoff, none, fun _ _ => none⟩

def setQueues (s : State) (queues : Queues) : State := { s with queues }

def setQueue (s : State) (id : QueueId) (q : WorkQueue) : State := s.setQueues (s.queues.set id q)

def setVisit (s : State) (id : QueueId) (key : String) (v : Option Coverage.Visit) : State :=
  { s with visits := fun id' k => if id' = id ∧ k = key then v else s.visits id' k }

/-- The queues after a question of a pass. -/
def queuesAfter (s : State) : Request → Queues
  | .enqueue id key => (s.queues.add id key).1
  | _ => s.queues

/-- The cache answers what is asked of it; anything may answer the rest. -/
def Answers (s : State) : (q : Request) → q.Answer → Prop
  | .lookup ns name, found => found = s.cache.lookup ns name
  | _, _ => True

end State

/-- What can happen next, while all copies that the watch shows of the resource ask for no output.
The watch loop applies a notice to the cache, sends on what it means, or shows everything again when
its timer ticks. The deletion of an object is sent on. A worker takes a key from a queue, its pass
gets an answer, the retry policy is applied to its result, and the key is given back. A delayed add
fires. -/
inductive Step (maxRetries : Nat) (ns name : String) (s : State) : State → Prop where
  | notice (n : Watch.Notice Resource) (free : s.pending = none)
      (fits : ∀ r, object? n = some r → Fits ns name r) :
      Step maxRetries ns name s
        { s with cache := (s.cache.apply n).1, pending := (s.cache.apply n).2 }
  | dispatch {c : Change} (pending : s.pending = some c) :
      Step maxRetries ns name s { s.setQueues (s.queues.dispatch c).1 with pending := none }
  | resync (free : s.pending = none) :
      Step maxRetries ns name s (s.setQueues (s.cache.resync s.queues).1)
  | deleted (kind : String) (m : Kube.ObjectMeta) :
      Step maxRetries ns name s (s.setQueues (s.queues.dispatchDeleted kind m).1)
  | take {id : QueueId} {key : String} {q : WorkQueue} {ss : List Signal}
      (found : (s.queues.get id).take = (q, .key key, ss)) :
      Step maxRetries ns name s
        ((s.setQueue id q).setVisit id key (some ⟨[], (Pass.ofQueue id key).run, false⟩))
  | ask {id : QueueId} {key : String} {past : Transcript} {q : Request}
      {next : q.Answer → Program (Except PassError Unit)}
      (asks : s.visits id key = some ⟨past, .ask q next, false⟩) (answer : q.Answer)
      (fits : s.Answers q answer) :
      Step maxRetries ns name s ((s.setQueues (s.queuesAfter q)).setVisit id key
        (some ⟨past ++ [⟨q, answer⟩], next answer, false⟩))
  | handle {id : QueueId} {key : String} {past : Transcript} {result : Except PassError Unit}
      (ends : s.visits id key = some ⟨past, .done result, false⟩) (now : Duration) :
      Step maxRetries ns name s ((s.setQueue id
        (Retry.handle (s.queues.get id) now key result maxRetries).1).setVisit id key
        (some ⟨past, .done result, true⟩))
  | done {id : QueueId} {key : String} {past : Transcript} {result : Except PassError Unit}
      (handled : s.visits id key = some ⟨past, .done result, true⟩) :
      Step maxRetries ns name s
        ((s.setQueue id ((s.queues.get id).done key).1).setVisit id key none)
  | fire {id : QueueId} {key : String} {d : DelayedAdd}
      (pending : (s.queues.get id).delayed.get? key = some d) :
      Step maxRetries ns name s (s.setQueue id ((s.queues.get id).fire key d.number).1)

/-- What can happen from the start. -/
inductive Reached (maxRetries : Nat) (ns name : String) : State → Prop where
  | start (backoff : Backoff) : Reached maxRetries ns name (.start backoff)
  | step {s s' : State} (before : Reached maxRetries ns name s)
      (next : Step maxRetries ns name s s') : Reached maxRetries ns name s'

/-! ## What every step preserves -/

structure Inv (ns name : String) (s : State) : Prop where
  shown : Fine ns name s.cache.shown
  collected : Fine ns name s.cache.collected
  /-- A change of the resource goes nowhere. -/
  pending : ∀ c, s.pending = some c → IsCopy ns name c.resource →
    ∀ r ∈ c.copies, r.hasOutput = false
  visits : ∀ id v, s.visits id (Key.join ns name) = some v →
    (Pass.ofQueue id (Key.join ns name)).run.Reach v.past v.rest ∧ Blank v.past

variable {maxRetries : Nat} {st st' : State}

theorem Inv.start (ns name : String) (backoff : Backoff) : Inv ns name (.start backoff) where
  shown e he := by cases he
  collected e he := by cases he
  pending c hc := by cases hc
  visits id v hv := by cases hv

/-- What a notice means for the resource goes nowhere. -/
theorem Inv.change (h : Inv ns name st) (hname : name ≠ "") {n : Watch.Notice Resource}
    (fits : ∀ r, object? n = some r → Fits ns name r) {c : Change}
    (hc : st.cache.change? n = some c) (hcopy : IsCopy ns name c.resource) :
    ∀ r ∈ c.copies, r.hasOutput = false := by
  have hshows {r : Resource} (hr : Fits ns name r)
      (hc : st.cache.change? (.apply r) = some c) : ∀ r ∈ c.copies, r.hasOutput = false := by
    simp only [Watch.Cache.change?] at hc
    split at hc
    · next old hold =>
      cases hc
      have hr' : IsCopy ns name r := hcopy
      have hplace : Watch.Place.of r = ⟨some ns, name⟩ := by simp [Watch.Place.of, hr'.1, hr'.2]
      rw [hplace] at hold
      simpa [Change.copies] using ⟨h.shown.find? hname hold, hr.2 hcopy⟩
    · cases hc
      simpa [Change.copies] using hr.2 hcopy
  cases n with
  | apply r | initApply r => exact hshows (fits r rfl) hc
  | delete r =>
    cases hc
    simpa [Change.copies] using (fits r rfl).2 hcopy
  | init | initDone => cases hc

theorem Inv.notice (h : Inv ns name st) (hname : name ≠ "") {n : Watch.Notice Resource}
    (fits : ∀ r, object? n = some r → Fits ns name r) :
    Inv ns name { st with cache := (st.cache.apply n).1, pending := (st.cache.apply n).2 } where
  shown := by
    cases n with
    | apply r => exact h.shown.put (fits r rfl)
    | delete r => exact h.shown.drop _
    | initDone => exact h.collected
    | init | initApply => exact h.shown
  collected := by
    cases n with
    | initApply r => exact h.collected.put (fits r rfl)
    | init | initDone => exact fun e he => by cases he
    | apply | delete => exact h.collected
  pending c hc hcopy := h.change hname fits hc hcopy
  visits := h.visits

/-- A pass over the key of the resource looks for it, or says something. -/
theorem Inv.quiet (h : Inv ns name st) (hns : Key.IsPart ns) (hname : Key.IsPart name)
    {id : QueueId} {v : Coverage.Visit} (hv : st.visits id (Key.join ns name) = some v) :
    v.rest.Guarded (fun t q => Blank t → t.length < 2 ∧ Quiet ns name q)
      (fun result t => Blank t → result = .ok ()) v.past := by
  have hquiet := quiet_ofQueue id (Key.split?_join hns hname)
  simpa using Program.Guarded.reach hquiet (h.visits id v hv).1

/-- Where the visits to the key of the resource come from after one visit is changed. -/
theorem Inv.setVisit (h : Inv ns name st) {id : QueueId} {key : String}
    {v : Option Coverage.Visit} (hv : key = Key.join ns name → ∀ v', v = some v' →
      (Pass.ofQueue id key).run.Reach v'.past v'.rest ∧ Blank v'.past) (qs : Queues) :
    Inv ns name ((st.setQueues qs).setVisit id key v) where
  shown := h.shown
  collected := h.collected
  pending := h.pending
  visits id' v' hv' := by
    unfold State.setVisit at hv'
    dsimp only at hv'
    split at hv'
    · next hsame =>
      obtain ⟨rfl, rfl⟩ := hsame
      exact hv rfl v' hv'
    · exact h.visits id' v' hv'

theorem Inv.setQueues (h : Inv ns name st) (qs : Queues) : Inv ns name (st.setQueues qs) :=
  ⟨h.shown, h.collected, h.pending, h.visits⟩

theorem Inv.step (hns : Key.IsPart ns) (hname : Key.IsPart name) (h : Inv ns name st)
    (next : Step maxRetries ns name st st') : Inv ns name st' := by
  cases next with
  | notice n free fits => exact h.notice hname.1 fits
  | @dispatch c pending =>
    exact { h.setQueues (st.queues.dispatch c).1 with pending := fun c hc => by cases hc }
  | resync => exact h.setQueues _
  | deleted => exact h.setQueues _
  | fire => exact h.setQueues _
  | take =>
    refine h.setVisit (fun hkey v' hv' => ?_) _
    cases hv'
    exact ⟨.refl, blank_nil⟩
  | @ask id key past q next asks answer fits =>
    refine h.setVisit (fun hkey v' hv' => ?_) _
    cases hv'
    subst hkey
    obtain ⟨hreach, hblank⟩ := h.visits id _ asks
    obtain ⟨-, hquiet⟩ := (h.quiet hns hname asks).1 hblank
    refine ⟨hreach.step answer, fun ns' name' r hr => ?_⟩
    rcases List.mem_append.1 hr with hr | hr
    · exact hblank ns' name' r hr
    · have heq := List.mem_singleton.1 hr
      cases heq
      obtain ⟨rfl, rfl⟩ : ns' = ns ∧ name' = name := by
        rcases hquiet with hq | ⟨m, hq⟩
        · cases hq
          exact ⟨rfl, rfl⟩
        · cases hq
      exact h.shown.find? hname.1 fits.symm
  | @handle id key past result ends now =>
    refine h.setVisit (fun hkey v' hv' => ?_) _
    cases hv'
    subst hkey
    have hvisit := h.visits id _ ends
    exact hvisit
  | done => exact h.setVisit (fun hkey v' hv' => by cases hv') _

theorem Reached.inv (hns : Key.IsPart ns) (hname : Key.IsPart name)
    (h : Reached maxRetries ns name st) : Inv ns name st := by
  induction h with
  | start backoff => exact .start ns name backoff
  | step before next ih => exact ih.step hns hname next

/-! ## No work -/

theorem Inv.dispatch_sameOn (h : Inv ns name st) (hns : Key.IsPart ns) (hname : Key.IsPart name)
    {c : Change} (hc : st.pending = some c) (id : QueueId) :
    WorkQueue.SameOn (Key.join ns name) (st.queues.get id) ((st.queues.dispatch c).1.get id) := by
  refine Queues.dispatch_sameOn (fun a b ha hb hkey => ?_) st.queues id
  obtain ⟨rfl, rfl⟩ := Key.join_inj hns hname hkey
  exact Change.route_drop (h.pending c hc ⟨ha, hb⟩)

theorem Inv.resync_sameOn (h : Inv ns name st) (hns : Key.IsPart ns) (hname : Key.IsPart name)
    (id : QueueId) : WorkQueue.SameOn (Key.join ns name) (st.queues.get id)
      ((st.cache.resync st.queues).1.get id) := by
  have hinert : ∀ r ∈ st.cache.resources, IsCopy ns name r → r.hasOutput = false := by
    intro r hr
    obtain ⟨e, he, rfl⟩ := List.mem_map.1 hr
    exact (h.shown e he).2.2
  unfold Watch.Cache.resync
  generalize st.cache.resources = rs at hinert
  generalize st.queues = qs
  generalize ([] : List Signal) = ss
  induction rs generalizing qs ss with
  | nil => exact .refl _ _
  | cons r rs ih =>
    refine WorkQueue.SameOn.trans (Queues.dispatch_sameOn (fun a b ha hb hkey => ?_) qs id)
      (ih (fun r' hr' => hinert r' (List.mem_cons_of_mem _ hr')) _ _)
    obtain ⟨rfl, rfl⟩ := Key.join_inj hns hname hkey
    have hout := hinert r List.mem_cons_self ⟨ha, hb⟩
    exact Change.route_drop (by simpa [Change.copies] using hout)

/-- The resource never asks for an output. Then neither its changes nor those of others nor a tick
of the timer touch what the queues have on its key. Every pass over the key, in either queue, asks
at most two questions: it looks at the cache, or says something. If it ends it has succeeded, and
the policy leaves neither failures nor a delayed add. -/
theorem inert_causes_no_work (hns : Key.IsPart ns) (hname : Key.IsPart name)
    (h : Reached maxRetries ns name st) :
    (∀ c, st.pending = some c → ∀ id, WorkQueue.SameOn (Key.join ns name) (st.queues.get id)
        ((st.queues.dispatch c).1.get id)) ∧
      (∀ id, WorkQueue.SameOn (Key.join ns name) (st.queues.get id)
        ((st.cache.resync st.queues).1.get id)) ∧
      ∀ id v, st.visits id (Key.join ns name) = some v →
        (∀ e ∈ v.past, Quiet ns name e.request) ∧
        (∀ q next, v.rest = .ask q next → v.past.length < 2 ∧ Quiet ns name q) ∧
        ∀ result, v.rest = .done result → result = .ok () ∧ ∀ now q outcome ss,
          Retry.handle (st.queues.get id) now (Key.join ns name) result maxRetries =
            (q, outcome, ss) →
          q.failures.get? (Key.join ns name) = none ∧
            q.hasPendingRetry (Key.join ns name) = false := by
  have hinv := h.inv hns hname
  refine ⟨fun c hc => hinv.dispatch_sameOn hns hname hc, hinv.resync_sameOn hns hname,
    fun id v hv => ?_⟩
  obtain ⟨hreach, hblank⟩ := hinv.visits id v hv
  have hquiet := hinv.quiet hns hname hv
  refine ⟨fun e he => ?_, fun q next hrest => ?_, fun result hrest => ?_⟩
  · obtain ⟨before, after, hpast⟩ := List.append_of_mem he
    have hasked := (quiet_ofQueue id (Key.split?_join hns hname)).asked hreach hpast
    refine (hasked fun ns' name' r hr => hblank ns' name' r ?_).2
    rw [hpast]
    exact List.mem_append_left _ hr
  · rw [hrest] at hquiet
    exact hquiet.1 hblank
  · rw [hrest] at hquiet
    obtain rfl : result = .ok () := hquiet hblank
    refine ⟨rfl, fun now q outcome ss hhandle => ?_⟩
    obtain rfl : (st.queues.get id).forget (Key.join ns name) = q := congrArg (·.1) hhandle
    exact ⟨by simp [WorkQueue.forget, Entries.get?_erase],
      by rw [WorkQueue.hasPendingRetry_forget, if_pos rfl]⟩

/-! ## A key that is queued all the same -/

/-- A resource whose only output has no name. -/
def bare : Resource :=
  { Watch.app with spec := { Watch.app.spec with output := ⟨some ⟨"", none, none⟩, none, []⟩ } }

/-- The watch has shown the resource, and its change was sent on. -/
def shown : State :=
  let s : State := { State.start .default with cache := ⟨[(.of bare, bare)], []⟩ }
  { s.setQueues (s.queues.dispatch (.added bare)).1 with pending := none }

/-- The metadata of an object that names the resource as its controller. -/
def orphan : Kube.ObjectMeta :=
  { Kube.ObjectMeta.empty with
    ns := some "prod"
    ownerReferences := some [Watch.appOwner] }

/-- The object is deleted. -/
def orphaned : State := shown.setQueues (shown.queues.dispatchDeleted "ConfigMap" orphan).1

/-- A worker has taken the key. -/
def taken : State :=
  (orphaned.setQueue .structural (orphaned.queues.get .structural).take.1).setVisit .structural
    "prod/app" (some ⟨[], (Pass.structural "prod/app").run, false⟩)

/-- The pass has found the resource. -/
def found : State :=
  taken.setVisit .structural "prod/app" (some ⟨[⟨.lookup "prod" "app", some bare⟩],
    (Pass.Structural.after "prod/app" "prod" (some bare)).run, false⟩)

theorem reached_found : Reached 5 "prod" "app" found := by
  have hfits : ∀ r, object? (.apply bare) = some r → Fits "prod" "app" r := by
    rintro r ⟨⟩
    exact ⟨by decide, fun _ => rfl⟩
  have hshown : Reached 5 "prod" "app" shown :=
    .step (.step (.start .default) (.notice (.apply bare) rfl hfits)) (.dispatch rfl)
  have hqueued := hshown.step (.deleted "ConfigMap" orphan)
  have htaken : Reached 5 "prod" "app" taken := hqueued.step (.take rfl)
  have hkey : Key.split? "prod/app" = some ("prod", "app") := by decide
  have hasks : taken.visits .structural "prod/app" = some ⟨[], .ask (.lookup "prod" "app")
      fun found => (Pass.Structural.after "prod/app" "prod" found).run, false⟩ :=
    congrArg (fun p => some (Coverage.Visit.mk [] p false)) (Pass.structural_run hkey)
  exact .step htaken (.ask hasks (some bare : Option Resource) rfl)

/-- The key of the resource is queued by the deletion; the pass over it looks, has nothing to do and
succeeds, and nothing is left of it. -/
theorem inert_causes_no_work_orphan : ∃ (s : State) (past : Transcript),
    Reached 5 "prod" "app" s ∧
      s.visits .structural "prod/app" = some ⟨past, .done (.ok ()), false⟩ ∧
      (∀ e ∈ past, Quiet "prod" "app" e.request) ∧
      ∃ q ss, Retry.handle (s.queues.get .structural) .zero "prod/app" (.ok ()) 5 =
          (q, .synced, ss) ∧
        q.failures.get? "prod/app" = none ∧ q.hasPendingRetry "prod/app" = false := by
  have htells : found.visits .structural "prod/app" = some ⟨[⟨.lookup "prod" "app", some bare⟩],
      .ask (.tell (.say .debug .outputPass
        "AzureKeyVaultSecret has no output, nothing to reconcile" [.text "key" "prod/app"]))
        fun _ => .done (.ok ()), false⟩ := rfl
  have htold := Reached.step reached_found (.ask htells () trivial)
  obtain ⟨-, -, hvisits⟩ := inert_causes_no_work (by decide) (by decide) htold
  obtain ⟨hquiet, -, hends⟩ := hvisits .structural _ rfl
  obtain ⟨-, hclear⟩ := hends (.ok ()) rfl
  exact ⟨_, _, htold, rfl, hquiet, _, _, rfl, hclear .zero _ _ _ rfl⟩

end Inert

end VaultProjection

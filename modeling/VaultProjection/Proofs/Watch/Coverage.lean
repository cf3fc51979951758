import VaultProjection.Proofs.Pass.Ownership
import VaultProjection.Proofs.Watch.Resync
import VaultProjection.Proofs.Watch.Steps

/-!
# Which announced resources are read

The watch announces a resource and queues its key; a structural pass that takes the key reads the
cache. What the watch shows at once is in the cache before its key is queued. What a list shows is
queued at once too, but it comes into the cache when the list is complete: a pass that is over by
then has read the cache without it, and nothing queues the key again.

Results:
1. `Inv.step`: what every step preserves, whatever the order of notices, resyncs, passes and
   retries.
2. `read_iff`: where the structural queue is idle, an announced resource was read exactly if it was
   not overlooked in this way.
3. `overlooked_listed`: the first list can overlook a resource.
-/

namespace VaultProjection

namespace Coverage

/-! ## The invariant -/

structure Inv (s : State) : Prop where
  sane : s.queues.Sane
  shown : s.cache.shown.Sound
  collected : s.cache.collected.Sound
  shown_seen : ∀ r ∈ s.cache.resources, r ∈ s.seen
  shown_held : ∀ r ∈ s.cache.resources, r ∈ s.held
  collected_seen : ∀ r ∈ s.cache.collected.map (·.2), r ∈ s.seen
  named : ∀ r ∈ s.seen, ∃ ns name, r.Named ns name
  faithful : ∀ r ∈ s.seen, ∀ r' ∈ s.seen, r.key = r'.key → Change.sameVersion r r' = true → r = r'
  visits : ∀ key v, s.visits key = some v →
    (s.view key).working = true ∧ (Pass.structural key).run.Reach v.past v.rest
  pending : ∀ c, s.pending = some c → ∀ r ∈ State.announces c, ∃ ns name, r.Named ns name
  /-- A copy that was announced and is shown was read, is due to be read, was overlooked, or is just
  being announced again. -/
  covered : ∀ r ∈ s.cache.resources, r.hasOutput = true → r ∈ s.announced →
    s.Due r.key ∨ s.Read r ∨ s.overlooked r ∨ ∃ c, s.pending = some c ∧ r ∈ State.announces c
  looked : ∀ e ∈ s.readings, ∀ r ∈ e.held, r ∈ s.held
  /-- What was overlooked is not read until its key is queued again. -/
  overlooked : ∀ r, s.overlooked r → ¬ s.Due r.key ∧ ¬ s.Read r

variable {s s' : State} {r : Resource} {maxRetries : Nat}

/-! ## Steps that keep what is due -/

/-- Keys may be queued at any time. -/
theorem Inv.queued (h : Inv s) {qs : Queues} (sane : qs.Sane)
    (dirty : ∀ k, (s.view k).dirty = true → ((qs.get .structural).view k).dirty = true)
    (working : ∀ k, (s.view k).working = true → ((qs.get .structural).view k).working = true) :
    Inv (s.queued qs) where
  sane := sane
  shown := h.shown
  collected := h.collected
  shown_seen := h.shown_seen
  shown_held := h.shown_held
  collected_seen := h.collected_seen
  named := h.named
  faithful := h.faithful
  visits key v hv := ⟨working key (h.visits key v hv).1, (h.visits key v hv).2⟩
  pending := h.pending
  covered r hr hout hann := by
    rcases h.covered r hr hout hann with (hdue | hdue) | hread | hover | hpending
    · exact .inl (.inl (dirty _ hdue))
    · exact .inl (.inr hdue)
    · exact .inr (.inl hread)
    · cases hd : ((qs.get .structural).view r.key).dirty with
      | true => exact .inl (.inl hd)
      | false => exact .inr (.inr (.inl ⟨hover, hd⟩))
    · exact .inr (.inr (.inr hpending))
  looked := h.looked
  overlooked r := by
    rintro ⟨hover, hclean⟩
    obtain ⟨hdue, hread⟩ := h.overlooked r hover
    refine ⟨?_, hread⟩
    rintro (hd | hvisit)
    · exact absurd (hclean.symm.trans hd) (by decide)
    · exact hdue (.inr hvisit)

theorem Inv.addAll (h : Inv s) (keys : List String) {qs : Queues} (sane : qs.Sane)
    (hqs : qs.get .structural = (s.queues.get .structural).addAll keys) : Inv (s.queued qs) := by
  have hview : ∀ k, (qs.get .structural).view k =
      if k ∈ keys then (s.view k).added else s.view k := by
    intro k
    rw [hqs, WorkQueue.view_addAll (h.sane _).2]
    rfl
  refine h.queued sane (fun k hk => ?_) fun k hk => ?_
  · rw [hview]
    split
    · rfl
    · exact hk
  · rw [hview]
    split
    · exact hk
    · exact hk

theorem Inv.fire (h : Inv s) {key : String} {d : DelayedAdd}
    (pending : (s.queues.get .structural).delayed.get? key = some d) :
    Inv (s.queued (s.queues.set .structural
      ((s.queues.get .structural).fire key d.number).1)) := by
  have hview := fun k => WorkQueue.view_fire (k := k) (h.sane .structural).2 pending
  have hstop : ((s.queues.get .structural).fire key d.number).1.stopped = false := by
    rw [WorkQueue.fire_pending pending, WorkQueue.add_stopped]
    exact (h.sane .structural).2
  refine h.queued (h.sane.set _ ((h.sane .structural).1.fire key _) hstop) (fun k hk => ?_)
    fun k hk => ?_
  · rw [Queues.get_set_self, hview]
    split
    · rfl
    · exact hk
  · rw [Queues.get_set_self, hview]
    split
    · exact hk
    · exact hk

/-! ## A visit to the cache -/

theorem State.setVisit_cases {key k : String} {o : Option Visit} {v : Visit}
    (h : (s.setVisit key o).visits k = some v) :
    k = key ∧ o = some v ∨ k ≠ key ∧ s.visits k = some v := by
  unfold State.setVisit at h
  dsimp only at h
  split at h
  · next hk => exact .inl ⟨hk, h⟩
  · next hk => exact .inr ⟨hk, h⟩

/-- The cache is read where it is looked up, and only there. -/
theorem State.mem_readingsOf {key : String} {q : Request} {e : Reading}
    (he : e ∈ s.readingsOf key q) :
    ∃ ns name, q = .lookup ns name ∧ e = ⟨key, s.cache.lookup ns name, s.held⟩ := by
  cases q with
  | lookup ns name => exact ⟨ns, name, rfl, List.mem_singleton.1 he⟩
  | get | create | update | getDeclaring | updateStatus | readVault | record | enqueue | now
  | tell => cases he

theorem Inv.take (h : Inv s) {key : String} {q : WorkQueue} {ss : List Signal}
    (found : (s.queues.get .structural).take = (q, .key key, ss)) :
    Inv ((s.queued (s.queues.set .structural q)).setVisit key
      (some ⟨[], (Pass.structural key).run, false⟩)) := by
  obtain ⟨hsound, hworks⟩ := h.sane .structural
  have hstop : q.stopped = false := (WorkQueue.take_frame found).2.2.trans hworks
  have hview : ∀ k, ((s.queued (s.queues.set .structural q)).setVisit key
      (some ⟨[], (Pass.structural key).run, false⟩)).view k =
        if k = key then (s.view k).taken else s.view k := fun k => WorkQueue.view_take found
  have hdirty : (s.view key).dirty = true := (WorkQueue.view_of_take hsound found).1
  refine { h with
    sane := h.sane.set _ (hsound.take found) hstop
    visits := ?_
    covered := ?_
    overlooked := ?_ }
  · intro k v hv
    rw [hview]
    rcases State.setVisit_cases hv with ⟨rfl, ho⟩ | ⟨hk, hv⟩
    · cases ho
      rw [if_pos rfl]
      exact ⟨rfl, .refl⟩
    · rw [if_neg hk]
      exact h.visits k v hv
  · intro r hr hout hann
    by_cases hk : r.key = key
    · exact .inl (.inr ⟨⟨[], _, false⟩, if_pos hk, rfl⟩)
    · rcases h.covered r hr hout hann with (hdue | ⟨v, hv, hpast⟩) | hread | hover | hpending
      · refine .inl (.inl ?_)
        rw [hview, if_neg hk]
        exact hdue
      · exact .inl (.inr ⟨v, (if_neg hk).trans hv, hpast⟩)
      · exact .inr (.inl hread)
      · refine .inr (.inr (.inl ⟨hover, ?_⟩))
        have hclean : (s.view r.key).dirty = false :=
          Bool.eq_false_iff.2 fun hd => (h.overlooked r hover).1 (.inl hd)
        exact (congrArg KeyView.dirty ((hview r.key).trans (if_neg hk))).trans hclean
      · exact .inr (.inr (.inr hpending))
  · rintro r ⟨hover, -⟩
    obtain ⟨hdue, hread⟩ := h.overlooked r hover
    have hk : r.key ≠ key := fun hk => hdue (.inl (hk ▸ hdirty))
    refine ⟨?_, hread⟩
    rintro (hd | ⟨v, hv, hpast⟩)
    · rw [hview, if_neg hk] at hd
      exact hdue (.inl hd)
    · exact hdue (.inr ⟨v, (if_neg hk).symm.trans hv, hpast⟩)

/-- The pass over the key of a resource that has asked nothing is about to read the cache. -/
theorem Inv.reads (h : Inv s) (hr : r ∈ s.seen) {v : Visit} (hv : s.visits r.key = some v)
    (hpast : v.past = []) :
    ∃ ns name next, r.Named ns name ∧ v.rest = .ask (.lookup ns name) next := by
  obtain ⟨ns, name, hn⟩ := h.named r hr
  have hreach := (h.visits r.key v hv).2
  rw [hpast] at hreach
  have hhome : r.Named r.home name := by
    rw [hn.home_eq]
    exact hn
  exact ⟨r.home, name, _, hhome, hreach.eq_of_nil.trans (Pass.structural_run hn.split?_key)⟩

theorem Inv.handle (h : Inv s) {key : String} {past : Transcript} {result : Except PassError Unit}
    (ends : s.visits key = some ⟨past, .done result, false⟩) (now : Duration) (maxRetries : Nat) :
    Inv ((s.queued (s.queues.set .structural (Retry.handle
      (s.queues.get .structural) now key result maxRetries).1)).setVisit key
      (some ⟨past, .done result, true⟩)) := by
  obtain ⟨hsound, hworks⟩ := h.sane .structural
  have hview := fun k => Retry.view_handle hworks now key k result maxRetries
  have hframe := Retry.handle_frame (s.queues.get .structural) now key result maxRetries
  have hq := h.queued (h.sane.set .structural (Retry.sound_handle hsound now key result maxRetries)
    (hframe.2.2.2.trans hworks))
    (fun k hk => (hview k).1.trans hk) (fun k hk => (hview k).2.trans hk)
  -- The visit has asked what it had asked before.
  have hfresh : ∀ k, (∃ v, (if k = key then some (Visit.mk past (.done result) true)
      else s.visits k) = some v ∧ v.past = []) ↔ ∃ v, s.visits k = some v ∧ v.past = [] := by
    intro k
    by_cases hk : k = key
    · rw [if_pos hk, hk, ends]
      simp
    · rw [if_neg hk]
  refine { hq with
    visits := ?_
    covered := ?_
    overlooked := ?_ }
  · intro k v hv
    rcases State.setVisit_cases hv with ⟨rfl, ho⟩ | ⟨-, hv⟩
    · cases ho
      exact ⟨(hq.visits k _ ends).1, (hq.visits k _ ends).2⟩
    · exact hq.visits k v hv
  · intro r hr hout hann
    exact (hq.covered r hr hout hann).imp_left (Or.imp_right (hfresh r.key).2)
  · intro r hover
    obtain ⟨hdue, hread⟩ := hq.overlooked r hover
    exact ⟨fun hd => hdue (hd.imp_right (hfresh r.key).1), hread⟩

theorem Inv.done (h : Inv s) {key : String} {past : Transcript} {result : Except PassError Unit}
    (handled : s.visits key = some ⟨past, .done result, true⟩) :
    Inv ((s.queued (s.queues.set .structural
      ((s.queues.get .structural).done key).1)).setVisit key none) := by
  obtain ⟨hsound, hworks⟩ := h.sane .structural
  have hview : ∀ k, ((s.queues.get .structural).done key).1.view k =
      if k = key then (s.view k).finished else s.view k := fun k => WorkQueue.view_done hworks
  have hdirty : ∀ k, (((s.queues.get .structural).done key).1.view k).dirty =
      (s.view k).dirty := by
    intro k
    rw [hview]
    split <;> rfl
  have hproc : key ∈ (s.queues.get .structural).processing := by
    simpa [State.view, WorkQueue.view] using (h.visits key _ handled).1
  refine { h with
    sane := h.sane.set _ (hsound.done hproc) ((WorkQueue.done_stopped ..).trans hworks)
    visits := ?_
    covered := ?_
    overlooked := ?_ }
  · intro k v hv
    rcases State.setVisit_cases hv with ⟨-, ho⟩ | ⟨hk, hv⟩
    · cases ho
    · have hkeeps := congrArg KeyView.working ((hview k).trans (if_neg hk))
      exact ⟨hkeeps.trans (h.visits k v hv).1, (h.visits k v hv).2⟩
  · intro r hr hout hann
    rcases h.covered r hr hout hann with (hdue | ⟨v, hv, hpast⟩) | hread | hover | hpending
    · exact .inl (.inl ((hdirty r.key).trans hdue))
    · have hk : r.key ≠ key := by
        rintro rfl
        obtain ⟨ns, name, next, -, hrest⟩ := h.reads (h.shown_seen r hr) hv hpast
        cases handled.symm.trans hv
        cases hrest
      exact .inl (.inr ⟨v, (if_neg hk).trans hv, hpast⟩)
    · exact .inr (.inl hread)
    · refine .inr (.inr (.inl ⟨hover, (hdirty r.key).trans ?_⟩))
      exact Bool.eq_false_iff.2 fun hd => (h.overlooked r hover).1 (.inl hd)
    · exact .inr (.inr (.inr hpending))
  · rintro r ⟨hover, -⟩
    obtain ⟨hdue, hread⟩ := h.overlooked r hover
    refine ⟨?_, hread⟩
    rintro (hd | ⟨v, hv, hpast⟩)
    · exact hdue (.inl ((hdirty r.key).symm.trans hd))
    · rcases State.setVisit_cases hv with ⟨-, ho⟩ | ⟨-, hv⟩
      · cases ho
      · exact hdue (.inr ⟨v, hv, hpast⟩)

theorem Inv.queuesAfter (h : Inv s) (r : Request) : Inv (s.queued (s.queuesAfter r)) := by
  unfold State.queuesAfter
  split
  · next id key =>
    cases id with
    | structural => exact h.addAll [key] (h.sane.add _ _) (Queues.get_add_self ..)
    | drift => exact h.addAll [] (h.sane.add _ _) rfl
  · exact h.addAll [] h.sane rfl

theorem Inv.ask (h : Inv s) {key : String} {past : Transcript} {r : Request}
    {next : r.Answer → Program (Except PassError Unit)}
    (asks : s.visits key = some ⟨past, .ask r next, false⟩) (answer : r.Answer) :
    Inv (s.asked key past r answer (next answer)) := by
  have hq := h.queuesAfter r
  have hreach := (h.visits key _ asks).2
  have hvisit : ∀ k v, (s.asked key past r answer (next answer)).visits k = some v →
      v.past = [] → k ≠ key ∧ s.visits k = some v := by
    intro k v hv hpast
    rcases State.setVisit_cases hv with ⟨-, ho⟩ | hother
    · cases ho
      simp at hpast
    · exact hother
  refine { hq with
    visits := ?_
    covered := ?_
    looked := ?_
    overlooked := ?_ }
  · intro k v hv
    rcases State.setVisit_cases hv with ⟨rfl, ho⟩ | ⟨-, hv⟩
    · cases ho
      exact ⟨(hq.visits k _ asks).1, hreach.step answer⟩
    · exact hq.visits k v hv
  · intro r' hr hout hann
    rcases hq.covered r' hr hout hann with (hdue | ⟨v, hv, hpast⟩) | ⟨e, he, hread⟩ | hrest
    · exact .inl (.inl hdue)
    · by_cases hk : r'.key = key
      · -- What the pass asks first is the look at the cache.
        obtain ⟨ns, name, f, hn, hrest⟩ := h.reads (h.shown_seen r' hr) hv hpast
        cases (hk ▸ hv).symm.trans asks
        cases hrest
        have hfound : s.cache.lookup ns name = some r' := Watch.Cache.lookup_of_mem h.shown hr hn
        exact .inr (.inl ⟨⟨key, s.cache.lookup ns name, s.held⟩,
          List.mem_append_right _ List.mem_cons_self, hk.symm, by rw [hfound]; rfl,
          h.shown_held r' hr⟩)
      · exact .inl (.inr ⟨v, (if_neg hk).trans hv, hpast⟩)
    · exact .inr (.inl ⟨e, List.mem_append_left _ he, hread⟩)
    · exact .inr (.inr hrest)
  · intro e he r' hheld
    rcases List.mem_append.1 he with he | he
    · exact h.looked e he r' hheld
    · obtain ⟨ns, name, rfl, rfl⟩ := State.mem_readingsOf he
      exact hheld
  · intro r' hover
    obtain ⟨hdue, hread⟩ := hq.overlooked r' hover
    constructor
    · rintro (hd | ⟨v, hv, hpast⟩)
      · exact hdue (.inl hd)
      · exact hdue (.inr ⟨v, (hvisit _ v hv hpast).2, hpast⟩)
    · rintro ⟨e, he, hkey, hheld⟩
      rcases List.mem_append.1 he with he | he
      · exact hread ⟨e, he, hkey, hheld⟩
      · -- No pass looks at the cache twice.
        obtain ⟨ns, name, rfl, rfl⟩ := State.mem_readingsOf he
        have hfirst : past = [] := (Program.Guarded.reach (Pass.lawful_structural key) hreach).1
        exact hdue (.inr ⟨_, (congrArg s.visits hkey).symm.trans asks, hfirst⟩)

/-! ## Notices -/

theorem sameVersion_comm {a b : Resource} (h : Change.sameVersion a b = true) :
    Change.sameVersion b a = true := by
  simp only [Change.sameVersion, Bool.and_eq_true, beq_iff_eq] at h ⊢
  exact ⟨h.2 ▸ h.1, h.2.symm⟩

/-- Where the resource comes from that the cache shows after a notice. -/
theorem mem_step {c : Watch.Cache} {n : Watch.Notice Resource} (h : r ∈ (c.step n).resources) :
    r ∈ c.resources ∨ n.copy? = some r ∨ n = .initDone ∧ r ∈ c.collected.map (·.2) := by
  obtain ⟨e, he, rfl⟩ := List.mem_map.1 h
  cases n with
  | init => exact .inl (List.mem_map_of_mem he)
  | initApply a => exact .inl (List.mem_map_of_mem he)
  | initDone => exact .inr (.inr ⟨rfl, List.mem_map_of_mem he⟩)
  | apply a =>
    rcases (Watch.Shelf.mem_put e).1 he with rfl | ⟨he, -⟩
    · exact .inr (.inl rfl)
    · exact .inl (List.mem_map_of_mem he)
  | delete a => exact .inl (List.mem_map_of_mem ((Watch.Shelf.mem_drop e).1 he).1)

theorem mem_step_collected {c : Watch.Cache} {n : Watch.Notice Resource}
    (h : r ∈ (c.step n).collected.map (·.2)) :
    r ∈ c.collected.map (·.2) ∨ n.copy? = some r := by
  obtain ⟨e, he, rfl⟩ := List.mem_map.1 h
  cases n with
  | init | initDone => cases he
  | apply a | delete a => exact .inl (List.mem_map_of_mem he)
  | initApply a =>
    rcases (Watch.Shelf.mem_put e).1 he with rfl | ⟨he, -⟩
    · exact .inr rfl
    · exact .inl (List.mem_map_of_mem he)

theorem sound_step {c : Watch.Cache} (hs : c.shown.Sound) (hc : c.collected.Sound)
    (n : Watch.Notice Resource) : (c.step n).shown.Sound ∧ (c.step n).collected.Sound := by
  cases n with
  | init => exact ⟨hs, .nil⟩
  | initApply a => exact ⟨hs, hc.put a⟩
  | initDone => exact ⟨hc, .nil⟩
  | apply a => exact ⟨hs.put a, hc⟩
  | delete a => exact ⟨hs.drop _, hc⟩

/-- What a shown copy means depends on what stands in its place. -/
theorem change?_of_copy? (c : Watch.Cache) {n : Watch.Notice Resource} (h : n.copy? = some r) :
    c.change? n = some ((c.shown.find? (.of r)).elim (.added r) (.updated · r)) := by
  cases n with
  | apply a | initApply a =>
    cases h
    simp only [Watch.Cache.change?]
    cases c.shown.find? (.of r) <;> rfl
  | init | initDone | delete => cases h

/-- What is announced was shown by the notice. -/
theorem copy?_of_announces {n : Watch.Notice Resource} {c : Change} {cache : Watch.Cache}
    (hc : cache.change? n = some c) (hr : r ∈ State.announces c) : n.copy? = some r := by
  cases hn : n.copy? with
  | none =>
    cases n with
    | init | initDone => cases hc
    | apply | initApply => cases hn
    | delete a =>
      cases hc
      cases hr
  | some a =>
    rw [change?_of_copy? cache hn] at hc
    cases Option.some.inj hc
    cases hfind : cache.shown.find? (.of a) with
    | none =>
      rw [hfind] at hr
      exact congrArg some (List.mem_singleton.1 hr).symm
    | some old =>
      rw [hfind, Option.elim_some, State.announces] at hr
      split at hr
      · cases hr
      · exact congrArg some (List.mem_singleton.1 hr).symm

/-- What is announced and asks for outputs has its key queued. -/
theorem asked_of_announces {ns name : String} {c : Change} (hn : r.Named ns name)
    (hout : r.hasOutput = true) (hr : r ∈ State.announces c) : r.key ∈ c.asked := by
  have hkey := hn.key_eq
  cases c with
  | added a =>
    obtain rfl := List.mem_singleton.1 hr
    simp [Change.asked, Change.resource, hn.ns_eq, hn.name_eq, Change.route, hout, hkey]
  | updated old a =>
    simp only [State.announces] at hr
    split at hr
    · cases hr
    · next hv =>
      obtain rfl := List.mem_singleton.1 hr
      simp [Change.asked, Change.resource, hn.ns_eq, hn.name_eq, Change.route, hout, hv, hkey]
  | deleted a => cases hr

/-- What a notice shows was in the cache before, or it is announced. -/
theorem Inv.announced_of_copy? (h : Inv s) {n : Watch.Notice Resource} (hr : n.copy? = some r)
    (fits : s.Fits r) :
    r ∈ s.cache.resources ∨ ∃ c, s.cache.change? n = some c ∧ r ∈ State.announces c := by
  obtain ⟨⟨ns, name, hn⟩, hfaithful⟩ := fits
  rw [change?_of_copy? s.cache hr]
  cases hfind : s.cache.shown.find? (.of r) with
  | none => exact .inr ⟨_, rfl, List.mem_cons_self⟩
  | some old =>
    cases hv : Change.sameVersion old r with
    | false => exact .inr ⟨_, rfl, by simp [State.announces, hv]⟩
    | true =>
      -- What is found has the same key, as everything in the cache has a namespace.
      have hmem : (Watch.Place.of r, old) ∈ s.cache.shown := by
        rw [Watch.Place.of_named hn] at hfind ⊢
        refine Watch.Shelf.mem_of_find? (fun e he => ?_) hfind
        obtain ⟨ns', name', hn'⟩ := h.named e.2 (h.shown_seen _ (List.mem_map_of_mem he))
        rw [h.shown.own_place e he, Watch.Place.of_named hn']
        exact Option.some_ne_none ns'
      have hold : old ∈ s.cache.resources := List.mem_map_of_mem hmem
      have hkey : old.key = r.key := by
        obtain ⟨ns', name', hn'⟩ := h.named old (h.shown_seen old hold)
        have hplace : Watch.Place.of r = Watch.Place.of old := h.shown.own_place _ hmem
        rw [Watch.Place.of_named hn, Watch.Place.of_named hn'] at hplace
        cases hplace
        rw [hn.key_eq, hn'.key_eq]
      rw [← hfaithful old (h.shown_seen old hold) hkey hv]
      exact .inl hold

theorem Inv.notice (h : Inv s) {n : Watch.Notice Resource} (free : s.pending = none)
    (fits : ∀ r, n.copy? = some r → s.Fits r) : Inv (s.notice n) := by
  have hseen : ∀ r, r ∈ s.seen ∨ n.copy? = some r → r ∈ s.seen ++ n.copy?.toList := by
    rintro r (hr | hr)
    · exact List.mem_append_left _ hr
    · exact List.mem_append_right _ (Option.mem_toList.2 hr)
  have hcases : ∀ r ∈ s.seen ++ n.copy?.toList, r ∈ s.seen ∨ n.copy? = some r := by
    intro r hr
    exact (List.mem_append.1 hr).imp_right Option.mem_toList.1
  refine { h with
    shown := (sound_step h.shown h.collected n).1
    collected := (sound_step h.shown h.collected n).2
    shown_seen := ?_
    shown_held := fun r hr => List.mem_append_right _ hr
    collected_seen := fun r hr => hseen r ((mem_step_collected hr).imp_left (h.collected_seen r))
    named := fun r hr => (hcases r hr).elim (h.named r) fun hr => (fits r hr).1
    faithful := ?_
    pending := fun c hc r hr => (fits r (copy?_of_announces hc hr)).1
    covered := ?_
    looked := fun e he r hheld => List.mem_append_left _ (h.looked e he r hheld)
    overlooked := ?_ }
  · intro r hr
    rcases mem_step hr with hr | hr | ⟨-, hr⟩
    · exact hseen r (.inl (h.shown_seen r hr))
    · exact hseen r (.inr hr)
    · exact hseen r (.inl (h.collected_seen r hr))
  · intro a ha b hb hk hv
    rcases hcases a ha with ha | ha <;> rcases hcases b hb with hb | hb
    · exact h.faithful a ha b hb hk hv
    · exact (fits b hb).2 a ha hk hv
    · exact ((fits a ha).2 b hb hk.symm (sameVersion_comm hv)).symm
    · exact Option.some.inj (ha.symm.trans hb)
  · intro r hr hout hann
    have hold : r ∈ s.cache.resources → (s.notice n).Due r.key ∨ (s.notice n).Read r ∨
        (s.notice n).overlooked r ∨
        ∃ c, (s.notice n).pending = some c ∧ r ∈ State.announces c := by
      intro hr
      rcases h.covered r hr hout hann with hdue | hread | hover | ⟨c, hc, -⟩
      · exact .inl hdue
      · exact .inr (.inl hread)
      · exact .inr (.inr (.inl (.inl hover)))
      · cases free.symm.trans hc
    rcases mem_step hr with hr | hr | ⟨rfl, hr⟩
    · exact hold hr
    · exact (h.announced_of_copy? hr (fits r hr)).elim hold fun hc => .inr (.inr (.inr hc))
    · by_cases hshown : r ∈ s.cache.resources
      · exact hold hshown
      · by_cases hd : s.Due r.key
        · exact .inl hd
        · by_cases hread : s.Read r
          · exact .inr (.inl hread)
          · exact .inr (.inr (.inl (.inr ⟨rfl, hr, hshown, hout, hd, fun _ => hread⟩)))
  · rintro r (hover | ⟨rfl, -, -, -, hd, hread⟩)
    · exact h.overlooked r hover
    · refine ⟨hd, fun hr => hread ?_ hr⟩
      obtain ⟨e, he, -, -, hheld⟩ := hr
      exact h.looked e he r hheld

theorem Inv.dispatch (h : Inv s) {c : Change} (pending : s.pending = some c) :
    Inv (s.dispatch c) := by
  have hq := h.addAll _ (h.sane.dispatch c) (Queues.dispatch_structural s.queues c)
  -- What is announced is due, as its key is queued.
  have hdue : ∀ r, r.hasOutput = true → r ∈ State.announces c → (s.dispatch c).Due r.key := by
    intro r hout hr
    obtain ⟨ns, name, hn⟩ := h.pending c pending r hr
    have hview : (s.dispatch c).view r.key = (s.view r.key).added := by
      show ((s.queues.dispatch c).1.get .structural).view r.key = _
      rw [Queues.dispatch_structural, WorkQueue.view_addAll (h.sane _).2,
        if_pos (asked_of_announces hn hout hr)]
      rfl
    exact .inl (congrArg KeyView.dirty hview)
  refine { hq with
    pending := ?_
    covered := ?_ }
  · rintro c' ⟨⟩
  · intro r hr hout hann
    rcases List.mem_append.1 hann with hann | hnew
    · rcases hq.covered r hr hout hann with hd | hread | hover | ⟨c', hc, hr'⟩
      · exact .inl hd
      · exact .inr (.inl hread)
      · exact .inr (.inr (.inl hover))
      · cases Option.some.inj (pending.symm.trans hc)
        exact .inl (hdue r hout hr')
    · exact .inl (hdue r hout hnew)

/-! ## Runs -/

theorem Inv.start (backoff : Backoff) : Inv (.start backoff) := by
  refine ⟨Queues.sane_empty backoff, .nil, .nil, ?_, ?_, ?_, ?_, ?_, ?_, ?_, ?_, ?_, ?_⟩ <;>
    simp [State.start, Watch.Cache.empty, Watch.Cache.resources]

/-- What every step preserves. -/
theorem Inv.step (h : Inv s) (next : Step maxRetries s s') : Inv s' := by
  cases next with
  | notice n free fits => exact h.notice free fits
  | dispatch pending => exact h.dispatch pending
  | resync free =>
    exact h.addAll _ (s.cache.sane_resync h.sane) (s.cache.resync_structural s.queues)
  | add key => exact h.addAll [key] (h.sane.add _ _) (Queues.get_add_self ..)
  | drift sound works => exact h.addAll [] (h.sane.set _ sound works) rfl
  | take found => exact h.take found
  | ask asks answer fits => exact h.ask asks answer
  | handle ends now => exact h.handle ends now maxRetries
  | done handled => exact h.done handled
  | fire pending => exact h.fire pending

theorem Reached.inv (h : Reached maxRetries s) : Inv s := by
  induction h with
  | start backoff => exact .start backoff
  | step before next ih => exact ih.step next

/-- Where the structural queue is idle, no pass is due. -/
theorem Inv.not_due (h : Inv s) (idle : (s.queues.get .structural).Idle) (key : String) :
    ¬ s.Due key := by
  have hview := (WorkQueue.idle_iff (h.sane _).1 (h.sane _).2).1 idle key
  simp only [KeyView.busy, KeyView.owed, Bool.or_eq_false_iff] at hview
  rintro (hd | ⟨v, hv, -⟩)
  · exact absurd (hview.1.1.symm.trans hd) (by decide)
  · exact absurd (hview.1.2.symm.trans (h.visits key v hv).1) (by decide)

/-- Whatever notices came and however passes ran between them: where the structural queue is idle,
some structural pass has found an announced resource in the cache since it had come to show this
copy, exactly if the copy did not come into the cache by a list after its key was worked off. -/
theorem read_iff (h : Reached maxRetries s) (idle : (s.queues.get .structural).Idle)
    (hr : r ∈ s.cache.resources) (hout : r.hasOutput = true) (hann : r ∈ s.announced)
    (hsent : ∀ c, s.pending = some c → r ∉ State.announces c) :
    s.Read r ↔ ¬ s.overlooked r := by
  have hinv := h.inv
  constructor
  · intro hread hover
    exact (hinv.overlooked r hover).2 hread
  · intro hover
    rcases hinv.covered r hr hout hann with hdue | hread | hover' | ⟨c, hc, hr'⟩
    · exact absurd hdue (hinv.not_due idle r.key)
    · exact hread
    · exact absurd hover' hover
    · exact absurd hr' (hsent c hc)

/-! ## A list that is slower than a pass -/

/-- The list has shown the resource and its key is queued, but the list is not complete. -/
def shown : State :=
  ((State.start .default).notice (.initApply Watch.app)).dispatch (.added Watch.app)

/-- A worker has taken the key, and its pass starts. -/
def taken : State :=
  (shown.queued (shown.queues.set .structural (shown.queues.get .structural).take.1)).setVisit
    "prod/app" (some ⟨[], (Pass.structural "prod/app").run, false⟩)

/-- The pass has found no resource. -/
def missed : State :=
  taken.asked "prod/app" [] (.lookup "prod" "app") none
    (Pass.Structural.after "prod/app" "prod" none).run

/-- The pass has said so. -/
def told : State :=
  missed.asked "prod/app" [⟨.lookup "prod" "app", none⟩]
    (.tell (.say .debug .outputPass "AzureKeyVaultSecret no longer exists, nothing to reconcile"
      [.text "key" "prod/app"])) () (.done (.ok ()))

/-- Its success has cleared the key. -/
def cleared : State :=
  (told.queued (told.queues.set .structural (Retry.handle
    (told.queues.get .structural) .zero "prod/app" (.ok ()) 5).1)).setVisit "prod/app"
    ((told.visits "prod/app").map fun v => { v with handled := true })

/-- The pass is over. -/
def settled : State :=
  (cleared.queued (cleared.queues.set .structural
    ((cleared.queues.get .structural).done "prod/app").1)).setVisit "prod/app" none

/-- The list is complete. -/
def complete : State := settled.notice .initDone

theorem reached_shown : Reached 5 shown := by
  have hfits : ∀ r, (Watch.Notice.initApply Watch.app).copy? = some r →
      (State.start .default).Fits r := by
    rintro r hr
    cases hr
    exact ⟨⟨"prod", "app", Watch.app_named⟩, fun r' hr' => nomatch hr'⟩
  exact .step (.step (.start .default) (.notice _ rfl hfits)) (.dispatch rfl)

theorem reached_told : Reached 5 told := by
  have hstart : Key.split? "prod/app" = some ("prod", "app") := by decide
  have htake : (shown.queues.get .structural).take =
      ((shown.queues.get .structural).take.1, .key "prod/app",
        (shown.queues.get .structural).take.2.2) := rfl
  have htaken : Reached 5 taken := .step reached_shown (.take htake)
  have hasks : taken.visits "prod/app" = some ⟨[], .ask (.lookup "prod" "app") fun found =>
      (Pass.Structural.after "prod/app" "prod" found).run, false⟩ :=
    congrArg (fun p => some (Visit.mk [] p false)) (Pass.structural_run hstart)
  have hmissed : Reached 5 missed := .step htaken (.ask hasks (none : Option Resource) rfl)
  have htells : missed.visits "prod/app" = some ⟨[⟨.lookup "prod" "app", none⟩],
      .ask (.tell (.say .debug .outputPass
        "AzureKeyVaultSecret no longer exists, nothing to reconcile" [.text "key" "prod/app"]))
        fun _ => .done (.ok ()), false⟩ := rfl
  exact .step hmissed (.ask htells () trivial)

theorem reached_complete : Reached 5 complete := by
  have hends : told.visits "prod/app" = some ⟨_, .done (.ok ()), false⟩ := rfl
  have hcleared : Reached 5 cleared := .step reached_told (.handle hends .zero)
  have hover : cleared.visits "prod/app" = some ⟨_, .done (.ok ()), true⟩ := rfl
  have hsettled : Reached 5 settled := .step hcleared (.done hover)
  exact .step hsettled (.notice _ rfl (by rintro r ⟨⟩))

theorem late_app : settled.Late Watch.app := by
  refine ⟨List.mem_cons_self, ?_, rfl, ?_, ?_⟩
  · rintro ⟨⟩
  · rintro (hd | ⟨v, hv, -⟩)
    · exact absurd hd (by decide +kernel)
    · have hkey : Watch.app.key = "prod/app" := by decide
      rw [hkey] at hv
      cases hv
  · rintro ⟨⟩

/-- The pass is over before the list is complete: the queue is idle, the resource is in the cache
and was announced, but no pass has read it. -/
theorem overlooked_listed : Reached 5 complete ∧ (complete.queues.get .structural).Idle ∧
    complete.listing = false ∧ Watch.app ∈ complete.cache.resources ∧ Watch.app.hasOutput = true ∧
    Watch.app ∈ complete.announced ∧ ¬ complete.Read Watch.app := by
  have hidle : (complete.queues.get .structural).Idle := ⟨rfl, rfl, rfl⟩
  have hmem : Watch.app ∈ complete.cache.resources := late_app.1
  have hann : Watch.app ∈ complete.announced := List.mem_cons_self
  have hsent : ∀ c, complete.pending = some c → Watch.app ∉ State.announces c := by
    rintro c ⟨⟩
  refine ⟨reached_complete, hidle, rfl, hmem, rfl, hann, fun hread => ?_⟩
  exact (read_iff reached_complete hidle hmem rfl hann hsent).1 hread (.inr ⟨rfl, late_app⟩)

end Coverage

end VaultProjection

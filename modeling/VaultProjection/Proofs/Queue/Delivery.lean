import VaultProjection.Proofs.Queue.Callers

/-!
# No add is lost, and the first key that waits is the first handed out

A key that is asked for stays marked until it is handed out. It waits at once, unless somebody holds
it; then it waits when they give it back. The waiting keys are handed out in their order, so the
place of a key says how many looks it takes until it is its turn, whatever else is called meanwhile.

Results:
1. `Run.fifo`: what waited and what came to wait behind it is what was handed out and what waits.
2. `Run.dirty`: a marked key stays marked until it is handed out.
3. `adds_delivered`: both together, for every add before the queue stops.
-/

namespace VaultProjection

/-! ## What the operations of a queue do to the waiting and the marked keys -/

namespace WorkQueue

variable {q q' : WorkQueue} {key k : String}

/-- No waiting key was passed over, and no mark was taken away. -/
structure Extends (q q' : WorkQueue) : Prop where
  pending : ∃ more, q'.pending = q.pending ++ more
  dirty : ∀ k ∈ q.dirty, k ∈ q'.dirty
  stopped : q.stopped = true → q'.stopped = true

theorem Extends.of_eq (hp : q'.pending = q.pending) (hd : q'.dirty = q.dirty)
    (hs : q'.stopped = q.stopped) : Extends q q' where
  pending := ⟨[], by simp [hp]⟩
  dirty k hk := hd ▸ hk
  stopped h := hs ▸ h

theorem extends_add (q : WorkQueue) (key : String) : Extends q (q.add key).1 := by
  cases hs : q.stopped with
  | true =>
    have hq : (q.add key).1 = q := by simp [add, hs]
    rw [hq]
    exact .of_eq rfl rfl rfl
  | false =>
    obtain ⟨hp, -⟩ := add_lists hs key
    refine ⟨?_, fun k hk => (mem_dirty_add hs).2 (.inl hk), fun h => ?_⟩
    · rw [hp]
      split
      · exact ⟨[], by simp⟩
      · exact ⟨[key], rfl⟩
    · rw [hs] at h
      cases h

theorem extends_fire (q : WorkQueue) (key : String) (number : Nat) :
    Extends q (q.fire key number).1 := by
  unfold fire
  split
  · obtain ⟨hp, hd, hs⟩ := extends_add { q with delayed := q.delayed.erase key } key
    exact ⟨hp, hd, hs⟩
  · exact .of_eq rfl rfl rfl

theorem extends_done (q : WorkQueue) (key : String) : Extends q (q.done key).1 := by
  cases hs : q.stopped with
  | true =>
    have hq : (q.done key).1 = { q with processing := q.processing.filter (· ≠ key) } := by
      simp [done, hs]
    rw [hq]
    exact .of_eq rfl rfl rfl
  | false =>
    obtain ⟨hp, hd, -⟩ := done_lists hs key
    refine ⟨?_, fun k hk => hd ▸ hk, fun h => ?_⟩
    · rw [hp]
      split
      · exact ⟨[key], rfl⟩
      · exact ⟨[], by simp⟩
    · rw [hs] at h
      cases h

/-- A key that is asked for is marked, and it waits unless somebody works on it. -/
theorem asked_add (hq : q.Sound) (hs : q.stopped = false) (key : String) :
    key ∈ (q.add key).1.dirty ∧ (key ∉ q.processing → key ∈ (q.add key).1.pending) := by
  refine ⟨(mem_dirty_add hs).2 (.inr rfl), fun hfree => ?_⟩
  rw [(add_lists hs key).1]
  split
  · next h => exact (hq.dirty_covered hs key (h.resolve_right hfree)).resolve_right hfree
  · exact List.mem_append_right _ (List.mem_singleton.2 rfl)

end WorkQueue

/-! ## Hand-outs -/

namespace Callers

namespace State

/-- The key that a call hands out. -/
def handed (s : State) : Call → List String
  | .get caller => (found? (s.queue.lookOrWait caller).2.1).toList
  | .add _ | .addRateLimited .. | .fire .. | .forget _ | .done .. | .stop | .wake | .report _ => []

/-- The keys that are handed out one after the other, one for each look that finds a key. -/
def deliveries (s : State) : List Call → List String
  | [] => []
  | c :: calls => s.handed c ++ (s.call c).deliveries calls

/-- The call asks for the key, or completes a delayed add of it. -/
def Adds (s : State) (c : Call) (key : String) : Prop :=
  c = .add key ∨ ∃ d, c = .fire key d.number ∧ s.queue.delayed.get? key = some d

end State

/-- A look for a key. -/
def Call.isGet : Call → Bool
  | .get _ => true
  | .add _ | .addRateLimited .. | .fire .. | .forget _ | .done .. | .stop | .wake | .report _ =>
    false

variable {s s' : State} {c : Call} {calls : List Call} {key : String}

theorem Run.eq_foldl (h : Run s calls s') : s' = calls.foldl State.call s := by
  induction h with
  | refl => rfl
  | step run allowed ih => rw [List.foldl_append, ← ih]; rfl

theorem deliveries_append (s : State) (calls calls' : List Call) :
    s.deliveries (calls ++ calls') =
      s.deliveries calls ++ (calls.foldl State.call s).deliveries calls' := by
  induction calls generalizing s with
  | nil => rfl
  | cons c calls ih => simp [State.deliveries, ih]

theorem Run.deliveries_step (h : Run s calls s') (c : Call) :
    s.deliveries (calls ++ [c]) = s.deliveries calls ++ s'.handed c := by
  rw [deliveries_append, ← h.eq_foldl]
  simp [State.deliveries]

/-! ## One call -/

/-- A look that finds a key hands out the first one; no other call hands out any. -/
theorem handed_cases (s : State) (c : Call) :
    (∃ key caller, c = .get caller ∧ s.handed c = [key] ∧
        s.queue.pending = key :: (s.call c).queue.pending ∧
        (s.call c).queue.dirty = s.queue.dirty.filter (· ≠ key) ∧
        (s.call c).queue.stopped = s.queue.stopped) ∨
      s.handed c = [] ∧ s.queue.Extends (s.call c).queue := by
  cases c with
  | add key => exact .inr ⟨rfl, s.queue.extends_add key⟩
  | addRateLimited now key =>
    obtain ⟨hp, hd, -, hs⟩ := s.queue.addRateLimited_frame now key
    exact .inr ⟨rfl, .of_eq hp hd hs⟩
  | fire key number => exact .inr ⟨rfl, s.queue.extends_fire key number⟩
  | forget key => exact .inr ⟨rfl, .of_eq rfl rfl rfl⟩
  | get caller =>
    rcases s.queue.lookOrWait_cases caller with ⟨key, hkey, htake, -⟩ |
      ⟨hnone, -, hp, hd, -, hs, -⟩
    · obtain ⟨-, hp, hd, -⟩ := WorkQueue.take_lists htake
      obtain ⟨-, -, hs⟩ := WorkQueue.take_frame htake
      exact .inl ⟨key, caller, rfl, by simp [State.handed, hkey, found?], hp, hd, hs⟩
    · refine .inr ⟨?_, .of_eq hp hd hs⟩
      cases ht : (s.queue.lookOrWait caller).2.1 with
      | key key => exact absurd ht (hnone key)
      | stopped | nothing => simp [State.handed, ht, found?]
  | done caller key => exact .inr ⟨rfl, s.queue.extends_done key⟩
  | stop => exact .inr ⟨rfl, ⟨[], by simp [State.call, WorkQueue.stop, WorkQueue.callAll]⟩,
      fun k hk => hk, fun _ => rfl⟩
  | wake =>
    refine .inr ⟨rfl, ?_⟩
    unfold State.call
    dsimp only
    split
    · next w queue hw =>
      obtain ⟨-, hp, hd, -, hs⟩ := WorkQueue.nextCalled?_frame hw
      exact .of_eq hp hd hs
    · exact .of_eq rfl rfl rfl
  | report signal => exact .inr ⟨rfl, .of_eq rfl rfl rfl⟩

theorem stopped_of_call (h : (s.call c).queue.stopped = false) : s.queue.stopped = false := by
  rcases handed_cases s c with ⟨key, caller, -, -, -, -, hs⟩ | ⟨-, hext⟩
  · rw [← hs, h]
  · cases hs : s.queue.stopped with
    | false => rfl
    | true => exact h.symm.trans (hext.stopped hs) ▸ rfl

/-- While keys wait and the queue works, every look finds one. -/
theorem handed_ne_nil (hget : c.isGet = true) (hs : s.queue.stopped = false)
    (hp : s.queue.pending ≠ []) : s.handed c ≠ [] := by
  cases c with
  | get caller =>
    obtain ⟨key, rest, hp⟩ := List.exists_cons_of_ne_nil hp
    simp [State.handed, WorkQueue.lookOrWait, WorkQueue.look, WorkQueue.take, hs, hp, found?]
  | add | addRateLimited | fire | forget | done | stop | wake | report => cases hget

/-! ## Runs -/

theorem Run.running (h : Run s calls s') (hs : s'.queue.stopped = false) :
    s.queue.stopped = false := by
  induction h with
  | refl => exact hs
  | step run allowed ih => exact ih (stopped_of_call hs)

/-- First come, first served: what waited, followed by what came to wait behind it, is what was
handed out, followed by what waits. -/
theorem Run.fifo (h : Run s calls s') :
    ∃ more, s.queue.pending ++ more = s.deliveries calls ++ s'.queue.pending := by
  induction h with
  | refl => exact ⟨[], by simp [State.deliveries]⟩
  | @step calls s' run c allowed ih =>
    obtain ⟨more, hmore⟩ := ih
    rw [run.deliveries_step]
    rcases handed_cases s' c with ⟨key, -, -, hkey, hp, -, -⟩ | ⟨hnone, hext⟩
    · refine ⟨more, ?_⟩
      rw [hmore, hkey, hp]
      simp
    · obtain ⟨new, hnew⟩ := hext.pending
      refine ⟨more ++ new, ?_⟩
      rw [hnone, hnew, ← List.append_assoc, hmore]
      simp

/-- A marked key stays marked until it is handed out. -/
theorem Run.dirty (h : Run s calls s') (hd : key ∈ s.queue.dirty) :
    key ∈ s'.queue.dirty ∨ key ∈ s.deliveries calls := by
  induction h with
  | refl => exact .inl hd
  | @step calls s' run c allowed ih =>
    rw [run.deliveries_step, List.mem_append]
    rcases ih with ih | ih
    · rcases handed_cases s' c with ⟨k, -, -, hk, -, hdirty, -⟩ | ⟨-, hext⟩
      · by_cases he : key = k
        · exact .inr (.inr (by simp [hk, he]))
        · refine .inl ?_
          rw [hdirty, List.mem_filter]
          exact ⟨ih, by simpa using he⟩
      · exact .inl (hext.dirty key ih)
    · exact .inr (.inl ih)

/-- As long as a key waits that was not handed out, every look hands out one. -/
theorem Run.looks (h : Run s calls s') (hs : s'.queue.stopped = false) {i : Nat}
    (hi : i < s.queue.pending.length) (hless : (s.deliveries calls).length ≤ i) :
    (s.deliveries calls).length = calls.countP (·.isGet) := by
  induction h with
  | refl => rfl
  | @step calls s' run c allowed ih =>
    have hrunning := stopped_of_call hs
    rw [run.deliveries_step, List.length_append] at hless ⊢
    have hprev := ih hrunning (by omega)
    -- The key at this place is not handed out yet, so it still waits.
    have hwaits : s'.queue.pending ≠ [] := by
      intro hnil
      obtain ⟨more, hmore⟩ := run.fifo
      have hlength := congrArg List.length hmore
      simp only [List.length_append, hnil, List.length_nil] at hlength
      omega
    rw [List.countP_append, List.countP_singleton, ← hprev]
    congr 1
    cases hget : c.isGet with
    | true =>
      have hne := handed_ne_nil hget hrunning hwaits
      rcases handed_cases s' c with ⟨k, -, -, hk, -⟩ | ⟨hnone, -⟩
      · simp [hk]
      · exact absurd hnone hne
    | false =>
      rcases handed_cases s' c with ⟨k, caller, rfl, -⟩ | ⟨hnone, -⟩
      · cases hget
      · simp [hnone]

/-- What is handed out first waited first. -/
theorem Run.deliveries_eq (h : Run s calls s') {i : Nat} (hi : i < s.queue.pending.length)
    (hd : i < (s.deliveries calls).length) :
    (s.deliveries calls)[i]? = s.queue.pending[i]? := by
  obtain ⟨more, hmore⟩ := h.fifo
  calc (s.deliveries calls)[i]?
      = (s.deliveries calls ++ s'.queue.pending)[i]? := (List.getElem?_append_left hd).symm
    _ = (s.queue.pending ++ more)[i]? := by rw [hmore]
    _ = s.queue.pending[i]? := List.getElem?_append_left hi

/-- The place of a waiting key is the number of looks that hand out others before it. -/
theorem Run.place (h : Run s calls s') (hnodup : s.queue.pending.Nodup) {i : Nat}
    (hi : s.queue.pending[i]? = some key) :
    (∀ j < i, (s.deliveries calls)[j]? ≠ some key) ∧
      (i < (s.deliveries calls).length → (s.deliveries calls)[i]? = some key) ∧
      (s'.queue.stopped = false → i < calls.countP (·.isGet) →
        i < (s.deliveries calls).length) := by
  obtain ⟨hlt, -⟩ := List.getElem?_eq_some_iff.1 hi
  refine ⟨fun j hj hkey => ?_, fun hd => (h.deliveries_eq hlt hd).trans hi, fun hs hgets => ?_⟩
  · obtain ⟨hjd, -⟩ := List.getElem?_eq_some_iff.1 hkey
    have hj' : j < s.queue.pending.length := Nat.lt_trans hj hlt
    have hsame : s.queue.pending[j]? = s.queue.pending[i]? := by
      rw [← h.deliveries_eq hj' hjd, hkey, hi]
    exact absurd ((List.getElem?_inj hj' hnodup).1 hsame) (Nat.ne_of_lt hj)
  · refine Nat.lt_of_not_le fun hless => ?_
    have hlooks := h.looks hs hlt hless
    omega

/-- A key that waits is handed out once more looks were made than keys wait. -/
theorem Run.served (h : Run s calls s') (hs : s'.queue.stopped = false)
    (hnodup : s.queue.pending.Nodup) (hk : key ∈ s.queue.pending)
    (hgets : s.queue.pending.length ≤ calls.countP (·.isGet)) : key ∈ s.deliveries calls := by
  obtain ⟨i, hi⟩ := List.getElem?_of_mem hk
  obtain ⟨hlt, -⟩ := List.getElem?_eq_some_iff.1 hi
  obtain ⟨-, hat, hlooks⟩ := h.place hnodup hi
  exact List.mem_of_getElem? (hat (hlooks hs (by omega)))

/-! ## Adds -/

theorem Inv.asked (h : Inv s) (hs : s.queue.stopped = false) (ha : s.Adds c key) :
    key ∈ (s.call c).queue.dirty ∧
      (key ∉ s.queue.processing → key ∈ (s.call c).queue.pending) := by
  rcases ha with rfl | ⟨d, rfl, hd⟩
  · exact WorkQueue.asked_add h.sound hs key
  · have hsound : ({ s.queue with delayed := s.queue.delayed.erase key } : WorkQueue).Sound :=
      h.sound.congr rfl rfl rfl rfl
    have hcall : (s.call (.fire key d.number)).queue =
        ({ s.queue with delayed := s.queue.delayed.erase key }.add key).1 :=
      WorkQueue.fire_pending hd
    rw [hcall]
    exact WorkQueue.asked_add hsound hs key

/-- No more keys wait than before and the one that was asked for. -/
theorem pending_length_of_adds (ha : s.Adds c key) :
    (s.call c).queue.pending.length ≤ s.queue.pending.length + 1 := by
  have hadd : ∀ q : WorkQueue, (q.add key).1.pending.length ≤ q.pending.length + 1 := by
    intro q
    cases hs : q.stopped with
    | true => simp [WorkQueue.add, hs]
    | false =>
      rw [(WorkQueue.add_lists hs key).1]
      split <;> simp
  rcases ha with rfl | ⟨d, rfl, hd⟩
  · exact hadd s.queue
  · have hcall : (s.call (.fire key d.number)).queue =
        ({ s.queue with delayed := s.queue.delayed.erase key }.add key).1 :=
      WorkQueue.fire_pending hd
    rw [hcall]
    exact hadd _

/-- A marked key waits or is held; if it is held it waits behind all others when it is given
back. -/
theorem Inv.marked (h : Inv s) (hs : s.queue.stopped = false) (hd : key ∈ s.queue.dirty) :
    (key ∈ s.queue.pending ∨ ∃ caller, (caller, key) ∈ s.held) ∧
      ∀ caller, (caller, key) ∈ s.held →
        (s.call (.done caller key)).queue.pending = s.queue.pending ++ [key] := by
  constructor
  · refine (h.sound.dirty_covered hs key hd).imp_right fun hr => ?_
    obtain ⟨⟨caller, _⟩, hm, rfl⟩ := List.mem_map.1 ((h.processing key).1 hr)
    exact ⟨caller, hm⟩
  · intro caller hm
    show (s.queue.done key).1.pending = _
    rw [(WorkQueue.done_lists hs key).1, if_pos hd]

theorem State.Adds.allowed (ha : s.Adds c key) : s.Allows c := by
  rcases ha with rfl | ⟨d, rfl, -⟩ <;> exact trivial

/-- Whoever calls, and in whatever order. A key at place `i` of the waiting ones is what the look
after `i` others finds. A key that is asked for while the queue works, at once or by a delayed add
that fires, waits at once unless it is held; until it is handed out it stays marked, and it waits or
is held, and then waits when it is given back. So it is handed out after the add once enough looks
are made. -/
theorem adds_delivered {name : String} {backoff : Backoff}
    (hrun : Run (.start name backoff) calls s) :
    (∀ i key, s.queue.pending[i]? = some key → ∀ later s', Run s later s' →
      (∀ j < i, (s.deliveries later)[j]? ≠ some key) ∧
      (i < (s.deliveries later).length → (s.deliveries later)[i]? = some key) ∧
      (s'.queue.stopped = false → i < later.countP (·.isGet) →
        i < (s.deliveries later).length)) ∧
    (s.queue.stopped = false → ∀ c key, s.Adds c key →
      (key ∉ s.queue.processing → key ∈ (s.call c).queue.pending) ∧
      (∀ later s', Run (s.call c) later s' → key ∉ (s.call c).deliveries later →
        key ∈ s'.queue.dirty ∧ (s'.queue.stopped = false →
          (key ∈ s'.queue.pending ∨ ∃ caller, (caller, key) ∈ s'.held) ∧
          ∀ caller, (caller, key) ∈ s'.held →
            (s'.call (.done caller key)).queue.pending = s'.queue.pending ++ [key])) ∧
      (key ∉ s.queue.processing → ∀ later s', Run (s.call c) later s' →
        s'.queue.stopped = false → s.queue.pending.length < later.countP (·.isGet) →
        key ∈ (s.call c).deliveries later) ∧
      ∀ later s' caller, Run (s.call c) later s' → (caller, key) ∈ s'.held →
        ∀ more s'', Run (s'.call (.done caller key)) more s'' → s''.queue.stopped = false →
          s'.queue.pending.length < more.countP (·.isGet) →
          key ∈ (s.call c).deliveries later ∨
            key ∈ (s'.call (.done caller key)).deliveries more) := by
  have hinv : Inv s := hrun.inv (.start name backoff)
  refine ⟨fun i key hi later s' hlater => hlater.place hinv.sound.pending_nodup hi,
    fun hs c key ha => ?_⟩
  have hnext : Inv (s.call c) := hinv.call ha.allowed
  obtain ⟨hdirty, hwaits⟩ := hinv.asked hs ha
  refine ⟨hwaits, fun later s' hlater hnot => ?_, fun hfree later s' hlater hs' hgets => ?_,
    fun later s' caller hlater hheld more s'' hmore hs'' hgets => ?_⟩
  · have hd := (hlater.dirty hdirty).resolve_right hnot
    exact ⟨hd, fun hs' => (hlater.inv hnext).marked hs' hd⟩
  · have hlength := pending_length_of_adds ha
    exact hlater.served hs' hnext.sound.pending_nodup (hwaits hfree) (by omega)
  · by_cases hnot : key ∈ (s.call c).deliveries later
    · exact .inl hnot
    · refine .inr ?_
      have hinv' := hlater.inv hnext
      have hback := hinv'.done hheld
      have hs' : s'.queue.stopped = false := stopped_of_call (hmore.running hs'')
      have hp := (hinv'.marked hs' ((hlater.dirty hdirty).resolve_right hnot)).2 caller hheld
      refine hmore.served hs'' hback.sound.pending_nodup ?_ ?_
      · rw [hp]
        exact List.mem_append_right _ (List.mem_singleton.2 rfl)
      · rw [hp, List.length_append, List.length_singleton]
        omega

/-- Two keys were asked for, and a caller took the first one. -/
def shared : State :=
  (((State.start "vault" ⟨.ofSeconds 1, .ofSeconds 60⟩).call (.add "ns/a")).call
    (.add "ns/b")).call (.get 1)

/-- A key that is asked for again while it is held is handed out again, behind the other one. -/
theorem adds_delivered_again :
    (1, "ns/a") ∈ shared.held ∧
      "ns/a" ∈ ((shared.call (.add "ns/a")).call (.done 1 "ns/a")).deliveries [.get 2, .get 3] := by
  have hrun : Run (.start "vault" ⟨.ofSeconds 1, .ofSeconds 60⟩)
      [.add "ns/a", .add "ns/b", .get 1] shared :=
    ((Run.refl.step (c := .add "ns/a") trivial).step (c := .add "ns/b") trivial).step
      (c := .get 1) trivial
  obtain ⟨-, hadds⟩ := adds_delivered hrun
  obtain ⟨-, -, -, hcovered⟩ := hadds (by decide) (.add "ns/a") "ns/a" (.inl rfl)
  have hmore := (Run.refl (s := (shared.call (.add "ns/a")).call (.done 1 "ns/a"))).step
    (c := .get 2) trivial
  have hagain := hcovered [] _ 1 .refl (by decide) _ _ (hmore.step (c := .get 3) trivial)
    (by decide) (by decide)
  exact ⟨by decide, hagain.resolve_left (by decide)⟩

end Callers

end VaultProjection

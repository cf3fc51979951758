import VaultProjection.Proofs.Queue.Sound

/-!
# The callers of a work queue

Any number of callers use one queue, each call at once and whole. They add keys, count failures,
look for keys and give back the keys that they got; delayed adds fire, and the queue may stop. The
state also records who holds which key and all that was reported, for which no call asks.

Results:
1. `Inv.call`: what every call preserves, as long as keys are given back by those who hold them.
2. `exclusive_and_consistent`: no key is handed out while somebody holds it, the lists of the queue
   fit together, and its gauge shows how many keys wait.
-/

namespace VaultProjection

/-! ## What a meter shows -/

/-- The series that a signal changes. -/
def Signal.series? : Signal → Option (Meter × String)
  | .log _ => none
  | .count m label | .level m label _ | .observe m label _ => some (m, label)

namespace Registry

variable {r : Registry} {m m' : Meter} {label : String}

/-- What a counter or a gauge shows under a label; one that has seen nothing shows zero. -/
def reading (r : Registry) (m : Meter) (label : String) : Nat :=
  (((r.series m).get? label).map (·.count)).getD 0

theorem reading_empty (m : Meter) (label : String) : empty.reading m label = 0 := by
  cases m <;> rfl

/-- Every meter has its place. -/
def Complete (r : Registry) : Prop := ∀ m, m ∈ r.map (·.1)

theorem complete_empty : Complete empty := by
  intro m
  cases m <;> decide

theorem Complete.update (h : r.Complete) (m : Meter) (label : String) (f : Series → Series) :
    (r.update m label f).Complete := by
  have hkeys : (r.update m label f).map (·.1) = r.map (·.1) := by
    rw [Registry.update, List.map_map]
    refine List.map_congr_left fun p _ => ?_
    obtain ⟨m', es⟩ := p
    by_cases hm : m' = m <;> simp [hm]
  intro m'
  rw [hkeys]
  exact h m'

theorem Complete.apply (h : r.Complete) (s : Signal) : (r.apply s).Complete := by
  cases s <;> simp only [Registry.apply]
  · exact h
  all_goals exact h.update _ _ _

theorem series_update (f : Series → Series) :
    (r.update m label f).series m' =
      if m' = m ∧ m ∈ r.map (·.1) then
        (r.series m).insert label (f (((r.series m).get? label).getD .empty))
      else r.series m' := by
  induction r with
  | nil => simp [Registry.update, series]
  | cons p r ih =>
    obtain ⟨n, es⟩ := p
    unfold Registry.update series at ih ⊢
    by_cases hm : m' = n
    · subst hm
      by_cases hn : m' = m <;> simp [hn]
    · have hm' : (m' == n) = false := beq_eq_false_iff_ne.2 hm
      by_cases hn : n = m
      · subst hn
        simpa [List.lookup_cons, hm', hm] using ih
      · have hn' : (m == n) = false := beq_eq_false_iff_ne.2 (Ne.symm hn)
        have hmem : m ∈ List.map (·.1) ((n, es) :: r) ↔ m ∈ r.map (·.1) := by
          simp [Ne.symm hn]
        simp only [hmem]
        simpa [List.lookup_cons, hm', hn, hn'] using ih

/-- What is seen in one series does not show in others. -/
theorem reading_update {label' : String} (f : Series → Series) (h : (m, label) ≠ (m', label')) :
    (r.update m label f).reading m' label' = r.reading m' label' := by
  unfold reading
  rw [series_update]
  split
  · next hm =>
    have hl : label' ≠ label := fun hl => h (by rw [hm.1, hl])
    rw [Entries.get?_insert, if_neg hl, hm.1]
  · rfl

theorem reading_apply {s : Signal} (h : s.series? ≠ some (m, label)) :
    (r.apply s).reading m label = r.reading m label := by
  cases s with
  | log => rfl
  | count m' l | level m' l v | observe m' l x =>
    simp only [Registry.apply]
    exact reading_update _ fun he => h (congrArg some he)

/-- A gauge shows the value that it took last, as far as 63 bits hold it. -/
theorem reading_level (h : r.Complete) (v : Nat) :
    (r.apply (.level m label v)).reading m label = Nat.min v maxLevel := by
  simp only [Registry.apply, reading]
  rw [series_update, if_pos ⟨rfl, h m⟩, Entries.get?_insert, if_pos rfl]
  rfl

end Registry

/-! ## What the operations of a queue report -/

namespace WorkQueue

variable {q q' : WorkQueue} {ss : List Signal}

/-- An operation that changes the waiting keys shows their number; no other one shows anything. -/
def Tells (q q' : WorkQueue) (ss : List Signal) : Prop :=
  q'.name = q.name ∧
    ((q'.pending = q.pending ∧ ∀ s ∈ ss, s.series? = none) ∨ ss = [q'.depth])

theorem Tells.silent (hn : q'.name = q.name) (hp : q'.pending = q.pending) : Tells q q' [] :=
  ⟨hn, .inl ⟨hp, by simp⟩⟩

@[simp] theorem callOne_name (q : WorkQueue) : q.callOne.name = q.name := by
  unfold callOne; split <;> rfl

theorem tells_append (q : WorkQueue) (key : String) :
    Tells q (q.append key).1 (q.append key).2 := by
  unfold append
  exact ⟨by simp, .inr (by simp [depth])⟩

theorem tells_add (q : WorkQueue) (key : String) : Tells q (q.add key).1 (q.add key).2 := by
  unfold add
  split
  · exact .silent rfl rfl
  · dsimp only
    split
    · exact ⟨rfl, .inl ⟨rfl, by simp [trace, Signal.say, Signal.series?]⟩⟩
    · exact tells_append _ key

theorem tells_addRateLimited (q : WorkQueue) (now : Duration) (key : String) :
    Tells q (q.addRateLimited now key).1 [] := by
  refine .silent ?_ (addRateLimited_frame q now key).1
  unfold addRateLimited
  by_cases hs : q.stopped = true
  · simp [hs]
  · by_cases hd : q.delayed.contains key = true <;> simp [hs, hd]

theorem tells_fire (q : WorkQueue) (key : String) (number : Nat) :
    Tells q (q.fire key number).1 (q.fire key number).2 := by
  unfold fire
  split
  · exact tells_add { q with delayed := q.delayed.erase key } key
  · exact ⟨rfl, .inl ⟨rfl, by simp [trace, Signal.say, Signal.series?]⟩⟩

theorem tells_done (q : WorkQueue) (key : String) : Tells q (q.done key).1 (q.done key).2 := by
  unfold done
  dsimp only
  split
  · exact tells_append { q with processing := q.processing.filter (· ≠ key) } key
  · exact .silent rfl rfl

theorem done_processing (q : WorkQueue) (key : String) :
    (q.done key).1.processing = q.processing.filter (· ≠ key) := by
  unfold done append
  by_cases h : key ∈ q.dirty ∧ q.stopped = false <;> simp [h]

theorem fire_processing (q : WorkQueue) (key : String) (number : Nat) :
    (q.fire key number).1.processing = q.processing := by
  unfold fire
  split
  · exact add_processing { q with delayed := q.delayed.erase key } key
  · rfl

theorem Sound.stop (h : q.Sound) : q.stop.Sound where
  pending_nodup := h.pending_nodup
  pending_dirty := h.pending_dirty
  pending_free := h.pending_free
  dirty_covered hs := nomatch hs

theorem nextCalled?_frame {caller : Nat} (h : q.nextCalled? = some (caller, q')) :
    q'.name = q.name ∧ q'.pending = q.pending ∧ q'.dirty = q.dirty ∧
      q'.processing = q.processing ∧ q'.stopped = q.stopped := by
  unfold nextCalled? at h
  split at h
  · cases h
  · cases h
    exact ⟨rfl, rfl, rfl, rfl, rfl⟩

/-- A caller that looks for a key takes one, or leaves the lists as they are. -/
theorem lookOrWait_cases (q : WorkQueue) (caller : Nat) :
    (∃ key, (q.lookOrWait caller).2.1 = .key key ∧ ({ q with permit := false } : WorkQueue).take =
        ((q.lookOrWait caller).1, .key key, [(q.lookOrWait caller).1.depth]) ∧
        (q.lookOrWait caller).2.2 = [(q.lookOrWait caller).1.depth] ∧
        (q.lookOrWait caller).1.name = q.name) ∨
      (∀ key, (q.lookOrWait caller).2.1 ≠ .key key) ∧ (q.lookOrWait caller).2.2 = [] ∧
        (q.lookOrWait caller).1.pending = q.pending ∧ (q.lookOrWait caller).1.dirty = q.dirty ∧
        (q.lookOrWait caller).1.processing = q.processing ∧
        (q.lookOrWait caller).1.stopped = q.stopped ∧ (q.lookOrWait caller).1.name = q.name := by
  unfold lookOrWait look take
  cases hs : q.stopped with
  | true => exact .inr (by simp)
  | false =>
    cases hp : q.pending with
    | nil => exact .inr (by simp)
    | cons key rest => exact .inl ⟨key, by simp⟩

end WorkQueue

/-! ## Callers -/

namespace Callers

/-- A queue in use. -/
structure State where
  queue : WorkQueue
  /-- Who got which key and has not given it back. -/
  held : List (Nat × String)
  /-- All that was reported so far, here and elsewhere. -/
  signals : List Signal

/-- What can happen to a queue. -/
inductive Call where
  | add (key : String)
  | addRateLimited (now : Duration) (key : String)
  /-- The time of a delayed add has come, perhaps of one that was given up. -/
  | fire (key : String) (number : Nat)
  | forget (key : String)
  /-- The caller looks for a key, and stands in line if there is none. -/
  | get (caller : Nat)
  | done (caller : Nat) (key : String)
  | stop
  /-- The first of those that were called from the line is on its way to look again. -/
  | wake
  /-- Something is reported elsewhere. -/
  | report (signal : Signal)

/-- The key that a look gives. -/
def found? : Take → Option String
  | .key key => some key
  | .stopped | .nothing => none

namespace State

def start (name : String) (backoff : Backoff) : State := ⟨.empty name backoff, [], []⟩

def call (s : State) : Call → State
  | .add key => { s with
      queue := (s.queue.add key).1
      signals := s.signals ++ (s.queue.add key).2 }
  | .addRateLimited now key => { s with queue := (s.queue.addRateLimited now key).1 }
  | .fire key number => { s with
      queue := (s.queue.fire key number).1
      signals := s.signals ++ (s.queue.fire key number).2 }
  | .forget key => { s with queue := s.queue.forget key }
  | .get caller =>
    let (queue, taken, signals) := s.queue.lookOrWait caller
    ⟨queue, s.held ++ ((found? taken).map (caller, ·)).toList, s.signals ++ signals⟩
  | .done caller key =>
    let (queue, signals) := s.queue.done key
    ⟨queue, s.held.erase (caller, key), s.signals ++ signals⟩
  | .stop => { s with queue := s.queue.stop }
  | .wake =>
    match s.queue.nextCalled? with
    | some (_, queue) => { s with queue }
    | none => s
  | .report signal => { s with signals := s.signals ++ [signal] }

/-- A key is given back by a caller who holds it, and nobody else sets the gauge of the queue. -/
def Allows (s : State) : Call → Prop
  | .done caller key => (caller, key) ∈ s.held
  | .report signal => signal.series? ≠ some (.queueDepth, s.queue.name)
  | .add _ | .addRateLimited .. | .fire .. | .forget _ | .get _ | .stop | .wake => True

/-- What the gauge of the waiting keys shows for the queue. -/
def gauge (s : State) : Nat :=
  (Registry.ofSignals s.signals).reading .queueDepth s.queue.name

end State

/-- Any sequence of calls. -/
inductive Run (s : State) : List Call → State → Prop where
  | refl : Run s [] s
  | step {calls : List Call} {s' : State} (run : Run s calls s') {c : Call}
      (allowed : s'.Allows c) : Run s (calls ++ [c]) (s'.call c)

/-- What holds whatever is called. -/
structure Inv (s : State) : Prop where
  sound : s.queue.Sound
  /-- No key is held twice. -/
  held : (s.held.map (·.2)).Nodup
  /-- What is being worked on is what is held. -/
  processing : ∀ key, key ∈ s.queue.processing ↔ key ∈ s.held.map (·.2)
  meters : (Registry.ofSignals s.signals).Complete
  gauge : s.gauge = Nat.min s.queue.pending.length Registry.maxLevel

variable {s s' : State}

theorem Inv.start (name : String) (backoff : Backoff) : Inv (.start name backoff) where
  sound := .empty name backoff
  held := List.nodup_nil
  processing key := by simp [State.start, WorkQueue.empty]
  meters := Registry.complete_empty
  gauge := (Registry.reading_empty _ _).trans (Nat.zero_min _).symm

theorem ofSignals_append (signals more : List Signal) :
    Registry.ofSignals (signals ++ more) = more.foldl Registry.apply (.ofSignals signals) :=
  List.foldl_append

/-- Signals that set no gauge leave it as it is. -/
theorem reading_ofSignals {signals : List Signal} (more : List Signal) (m : Meter)
    (label : String) (hc : (Registry.ofSignals signals).Complete)
    (h : ∀ s ∈ more, s.series? ≠ some (m, label)) :
    (Registry.ofSignals (signals ++ more)).Complete ∧
      (Registry.ofSignals (signals ++ more)).reading m label =
        (Registry.ofSignals signals).reading m label := by
  induction more generalizing signals with
  | nil => simpa using hc
  | cons x more ih =>
    have hx : Registry.ofSignals (signals ++ [x]) = (Registry.ofSignals signals).apply x :=
      ofSignals_append signals [x]
    have hc' : (Registry.ofSignals (signals ++ [x])).Complete := hx ▸ hc.apply x
    obtain ⟨hcomplete, hreading⟩ := ih hc' fun s hs => h s (List.mem_cons_of_mem _ hs)
    rw [List.append_assoc] at hcomplete hreading
    refine ⟨hcomplete, hreading.trans ?_⟩
    rw [hx, Registry.reading_apply (h x List.mem_cons_self)]

/-- The gauge is right after an operation that tells of its changes. -/
theorem Inv.tells (h : Inv s) {queue : WorkQueue} {signals : List Signal}
    (ht : s.queue.Tells queue signals) (held : List (Nat × String)) :
    (Registry.ofSignals (s.signals ++ signals)).Complete ∧
      State.gauge ⟨queue, held, s.signals ++ signals⟩ =
        Nat.min queue.pending.length Registry.maxLevel := by
  obtain ⟨hname, ⟨hpending, hsilent⟩ | rfl⟩ := ht
  · obtain ⟨hc, hr⟩ := reading_ofSignals signals .queueDepth s.queue.name h.meters
      fun x hx => by simp [hsilent x hx]
    refine ⟨hc, ?_⟩
    unfold State.gauge
    rw [hname, hr, hpending]
    exact h.gauge
  · unfold State.gauge
    rw [ofSignals_append]
    exact ⟨h.meters.apply queue.depth, Registry.reading_level h.meters _⟩

/-- What leaves the keys that are worked on alone changes nothing about who holds them. -/
theorem Inv.same (h : Inv s) {queue : WorkQueue} {signals : List Signal} (sound : queue.Sound)
    (hr : queue.processing = s.queue.processing) (ht : s.queue.Tells queue signals) :
    Inv ⟨queue, s.held, s.signals ++ signals⟩ where
  sound := sound
  held := h.held
  processing key := by
    rw [hr]
    exact h.processing key
  meters := (h.tells ht s.held).1
  gauge := (h.tells ht s.held).2

/-- Nobody holds a key that waits. -/
theorem Inv.free (h : Inv s) {key : String} (hk : key ∈ s.queue.pending) (caller : Nat) :
    (caller, key) ∉ s.held := by
  intro hm
  have hheld : key ∈ s.held.map (·.2) := List.mem_map_of_mem hm
  exact h.sound.pending_free key hk ((h.processing key).2 hheld)

/-- A key that is found was waiting. -/
theorem pending_of_found {q q' : WorkQueue} {key : String} {ss : List Signal}
    (h : ({ q with permit := false } : WorkQueue).take = (q', .key key, ss)) :
    key ∈ q.pending := by
  obtain ⟨-, hp, -⟩ := WorkQueue.take_lists h
  have hp' : q.pending = key :: q'.pending := hp
  rw [hp']
  exact List.mem_cons_self

/-- The caller who takes a key is the only one to hold it. -/
theorem Inv.get (h : Inv s) (caller : Nat) : Inv (s.call (.get caller)) := by
  rcases s.queue.lookOrWait_cases caller with ⟨key, hkey, htake, hsignals, hname⟩ |
    ⟨hnone, hsignals, hp, hd, hr, hs, hn⟩
  · have hcall : s.call (.get caller) = ⟨(s.queue.lookOrWait caller).1, s.held ++ [(caller, key)],
        s.signals ++ [(s.queue.lookOrWait caller).1.depth]⟩ := by
      simp [State.call, hkey, hsignals, found?]
    have hlook : ({ s.queue with permit := false } : WorkQueue).Sound :=
      h.sound.congr rfl rfl rfl rfl
    have htells : s.queue.Tells (s.queue.lookOrWait caller).1
        [(s.queue.lookOrWait caller).1.depth] := ⟨hname, .inr rfl⟩
    obtain ⟨-, -, -, hr⟩ := WorkQueue.take_lists htake
    -- The key waited until now, and what waits is not worked on, so nobody holds it.
    have hfree : key ∉ s.held.map (·.2) := by
      rw [← h.processing]
      exact h.sound.pending_free key (pending_of_found htake)
    rw [hcall]
    constructor
    · exact hlook.take htake
    · rw [List.map_append, List.nodup_append]
      refine ⟨h.held, List.pairwise_singleton _ _, fun a ha b hb => ?_⟩
      rw [List.mem_singleton.1 hb]
      rintro rfl
      exact hfree ha
    · intro k
      rw [hr k, List.map_append, List.mem_append, ← h.processing]
      simp
    · exact (h.tells htells (s.held ++ [(caller, key)])).1
    · exact (h.tells htells (s.held ++ [(caller, key)])).2
  · have hcall : s.call (.get caller) = ⟨(s.queue.lookOrWait caller).1, s.held,
        s.signals ++ []⟩ := by
      have hfound : found? (s.queue.lookOrWait caller).2.1 = none := by
        cases ht : (s.queue.lookOrWait caller).2.1 with
        | key key => exact absurd ht (hnone key)
        | stopped | nothing => rfl
      simp [State.call, hfound, hsignals]
    rw [hcall]
    exact h.same (h.sound.congr hp hd hr hs) hr (.silent hn hp)

/-- What is left when one of several different keys is given back. -/
theorem mem_map_erase {held : List (Nat × String)} (hd : (held.map (·.2)).Nodup)
    {p : Nat × String} (hp : p ∈ held) {key : String} :
    key ∈ (held.erase p).map (·.2) ↔ key ∈ held.map (·.2) ∧ key ≠ p.2 := by
  have hperm : (held.map (·.2)).Perm (p.2 :: (held.erase p).map (·.2)) :=
    (List.perm_cons_erase hp).map (·.2)
  have hnot : p.2 ∉ (held.erase p).map (·.2) := (List.nodup_cons.1 (hperm.nodup_iff.1 hd)).1
  rw [hperm.mem_iff, List.mem_cons]
  constructor
  · intro hk
    exact ⟨.inr hk, fun he => hnot (he ▸ hk)⟩
  · rintro ⟨hk, hne⟩
    exact hk.resolve_left hne

/-- The caller who gives a key back held it, so it is being worked on and does not wait. -/
theorem Inv.done (h : Inv s) {caller : Nat} {key : String} (holds : (caller, key) ∈ s.held) :
    Inv (s.call (.done caller key)) := by
  have hproc : key ∈ s.queue.processing := (h.processing key).2 (List.mem_map_of_mem holds)
  have htells := s.queue.tells_done key
  constructor
  · exact h.sound.done hproc
  · exact (List.erase_sublist.map _).nodup h.held
  · intro k
    have hr : k ∈ (s.queue.done key).1.processing ↔ k ∈ s.queue.processing ∧ k ≠ key := by
      rw [WorkQueue.done_processing, List.mem_filter]
      simp
    have hheld : k ∈ (s.held.erase (caller, key)).map (·.2) ↔ k ∈ s.held.map (·.2) ∧ k ≠ key :=
      mem_map_erase h.held holds
    exact hr.trans ((and_congr_left' (h.processing k)).trans hheld.symm)
  · exact (h.tells htells (s.held.erase (caller, key))).1
  · exact (h.tells htells (s.held.erase (caller, key))).2

/-- Every call preserves it. -/
theorem Inv.call (h : Inv s) {c : Call} (allowed : s.Allows c) : Inv (s.call c) := by
  cases c with
  | add key =>
    exact h.same (h.sound.add key) (WorkQueue.add_processing _ _) (s.queue.tells_add key)
  | addRateLimited now key =>
    have hq := h.same (h.sound.addRateLimited now key)
      (WorkQueue.addRateLimited_frame s.queue now key).2.2.1 (s.queue.tells_addRateLimited now key)
    rwa [List.append_nil] at hq
  | fire key number =>
    exact h.same (h.sound.fire key number) (WorkQueue.fire_processing _ _ _)
      (s.queue.tells_fire key number)
  | forget key =>
    have hq := h.same (h.sound.forget key) rfl (.silent rfl rfl)
    rwa [List.append_nil] at hq
  | get caller => exact h.get caller
  | done caller key => exact h.done allowed
  | stop =>
    have hq := h.same h.sound.stop rfl (.silent rfl rfl)
    rwa [List.append_nil] at hq
  | wake =>
    show Inv (match s.queue.nextCalled? with
      | some (_, queue) => { s with queue }
      | none => s)
    split
    · next w queue hw =>
      obtain ⟨hn, hp, hd, hr, hs⟩ := WorkQueue.nextCalled?_frame hw
      have hq := h.same (h.sound.congr hp hd hr hs) hr (.silent hn hp)
      rwa [List.append_nil] at hq
    · exact h
  | report signal =>
    obtain ⟨hc, hr⟩ := reading_ofSignals [signal] .queueDepth s.queue.name h.meters fun x hx => by
      rw [List.mem_singleton.1 hx]
      exact allowed
    exact { h with meters := hc, gauge := hr.trans h.gauge }

/-- Every run preserves it. -/
theorem Run.inv {calls : List Call} (hrun : Run s calls s') (h : Inv s) : Inv s' := by
  induction hrun with
  | refl => exact h
  | step run allowed ih => exact ih.call allowed

/-- Whoever calls, and in whatever order: a look never gives a key that somebody holds, the lists
fit together, and the length and the gauge are the number of the waiting keys. A gauge holds 63
bits, which no list in memory outgrows. -/
theorem exclusive_and_consistent {name : String} {backoff : Backoff} {calls : List Call}
    (hrun : Run (.start name backoff) calls s) :
    (∀ caller key, (s.queue.lookOrWait caller).2.1 = .key key → ∀ other, (other, key) ∉ s.held) ∧
      (s.held.map (·.2)).Nodup ∧ (∀ key, key ∈ s.queue.processing ↔ key ∈ s.held.map (·.2)) ∧
      s.queue.pending.Nodup ∧
      (∀ key ∈ s.queue.pending, key ∉ s.queue.processing ∧ key ∈ s.queue.dirty) ∧
      (s.queue.stopped = false → ∀ key ∈ s.queue.dirty,
        (key ∈ s.queue.pending ∧ key ∉ s.queue.processing) ∨
          (key ∉ s.queue.pending ∧ key ∈ s.queue.processing)) ∧
      s.queue.length = s.queue.pending.length ∧
      s.gauge = Nat.min s.queue.pending.length Registry.maxLevel ∧
      (s.queue.pending.length ≤ Registry.maxLevel → s.gauge = s.queue.pending.length) := by
  have h : Inv s := hrun.inv (.start name backoff)
  refine ⟨?_, h.held, h.processing, h.sound.pending_nodup, ?_, ?_, rfl, h.gauge, ?_⟩
  · intro caller key hkey
    rcases s.queue.lookOrWait_cases caller with ⟨found, hfound, htake, -⟩ | ⟨hnone, -⟩
    · obtain rfl : found = key := by
        rw [hfound] at hkey
        exact Take.key.inj hkey
      exact h.free (pending_of_found htake)
    · exact absurd hkey (hnone key)
  · exact fun key hk => ⟨h.sound.pending_free key hk, h.sound.pending_dirty key hk⟩
  · intro hs key hk
    by_cases hp : key ∈ s.queue.pending
    · exact .inl ⟨hp, h.sound.pending_free key hp⟩
    · exact .inr ⟨hp, (h.sound.dirty_covered hs key hk).resolve_left hp⟩
  · intro hle
    rw [h.gauge]
    exact Nat.min_eq_left hle

/-- One caller works on a key that is asked for again; another one looks, and gets the other key. -/
theorem exclusive_and_consistent_two : ∃ s : State,
    Run (.start "vault" ⟨.ofSeconds 1, .ofSeconds 60⟩)
      [.add "ns/a", .add "ns/b", .get 1, .add "ns/a"] s ∧
    (1, "ns/a") ∈ s.held ∧ "ns/a" ∈ s.queue.dirty ∧
    (s.queue.lookOrWait 2).2.1 = .key "ns/b" ∧ (∀ other, (other, "ns/b") ∉ s.held) ∧
    s.gauge = 1 := by
  have hrun := (((Run.refl.step (s := .start "vault" ⟨.ofSeconds 1, .ofSeconds 60⟩)
    (c := .add "ns/a") trivial).step (c := .add "ns/b") trivial).step (c := .get 1) trivial).step
    (c := .add "ns/a") trivial
  obtain ⟨hfree, -, -, -, -, -, -, -, hgauge⟩ := exclusive_and_consistent hrun
  exact ⟨_, hrun, by decide, by decide, by decide, hfree 2 "ns/b" (by decide),
    hgauge (by decide)⟩

end Callers

end VaultProjection

import VaultProjection.Proofs.Queue.Callers
import VaultProjection.Proofs.Queue.Growth

/-!
# Delayed adds come on time or not at all

A queue is used while time passes. A delayed add fires when its time has come: the clock does not go
past the deadline of one that is pending. One that was given up may still try to fire later, as its
timer may have run out when it was given up.

A failure that finds a delayed add pending leaves it as it is. That is soon enough for the new delay
too: delays grow with the failures, and the failures are cleared only together with the delayed add.

Results:
1. `Inv.step`: what every call and every passing of time preserves.
2. `Run.fires`: a pending delayed add stays pending until it fires, or is given up.
3. `Run.renewed`: what is pending after a key was forgotten has a number that was not given before.
4. `time_passes`: the clock can reach every later time, and all that happens is that adds fire.
5. `on_time`: all delayed adds are on time; those of a forgotten key never add it.
-/

namespace VaultProjection

namespace Backoff

/-- One more failure, as far as failures are counted, makes the delay no shorter. -/
theorem delay_counted (b : Backoff) (failures : Nat) :
    (b.delay failures).nanos ≤ (b.delay (Nat.min (failures + 1) (Nat.pow 2 32 - 1))).nanos := by
  by_cases h : failures + 1 ≤ Nat.pow 2 32 - 1
  · have hmin : Nat.min (failures + 1) (Nat.pow 2 32 - 1) = failures + 1 := Nat.min_eq_left h
    rw [hmin]
    exact b.delay_mono (Nat.le_succ failures)
  · -- So many failures have the largest factor already.
    have hmin : Nat.min (failures + 1) (Nat.pow 2 32 - 1) = Nat.pow 2 32 - 1 :=
      Nat.min_eq_right (Nat.le_of_not_le h)
    rw [hmin]
    refine b.delay_le_of_factor_le ?_
    rw [factor_of_le (show 32 ≤ Nat.pow 2 32 - 1 by decide)]
    exact factor_le_max failures

end Backoff

/-! ## What the operations of a queue do to its delayed adds -/

namespace WorkQueue

variable {q q' : WorkQueue} {key k : String}

/-- What the delayed adds go by. -/
structure Timing where
  delayed : Entries DelayedAdd
  failures : Entries Nat
  lastNumber : Nat
  backoff : Backoff
  stopped : Bool

def timing (q : WorkQueue) : Timing :=
  ⟨q.delayed, q.failures, q.lastNumber, q.backoff, q.stopped⟩

/-- The failures with one more of the key. -/
def counted (q : WorkQueue) (key : String) : Entries Nat :=
  q.failures.insert key (Nat.min (q.requeues key + 1) (Nat.pow 2 32 - 1))

theorem requeues_counted (h : q'.failures = q.counted key) (k : String) :
    q'.requeues k =
      if k = key then Nat.min (q.requeues key + 1) (Nat.pow 2 32 - 1) else q.requeues k := by
  unfold requeues
  rw [h, counted, Entries.get?_insert]
  split <;> rfl

theorem timing_callOne (q : WorkQueue) : q.callOne.timing = q.timing := by
  unfold callOne
  split <;> rfl

theorem timing_append (q : WorkQueue) (key : String) : (q.append key).1.timing = q.timing :=
  timing_callOne { q with pending := q.pending ++ [key] }

theorem timing_add (q : WorkQueue) (key : String) : (q.add key).1.timing = q.timing := by
  unfold add
  split
  · rfl
  · dsimp only
    split
    · rfl
    · exact timing_append { q with dirty := q.dirty ++ [key] } key

theorem timing_done (q : WorkQueue) (key : String) : (q.done key).1.timing = q.timing := by
  unfold done
  dsimp only
  split
  · exact timing_append { q with processing := q.processing.filter (· ≠ key) } key
  · rfl

theorem timing_lookOrWait (q : WorkQueue) (caller : Nat) :
    (q.lookOrWait caller).1.timing = q.timing := by
  unfold lookOrWait look take
  cases hs : q.stopped with
  | true => simp [timing, hs]
  | false => cases hp : q.pending <;> simp [timing, hs]

theorem timing_nextCalled? {caller : Nat} (h : q.nextCalled? = some (caller, q')) :
    q'.timing = q.timing := by
  unfold nextCalled? at h
  split at h
  · cases h
  · cases h
    rfl

/-- The delayed add that a failure would start. -/
def nextDelayed (q : WorkQueue) (now : Duration) (key : String) : DelayedAdd :=
  ⟨q.lastNumber + 1, ⟨now.nanos + (q.backoff.delay (q.requeues key)).nanos⟩⟩

/-- A failure gets its delay. It starts a delayed add unless one is pending. -/
theorem addRateLimited_cases (h : q.stopped = false) (now : Duration) (key : String) :
    (q.addRateLimited now key).2 = q.backoff.delay (q.requeues key) ∧
      ((∃ d, q.delayed.get? key = some d ∧ (q.addRateLimited now key).1.timing =
          ⟨q.delayed, q.counted key, q.lastNumber, q.backoff, q.stopped⟩) ∨
        q.delayed.get? key = none ∧ (q.addRateLimited now key).1.timing =
          ⟨q.delayed.insert key (q.nextDelayed now key), q.counted key, q.lastNumber + 1,
            q.backoff, q.stopped⟩) := by
  unfold addRateLimited
  simp only [h, Bool.false_eq_true, if_false]
  cases hd : q.delayed.get? key with
  | some d =>
    have hc : q.delayed.contains key = true := by simp [Entries.contains, hd]
    rw [if_pos hc]
    exact ⟨rfl, .inl ⟨d, rfl, by simp [timing, counted]⟩⟩
  | none =>
    have hc : ¬ q.delayed.contains key = true := by simp [Entries.contains, hd]
    rw [if_neg hc]
    exact ⟨rfl, .inr ⟨rfl, by simp [timing, counted, nextDelayed]⟩⟩

/-- A delayed add that is not the pending one does nothing when its time comes. -/
theorem fire_other {number : Nat} (h : ∀ d, q.delayed.get? key = some d → d.number ≠ number) :
    (q.fire key number).1 = q := by
  have hne : (q.delayed.get? key).map (·.number) ≠ some number := by
    cases hd : q.delayed.get? key with
    | none => nofun
    | some d => exact fun he => h d hd (Option.some.inj he)
  rw [fire, if_neg hne]

/-- The pending one is over when it fires, and its key is asked for. -/
theorem fire_pending_timing {d : DelayedAdd} (h : q.delayed.get? key = some d) :
    (q.fire key d.number).1.timing =
        ⟨q.delayed.erase key, q.failures, q.lastNumber, q.backoff, q.stopped⟩ ∧
      (q.stopped = false → key ∈ (q.fire key d.number).1.dirty) := by
  rw [fire_pending h]
  refine ⟨timing_add { q with delayed := q.delayed.erase key } key, fun hs => ?_⟩
  have hs' : ({ q with delayed := q.delayed.erase key } : WorkQueue).stopped = false := hs
  exact (mem_dirty_add hs').2 (.inr rfl)

end WorkQueue

/-! ## A queue in use while time passes -/

namespace Deadlines

open Callers (Call)

structure State where
  use : Callers.State
  clock : Duration
  /-- All delayed adds that were ever pending, with their keys. -/
  armed : List (String × DelayedAdd)

inductive Event where
  | call (c : Call)
  | wait (time : Duration)

namespace State

def start (name : String) (backoff : Backoff) (clock : Duration) : State :=
  ⟨.start name backoff, clock, []⟩

def queue (s : State) : WorkQueue := s.use.queue

def after (s : State) : Event → State
  | .call c => ⟨s.use.call c, s.clock, s.armed ++ (s.use.call c).queue.delayed⟩
  | .wait time => { s with clock := time }

/-- A failure is counted at the time that it is. A delayed add tries to fire when its time has come,
pending or not. The clock goes only forward, and not past the deadline of one that is pending. -/
def Allows (s : State) : Event → Prop
  | .call (.addRateLimited now _) => now = s.clock
  | .call (.fire key number) =>
    ∃ d, (key, d) ∈ s.armed ∧ d.number = number ∧ d.deadline.nanos ≤ s.clock.nanos
  | .call _ => True
  | .wait time => s.clock.nanos ≤ time.nanos ∧
    ∀ key d, s.queue.delayed.get? key = some d → time.nanos ≤ d.deadline.nanos

end State

/-- Any sequence of calls while time passes. -/
inductive Run (s : State) : List Event → State → Prop where
  | refl : Run s [] s
  | step {events : List Event} {s' : State} (run : Run s events s') {e : Event}
      (allowed : s'.Allows e) : Run s (events ++ [e]) (s'.after e)

variable {s s' : State} {e : Event} {events : List Event} {key : String} {d : DelayedAdd}

/-! ## One call -/

/-- What a call can do to the delayed adds of a queue. -/
inductive Moves (q q' : WorkQueue) : Call → Prop where
  | same {c : Call} (timing : q'.timing = q.timing) : Moves q q' c
  | counts {now : Duration} {key : String} {d : DelayedAdd}
      (pending : q.delayed.get? key = some d)
      (timing : q'.timing =
        ⟨q.delayed, q.counted key, q.lastNumber, q.backoff, q.stopped⟩) :
      Moves q q' (.addRateLimited now key)
  | arms {now : Duration} {key : String} (none : q.delayed.get? key = none)
      (timing : q'.timing = ⟨q.delayed.insert key (q.nextDelayed now key), q.counted key,
        q.lastNumber + 1, q.backoff, q.stopped⟩) :
      Moves q q' (.addRateLimited now key)
  | fires {key : String} {d : DelayedAdd} (pending : q.delayed.get? key = some d)
      (timing : q'.timing =
        ⟨q.delayed.erase key, q.failures, q.lastNumber, q.backoff, q.stopped⟩) :
      Moves q q' (.fire key d.number)
  | forgets {key : String} (timing : q'.timing =
        ⟨q.delayed.erase key, q.failures.erase key, q.lastNumber, q.backoff, q.stopped⟩) :
      Moves q q' (.forget key)
  | stops (timing : q'.timing = ⟨[], q.failures, q.lastNumber, q.backoff, true⟩) :
      Moves q q' .stop

theorem moves (s : Callers.State) (c : Call) : Moves s.queue (s.call c).queue c := by
  cases c with
  | add key => exact .same (s.queue.timing_add key)
  | addRateLimited now key =>
    cases hs : s.queue.stopped with
    | true => exact .same (by simp [Callers.State.call, WorkQueue.addRateLimited, hs])
    | false =>
      rcases (WorkQueue.addRateLimited_cases hs now key).2 with ⟨d, hd, ht⟩ | ⟨hd, ht⟩
      · exact .counts hd ht
      · exact .arms hd ht
  | fire key number =>
    by_cases hother : ∀ d, s.queue.delayed.get? key = some d → d.number ≠ number
    · exact .same (congrArg WorkQueue.timing (WorkQueue.fire_other hother))
    · obtain ⟨d, hd⟩ := Classical.not_forall.1 hother
      obtain ⟨hpending, hnumber⟩ := Classical.not_imp.1 hd
      obtain rfl := Classical.not_not.1 hnumber
      exact .fires hpending (WorkQueue.fire_pending_timing hpending).1
  | forget key => exact .forgets rfl
  | get caller => exact .same (s.queue.timing_lookOrWait caller)
  | done caller key => exact .same (s.queue.timing_done key)
  | stop => exact .stops rfl
  | wake =>
    refine .same ?_
    unfold Callers.State.call
    dsimp only
    split
    · next w queue hw => exact WorkQueue.timing_nextCalled? hw
    · rfl
  | report signal => exact .same rfl

namespace Moves

variable {q q' : WorkQueue} {c : Call}

theorem backoff (h : Moves q q' c) : q'.backoff = q.backoff := by
  cases h with
  | same ht | counts _ ht | arms _ ht | fires _ ht | forgets ht | stops ht =>
    exact congrArg WorkQueue.Timing.backoff ht

theorem stopped (h : Moves q q' c) (hc : c ≠ .stop) : q'.stopped = q.stopped := by
  cases h with
  | same ht | counts _ ht | arms _ ht | fires _ ht | forgets ht =>
    exact congrArg WorkQueue.Timing.stopped ht
  | stops ht => exact absurd rfl hc

theorem sorted (h : Moves q q' c) (hq : q.delayed.Sorted) : q'.delayed.Sorted := by
  cases h with
  | same ht | counts _ ht =>
    have hd : q'.delayed = q.delayed := congrArg WorkQueue.Timing.delayed ht
    rwa [hd]
  | arms _ ht =>
    have hd : q'.delayed = q.delayed.insert _ _ := congrArg WorkQueue.Timing.delayed ht
    rw [hd]
    exact hq.insert _ _
  | fires _ ht | forgets ht =>
    have hd : q'.delayed = q.delayed.erase _ := congrArg WorkQueue.Timing.delayed ht
    rw [hd]
    exact hq.erase _
  | stops ht =>
    have hd : q'.delayed = [] := congrArg WorkQueue.Timing.delayed ht
    rw [hd]
    exact Entries.sorted_nil

/-- A call makes at most one delayed add pending, under the next number. -/
theorem numbers (h : Moves q q' c) :
    (q'.lastNumber = q.lastNumber ∧ ∀ p ∈ q'.delayed, p ∈ q.delayed) ∨
      ∃ new, new.2.number = q.lastNumber + 1 ∧ q'.lastNumber = q.lastNumber + 1 ∧
        ∀ p ∈ q'.delayed, p = new ∨ p ∈ q.delayed := by
  cases h with
  | same ht | counts _ ht =>
    have hd : q'.delayed = q.delayed := congrArg WorkQueue.Timing.delayed ht
    exact .inl ⟨congrArg WorkQueue.Timing.lastNumber ht, fun p hp => hd ▸ hp⟩
  | @arms now key _ ht =>
    have hd : q'.delayed = q.delayed.insert _ _ := congrArg WorkQueue.Timing.delayed ht
    exact .inr ⟨(key, q.nextDelayed now key), rfl, congrArg WorkQueue.Timing.lastNumber ht,
      fun p hp => Entries.mem_insert (hd ▸ hp)⟩
  | fires _ ht | forgets ht =>
    have hd : q'.delayed = q.delayed.erase _ := congrArg WorkQueue.Timing.delayed ht
    exact .inl ⟨congrArg WorkQueue.Timing.lastNumber ht,
      fun p hp => (List.mem_filter.1 (hd ▸ hp)).1⟩
  | stops ht =>
    have hd : q'.delayed = [] := congrArg WorkQueue.Timing.delayed ht
    exact .inl ⟨congrArg WorkQueue.Timing.lastNumber ht, fun p hp => nomatch hd ▸ hp⟩

theorem lastNumber_le (h : Moves q q' c) : q.lastNumber ≤ q'.lastNumber := by
  rcases h.numbers with ⟨hn, -⟩ | ⟨new, -, hn, -⟩ <;> omega

/-- What is pending was pending, or a failure has just started it. Its delay is no shorter than
before: the failures of a key are cleared only when nothing is pending for it. -/
theorem pending (h : Moves q q' c) (hd : q'.delayed.get? key = some d) :
    (q.delayed.get? key = some d ∨
        ∃ now, c = .addRateLimited now key ∧ d = q.nextDelayed now key) ∧
      (q.backoff.delay (q.requeues key)).nanos ≤ (q.backoff.delay (q'.requeues key)).nanos := by
  have hsame (hf : q'.failures = q.failures) :
      (q.backoff.delay (q.requeues key)).nanos ≤ (q.backoff.delay (q'.requeues key)).nanos := by
    unfold WorkQueue.requeues
    exact Nat.le_of_eq (by rw [hf])
  have hcounted {k : String} (hf : q'.failures = q.counted k) :
      (q.backoff.delay (q.requeues key)).nanos ≤ (q.backoff.delay (q'.requeues key)).nanos := by
    rw [WorkQueue.requeues_counted hf]
    split
    · next hk => exact hk ▸ q.backoff.delay_counted _
    · exact Nat.le_refl _
  cases h with
  | same ht =>
    have hq : q'.delayed = q.delayed := congrArg WorkQueue.Timing.delayed ht
    exact ⟨.inl (hq ▸ hd), hsame (congrArg WorkQueue.Timing.failures ht)⟩
  | counts _ ht =>
    have hq : q'.delayed = q.delayed := congrArg WorkQueue.Timing.delayed ht
    exact ⟨.inl (hq ▸ hd), hcounted (congrArg WorkQueue.Timing.failures ht)⟩
  | @arms now k _ ht =>
    have hq : q'.delayed = q.delayed.insert _ _ := congrArg WorkQueue.Timing.delayed ht
    refine ⟨?_, hcounted (congrArg WorkQueue.Timing.failures ht)⟩
    rw [hq, Entries.get?_insert] at hd
    split at hd
    · next hk =>
      subst hk
      exact .inr ⟨now, rfl, (Option.some.inj hd).symm⟩
    · exact .inl hd
  | fires _ ht =>
    have hq : q'.delayed = q.delayed.erase _ := congrArg WorkQueue.Timing.delayed ht
    rw [hq, Entries.get?_erase] at hd
    split at hd
    · cases hd
    · exact ⟨.inl hd, hsame (congrArg WorkQueue.Timing.failures ht)⟩
  | @forgets k ht =>
    have hq : q'.delayed = q.delayed.erase _ := congrArg WorkQueue.Timing.delayed ht
    have hf : q'.failures = q.failures.erase _ := congrArg WorkQueue.Timing.failures ht
    rw [hq, Entries.get?_erase] at hd
    split at hd
    · cases hd
    · next hk =>
      refine ⟨.inl hd, ?_⟩
      unfold WorkQueue.requeues
      exact Nat.le_of_eq (by rw [hf, Entries.get?_erase, if_neg hk])
  | stops ht =>
    have hq : q'.delayed = [] := congrArg WorkQueue.Timing.delayed ht
    rw [hq] at hd
    cases hd

/-- A key without failures has none as long as nobody counts one. -/
theorem requeues_zero (h : Moves q q' c) (hq : q.requeues key = 0)
    (hc : ∀ now, c ≠ .addRateLimited now key) : q'.requeues key = 0 := by
  cases h with
  | same ht | fires _ ht | stops ht =>
    have hf : q'.failures = q.failures := congrArg WorkQueue.Timing.failures ht
    unfold WorkQueue.requeues
    rw [hf]
    exact hq
  | @counts now k _ _ ht | @arms now k _ ht =>
    rw [WorkQueue.requeues_counted (congrArg WorkQueue.Timing.failures ht), if_neg, hq]
    rintro rfl
    exact hc now rfl
  | forgets ht =>
    have hf : q'.failures = q.failures.erase _ := congrArg WorkQueue.Timing.failures ht
    unfold WorkQueue.requeues at hq ⊢
    rw [hf, Entries.get?_erase]
    split
    · rfl
    · exact hq

/-- What is pending stays, unless it fires or is given up. -/
theorem remains (h : Moves q q' c) (hd : q.delayed.get? key = some d)
    (hforget : c ≠ .forget key) (hstop : c ≠ .stop) :
    q'.delayed.get? key = some d ∨ c = .fire key d.number := by
  cases h with
  | same ht | counts _ ht =>
    have hq : q'.delayed = q.delayed := congrArg WorkQueue.Timing.delayed ht
    exact .inl (hq ▸ hd)
  | arms hnone ht =>
    have hq : q'.delayed = q.delayed.insert _ _ := congrArg WorkQueue.Timing.delayed ht
    refine .inl ?_
    rw [hq, Entries.get?_insert, if_neg, hd]
    rintro rfl
    rw [hd] at hnone
    cases hnone
  | @fires k d' hpending ht =>
    have hq : q'.delayed = q.delayed.erase _ := congrArg WorkQueue.Timing.delayed ht
    by_cases hk : key = k
    · subst hk
      rw [hd] at hpending
      obtain rfl := Option.some.inj hpending
      exact .inr rfl
    · refine .inl ?_
      rw [hq, Entries.get?_erase, if_neg hk, hd]
  | @forgets k ht =>
    have hq : q'.delayed = q.delayed.erase _ := congrArg WorkQueue.Timing.delayed ht
    refine .inl ?_
    rw [hq, Entries.get?_erase, if_neg, hd]
    rintro rfl
    exact hforget rfl
  | stops => exact absurd rfl hstop

end Moves

/-! ## One event -/

/-- What holds whatever is called and however time passes. -/
structure Inv (s : State) : Prop where
  sorted : s.queue.delayed.Sorted
  armed : ∀ p ∈ s.queue.delayed, p ∈ s.armed
  numbered : ∀ p ∈ s.armed, p.2.number ≤ s.queue.lastNumber
  unique : ∀ p ∈ s.armed, ∀ p' ∈ s.armed, p.2.number = p'.2.number → p = p'
  /-- No deadline of a pending delayed add has passed. -/
  ahead : ∀ key d, s.queue.delayed.get? key = some d → s.clock.nanos ≤ d.deadline.nanos
  /-- A failure now would not get a shorter delay than what is left of the pending one. -/
  soon : ∀ key d, s.queue.delayed.get? key = some d →
    d.deadline.nanos ≤ s.clock.nanos + (s.queue.backoff.delay (s.queue.requeues key)).nanos

theorem Inv.start (name : String) (backoff : Backoff) (clock : Duration) :
    Inv (.start name backoff clock) where
  sorted := Entries.sorted_nil
  armed _ hp := nomatch hp
  numbered _ hp := nomatch hp
  unique _ hp := nomatch hp
  ahead _ _ hd := nomatch hd
  soon _ _ hd := nomatch hd

/-- A failure is counted at the time that it is. -/
theorem State.Allows.now {now : Duration} {c : Call} (allowed : s.Allows (.call c))
    (hc : c = .addRateLimited now key) : now = s.clock := by
  subst hc
  exact allowed

theorem Inv.call (h : Inv s) {c : Call} (allowed : s.Allows (.call c)) :
    Inv (s.after (.call c)) := by
  have hmoves : Moves s.queue (s.after (.call c)).queue c := moves s.use c
  have hbackoff := hmoves.backoff
  have harmed : (s.after (.call c)).armed = s.armed ++ (s.after (.call c)).queue.delayed := rfl
  have hclock : (s.after (.call c)).clock = s.clock := rfl
  generalize s.after (.call c) = s' at hmoves hbackoff harmed hclock ⊢
  constructor
  · exact hmoves.sorted h.sorted
  · intro p hp
    rw [harmed]
    exact List.mem_append_right _ hp
  · intro p hp
    rw [harmed] at hp
    have hle := hmoves.lastNumber_le
    rcases List.mem_append.1 hp with hp | hp
    · exact Nat.le_trans (h.numbered p hp) hle
    · rcases hmoves.numbers with ⟨hn, hold⟩ | ⟨new, hnew, hn, hold⟩
      · exact Nat.le_trans (h.numbered p (h.armed p (hold p hp))) hle
      · rcases hold p hp with rfl | hp
        · omega
        · exact Nat.le_trans (h.numbered p (h.armed p hp)) hle
  · rw [harmed]
    -- A new one has a number above all others.
    rcases hmoves.numbers with ⟨hn, hold⟩ | ⟨new, hnew, hn, hold⟩
    · have hmem : ∀ p ∈ s.armed ++ s'.queue.delayed, p ∈ s.armed := fun p hp =>
        (List.mem_append.1 hp).elim id fun hp => h.armed p (hold p hp)
      exact fun p hp p' hp' => h.unique p (hmem p hp) p' (hmem p' hp')
    · have hmem : ∀ p ∈ s.armed ++ s'.queue.delayed, p = new ∨ p ∈ s.armed := fun p hp =>
        (List.mem_append.1 hp).elim .inr fun hp => (hold p hp).imp_right (h.armed p)
      have habove : ∀ p ∈ s.armed, p.2.number < new.2.number := fun p hp => by
        have hle := h.numbered p hp
        omega
      intro p hp p' hp' he
      rcases hmem p hp with rfl | hp <;> rcases hmem p' hp' with rfl | hp'
      · rfl
      · exact absurd he (Nat.ne_of_gt (habove p' hp'))
      · exact absurd he (Nat.ne_of_lt (habove p hp))
      · exact h.unique p hp p' hp' he
  · intro key d hd
    rw [hclock]
    rcases (hmoves.pending hd).1 with hold | ⟨now, hc, rfl⟩
    · exact h.ahead key d hold
    · rw [allowed.now hc]
      exact Nat.le_add_right _ _
  · intro key d hd
    rw [hclock, hbackoff]
    obtain ⟨hpending, hle⟩ := hmoves.pending hd
    rcases hpending with hold | ⟨now, hc, rfl⟩
    · exact Nat.le_trans (h.soon key d hold) (Nat.add_le_add_left hle _)
    · rw [allowed.now hc]
      exact Nat.add_le_add_left hle _

/-- Every event preserves it. -/
theorem Inv.step (h : Inv s) (allowed : s.Allows e) : Inv (s.after e) := by
  cases e with
  | call c => exact h.call allowed
  | wait time =>
    exact { h with
      ahead := allowed.2
      soon := fun key d hd => Nat.le_trans (h.soon key d hd) (Nat.add_le_add_right allowed.1 _) }

/-- A delayed add that fires while it is pending fires at its deadline. -/
theorem Inv.deadline (h : Inv s) (hd : s.queue.delayed.get? key = some d)
    (allowed : s.Allows (.call (.fire key d.number))) : d.deadline = s.clock := by
  obtain ⟨d', hd', hn, hle⟩ := allowed
  have he := h.unique _ hd' _ (h.armed _ (Entries.mem_of_get? hd)) hn
  obtain rfl : d' = d := congrArg Prod.snd he
  have hge := h.ahead key d' hd
  have hnanos : d'.deadline.nanos = s.clock.nanos := Nat.le_antisymm hle hge
  cases hd : d'.deadline
  cases hc : s.clock
  rw [hd, hc] at hnanos
  exact congrArg Duration.mk hnanos

/-! ## Runs -/

/-- Every run preserves it. -/
theorem Run.inv (hrun : Run s events s') (h : Inv s) : Inv s' := by
  induction hrun with
  | refl => exact h
  | step run allowed ih => exact ih.step allowed

theorem Run.trans {s₁ s₂ : State} {more : List Event} (hrun : Run s events s₁)
    (hmore : Run s₁ more s₂) : Run s (events ++ more) s₂ := by
  induction hmore with
  | refl => rwa [List.append_nil]
  | step run allowed ih =>
    rw [← List.append_assoc]
    exact .step ih allowed

theorem Run.backoff (hrun : Run s events s') : s'.queue.backoff = s.queue.backoff := by
  induction hrun with
  | refl => rfl
  | @step events s' run e allowed ih =>
    cases e with
    | call c => exact (moves s'.use c).backoff.trans ih
    | wait time => exact ih

theorem Run.running (hrun : Run s events s') (hstop : .call .stop ∉ events) :
    s'.queue.stopped = s.queue.stopped := by
  induction hrun with
  | refl => rfl
  | @step events s' run e allowed ih =>
    rw [List.mem_append, List.mem_singleton, not_or] at hstop
    cases e with
    | call c =>
      have hc : c ≠ .stop := fun hc => hstop.2 (hc ▸ rfl)
      exact ((moves s'.use c).stopped hc).trans (ih hstop.1)
    | wait time => exact ih hstop.1

/-- A pending delayed add stays as it is until it fires, or is given up. -/
theorem Run.fires (hrun : Run s events s') (hd : s.queue.delayed.get? key = some d)
    (hforget : .call (.forget key) ∉ events) (hstop : .call .stop ∉ events) :
    s'.queue.delayed.get? key = some d ∨
      ∃ before s₁ later, events = before ++ .call (.fire key d.number) :: later ∧
        Run s before s₁ ∧ s₁.Allows (.call (.fire key d.number)) ∧
        s₁.queue.delayed.get? key = some d ∧
        Run (s₁.after (.call (.fire key d.number))) later s' := by
  induction hrun with
  | refl => exact .inl hd
  | @step events s' run e allowed ih =>
    rw [List.mem_append, List.mem_singleton, not_or] at hforget hstop
    rcases ih hforget.1 hstop.1 with hpending |
      ⟨before, s₁, later, rfl, hbefore, hfire, hd₁, hlater⟩
    · cases e with
      | wait time => exact .inl hpending
      | call c =>
        have hc : c ≠ .forget key := fun hc => hforget.2 (hc ▸ rfl)
        have hc' : c ≠ .stop := fun hc => hstop.2 (hc ▸ rfl)
        rcases (moves s'.use c).remains hpending hc hc' with hstill | rfl
        · exact .inl hstill
        · exact .inr ⟨events, s', [], rfl, run, allowed, hpending, .refl⟩
    · exact .inr ⟨before, s₁, later ++ [e], by simp, hbefore, hfire, hd₁, hlater.step allowed⟩

/-- What is pending after nothing was pending has a number that was not given before. -/
theorem Run.renewed (hrun : Run s events s') (hnone : s.queue.delayed.get? key = none)
    (hd : s'.queue.delayed.get? key = some d) : s.queue.lastNumber < d.number := by
  have hinv : s.queue.lastNumber ≤ s'.queue.lastNumber ∧
      ∀ d, s'.queue.delayed.get? key = some d → s.queue.lastNumber < d.number := by
    clear hd
    induction hrun with
    | refl => exact ⟨Nat.le_refl _, fun d hd => nomatch hnone.symm.trans hd⟩
    | @step events s' run e allowed ih =>
      cases e with
      | wait time => exact ih
      | call c =>
        have hmoves := moves s'.use c
        refine ⟨Nat.le_trans ih.1 hmoves.lastNumber_le, fun d hd => ?_⟩
        rcases (hmoves.pending hd).1 with hold | ⟨now, -, rfl⟩
        · exact ih.2 d hold
        · exact Nat.lt_succ_of_le ih.1
  exact hinv.2 d hd

theorem after_forget (s : State) (key : String) :
    (s.after (.call (.forget key))).queue.delayed.get? key = none ∧
      (s.after (.call (.forget key))).queue.requeues key = 0 := by
  constructor
  · show (s.queue.delayed.erase key).get? key = none
    rw [Entries.get?_erase, if_pos rfl]
  · show (s.queue.forget key).requeues key = 0
    rw [WorkQueue.requeues_forget, if_pos rfl]

/-- As long as no failure of a forgotten key is counted it has none, and nothing is pending. -/
theorem Run.forgotten (hrun : Run s events s') (hnone : s.queue.delayed.get? key = none)
    (hzero : s.queue.requeues key = 0)
    (hquiet : ∀ now, .call (.addRateLimited now key) ∉ events) :
    s'.queue.delayed.get? key = none ∧ s'.queue.requeues key = 0 := by
  induction hrun with
  | refl => exact ⟨hnone, hzero⟩
  | @step events s' run e allowed ih =>
    simp only [List.mem_append, List.mem_singleton, not_or] at hquiet
    obtain ⟨hnone', hzero'⟩ := ih fun now => (hquiet now).1
    cases e with
    | wait time => exact ⟨hnone', hzero'⟩
    | call c =>
      have hmoves := moves s'.use c
      have hc : ∀ now, c ≠ .addRateLimited now key := fun now hc => (hquiet now).2 (hc ▸ rfl)
      refine ⟨?_, hmoves.requeues_zero hzero' hc⟩
      cases hd : (s'.after (.call c)).queue.delayed.get? key with
      | none => rfl
      | some d =>
        rcases (hmoves.pending hd).1 with hold | ⟨now, hnow, -⟩
        · exact nomatch hnone'.symm.trans hold
        · exact absurd hnow (hc now)

/-! ## Time -/

/-- Time passes, or a delayed add tries to fire. -/
def Event.OfTime (e : Event) : Prop :=
  (∃ time, e = .wait time) ∨ ∃ key number, e = .call (.fire key number)

theorem exists_earliest {m : Entries DelayedAdd} (hm : m ≠ []) :
    ∃ p ∈ m, ∀ p' ∈ m, p.2.deadline.nanos ≤ p'.2.deadline.nanos := by
  induction m with
  | nil => exact absurd rfl hm
  | cons q m ih =>
    by_cases hnil : m = []
    · subst hnil
      refine ⟨q, List.mem_cons_self, fun p' hp' => ?_⟩
      exact Nat.le_of_eq (by rw [List.mem_singleton.1 hp'])
    · obtain ⟨p, hp, hle⟩ := ih hnil
      by_cases hq : q.2.deadline.nanos ≤ p.2.deadline.nanos
      · refine ⟨q, List.mem_cons_self, fun p' hp' => ?_⟩
        rcases List.mem_cons.1 hp' with rfl | hp'
        · exact Nat.le_refl _
        · exact Nat.le_trans hq (hle p' hp')
      · refine ⟨p, List.mem_cons_of_mem q hp, fun p' hp' => ?_⟩
        rcases List.mem_cons.1 hp' with rfl | hp'
        · exact Nat.le_of_not_le hq
        · exact hle p' hp'

/-- The clock can reach every later time: what is due on the way fires. -/
theorem time_passes (h : Inv s) {time : Duration} (ht : s.clock.nanos ≤ time.nanos) :
    ∃ events s', Run s events s' ∧ s'.clock = time ∧ ∀ e ∈ events, e.OfTime := by
  -- Each pending delayed add fires at most once, the earliest one first.
  generalize hn : s.queue.delayed.length = n
  induction n using Nat.strongRecOn generalizing s with
  | ind n ih =>
    subst hn
    by_cases hall : ∀ p ∈ s.queue.delayed, time.nanos ≤ p.2.deadline.nanos
    · refine ⟨[.wait time], _, Run.refl.step (e := .wait time) ⟨ht, fun key d hd => ?_⟩, rfl, ?_⟩
      · exact hall _ (Entries.mem_of_get? hd)
      · rintro e he
        rw [List.mem_singleton.1 he]
        exact .inl ⟨time, rfl⟩
    · obtain ⟨p₀, hp₀⟩ := Classical.not_forall.1 hall
      obtain ⟨hp₀, hlt⟩ := Classical.not_imp.1 hp₀
      obtain ⟨⟨key, d⟩, hp, hearliest⟩ := exists_earliest (List.ne_nil_of_mem hp₀)
      have hd : s.queue.delayed.get? key = some d := h.sorted.get?_of_mem hp
      have hwait : s.Allows (.wait d.deadline) := by
        exact ⟨h.ahead key d hd, fun k d' hd' => hearliest _ (Entries.mem_of_get? hd')⟩
      have hinv := h.step hwait
      have hfire : (s.after (.wait d.deadline)).Allows (.call (.fire key d.number)) :=
        ⟨d, h.armed _ hp, rfl, Nat.le_refl _⟩
      have hd' : (s.after (.wait d.deadline)).queue.delayed.get? key = some d := hd
      have hless : ((s.after (.wait d.deadline)).after
          (.call (.fire key d.number))).queue.delayed.length < s.queue.delayed.length := by
        have htiming := (WorkQueue.fire_pending_timing hd').1
        have hq : ((s.after (.wait d.deadline)).after
            (.call (.fire key d.number))).queue.delayed = s.queue.delayed.erase key :=
          congrArg WorkQueue.Timing.delayed htiming
        rw [hq]
        exact List.length_filter_lt_length_iff_exists.2 ⟨(key, d), hp, by simp⟩
      have htime : d.deadline.nanos ≤ time.nanos :=
        Nat.le_trans (hearliest p₀ hp₀) (Nat.le_of_not_le hlt)
      obtain ⟨events, s', hrun, hclock, hevents⟩ := ih _ hless (hinv.step hfire) htime rfl
      have htwo := (Run.refl.step hwait).step hfire
      refine ⟨_, s', htwo.trans hrun, hclock, fun e he => ?_⟩
      rcases List.mem_append.1 he with he | he
      · simp only [List.nil_append, List.cons_append, List.mem_cons, List.not_mem_nil,
          or_false] at he
        rcases he with rfl | rfl
        · exact .inl ⟨_, rfl⟩
        · exact .inr ⟨_, _, rfl⟩
      · exact hevents e he

/-! ## Delayed adds -/

/-- A delayed add does nothing when it fires, or it is the pending one and its time has just
come. -/
theorem Inv.fire (h : Inv s) {number : Nat} (allowed : s.Allows (.call (.fire key number))) :
    (s.queue.fire key number).1 = s.queue ∨
      ∃ d, s.queue.delayed.get? key = some d ∧ d.number = number ∧ d.deadline = s.clock := by
  by_cases hother : ∀ d, s.queue.delayed.get? key = some d → d.number ≠ number
  · exact .inl (WorkQueue.fire_other hother)
  · obtain ⟨d, hd⟩ := Classical.not_forall.1 hother
    obtain ⟨hpending, hnumber⟩ := Classical.not_imp.1 hd
    obtain rfl := Classical.not_not.1 hnumber
    exact .inr ⟨d, hpending, rfl, h.deadline hpending allowed⟩

/-- After a failure a delayed add is pending that is due before the delay is over, whether it was
pending before or not. -/
theorem Inv.failed (h : Inv s) (hs : s.queue.stopped = false) (key : String) :
    ∃ d, (s.after (.call (.addRateLimited s.clock key))).queue.delayed.get? key = some d ∧
      d.deadline.nanos ≤ s.clock.nanos + (s.queue.addRateLimited s.clock key).2.nanos := by
  obtain ⟨hdelay, ⟨d, hd, htiming⟩ | ⟨-, htiming⟩⟩ :=
    WorkQueue.addRateLimited_cases hs s.clock key
  · have hq : (s.after (.call (.addRateLimited s.clock key))).queue.delayed = s.queue.delayed :=
      congrArg WorkQueue.Timing.delayed htiming
    refine ⟨d, hq ▸ hd, ?_⟩
    rw [hdelay]
    exact h.soon key d hd
  · have hq : (s.after (.call (.addRateLimited s.clock key))).queue.delayed =
        s.queue.delayed.insert key (s.queue.nextDelayed s.clock key) :=
      congrArg WorkQueue.Timing.delayed htiming
    refine ⟨s.queue.nextDelayed s.clock key, ?_, ?_⟩
    · rw [hq, Entries.get?_insert, if_pos rfl]
    · rw [hdelay]
      exact Nat.le_refl _

/-- The first failure of a key with nothing pending starts a delayed add that never was before. -/
theorem Inv.started (h : Inv s) (hs : s.queue.stopped = false)
    (hnone : s.queue.delayed.get? key = none) (hzero : s.queue.requeues key = 0) :
    (s.queue.addRateLimited s.clock key).2 = s.queue.backoff.delay 0 ∧
      ∃ d, (s.after (.call (.addRateLimited s.clock key))).queue.delayed.get? key = some d ∧
        d.deadline.nanos = s.clock.nanos + (s.queue.backoff.delay 0).nanos ∧
        ∀ p ∈ s.armed, p.2.number ≠ d.number := by
  obtain ⟨hdelay, ⟨d, hd, -⟩ | ⟨-, htiming⟩⟩ := WorkQueue.addRateLimited_cases hs s.clock key
  · exact nomatch hnone.symm.trans hd
  · have hq : (s.after (.call (.addRateLimited s.clock key))).queue.delayed =
        s.queue.delayed.insert key (s.queue.nextDelayed s.clock key) :=
      congrArg WorkQueue.Timing.delayed htiming
    rw [hzero] at hdelay
    refine ⟨hdelay, s.queue.nextDelayed s.clock key, ?_, ?_, fun p hp => ?_⟩
    · rw [hq, Entries.get?_insert, if_pos rfl]
    · unfold WorkQueue.nextDelayed
      rw [hzero]
    · exact Nat.ne_of_lt (Nat.lt_succ_of_le (h.numbered p hp))

/-- However a queue is used while time passes, each key has at most one pending delayed add, and
none fires before its deadline. After a failure its key is asked for before the delay that was
returned is over, unless the key is forgotten or the queue stops: a delayed add is pending that is
due by then, and it does fire. Once a key is forgotten no delayed add from before asks for it, and
its next failure gets the first delay and a delayed add of its own. All this does not hold up the
time. -/
theorem on_time {name : String} {backoff : Backoff} {clock : Duration}
    (hrun : Run (.start name backoff clock) events s) :
    s.queue.delayed.keys.Nodup ∧
    (∀ key number, s.Allows (.call (.fire key number)) →
      (s.queue.fire key number).1 = s.queue ∨
        ∃ d, s.queue.delayed.get? key = some d ∧ d.number = number ∧ d.deadline = s.clock) ∧
    (s.queue.stopped = false → ∀ key later s',
      Run (s.after (.call (.addRateLimited s.clock key))) later s' →
      .call (.forget key) ∉ later → .call .stop ∉ later →
      (∃ d, s'.queue.delayed.get? key = some d ∧ s'.clock.nanos ≤ d.deadline.nanos ∧
        d.deadline.nanos ≤ s.clock.nanos + (s.queue.addRateLimited s.clock key).2.nanos) ∨
      ∃ before s₁ d more, later = before ++ .call (.fire key d.number) :: more ∧
        Run (s.after (.call (.addRateLimited s.clock key))) before s₁ ∧
        s₁.queue.delayed.get? key = some d ∧
        s₁.clock.nanos ≤ s.clock.nanos + (s.queue.addRateLimited s.clock key).2.nanos ∧
        key ∈ (s₁.after (.call (.fire key d.number))).queue.dirty) ∧
    (∀ key later s', Run (s.after (.call (.forget key))) later s' →
      (∀ d, (key, d) ∈ s.armed → (s'.queue.fire key d.number).1 = s'.queue) ∧
      (s'.queue.stopped = false → (∀ now, .call (.addRateLimited now key) ∉ later) →
        (s'.queue.addRateLimited s'.clock key).2 = backoff.delay 0 ∧
        ∃ d, (s'.after (.call (.addRateLimited s'.clock key))).queue.delayed.get? key = some d ∧
          d.deadline.nanos = s'.clock.nanos + (backoff.delay 0).nanos ∧
          ∀ p ∈ s'.armed, p.2.number ≠ d.number)) ∧
    ∀ time : Duration, s.clock.nanos ≤ time.nanos →
      ∃ later s', Run s later s' ∧ s'.clock = time ∧ ∀ e ∈ later, e.OfTime := by
  have h : Inv s := hrun.inv (.start name backoff clock)
  refine ⟨h.sorted.nodup, fun key number => h.fire, fun hs key later s' hlater hforget hstop => ?_,
    fun key later s' hlater => ⟨fun d hd => ?_, fun hs' hquiet => ?_⟩, fun time => time_passes h⟩
  · obtain ⟨d, hd, hdue⟩ := h.failed hs key
    have hinv := h.step (e := .call (.addRateLimited s.clock key)) rfl
    rcases hlater.fires hd hforget hstop with hpending |
      ⟨before, s₁, more, rfl, hbefore, -, hd₁, hmore⟩
    · exact .inl ⟨d, hpending, (hlater.inv hinv).ahead key d hpending, hdue⟩
    · refine .inr ⟨before, s₁, d, more, rfl, hbefore, hd₁, ?_, ?_⟩
      · exact Nat.le_trans ((hbefore.inv hinv).ahead key d hd₁) hdue
      · have hs₁ : s₁.queue.stopped = false := by
          rw [hbefore.running fun hm => hstop (List.mem_append_left _ hm)]
          exact ((moves s.use (.addRateLimited s.clock key)).stopped nofun).trans hs
        exact (WorkQueue.fire_pending_timing hd₁).2 hs₁
  · refine WorkQueue.fire_other fun d' hd' he => ?_
    have hlt : s.queue.lastNumber < d'.number := hlater.renewed (after_forget s key).1 hd'
    have hle : d.number ≤ s.queue.lastNumber := h.numbered _ hd
    omega
  · obtain ⟨hnone, hzero⟩ := after_forget s key
    obtain ⟨hnone', hzero'⟩ := hlater.forgotten hnone hzero hquiet
    have hforget : s.Allows (.call (.forget key)) := trivial
    have hbackoff : s'.queue.backoff = backoff := by
      rw [((hrun.step hforget).trans hlater).backoff]
      rfl
    have hstarted := (hlater.inv (h.step hforget)).started hs' hnone' hzero'
    rwa [hbackoff] at hstarted

/-- A key failed, and half of its delay is over. -/
def halfway : State :=
  ((State.start "vault" ⟨.ofSeconds 1, .ofSeconds 60⟩ .zero).after
    (.call (.addRateLimited .zero "ns/a"))).after (.wait (.ofMillis 500))

/-- It fails again and gets two seconds, but comes back with the first delay. Had it been forgotten,
it would not. -/
theorem on_time_halfway :
    (halfway.queue.addRateLimited halfway.clock "ns/a").2 = .ofSeconds 2 ∧
    (∃ before s₁, ∃ d : DelayedAdd, ∃ more,
      [.wait (.ofSeconds 1), .call (.fire "ns/a" 1)] =
        before ++ .call (.fire "ns/a" d.number) :: more ∧
      Run (halfway.after (.call (.addRateLimited halfway.clock "ns/a"))) before s₁ ∧
      s₁.clock.nanos ≤ (Duration.ofMillis 2500).nanos ∧
      "ns/a" ∈ (s₁.after (.call (.fire "ns/a" d.number))).queue.dirty) ∧
    ((halfway.after (.call (.forget "ns/a"))).queue.fire "ns/a" 1).1 =
      (halfway.after (.call (.forget "ns/a"))).queue := by
  have hone {s : State} (hs : s.queue.delayed = [("ns/a", ⟨1, .ofSeconds 1⟩)]) {time : Duration}
      (ht : s.clock.nanos ≤ time.nanos ∧ time.nanos ≤ (Duration.ofSeconds 1).nanos) :
      s.Allows (.wait time) := by
    refine ⟨ht.1, fun key d hd => ?_⟩
    have hm := Entries.mem_of_get? hd
    rw [hs, List.mem_singleton] at hm
    cases hm
    exact ht.2
  have hstart := Run.refl (s := .start "vault" ⟨.ofSeconds 1, .ofSeconds 60⟩ .zero)
  have hhalf : Run (.start "vault" ⟨.ofSeconds 1, .ofSeconds 60⟩ .zero)
      [.call (.addRateLimited .zero "ns/a"), .wait (.ofMillis 500)] halfway :=
    (hstart.step (e := .call (.addRateLimited .zero "ns/a")) rfl).step
      (e := .wait (.ofMillis 500)) (hone (by decide) (by decide))
  obtain ⟨-, -, hfires, hforgets, -⟩ := on_time hhalf
  refine ⟨by decide, ?_, ?_⟩
  · have hwait := (Run.refl (s := halfway.after
      (.call (.addRateLimited halfway.clock "ns/a")))).step (e := .wait (.ofSeconds 1))
      (hone (by decide) (by decide))
    have hlater := hwait.step (e := .call (.fire "ns/a" 1))
      ⟨⟨1, .ofSeconds 1⟩, by decide, rfl, by decide⟩
    rcases hfires (by decide) "ns/a" _ _ hlater (by simp) (by simp) with ⟨d, hd, -⟩ |
      ⟨before, s₁, d, more, he, hbefore, -, hclock, hdirty⟩
    · cases hd
    · exact ⟨before, s₁, d, more, he, hbefore, hclock, hdirty⟩
  · exact (hforgets "ns/a" [] _ .refl).1 ⟨1, .ofSeconds 1⟩ (by decide)

end Deadlines

end VaultProjection

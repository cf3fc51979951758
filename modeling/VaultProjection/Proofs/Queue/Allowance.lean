import VaultProjection.Proofs.Queue.Deadlines
import VaultProjection.Proofs.Queue.Delivery
import VaultProjection.Proofs.Queue.View

/-!
# How often a key is tried again

Workers take keys from a queue, report how their passes ended, and give the keys back. Meanwhile
anybody may add and forget keys, and delayed adds fire. A key whose passes fail is retried so many
times and then dropped; what counts are its failures since it last succeeded, was dropped or was
forgotten.

Results:
1. `Inv.step`: the queue counts the failures of every key in a row, and a key with failures is due,
   delayed, or with a worker who has yet to report.
2. `Inv.outcome`, `Inv.left`: the outcome of a report, and what the queue then has on the key.
3. `Step.counts`: what others do leaves the count of a key, so it does not matter how long before
   the end of a report the count is read.
4. `retries_as_allowed`: all this for every run.
-/

namespace VaultProjection

namespace Allowance

open Callers (Call)

/-! ## Workers and reports -/

structure State where
  use : Callers.State
  /-- Who has reported on which key and has not given it back. -/
  reported : List (Nat × String)

/-- What happens at a step. -/
inductive Act where
  | call (c : Call)
  /-- A worker reports on a key. -/
  | report (worker : Nat) (key : String) (result : Except PassError Unit) (outcome : Outcome)

namespace State

def start (name : String) (backoff : Backoff) : State := ⟨.start name backoff, []⟩

def queue (s : State) : WorkQueue := s.use.queue

/-- The worker holds the key and has not reported on it. -/
def Open (s : State) (worker : Nat) (key : String) : Prop :=
  (worker, key) ∈ s.use.held ∧ (worker, key) ∉ s.reported

/-- Before the queue stops a worker who gives a key back has reported on it, and failures are
counted by reports alone. -/
def Allows (s : State) : Call → Prop
  | .done worker key => (worker, key) ∈ s.reported
  | .addRateLimited .. | .stop => False
  | c => s.use.Allows c

def call (s : State) (c : Call) : State where
  use := s.use.call c
  reported := match c with
    | .done worker key => s.reported.filter (· ≠ (worker, key))
    | _ => s.reported

/-- The retry policy is applied to the result of a pass. -/
def report (s : State) (maxRetries worker : Nat) (now : Duration) (key : String)
    (result : Except PassError Unit) : State where
  use := { s.use with
    queue := (Retry.handle s.queue now key result maxRetries).1
    signals := s.use.signals ++ (Retry.handle s.queue now key result maxRetries).2.2 }
  reported := s.reported ++ [(worker, key)]

end State

/-- What can happen next. A pass may end in any result, at any time. -/
inductive Step (maxRetries : Nat) (s : State) : Act → State → Prop where
  | call {c : Call} (allowed : s.Allows c) : Step maxRetries s (.call c) (s.call c)
  | report {worker : Nat} {key : String} (takes : s.Open worker key) (now : Duration)
      (result : Except PassError Unit) :
      Step maxRetries s
        (.report worker key result (Retry.handle s.queue now key result maxRetries).2.1)
        (s.report maxRetries worker now key result)

/-- Any sequence of steps. -/
inductive Run (maxRetries : Nat) (s : State) : List Act → State → Prop where
  | refl : Run maxRetries s [] s
  | step {acts : List Act} {s' s'' : State} (run : Run maxRetries s acts s') {a : Act}
      (next : Step maxRetries s' a s'') : Run maxRetries s (acts ++ [a]) s''

/-! ## Failures in a row -/

/-- The act is the report of a failure of the key. -/
def Act.fails (key : String) : Act → Bool
  | .report _ k (.error _) _ => k = key
  | _ => false

/-- The key has succeeded, or it is dropped or forgotten. -/
def Act.clears (key : String) : Act → Bool
  | .report _ k _ .synced | .report _ k _ .dropped | .call (.forget k) => k = key
  | _ => false

/-- The failures of the key since it last succeeded, was dropped or was forgotten. -/
def failuresInRow (key : String) (acts : List Act) : Nat :=
  (acts.reverse.takeWhile fun a => !a.clears key).countP (·.fails key)

variable {maxRetries : Nat} {s s' : State} {a : Act} {acts : List Act} {c : Call} {key : String}

instance (s : State) (worker : Nat) (key : String) : Decidable (s.Open worker key) :=
  inferInstanceAs (Decidable (_ ∧ _))

theorem failuresInRow_snoc (key : String) (acts : List Act) (a : Act) :
    failuresInRow key (acts ++ [a]) =
      if a.clears key then 0 else failuresInRow key acts + if a.fails key then 1 else 0 := by
  unfold failuresInRow
  rw [List.reverse_append, List.reverse_singleton, List.singleton_append, List.takeWhile_cons]
  cases a.clears key <;> simp [List.countP_cons]

theorem Act.clears_call : (Act.call c).clears key = true ↔ c = .forget key := by
  cases c <;> simp [Act.clears]

/-- The report on another key neither counts nor clears. -/
theorem Act.report_other {k : String} (h : k ≠ key) (worker : Nat)
    (result : Except PassError Unit) (outcome : Outcome) :
    (Act.report worker k result outcome).clears key = false ∧
      (Act.report worker k result outcome).fails key = false := by
  constructor
  · cases outcome <;> simp [Act.clears, h]
  · cases result <;> simp [Act.fails, h]

/-! ## What the calls of a queue do to the failures -/

/-- Failures are counted and cleared by no other calls. -/
theorem failures_call (s : Callers.State) (hadd : ∀ now key, c ≠ .addRateLimited now key)
    (hforget : ∀ key, c ≠ .forget key) : (s.call c).queue.failures = s.queue.failures := by
  cases Deadlines.moves s c with
  | same ht | fires _ ht | stops ht => exact congrArg WorkQueue.Timing.failures ht
  | counts | arms => exact absurd rfl (hadd _ _)
  | forgets => exact absurd rfl (hforget _)

/-- A key without failures is not in the list of failures. -/
def Positive (q : WorkQueue) : Prop := ∀ key, q.failures.get? key ≠ some 0

theorem Positive.moves {q q' : WorkQueue} (h : Positive q) (hm : Deadlines.Moves q q' c) :
    Positive q' := by
  intro key
  cases hm with
  | same ht | fires _ ht | stops ht =>
    have hf : q'.failures = q.failures := congrArg WorkQueue.Timing.failures ht
    rw [hf]
    exact h key
  | @counts now k _ _ ht | @arms now k _ ht =>
    have hf : q'.failures = q.counted k := congrArg WorkQueue.Timing.failures ht
    rw [hf, WorkQueue.counted, Entries.get?_insert]
    split
    · have hpos : 0 < Nat.min (q.requeues k + 1) (Nat.pow 2 32 - 1) :=
        Nat.lt_min.2 ⟨Nat.succ_pos _, by decide⟩
      exact fun he => absurd (Option.some.inj he) (Nat.ne_of_gt hpos)
    · exact h key
  | @forgets k ht =>
    have hf : q'.failures = q.failures.erase k := congrArg WorkQueue.Timing.failures ht
    rw [hf, Entries.get?_erase]
    split
    · rintro ⟨⟩
    · exact h key

theorem Positive.get?_eq_none {q : WorkQueue} (h : Positive q) (hz : q.requeues key = 0) :
    q.failures.get? key = none := by
  cases hf : q.failures.get? key with
  | none => rfl
  | some n =>
    obtain rfl : n = 0 := by simpa [WorkQueue.requeues, hf] using hz
    exact absurd hf (h key)

/-! ## What a report does -/

/-- Either the key is forgotten, or a failure is counted. -/
theorem handle_queue (q : WorkQueue) (now : Duration) (key : String)
    (result : Except PassError Unit) (maxRetries : Nat) :
    (Retry.handle q now key result maxRetries).1 = q.forget key ∨
      (Retry.handle q now key result maxRetries).1 = (q.addRateLimited now key).1 := by
  cases result with
  | ok => exact .inl rfl
  | error e =>
    unfold Retry.handle
    by_cases hless : q.requeues key < maxRetries
    · exact .inr (by simp [hless])
    · exact .inl (by simp [hless])

/-- Nothing that a report says sets the gauge of the waiting keys. -/
theorem handle_series (q : WorkQueue) (now : Duration) (key : String)
    (result : Except PassError Unit) (maxRetries : Nat) (label : String) :
    ∀ x ∈ (Retry.handle q now key result maxRetries).2.2,
      x.series? ≠ some (.queueDepth, label) := by
  cases result with
  | ok => simp [Retry.handle, Signal.say, Signal.series?]
  | error e =>
    obtain ⟨record, hrecord⟩ : ∃ record, Retry.complaint q key e = .log record := by
      unfold Retry.complaint
      dsimp only
      split
      · exact ⟨_, rfl⟩
      · split <;> exact ⟨_, rfl⟩
    unfold Retry.handle
    by_cases hless : q.requeues key < maxRetries <;>
      simp [hless, hrecord, Signal.say, Signal.series?]

/-- A report leaves those who hold keys alone. -/
theorem use_report (h : Callers.Inv s.use) (maxRetries worker : Nat) (now : Duration)
    (key : String) (result : Except PassError Unit) :
    Callers.Inv (s.report maxRetries worker now key result).use := by
  obtain ⟨hp, -, hr, -⟩ := Retry.handle_frame s.queue now key result maxRetries
  have hname : (Retry.handle s.queue now key result maxRetries).1.name = s.queue.name := by
    rcases handle_queue s.queue now key result maxRetries with hq | hq
    · rw [hq]
      rfl
    · rw [hq]
      exact (s.queue.tells_addRateLimited now key).1
  have hqueue := h.same (Retry.sound_handle h.sound now key result maxRetries) hr
    (.silent hname hp)
  rw [List.append_nil] at hqueue
  obtain ⟨hmeters, hgauge⟩ := Callers.reading_ofSignals
    (Retry.handle s.queue now key result maxRetries).2.2 .queueDepth
    (Retry.handle s.queue now key result maxRetries).1.name hqueue.meters
    (handle_series s.queue now key result maxRetries _)
  exact { hqueue with meters := hmeters, gauge := hgauge.trans hqueue.gauge }

/-- What the queue has on a key after a report. -/
theorem view_report (hs : s.queue.stopped = false) (maxRetries worker : Nat) (now : Duration)
    (key : String) (result : Except PassError Unit) (k : String) :
    (s.report maxRetries worker now key result).queue.view k =
      if k = key then
        match result with
        | .ok () => (s.queue.view k).forgotten
        | .error _ => (s.queue.view k).failed maxRetries
      else s.queue.view k := by
  cases result with
  | ok => exact Retry.view_handle_ok s.queue now key k maxRetries
  | error e => exact Retry.view_handle_error hs now key k e maxRetries

/-! ## What holds whatever happens -/

structure Inv (maxRetries : Nat) (s : State) (acts : List Act) : Prop where
  use : Callers.Inv s.use
  works : s.queue.stopped = false
  /-- Those who have reported on a key still hold it. -/
  reported : ∀ p ∈ s.reported, p ∈ s.use.held
  counted : ∀ key, s.queue.requeues key = failuresInRow key acts
  within : ∀ key, s.queue.requeues key ≤ maxRetries
  positive : Positive s.queue
  /-- A key with failures comes back, is due, or is with a worker who will report on it. -/
  live : ∀ key, s.queue.requeues key ≠ 0 →
    s.queue.hasPendingRetry key = true ∨ key ∈ s.queue.dirty ∨ ∃ worker, s.Open worker key

theorem Inv.start (maxRetries : Nat) (name : String) (backoff : Backoff) :
    Inv maxRetries (.start name backoff) [] where
  use := .start name backoff
  works := rfl
  reported := nofun
  counted _ := rfl
  within _ := Nat.zero_le _
  positive _ := nofun
  live _ h := absurd rfl h

/-- A worker who has yet to report on a key keeps it. -/
theorem State.Open.call {worker : Nat} (h : s.Open worker key) (allowed : s.Allows c) :
    (s.call c).Open worker key := by
  obtain ⟨hheld, hopen⟩ := h
  cases c with
  | done w k =>
    have hne : (worker, key) ≠ (w, k) := fun he => hopen (he ▸ allowed)
    exact ⟨(List.mem_erase_of_ne hne).2 hheld, fun hm => hopen (List.mem_filter.1 hm).1⟩
  | get caller => exact ⟨List.mem_append_left _ hheld, hopen⟩
  | wake =>
    refine ⟨?_, hopen⟩
    show (worker, key) ∈ (s.use.call .wake).held
    unfold Callers.State.call
    dsimp only
    split <;> exact hheld
  | add | fire | forget | report => exact ⟨hheld, hopen⟩
  | addRateLimited | stop => exact allowed.elim

/-- A key that is due stays due, or is taken by a worker who will report on it. -/
theorem Inv.due (h : Inv maxRetries s acts) (hd : key ∈ s.queue.dirty) (c : Call) :
    key ∈ (s.call c).queue.dirty ∨ ∃ worker, (s.call c).Open worker key := by
  -- Only handing out the key itself takes its mark away.
  rcases Callers.handed_cases s.use c with ⟨k, caller, rfl, hk, hp, hdirty, -⟩ | ⟨-, hext⟩
  · by_cases he : key = k
    · subst he
      have hwaits : key ∈ s.use.queue.pending := by
        rw [hp]
        exact List.mem_cons_self
      have hheld : (s.use.call (.get caller)).held = s.use.held ++ [(caller, key)] := by
        have hfound : (Callers.found? (s.use.queue.lookOrWait caller).2.1).toList = [key] := hk
        have hsome : Callers.found? (s.use.queue.lookOrWait caller).2.1 = some key := by
          simpa using congrArg List.head? hfound
        simp [Callers.State.call, hsome]
      refine .inr ⟨caller, ?_, fun hm => h.use.free hwaits caller (h.reported _ hm)⟩
      show (caller, key) ∈ (s.use.call (.get caller)).held
      rw [hheld]
      exact List.mem_append_right _ (List.mem_singleton.2 rfl)
    · refine .inl ?_
      show key ∈ (s.use.call (.get caller)).queue.dirty
      rw [hdirty, List.mem_filter]
      exact ⟨hd, by simpa using he⟩
  · exact .inl (hext.dirty key hd)

/-- What is to come back stays so until it is due. -/
theorem Inv.delayed (h : Inv maxRetries s acts) (hd : s.queue.hasPendingRetry key = true)
    (hforget : c ≠ .forget key) (hstop : c ≠ .stop) :
    (s.call c).queue.hasPendingRetry key = true ∨ key ∈ (s.call c).queue.dirty := by
  obtain ⟨d, hd⟩ := Option.isSome_iff_exists.1 hd
  rcases (Deadlines.moves s.use c).remains hd hforget hstop with hkept | rfl
  · exact .inl (Option.isSome_iff_exists.2 ⟨d, hkept⟩)
  · exact .inr ((WorkQueue.fire_pending_timing hd).2 h.works)

/-- Failures are cleared by a call that forgets the key, and counted by reports only. -/
theorem State.Allows.requeues (allowed : s.Allows c) (key : String) :
    (s.call c).queue.requeues key =
      if (Act.call c).clears key then 0 else s.queue.requeues key := by
  by_cases hforget : ∃ k, c = .forget k
  · obtain ⟨k, rfl⟩ := hforget
    have hview : (s.queue.forget k).requeues key = if key = k then 0 else s.queue.requeues key :=
      WorkQueue.requeues_forget s.queue k key
    refine hview.trans ?_
    simp [Act.clears, eq_comm]
  · have hf : (s.call c).queue.failures = s.queue.failures := by
      refine failures_call s.use ?_ fun k hk => hforget ⟨k, hk⟩
      rintro now k rfl
      exact allowed.elim
    rw [if_neg fun hc => hforget ⟨key, Act.clears_call.1 hc⟩, WorkQueue.requeues,
      WorkQueue.requeues, hf]

theorem Inv.call (h : Inv maxRetries s acts) (allowed : s.Allows c) :
    Inv maxRetries (s.call c) (acts ++ [.call c]) := by
  have hmoves : Deadlines.Moves s.queue (s.call c).queue c := Deadlines.moves s.use c
  have hstop : c ≠ .stop := by
    rintro rfl
    exact allowed.elim
  have huse : s.use.Allows c := by
    cases c with
    | done worker k => exact h.reported _ allowed
    | addRateLimited | stop => exact allowed.elim
    | add | fire | forget | get | wake | report => exact allowed
  constructor
  · exact h.use.call huse
  · exact (hmoves.stopped hstop).trans h.works
  · intro p hp
    cases c with
    | done worker k =>
      obtain ⟨hm, hne⟩ := List.mem_filter.1 hp
      exact (List.mem_erase_of_ne (by simpa using hne)).2 (h.reported p hm)
    | get caller => exact List.mem_append_left _ (h.reported p hp)
    | wake =>
      show p ∈ (s.use.call .wake).held
      unfold Callers.State.call
      dsimp only
      split <;> exact h.reported p hp
    | add | fire | forget | report => exact h.reported p hp
    | addRateLimited | stop => exact allowed.elim
  · intro key
    rw [allowed.requeues, failuresInRow_snoc, ← h.counted]
    rfl
  · intro key
    rw [allowed.requeues]
    split
    · exact Nat.zero_le _
    · exact h.within key
  · exact h.positive.moves hmoves
  · intro key hne
    rw [allowed.requeues] at hne
    have hforget : c ≠ .forget key := by
      rintro rfl
      simp [Act.clears] at hne
    have hbefore : s.queue.requeues key ≠ 0 := fun hz => hne (by rw [hz]; exact ite_self 0)
    rcases h.live key hbefore with hdelayed | hdirty | ⟨worker, hopen⟩
    · exact (h.delayed hdelayed hforget hstop).imp_right .inl
    · exact .inr (h.due hdirty c)
    · exact .inr (.inr ⟨worker, hopen.call allowed⟩)

/-! ## The outcome of a report -/

/-- What becomes of a key whose pass ends, if it has failed so many times in a row before. -/
def expected (backoff : Backoff) (maxRetries failures : Nat) : Except PassError Unit → Outcome
  | .ok () => .synced
  | .error _ => if failures + 1 ≤ maxRetries then .requeued (backoff.delay failures) else .dropped

theorem handle_outcome {q : WorkQueue} (hs : q.stopped = false) (now : Duration) (key : String)
    (result : Except PassError Unit) (maxRetries : Nat) :
    (Retry.handle q now key result maxRetries).2.1 =
      expected q.backoff maxRetries (q.requeues key) result := by
  cases result with
  | ok => rfl
  | error e =>
    unfold Retry.handle expected
    by_cases hless : q.requeues key < maxRetries
    · have hdelay := (WorkQueue.addRateLimited_cases hs now key).1
      simp [hless, Nat.succ_le_of_lt hless, hdelay]
    · have hmore : ¬ q.requeues key + 1 ≤ maxRetries := fun h => hless (Nat.lt_of_succ_le h)
      simp only [if_neg hless, if_neg hmore]

/-- What a report makes of the failures of its key. A count below the limit has room for one
more. -/
theorem Inv.failures_report (h : Inv maxRetries s acts) (hmax : maxRetries < Nat.pow 2 32)
    (worker : Nat) (now : Duration) (key : String) (result : Except PassError Unit) (k : String) :
    (s.report maxRetries worker now key result).queue.requeues k =
      failuresInRow k (acts ++
        [.report worker key result (Retry.handle s.queue now key result maxRetries).2.1]) := by
  have hview : (s.report maxRetries worker now key result).queue.requeues k =
      (if k = key then
        match result with
        | .ok () => (s.queue.view k).forgotten
        | .error _ => (s.queue.view k).failed maxRetries
      else s.queue.view k).failures :=
    congrArg KeyView.failures (view_report h.works maxRetries worker now key result k)
  rw [hview, failuresInRow_snoc, handle_outcome h.works, ← h.counted]
  by_cases hk : k = key
  · subst hk
    cases result with
    | ok => simp [expected, Act.clears, KeyView.forgotten]
    | error e =>
      by_cases hless : s.queue.requeues k < maxRetries
      -- The count has as many bits as the limit, so below the limit it does not stop growing.
      · have hroom : s.queue.requeues k + 1 ≤ Nat.pow 2 32 - 1 := by omega
        have hmin : Nat.min (s.queue.requeues k + 1) (Nat.pow 2 32 - 1) =
            s.queue.requeues k + 1 := Nat.min_eq_left hroom
        simp [expected, Act.clears, Act.fails, KeyView.failed, KeyView.retried, WorkQueue.view,
          hless, Nat.succ_le_of_lt hless, hmin]
      · have hmore : ¬ s.queue.requeues k + 1 ≤ maxRetries := hless
        simp [expected, Act.clears, KeyView.failed, KeyView.forgotten, WorkQueue.view, hless,
          hmore]
  · have hother := Act.report_other (Ne.symm hk) worker result
      (expected s.queue.backoff maxRetries (s.queue.requeues key) result)
    simp [hother, hk, WorkQueue.view]

/-- What the queue has on a key after the report on it: nothing, unless the key is to come back. -/
theorem report_leaves (hs : s.queue.stopped = false) (maxRetries worker : Nat) (now : Duration)
    (key : String) (result : Except PassError Unit) :
    ((∀ delay, (Retry.handle s.queue now key result maxRetries).2.1 ≠ .requeued delay) ∧
        (s.report maxRetries worker now key result).queue.requeues key = 0 ∧
        (s.report maxRetries worker now key result).queue.hasPendingRetry key = false) ∨
      (∃ delay, (Retry.handle s.queue now key result maxRetries).2.1 = .requeued delay) ∧
        (s.report maxRetries worker now key result).queue.requeues key ≤ maxRetries ∧
        (s.report maxRetries worker now key result).queue.hasPendingRetry key = true := by
  have hview := view_report hs maxRetries worker now key result key
  rw [if_pos rfl] at hview
  have hfailures := congrArg KeyView.failures hview
  have hdelayed := congrArg KeyView.delayed hview
  rw [handle_outcome hs]
  cases result with
  | ok => exact .inl ⟨nofun, hfailures, hdelayed⟩
  | error e =>
    by_cases hless : s.queue.requeues key < maxRetries
    · have hfailed : (s.queue.view key).failed maxRetries = (s.queue.view key).retried :=
        if_pos hless
      dsimp only at hfailures hdelayed
      rw [hfailed] at hfailures hdelayed
      refine .inr ⟨⟨_, if_pos hless⟩, ?_, hdelayed⟩
      exact Nat.le_trans (Nat.le_of_eq hfailures) (Nat.le_trans (Nat.min_le_left _ _) hless)
    · have hfailed : (s.queue.view key).failed maxRetries = (s.queue.view key).forgotten :=
        if_neg hless
      dsimp only at hfailures hdelayed
      rw [hfailed] at hfailures hdelayed
      have hdropped : expected s.queue.backoff maxRetries (s.queue.requeues key) (.error e) =
          .dropped := if_neg hless
      exact .inl ⟨fun delay => hdropped ▸ nofun, hfailures, hdelayed⟩

theorem Inv.report (h : Inv maxRetries s acts) (hmax : maxRetries < Nat.pow 2 32) {worker : Nat}
    (takes : s.Open worker key) (now : Duration) (result : Except PassError Unit) :
    Inv maxRetries (s.report maxRetries worker now key result) (acts ++
      [.report worker key result (Retry.handle s.queue now key result maxRetries).2.1]) := by
  have hother {k : String} (hk : k ≠ key) :
      (s.report maxRetries worker now key result).queue.view k = s.queue.view k :=
    (view_report h.works maxRetries worker now key result k).trans (if_neg hk)
  have hleaves := report_leaves h.works maxRetries worker now key result
  constructor
  · exact use_report h.use maxRetries worker now key result
  · exact (Retry.handle_frame s.queue now key result maxRetries).2.2.2.trans h.works
  · intro p hp
    rcases List.mem_append.1 hp with hp | hp
    · exact h.reported p hp
    · rw [List.mem_singleton.1 hp]
      exact takes.1
  · exact h.failures_report hmax worker now key result
  · intro k
    by_cases hk : k = key
    · subst hk
      rcases hleaves with ⟨-, hzero, -⟩ | ⟨-, hle, -⟩
      · exact Nat.le_trans (Nat.le_of_eq hzero) (Nat.zero_le _)
      · exact hle
    · exact Nat.le_trans (Nat.le_of_eq (congrArg KeyView.failures (hother hk))) (h.within k)
  · show Positive (Retry.handle s.queue now key result maxRetries).1
    rcases handle_queue s.queue now key result maxRetries with hq | hq
    · exact hq ▸ h.positive.moves (Deadlines.moves s.use (.forget key))
    · exact hq ▸ h.positive.moves (Deadlines.moves s.use (.addRateLimited now key))
  · intro k hne
    by_cases hk : k = key
    · subst hk
      rcases hleaves with ⟨-, hzero, -⟩ | ⟨-, -, hdelayed⟩
      · exact absurd hzero hne
      · exact .inl hdelayed
    · have hbefore : s.queue.requeues k ≠ 0 := fun hz =>
        hne ((congrArg KeyView.failures (hother hk)).trans hz)
      rcases h.live k hbefore with hdelayed | hdirty | ⟨other, hheld, hopen⟩
      · exact .inl ((congrArg KeyView.delayed (hother hk)).trans hdelayed)
      · refine .inr (.inl ?_)
        show k ∈ (Retry.handle s.queue now key result maxRetries).1.dirty
        rwa [(Retry.handle_frame s.queue now key result maxRetries).2.1]
      · refine .inr (.inr ⟨other, hheld, fun hm => ?_⟩)
        rcases List.mem_append.1 hm with hm | hm
        · exact hopen hm
        · exact hk (congrArg Prod.snd (List.mem_singleton.1 hm))

theorem Inv.step (h : Inv maxRetries s acts) (hmax : maxRetries < Nat.pow 2 32)
    (hstep : Step maxRetries s a s') : Inv maxRetries s' (acts ++ [a]) := by
  cases hstep with
  | call allowed => exact h.call allowed
  | report takes now result => exact h.report hmax takes now result

theorem Run.inv (hrun : Run maxRetries s acts s') (hmax : maxRetries < Nat.pow 2 32)
    (h : Inv maxRetries s []) : Inv maxRetries s' acts := by
  induction hrun with
  | refl => exact h
  | step run next ih => exact ih.step hmax next

/-- A key that nobody has to do with has no failures. -/
theorem Inv.settled (h : Inv maxRetries s acts) (hp : key ∉ s.queue.pending)
    (hr : key ∉ s.queue.processing) (hd : s.queue.hasPendingRetry key = false) :
    s.queue.failures.get? key = none := by
  refine h.positive.get?_eq_none (Classical.byContradiction fun hne => ?_)
  rcases h.live key hne with hdelayed | hdirty | ⟨worker, hheld, -⟩
  · exact absurd (hd.symm.trans hdelayed) Bool.false_ne_true
  · rcases h.use.sound.dirty_covered h.works key hdirty with hm | hm
    · exact hp hm
    · exact hr hm
  · exact hr ((h.use.processing key).2 (List.mem_map_of_mem hheld))

/-- Whatever others do, the failures of a key are counted and cleared by nobody but a worker who
reports on it and those who forget it. So it does not matter how long before its end a report reads
the count. -/
theorem Step.counts (hstep : Step maxRetries s a s') (hs : s.queue.stopped = false)
    (hforget : a ≠ .call (.forget key))
    (hreport : ∀ worker result outcome, a ≠ .report worker key result outcome) :
    s'.queue.requeues key = s.queue.requeues key := by
  cases hstep with
  | call allowed =>
    rw [allowed.requeues, if_neg]
    simpa [Act.clears_call] using hforget
  | @report worker k takes now result =>
    have hk : key ≠ k := by
      rintro rfl
      exact hreport _ _ _ rfl
    have hview := (view_report hs maxRetries worker now k result key).trans (if_neg hk)
    exact congrArg KeyView.failures hview

theorem Run.backoff (hrun : Run maxRetries s acts s') : s'.queue.backoff = s.queue.backoff := by
  induction hrun with
  | refl => rfl
  | @step _ s' _ run _ next ih =>
    refine Eq.trans ?_ ih
    cases next with
    | @call c allowed => exact (Deadlines.moves s'.use c).backoff
    | @report worker key takes now result =>
      show (Retry.handle s'.queue now key result maxRetries).1.backoff = s'.queue.backoff
      rcases handle_queue s'.queue now key result maxRetries with hq | hq
      · rw [hq]
        rfl
      · rw [hq]
        exact (Deadlines.moves s'.use (.addRateLimited now key)).backoff

/-! ## Every run -/

/-- Whatever anybody does, until the queue stops: if a key has failed so many times since it last
succeeded, was dropped or was forgotten, the next failure is the one after these, and it comes back
with the delay for as many failures as there were before, or is dropped as the first one that is not
allowed. A key that succeeds or is dropped has neither failures nor a delayed add, a key that comes
back has a delayed add, and a queue with nothing to do has counted no failures. The number of
retries has 32 bits. -/
theorem retries_as_allowed {name : String} {backoff : Backoff}
    (hmax : maxRetries < Nat.pow 2 32) (hrun : Run maxRetries (.start name backoff) acts s) :
    (∀ worker key, s.Open worker key → ∀ now result queue outcome signals,
      Retry.handle s.queue now key result maxRetries = (queue, outcome, signals) →
      outcome = expected backoff maxRetries (failuresInRow key acts) result ∧
        (outcome = .synced ∨ outcome = .dropped →
          queue.failures.get? key = none ∧ queue.hasPendingRetry key = false) ∧
        (∀ delay, outcome = .requeued delay → queue.hasPendingRetry key = true)) ∧
      (∀ key, s.queue.requeues key = failuresInRow key acts ∧
        failuresInRow key acts ≤ maxRetries) ∧
      (s.queue.Idle → s.queue.failures = []) := by
  have h := hrun.inv hmax (.start maxRetries name backoff)
  refine ⟨fun worker key takes now result queue outcome signals hreport => ?_,
    fun key => ⟨h.counted key, h.counted key ▸ h.within key⟩, fun hidle => ?_⟩
  · have hqueue : (s.report maxRetries worker now key result).queue = queue :=
      congrArg (·.1) hreport
    have houtcome : (Retry.handle s.queue now key result maxRetries).2.1 = outcome :=
      congrArg (·.2.1) hreport
    have hpositive := (h.report hmax takes now result).positive
    have hleaves := report_leaves h.works maxRetries worker now key result
    rw [hqueue] at hpositive hleaves
    rw [houtcome] at hleaves
    refine ⟨?_, fun hends => ?_, fun delay hback => ?_⟩
    · rw [← houtcome, handle_outcome h.works, hrun.backoff, h.counted]
      rfl
    · rcases hleaves with ⟨-, hzero, hnone⟩ | ⟨⟨delay, rfl⟩, -, -⟩
      · exact ⟨hpositive.get?_eq_none hzero, hnone⟩
      · exact hends.elim nofun nofun
    · rcases hleaves with ⟨hends, -, -⟩ | ⟨-, -, hdelayed⟩
      · exact absurd hback (hends delay)
      · exact hdelayed
  · refine Entries.eq_nil_of_get? fun key => h.settled ?_ ?_ ?_
    · simp [hidle.pending]
    · simp [hidle.processing]
    · simp [WorkQueue.hasPendingRetry, Entries.contains, hidle.delayed]

/-- A key may come back once. It fails and comes back after the shortest delay; it fails again and
is dropped, and nothing is left of it. -/
theorem retries_as_allowed_once : ∃ (acts : List Act) (s : State),
    Run 1 (.start "vault" ⟨.ofSeconds 1, .ofSeconds 60⟩) acts s ∧ s.Open 2 "ns/app" ∧
      failuresInRow "ns/app" acts = 1 ∧
      ∃ queue signals, Retry.handle s.queue (.ofSeconds 2) "ns/app"
          (.error (.missingMetadata "uid")) 1 = (queue, .dropped, signals) ∧
        queue.failures.get? "ns/app" = none ∧ queue.hasPendingRetry "ns/app" = false := by
  have hstart : Run 1 (.start "vault" ⟨.ofSeconds 1, .ofSeconds 60⟩) [] _ := .refl
  have hrun := (((((hstart.step (.call (c := .add "ns/app") trivial)).step
    (.call (c := .get 1) trivial)).step
    (.report (show State.Open _ 1 "ns/app" by decide) (.ofSeconds 1)
      (.error (.missingMetadata "uid")))).step
    (.call (c := .done 1 "ns/app") (List.mem_singleton.2 rfl))).step
    (.call (c := .fire "ns/app" 1) trivial)).step
    (.call (c := .get 2) trivial)
  obtain ⟨hreport, -, -⟩ := retries_as_allowed (by decide) hrun
  obtain ⟨houtcome, hends, -⟩ := hreport 2 "ns/app" (by decide) (.ofSeconds 2)
    (.error (.missingMetadata "uid")) _ _ _ rfl
  have hdropped := houtcome.trans (show _ = Outcome.dropped by decide)
  obtain ⟨hnone, hover⟩ := hends (.inr hdropped)
  exact ⟨_, _, hrun, by decide, by decide, _, _, Prod.ext rfl (Prod.ext hdropped rfl), hnone, hover⟩

end Allowance

end VaultProjection

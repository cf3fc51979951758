import Mathlib
import VaultProjection.Proofs.Queue.View
import VaultProjection.Proofs.Settlement.Budget
import VaultProjection.Proofs.Watch.Resync

/-!
# The two queues come to rest

Tasks take keys from both queues and run passes over them, question by question; the retry policy is
applied to the results, and delayed adds fire, all in any order. Nothing else adds keys. Whatever is
answered, as long as the cached specs stay as they are and no object is created twice, this comes to
an end: each key has a budget that every step makes smaller.

Results:
1. `Inv.step`: every step uses up some of the budget of its key.
2. `exists_step`: while a queue is not idle there is something to do.
3. `settles`: both together.
-/

namespace VaultProjection.Settlement

/-! ## Steps -/

/-- A pass under way: what is still to come of it. -/
inductive Task where
  | running (rest : Program (Except PassError Unit))
  /-- The retry policy was applied to its result. -/
  | handled

/-- The queues and the passes, with a record of what was created and of the passes so far. -/
structure State where
  queues : Queues
  tasks : QueueId → String → Option Task
  created : List Address
  started : List (QueueId × String)

namespace State

/-- What a queue has on a key. -/
def view (s : State) (id : QueueId) (key : String) : KeyView := (s.queues.get id).view key

def setTask (s : State) (id : QueueId) (key : String) (t : Option Task) : State :=
  { s with tasks := fun id' key' => if id' = id ∧ key' = key then t else s.tasks id' key' }

def setQueue (s : State) (id : QueueId) (q : WorkQueue) : State :=
  { s with queues := s.queues.set id q }

/-- A task that took a key begins a pass over it. -/
def begin (s : State) (id : QueueId) (key : String) : State :=
  { s.setTask id key (some (.running (Pass.ofQueue id key).run)) with
    started := s.started ++ [(id, key)] }

/-- The queues after a question of a pass. -/
def queuesAfter (s : State) : Request → Queues
  | .enqueue id key => (s.queues.add id key).1
  | .lookup .. | .get .. | .create .. | .update .. | .getDeclaring .. | .updateStatus _
  | .readVault .. | .record _ | .now | .tell _ => s.queues

/-- A pass goes on with the answer to its question. -/
def answered (s : State) (id : QueueId) (key : String) (r : Request) (answer : r.Answer)
    (rest : Program (Except PassError Unit)) : State :=
  { s.setTask id key (some (.running rest)) with
    queues := s.queuesAfter r
    created := s.created ++ creates r answer }

/-- Both queues are idle. -/
def Quiet (s : State) : Prop := ∀ id, (s.queues.get id).Idle

end State

/-- What can happen next. A task takes a key, its pass gets an answer, the retry policy is applied
to its result, and the key is given back; a pending delayed add fires, whatever the time. One that
was given up changes nothing when its time comes, so it makes no step. -/
inductive Step (specs : Specs) (maxRetries : Nat) (s : State) : State → Prop where
  | take {id : QueueId} {key : String} {q : WorkQueue} {ss : List Signal}
      (found : (s.queues.get id).take = (q, .key key, ss)) :
      Step specs maxRetries s ((s.setQueue id q).begin id key)
  | ask {id : QueueId} {key : String} {r : Request}
      {next : r.Answer → Program (Except PassError Unit)}
      (asks : s.tasks id key = some (.running (.ask r next))) (answer : r.Answer)
      (fits : Fits specs r answer) (once : ∀ a ∈ creates r answer, a ∉ s.created) :
      Step specs maxRetries s (s.answered id key r answer (next answer))
  | handle {id : QueueId} {key : String} {result : Except PassError Unit}
      (ends : s.tasks id key = some (.running (.done result))) (now : Duration) :
      Step specs maxRetries s ((s.setQueue id
        (Retry.handle (s.queues.get id) now key result maxRetries).1).setTask id key
          (some .handled))
  | done {id : QueueId} {key : String} (handled : s.tasks id key = some .handled) :
      Step specs maxRetries s
        ((s.setQueue id ((s.queues.get id).done key).1).setTask id key none)
  | fire {id : QueueId} {key : String} {d : DelayedAdd}
      (pending : (s.queues.get id).delayed.get? key = some d) :
      Step specs maxRetries s (s.setQueue id ((s.queues.get id).fire key d.number).1)

/-- Any number of steps. -/
inductive Run (specs : Specs) (maxRetries : Nat) (s : State) : Nat → State → Prop where
  | refl : Run specs maxRetries s 0 s
  | step {n : Nat} {s' s'' : State} (run : Run specs maxRetries s n s')
      (next : Step specs maxRetries s' s'') : Run specs maxRetries s (n + 1) s''

/-- Any keys may wait, be worked on or be delayed, in queues that have not stopped. The passes under
way are over the keys that are being worked on, and may have come to any point. -/
structure State.Sane (specs : Specs) (s : State) : Prop where
  queues : s.queues.Sane
  tasks : ∀ id key, (s.tasks id key).isSome = (s.view id key).working
  reached : ∀ id key p, s.tasks id key = some (.running p) →
    ∃ past, (Pass.ofQueue id key).run.Reach past p ∧
      ∀ e ∈ past, Fits specs e.request e.answer

/-! ## What is to be paid for a key -/

/-- The price of a key in a queue, where passes have this budget: the pass over it, and as many
passes after failures as there may be. -/
def price (maxRetries budget : Nat) : Nat := (budget + 4) * maxRetries + budget + 3

/-- What a pass may spend. -/
def budget (maxRetries : Nat) : QueueId → Nat
  | .structural => 68
  | .drift => price maxRetries 68 + 71

def cost (maxRetries : Nat) (id : QueueId) : Nat := price maxRetries (budget maxRetries id)

def terms (specs : Specs) (maxRetries : Nat) (id : QueueId) (key : String) : Terms :=
  ⟨specs, id, key, cost maxRetries⟩

/-- A pass that a queue starts can do with the budget. -/
theorem pays_ofQueue (specs : Specs) (maxRetries : Nat) (id : QueueId) (key : String) :
    (Pass.ofQueue id key).run.Pays (terms specs maxRetries id key) (fun _ _ => True)
      (budget maxRetries id) := by
  cases id with
  | structural =>
    exact Program.Pays.mono (fun _ _ _ => trivial)
      (Pass.pays_structural (c := terms specs maxRetries .structural key) rfl)
  | drift =>
    exact Program.Pays.mono (fun _ _ _ => trivial)
      (Pass.pays_drift (c := terms specs maxRetries .drift key) rfl)

/-- What is to be paid for a pass under way with some credit left. It stands for the failures too
that its result may clear. -/
def work (maxRetries budget : Nat) (t : Option Task) (credit : Nat) : Nat :=
  match t with
  | none => 0
  | some (.running _) => (budget + 4) * maxRetries + credit + 2
  | some .handled => 1

/-- What is to be paid for a key in one queue. -/
def load (maxRetries budget : Nat) (v : KeyView) (work : Nat) : Nat :=
  (price maxRetries budget + 1) * v.delayed.toNat + price maxRetries budget * v.dirty.toNat +
    (budget + 4) * (maxRetries - v.failures) + work

section

variable {maxRetries b w credit : Nat} {v : KeyView} {p : Program (Except PassError Unit)}

theorem load_taken (hd : v.dirty = true) :
    load maxRetries b v.taken (work maxRetries b (some (.running p)) b) <
      load maxRetries b v 0 := by
  simp only [load, work, price, KeyView.taken, hd, Bool.toNat_true, Bool.toNat_false]
  omega

theorem load_fired (hd : v.delayed = true) :
    load maxRetries b v.fired w < load maxRetries b v w := by
  cases hdirty : v.dirty <;>
    simp only [load, KeyView.fired, hd, hdirty, Bool.toNat_true, Bool.toNat_false] <;> omega

theorem load_added (v : KeyView) :
    load maxRetries b v.added w ≤ load maxRetries b v w + price maxRetries b := by
  cases hdirty : v.dirty <;>
    simp only [load, KeyView.added, hdirty, Bool.toNat_true, Bool.toNat_false] <;> omega

theorem load_finished (v : KeyView) :
    load maxRetries b v.finished (work maxRetries b none credit) <
      load maxRetries b v (work maxRetries b (some .handled) credit) := by
  simp only [load, work, KeyView.finished]
  omega

theorem load_forgotten (v : KeyView) :
    load maxRetries b v.forgotten (work maxRetries b (some .handled) w) <
      load maxRetries b v (work maxRetries b (some (.running p)) credit) := by
  simp only [load, work, KeyView.forgotten, Bool.toNat_false, Nat.sub_zero]
  omega

/-- A failure that is retried pays for the retry with what its pass stood for. -/
theorem load_failed (hmax : maxRetries < 2 ^ 32) (v : KeyView) :
    load maxRetries b (v.failed maxRetries) (work maxRetries b (some .handled) w) <
      load maxRetries b v (work maxRetries b (some (.running p)) credit) := by
  unfold KeyView.failed
  split
  · next hf =>
    have hpow : Nat.pow 2 32 = 2 ^ 32 := rfl
    have hmin : Nat.min (v.failures + 1) (Nat.pow 2 32 - 1) = v.failures + 1 :=
      Nat.min_eq_left (by omega)
    have hless : (b + 4) * (maxRetries - v.failures) =
        (b + 4) * (maxRetries - (v.failures + 1)) + (b + 4) := by
      rw [← Nat.mul_succ]
      congr 1
      omega
    cases hdelayed : v.delayed <;>
      simp only [load, work, price, KeyView.retried, hdelayed, hmin, hless, Bool.toNat_true,
        Bool.toNat_false] <;> omega
  · exact load_forgotten v

end

/-- What every pass under way has left. -/
abbrev Ledger := QueueId → String → Nat

def Ledger.set (ledger : Ledger) (id : QueueId) (key : String) (credit : Nat) : Ledger :=
  fun id' key' => if id' = id ∧ key' = key then credit else ledger id' key'

theorem Ledger.set_same (ledger : Ledger) (id : QueueId) (key : String) (credit : Nat) :
    ledger.set id key credit id key = credit := if_pos ⟨rfl, rfl⟩

theorem Ledger.set_queue (ledger : Ledger) {id id' : QueueId} (h : id' ≠ id) (key key' : String)
    (credit : Nat) : ledger.set id key credit id' key' = ledger id' key' :=
  if_neg fun hboth => h hboth.1

theorem Ledger.set_key (ledger : Ledger) {key key' : String} (h : key' ≠ key) (id id' : QueueId)
    (credit : Nat) : ledger.set id key credit id' key' = ledger id' key' :=
  if_neg fun hboth => h hboth.2

variable {specs : Specs} {maxRetries : Nat} {s s' : State} {ledger ledger' : Ledger}
  {keys : List String} {id : QueueId} {key : String}

/-- What is to be paid for a key in one queue. -/
def side (maxRetries : Nat) (ledger : Ledger) (s : State) (id : QueueId) (key : String) : Nat :=
  load maxRetries (budget maxRetries id) (s.view id key)
    (work maxRetries (budget maxRetries id) (s.tasks id key) (ledger id key))

/-- The outputs of a key that were not created so far. -/
def missing (specs : Specs) (s : State) (key : String) : Nat :=
  ((outputs specs key).filter (· ∉ s.created)).length

/-- What is to be paid for a key. An output that is missing stands for the drift pass to which its
creation may lead. -/
def owed (specs : Specs) (maxRetries : Nat) (ledger : Ledger) (s : State) (key : String) : Nat :=
  side maxRetries ledger s .structural key + side maxRetries ledger s .drift key +
    cost maxRetries .drift * missing specs s key

def total (specs : Specs) (maxRetries : Nat) (keys : List String) (ledger : Ledger) (s : State) :
    Nat :=
  (keys.map (owed specs maxRetries ledger s)).sum

/-! ## One step -/

/-- What holds whatever happens. -/
structure Inv (specs : Specs) (maxRetries : Nat) (keys : List String) (ledger : Ledger)
    (s : State) : Prop where
  sane : s.queues.Sane
  tasks : ∀ id key, (s.tasks id key).isSome = (s.view id key).working
  pays : ∀ id key p, s.tasks id key = some (.running p) →
    p.Pays (terms specs maxRetries id key) (fun _ _ => True) (ledger id key)
  /-- There is never anything to do about other keys than these. -/
  keys : ∀ id key, (s.view id key).busy = true → key ∈ keys

/-- A step that is about one key, and uses up some of what is to be paid for it. -/
structure Spends (specs : Specs) (maxRetries : Nat) (key : String) (ledger ledger' : Ledger)
    (s s' : State) : Prop where
  sane : s'.queues.Sane
  busy : ∃ id, (s.view id key).busy = true
  elsewhere : ∀ id key', key' ≠ key → s'.view id key' = s.view id key' ∧
    s'.tasks id key' = s.tasks id key' ∧ ledger' id key' = ledger id key'
  created : ∀ a ∈ s.created, a ∈ s'.created
  tasks : ∀ id, (s'.tasks id key).isSome = (s'.view id key).working
  pays : ∀ id p, s'.tasks id key = some (.running p) →
    p.Pays (terms specs maxRetries id key) (fun _ _ => True) (ledger' id key)
  less : owed specs maxRetries ledger' s' key < owed specs maxRetries ledger s key

theorem missing_mono (h : ∀ a ∈ s.created, a ∈ s'.created) (key : String) :
    missing specs s' key ≤ missing specs s key := by
  refine (List.monotone_filter_right _ fun a ha => ?_).length_le
  simp only [decide_eq_true_eq] at ha ⊢
  exact fun hm => ha (h a hm)

theorem Spends.owed_le (h : Spends specs maxRetries key ledger ledger' s s') (key' : String) :
    owed specs maxRetries ledger' s' key' ≤ owed specs maxRetries ledger s key' := by
  by_cases hk : key' = key
  · rw [hk]
    exact h.less.le
  · have hside : ∀ id, side maxRetries ledger' s' id key' = side maxRetries ledger s id key' := by
      intro id
      obtain ⟨hview, htask, hledger⟩ := h.elsewhere id key' hk
      unfold side
      rw [hview, htask, hledger]
    unfold owed
    rw [hside, hside]
    exact Nat.add_le_add_left (Nat.mul_le_mul_left _ (missing_mono h.created key')) _

theorem Spends.inv (h : Spends specs maxRetries key ledger ledger' s s')
    (hinv : Inv specs maxRetries keys ledger s) : Inv specs maxRetries keys ledger' s' := by
  obtain ⟨id₀, hbusy⟩ := h.busy
  have hkey : key ∈ keys := hinv.keys id₀ key hbusy
  constructor
  · exact h.sane
  · intro id key'
    by_cases hk : key' = key
    · exact hk ▸ h.tasks id
    · obtain ⟨hview, htask, -⟩ := h.elsewhere id key' hk
      rw [hview, htask]
      exact hinv.tasks id key'
  · intro id key' p hp
    by_cases hk : key' = key
    · subst hk
      exact h.pays id p hp
    · obtain ⟨-, htask, hledger⟩ := h.elsewhere id key' hk
      rw [hledger]
      exact hinv.pays id key' p (htask ▸ hp)
  · intro id key' hb
    by_cases hk : key' = key
    · exact hk ▸ hkey
    · exact hinv.keys id key' ((h.elsewhere id key' hk).1 ▸ hb)

theorem Spends.total_lt (h : Spends specs maxRetries key ledger ledger' s s')
    (hinv : Inv specs maxRetries keys ledger s) :
    total specs maxRetries keys ledger' s' < total specs maxRetries keys ledger s := by
  obtain ⟨id₀, hbusy⟩ := h.busy
  exact List.sum_lt_sum _ _ (fun key' _ => h.owed_le key')
    ⟨key, hinv.keys id₀ key hbusy, h.less⟩

/-- A step in one queue, with this view, this task and this credit after it. -/
theorem spends_of_own (hinv : Inv specs maxRetries keys ledger s) {v : KeyView} {t : Option Task}
    (credit : Nat) (hsane : s'.queues.Sane) (hbusy : (s.view id key).busy = true)
    (hviews : ∀ id' key', s'.view id' key' =
      if id' = id ∧ key' = key then v else s.view id' key')
    (htasks : ∀ id' key', s'.tasks id' key' =
      if id' = id ∧ key' = key then t else s.tasks id' key')
    (hcreated : s'.created = s.created) (hworking : t.isSome = v.working)
    (hpays : ∀ p, t = some (.running p) →
      p.Pays (terms specs maxRetries id key) (fun _ _ => True) credit)
    (hless : load maxRetries (budget maxRetries id) v
      (work maxRetries (budget maxRetries id) t credit) < side maxRetries ledger s id key) :
    ∃ ledger', Spends specs maxRetries key ledger ledger' s s' := by
  refine ⟨ledger.set id key credit, hsane, ⟨id, hbusy⟩, fun id' key' hk => ?_,
    fun a ha => hcreated ▸ ha, fun id' => ?_, fun id' p hp => ?_, ?_⟩
  · simp [hviews, htasks, hk, ledger.set_key hk]
  · rw [hviews, htasks]
    by_cases hid : id' = id
    · simp [hid, hworking]
    · simp [hid, hinv.tasks]
  · rw [htasks] at hp
    by_cases hid : id' = id
    · subst hid
      simp only [and_self, if_true] at hp
      rw [ledger.set_same]
      exact hpays p hp
    · simp only [hid, false_and, if_false] at hp
      rw [ledger.set_queue hid]
      exact hinv.pays id' key p hp
  · have hown : ∀ id', side maxRetries (ledger.set id key credit) s' id' key =
        if id' = id then load maxRetries (budget maxRetries id) v
          (work maxRetries (budget maxRetries id) t credit)
        else side maxRetries ledger s id' key := by
      intro id'
      unfold side
      rw [hviews, htasks]
      by_cases hid : id' = id
      · subst hid
        simp [ledger.set_same]
      · simp [hid, ledger.set_queue hid]
    have hmissing : missing specs s' key = missing specs s key := by
      unfold missing
      rw [hcreated]
    unfold owed
    rw [hown, hown, hmissing]
    cases id with
    | structural => simpa using hless
    | drift => simpa using hless

theorem view_setQueue (s : State) (id id' : QueueId) (q : WorkQueue) (key : String) :
    (s.setQueue id q).view id' key = if id' = id then q.view key else s.view id' key := by
  unfold State.view State.setQueue
  rw [Queues.get_set]
  split <;> rfl

/-- A queue in which only this key changes its view. -/
theorem views_setQueue (s : State) (id : QueueId) (key : String) (f : KeyView → KeyView)
    {q : WorkQueue} (hq : ∀ k, q.view k =
      if k = key then f ((s.queues.get id).view k) else (s.queues.get id).view k)
    (id' : QueueId) (key' : String) : (s.setQueue id q).view id' key' =
      if id' = id ∧ key' = key then f (s.view id key) else s.view id' key' := by
  rw [view_setQueue, hq]
  by_cases hid : id' = id
  · subst hid
    by_cases hk : key' = key
    · subst hk
      simp [State.view]
    · simp [hk, State.view]
  · simp [hid]

theorem step_take (hinv : Inv specs maxRetries keys ledger s) {q : WorkQueue} {ss : List Signal}
    (found : (s.queues.get id).take = (q, .key key, ss)) :
    ∃ ledger', Spends specs maxRetries key ledger ledger' s
      ((s.setQueue id q).begin id key) := by
  obtain ⟨hsound, hrunning⟩ := hinv.sane id
  obtain ⟨hdirty, hfree⟩ := WorkQueue.view_of_take hsound found
  have hnone : s.tasks id key = none := by
    have htask := hinv.tasks id key
    rw [show (s.view id key).working = false from hfree] at htask
    simpa using htask
  have hviews := views_setQueue s id key KeyView.taken
    fun k => WorkQueue.view_take (k := k) found
  have hstopped : q.stopped = false := (WorkQueue.take_frame found).2.2.trans hrunning
  refine spends_of_own hinv (budget maxRetries id)
    (hinv.sane.set id (hsound.take found) hstopped) ?_ hviews (fun _ _ => rfl) rfl rfl
    (fun p hp => ?_) ?_
  · show ((s.queues.get id).view key).busy = true
    simp [KeyView.busy, KeyView.owed, hdirty]
  · cases hp
    exact pays_ofQueue specs maxRetries id key
  · unfold side
    rw [hnone]
    exact load_taken hdirty

theorem step_fire (hinv : Inv specs maxRetries keys ledger s) {d : DelayedAdd}
    (pending : (s.queues.get id).delayed.get? key = some d) :
    ∃ ledger', Spends specs maxRetries key ledger ledger' s
      (s.setQueue id ((s.queues.get id).fire key d.number).1) := by
  obtain ⟨hsound, hrunning⟩ := hinv.sane id
  have hdelayed : (s.view id key).delayed = true := by
    simp [State.view, WorkQueue.view, WorkQueue.hasPendingRetry, Entries.contains, pending]
  have hviews := views_setQueue s id key KeyView.fired
    fun k => WorkQueue.view_fire (k := k) hrunning pending
  have hstopped : ((s.queues.get id).fire key d.number).1.stopped = false := by
    rw [WorkQueue.fire_pending pending, WorkQueue.add_stopped]
    exact hrunning
  refine spends_of_own hinv (t := s.tasks id key) (ledger id key)
    (hinv.sane.set id (hsound.fire key d.number) hstopped) ?_ hviews (fun id' key' => ?_) rfl ?_
    (fun p hp => ?_) ?_
  · simp [KeyView.busy, hdelayed]
  · split
    · next h => rw [h.1, h.2]; rfl
    · rfl
  · exact hinv.tasks id key
  · exact hinv.pays id key p hp
  · exact load_fired hdelayed

theorem step_handle (hmax : maxRetries < 2 ^ 32) (hinv : Inv specs maxRetries keys ledger s)
    {result : Except PassError Unit} (ends : s.tasks id key = some (.running (.done result)))
    (now : Duration) :
    ∃ ledger', Spends specs maxRetries key ledger ledger' s ((s.setQueue id
      (Retry.handle (s.queues.get id) now key result maxRetries).1).setTask id key
        (some .handled)) := by
  obtain ⟨hsound, hrunning⟩ := hinv.sane id
  have hworking : (s.view id key).working = true := by
    rw [← hinv.tasks, ends]
    rfl
  have hstopped : (Retry.handle (s.queues.get id) now key result maxRetries).1.stopped = false :=
    (Retry.handle_frame _ now key result maxRetries).2.2.2.trans hrunning
  have hsane := hinv.sane.set id (Retry.sound_handle hsound now key result maxRetries) hstopped
  have hbusy : (s.view id key).busy = true := by simp [KeyView.busy, KeyView.owed, hworking]
  have hside : side maxRetries ledger s id key = load maxRetries (budget maxRetries id)
      (s.view id key) (work maxRetries (budget maxRetries id)
        (some (.running (.done result))) (ledger id key)) := by
    unfold side
    rw [ends]
  cases result with
  | ok =>
    have hviews := views_setQueue s id key KeyView.forgotten
      fun k => Retry.view_handle_ok _ now key k maxRetries
    refine spends_of_own hinv 0 hsane hbusy hviews (fun _ _ => rfl) rfl hworking.symm
      (fun p hp => by cases hp) ?_
    rw [hside]
    exact load_forgotten _
  | error e =>
    have hviews := views_setQueue s id key (KeyView.failed maxRetries)
      fun k => Retry.view_handle_error hrunning now key k e maxRetries
    have hstill : ((s.view id key).failed maxRetries).working = true := by
      unfold KeyView.failed
      split <;> exact hworking
    refine spends_of_own hinv 0 hsane hbusy hviews (fun _ _ => rfl) rfl hstill.symm
      (fun p hp => by cases hp) ?_
    rw [hside]
    exact load_failed hmax _

theorem step_done (hinv : Inv specs maxRetries keys ledger s)
    (handled : s.tasks id key = some .handled) :
    ∃ ledger', Spends specs maxRetries key ledger ledger' s
      ((s.setQueue id ((s.queues.get id).done key).1).setTask id key none) := by
  obtain ⟨hsound, hrunning⟩ := hinv.sane id
  have hworking : (s.view id key).working = true := by
    rw [← hinv.tasks, handled]
    rfl
  have hheld : key ∈ (s.queues.get id).processing := by
    simpa [State.view, WorkQueue.view] using hworking
  have hviews := views_setQueue s id key KeyView.finished
    fun k => WorkQueue.view_done (k := k) hrunning
  have hstopped : ((s.queues.get id).done key).1.stopped = false :=
    (WorkQueue.done_stopped _ _).trans hrunning
  refine spends_of_own hinv 0 (hinv.sane.set id (hsound.done hheld) hstopped) ?_ hviews
    (fun _ _ => rfl) rfl rfl (fun p hp => by cases hp) ?_
  · simp [KeyView.busy, KeyView.owed, hworking]
  · unfold side
    rw [handled]
    exact load_finished _

/-! ## A question -/

/-- What a question may change in the queues: at most its key, and only in the other queue. -/
theorem view_queuesAfter (hsane : s.queues.Sane) {r : Request}
    (h : (terms specs maxRetries id key).Allows r) :
    (s.queuesAfter r).Sane ∧
    (∀ id' key', key' ≠ key → ((s.queuesAfter r).get id').view key' = s.view id' key') ∧
    ((s.queuesAfter r).get id).view key = s.view id key ∧
    ∀ id', id' ≠ id → ((s.queuesAfter r).get id').view key = s.view id' key ∨
      ((s.queuesAfter r).get id').view key = (s.view id' key).added ∧
        (terms specs maxRetries id key).price r = cost maxRetries id' := by
  cases r with
  | enqueue queue key' =>
    obtain ⟨hqueue, hkey⟩ : queue ≠ id ∧ key' = key := h
    rw [hkey]
    have hview : ∀ id' k, ((s.queues.add queue key).1.get id').view k =
        if id' = queue ∧ k = key then (s.view id' k).added else s.view id' k := by
      intro id' k
      rw [Queues.get_add]
      by_cases hid : id' = queue
      · subst hid
        simp [WorkQueue.view_add (hsane id').2, State.view]
      · simp [hid, State.view]
    refine ⟨hsane.add queue key, fun id' k hk => ?_, ?_, fun id' hid => ?_⟩
    · exact (hview id' k).trans (if_neg fun h => hk h.2)
    · exact (hview id key).trans (if_neg fun h => hqueue h.1.symm)
    · have hid' : id' = queue := by
        cases id <;> cases id' <;> cases queue <;> first | rfl | contradiction
      refine .inr ⟨(hview id' key).trans (if_pos ⟨hid', rfl⟩), ?_⟩
      rw [hid']
      rfl
  | lookup | get | create | update | getDeclaring | updateStatus | readVault | record | now
  | tell => exact ⟨hsane, fun _ _ _ => rfl, rfl, fun _ _ => .inl rfl⟩

theorem mem_outputs_of_creates {c : Terms} {r : Request} (h : c.Allows r) {answer : r.Answer}
    {a : Address} (ha : a ∈ creates r answer) : a ∈ outputs c.specs c.key := by
  cases r with
  | create k ns object =>
    cases answer with
    | ok stored =>
      obtain rfl := List.mem_singleton.1 ha
      exact h
    | error e => cases ha
  | lookup | get | update | getDeclaring | updateStatus | readVault | record | enqueue | now
  | tell => cases ha

theorem creates_length {r : Request} (answer : r.Answer) : (creates r answer).length ≤ 1 := by
  cases r with
  | create k ns object => cases answer <;> simp [creates]
  | lookup | get | update | getDeclaring | updateStatus | readVault | record | enqueue | now
  | tell => exact Nat.zero_le _

/-- A creation makes one output less that is missing. -/
theorem missing_answered {r : Request} {answer : r.Answer}
    (hmem : ∀ a ∈ creates r answer, a ∈ outputs specs key)
    (honce : ∀ a ∈ creates r answer, a ∉ s.created)
    (hcreated : s'.created = s.created ++ creates r answer) :
    missing specs s' key + (creates r answer).length ≤ missing specs s key := by
  have hlength := creates_length answer
  have hle : missing specs s' key ≤ missing specs s key :=
    missing_mono (fun a ha => hcreated ▸ List.mem_append_left _ ha) key
  generalize creates r answer = new at *
  match new with
  | [] => exact hle
  | a :: rest =>
    obtain rfl : rest = [] := List.length_eq_zero_iff.1 (by simpa using hlength)
    have ha : a ∈ outputs specs key ∧ a ∉ s.created :=
      ⟨hmem a List.mem_cons_self, honce a List.mem_cons_self⟩
    have hfilter : (outputs specs key).filter (· ∉ s'.created) =
        ((outputs specs key).filter (· ∉ s.created)).filter (· ≠ a) := by
      rw [List.filter_filter, hcreated]
      refine List.filter_congr fun a' _ => ?_
      simp [not_or, and_comm]
    unfold missing
    rw [hfilter, List.length_singleton]
    exact List.length_filter_lt_length_iff_exists.2
      ⟨a, List.mem_filter.2 ⟨ha.1, by simpa using ha.2⟩, by simp⟩

/-- The load of a key grows with the work on it. -/
theorem load_work (maxRetries b : Nat) (v : KeyView) (w : Nat) :
    load maxRetries b v w = load maxRetries b v 0 + w := rfl

theorem step_ask (hinv : Inv specs maxRetries keys ledger s) {r : Request}
    {next : r.Answer → Program (Except PassError Unit)}
    (asks : s.tasks id key = some (.running (.ask r next))) {answer : r.Answer}
    (fits : Fits specs r answer) (once : ∀ a ∈ creates r answer, a ∉ s.created) :
    ∃ ledger', Spends specs maxRetries key ledger ledger' s
      (s.answered id key r answer (next answer)) := by
  obtain ⟨hallows, hnext⟩ := hinv.pays id key _ asks
  obtain ⟨left, hle, hleft⟩ := hnext answer fits
  obtain ⟨hsane, helse, hown, hother⟩ := view_queuesAfter hinv.sane hallows
  have htasks : ∀ id', (s.answered id key r answer (next answer)).tasks id' key =
      if id' = id then some (.running (next answer)) else s.tasks id' key := by
    intro id'
    by_cases hid : id' = id <;> simp [State.answered, State.setTask, hid]
  have hworking : (s.view id key).working = true := by
    rw [← hinv.tasks, asks]
    rfl
  refine ⟨ledger.set id key left, hsane, ⟨id, ?_⟩, fun id' key' hk => ?_,
    fun a ha => List.mem_append_left _ ha, fun id' => ?_, fun id' p hp => ?_, ?_⟩
  · simp [KeyView.busy, KeyView.owed, hworking]
  · refine ⟨helse id' key' hk, ?_, ledger.set_key hk ..⟩
    simp [State.answered, State.setTask, hk]
  · rw [htasks]
    by_cases hid : id' = id
    · rw [if_pos hid, hid]
      exact ((congrArg KeyView.working hown).trans hworking).symm
    · rw [if_neg hid, hinv.tasks]
      rcases hother id' hid with hsame | ⟨hadded, -⟩
      · exact (congrArg KeyView.working hsame).symm
      · exact (congrArg KeyView.working hadded).symm
  · rw [htasks] at hp
    by_cases hid : id' = id
    · subst hid
      rw [if_pos rfl] at hp
      cases hp
      rw [ledger.set_same]
      exact hleft
    · rw [if_neg hid] at hp
      rw [ledger.set_queue hid]
      exact hinv.pays id' key p hp
  · generalize hs' : s.answered id key r answer (next answer) = s' at htasks
    have hview : ∀ id', s'.view id' key = ((s.queuesAfter r).get id').view key := by
      intro id'
      rw [← hs']
      rfl
    have hself : side maxRetries (ledger.set id key left) s' id key + ledger id key =
        side maxRetries ledger s id key + left := by
      unfold side
      rw [hview, hown, htasks, if_pos rfl, asks, ledger.set_same, load_work,
        load_work _ _ _ (work _ _ _ (ledger id key))]
      simp only [work]
      omega
    have hcost : ∀ id', id' ≠ id → side maxRetries (ledger.set id key left) s' id' key ≤
        side maxRetries ledger s id' key + (terms specs maxRetries id key).price r := by
      intro id' hid
      unfold side
      rw [hview, htasks, if_neg hid, ledger.set_queue hid]
      rcases hother id' hid with hsame | ⟨hadded, hprice⟩
      · rw [hsame]
        exact Nat.le_add_right _ _
      · rw [hadded, hprice]
        exact load_added _
    have hmissing : missing specs s' key + (creates r answer).length ≤ missing specs s key :=
      missing_answered (fun a ha => mem_outputs_of_creates hallows ha) once (by rw [← hs']; rfl)
    have hfill : cost maxRetries .drift * missing specs s' key +
        (terms specs maxRetries id key).income r answer ≤
          cost maxRetries .drift * missing specs s key := by
      have hmul := Nat.mul_le_mul_left (cost maxRetries .drift) hmissing
      rwa [Nat.mul_add] at hmul
    unfold owed
    cases id with
    | structural =>
      have hdrift := hcost .drift (by decide)
      omega
    | drift =>
      have hstructural := hcost .structural (by decide)
      omega

/-! ## Runs -/

/-- Every step uses up some of what is to be paid. -/
theorem Inv.step (hmax : maxRetries < 2 ^ 32) (hinv : Inv specs maxRetries keys ledger s)
    (next : Step specs maxRetries s s') :
    ∃ ledger', Inv specs maxRetries keys ledger' s' ∧
      total specs maxRetries keys ledger' s' < total specs maxRetries keys ledger s := by
  have hspends : ∃ key ledger', Spends specs maxRetries key ledger ledger' s s' := by
    cases next with
    | take found => exact ⟨_, step_take hinv found⟩
    | ask asks answer fits once => exact ⟨_, step_ask hinv asks fits once⟩
    | handle ends now => exact ⟨_, step_handle hmax hinv ends now⟩
    | done handled => exact ⟨_, step_done hinv handled⟩
    | fire pending => exact ⟨_, step_fire hinv pending⟩
  obtain ⟨key, ledger', h⟩ := hspends
  exact ⟨ledger', h.inv hinv, h.total_lt hinv⟩

theorem Run.inv (hmax : maxRetries < 2 ^ 32) (hinv : Inv specs maxRetries keys ledger s) {n : Nat}
    (hrun : Run specs maxRetries s n s') :
    ∃ ledger', Inv specs maxRetries keys ledger' s' ∧
      n + total specs maxRetries keys ledger' s' ≤ total specs maxRetries keys ledger s := by
  induction hrun with
  | refl => exact ⟨ledger, hinv, by omega⟩
  | step run next ih =>
    obtain ⟨ledger₁, hinv₁, hle⟩ := ih
    obtain ⟨ledger₂, hinv₂, hless⟩ := hinv₁.step hmax next
    exact ⟨ledger₂, hinv₂, by omega⟩

/-- No more passes begin than steps are made. -/
theorem Run.started {n : Nat} (hrun : Run specs maxRetries s n s') :
    s'.started.length ≤ s.started.length + n := by
  induction hrun with
  | refl => exact Nat.le_refl _
  | step run next ih =>
    cases next with
    | take =>
      simp only [State.begin, State.setQueue, List.length_append, List.length_singleton]
      omega
    | ask | handle | done | fire => exact Nat.le_succ_of_le ih

/-- The keys that are busy now are all there will be, and the passes under way have some credit. -/
theorem State.Sane.inv (h : s.Sane specs) (maxRetries : Nat) :
    ∃ keys ledger, Inv specs maxRetries keys ledger s := by
  have hcredit : ∀ id key, ∃ credit, ∀ p, s.tasks id key = some (.running p) →
      p.Pays (terms specs maxRetries id key) (fun _ _ => True) credit := by
    intro id key
    cases ht : s.tasks id key with
    | none => exact ⟨0, nofun⟩
    | some t =>
      cases t with
      | handled => exact ⟨0, nofun⟩
      | running p =>
        obtain ⟨past, hreach, hfits⟩ := h.reached id key p ht
        obtain ⟨left, hleft⟩ := (pays_ofQueue specs maxRetries id key).reach hreach hfits
        refine ⟨left, fun p' hp' => ?_⟩
        cases hp'
        exact hleft
  choose ledger hledger using hcredit
  let busy (q : WorkQueue) : List String := q.dirty ++ q.processing ++ q.delayed.keys
  have hbusy : ∀ id key, (s.view id key).busy = true → key ∈ busy (s.queues.get id) := by
    intro id key hb
    simp only [State.view, WorkQueue.view, KeyView.busy, KeyView.owed, Bool.or_eq_true,
      decide_eq_true_eq] at hb
    rcases hb with (hd | hp) | hr
    · exact List.mem_append_left _ (List.mem_append_left _ hd)
    · exact List.mem_append_left _ (List.mem_append_right _ hp)
    · obtain ⟨d, hd⟩ := Option.isSome_iff_exists.1 hr
      exact List.mem_append_right _ (List.mem_map_of_mem (Entries.mem_of_get? hd))
  refine ⟨busy (s.queues.get .structural) ++ busy (s.queues.get .drift), ledger, h.queues, h.tasks,
    fun id key p hp => hledger id key p hp, fun id key hb => ?_⟩
  cases id with
  | structural => exact List.mem_append_left _ (hbusy .structural key hb)
  | drift => exact List.mem_append_right _ (hbusy .drift key hb)

/-- Every question has an answer. -/
theorem exists_answer (specs : Specs) (s : State) (r : Request) :
    ∃ answer, Fits specs r answer ∧ ∀ a ∈ creates r answer, a ∉ s.created := by
  have hnone : ∀ a ∈ ([] : List Address), a ∉ s.created := fun a ha => absurd ha List.not_mem_nil
  cases r with
  | lookup => exact ⟨none, (fun _ hr => by cases hr), hnone⟩
  | create => exact ⟨.error .connection, trivial, hnone⟩
  | get | update | getDeclaring | updateStatus => exact ⟨.error .connection, trivial, hnone⟩
  | readVault vault kind => exact ⟨.error (.notFound ⟨"", "", kind⟩), trivial, hnone⟩
  | now => exact ⟨"", trivial, hnone⟩
  | record | enqueue | tell => exact ⟨(), trivial, hnone⟩

/-- While some queue is not idle there is something to do. -/
theorem exists_step (hinv : Inv specs maxRetries keys ledger s) (h : ¬ s.Quiet) :
    ∃ s', Step specs maxRetries s s' := by
  obtain ⟨id, hid⟩ := not_forall.1 h
  rcases WorkQueue.exists_work (hinv.sane id).2 hid with ⟨key, hkey⟩ | ⟨key, q, ss, htake⟩ |
    ⟨key, d, hd⟩
  · have hsome : (s.tasks id key).isSome = true := by
      rw [hinv.tasks]
      simpa [State.view, WorkQueue.view] using hkey
    obtain ⟨t, ht⟩ := Option.isSome_iff_exists.1 hsome
    cases t with
    | handled => exact ⟨_, .done ht⟩
    | running p =>
      cases p with
      | done result => exact ⟨_, .handle ht .zero⟩
      | ask r next =>
        obtain ⟨answer, hfits, honce⟩ := exists_answer specs s r
        exact ⟨_, .ask ht answer hfits honce⟩
  · exact ⟨_, .take htake⟩
  · exact ⟨_, .fire hd⟩

/-- From any state, whatever keys are busy in it and whatever has become of the passes under way,
the passes of both queues end if nothing else adds keys: there is a bound on the steps, and so on
the passes that begin, and while a queue is not idle there is a step to make. So every run can go on
until both queues are idle, and then it ends. -/
theorem settles (hmax : maxRetries < 2 ^ 32) (h : s.Sane specs) :
    (∃ bound, ∀ n s', Run specs maxRetries s n s' →
      n ≤ bound ∧ s'.started.length ≤ s.started.length + bound) ∧
    ∀ n s', Run specs maxRetries s n s' → s'.Quiet ∨ ∃ s'', Step specs maxRetries s' s'' := by
  obtain ⟨keys, ledger, hinv⟩ := h.inv maxRetries
  refine ⟨⟨total specs maxRetries keys ledger s, fun n s' hrun => ?_⟩, fun n s' hrun => ?_⟩
  · obtain ⟨ledger', -, hle⟩ := hrun.inv hmax hinv
    have hstarted := hrun.started
    exact ⟨by omega, by omega⟩
  · obtain ⟨ledger', hinv', -⟩ := hrun.inv hmax hinv
    exact Classical.or_iff_not_imp_left.2 (exists_step hinv')

/-! ## An instance -/

/-- A resource that asks for a Secret. -/
def loginSpecs : Specs := fun ns name =>
  if ns = "prod" ∧ name = "app" then
    some ⟨⟨"vault", ⟨"password", "secret", none, none⟩⟩,
      ⟨some ⟨"login", none, some "password"⟩, none, []⟩⟩
  else none

/-- Its key waits in both queues. -/
def loginWaits : State where
  queues := ((Queues.empty .default).add .structural "prod/app").1.add .drift "prod/app" |>.1
  tasks _ _ := none
  created := []
  started := []

theorem settles_login :
    (loginWaits.queues.get .structural).pending = ["prod/app"] ∧
    (loginWaits.queues.get .drift).pending = ["prod/app"] ∧
    ∃ bound, ∀ n s, Run loginSpecs 5 loginWaits n s → s.started.length ≤ bound ∧
      (s.Quiet ∨ ∃ s', Step loginSpecs 5 s s') := by
  have hsane : loginWaits.Sane loginSpecs := by
    refine ⟨((Queues.sane_empty .default).add .structural _).add .drift _, fun id key => ?_, nofun⟩
    cases id <;> rfl
  have hmax : 5 < 2 ^ 32 := by decide
  obtain ⟨⟨bound, hbound⟩, hsteps⟩ := settles hmax hsane
  refine ⟨by decide, by decide, bound, fun n s hrun => ⟨?_, hsteps n s hrun⟩⟩
  exact (hbound n s hrun).2.trans_eq (Nat.zero_add bound)

end VaultProjection.Settlement

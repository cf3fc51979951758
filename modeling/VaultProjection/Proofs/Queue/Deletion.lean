import VaultProjection.Proofs.Queue.Deadlines
import VaultProjection.Proofs.Queue.Pair
import VaultProjection.Proofs.Queue.View
import VaultProjection.Proofs.Watch.Shelf
import VaultProjection.Retry

/-!
# Retries after a deletion

The deletion of a resource gives up the drift retries of its key and clears its failures. But a pass
over the key may be under way, or the key may wait for one. If such a pass ends later in a failure
that is to be retried, the failure is counted and a delayed add is on its way again, for a resource
that is gone.

Results:
1. `Step.effect`: what every step does to the retries that the drift queue has of a key.
2. `retries_iff`: until the next change of the resource, the drift queue counts failures of the key
   exactly if the last pass over it to end since the deletion is to be retried, and has a delayed
   add exactly if that one has not come back yet.
-/

namespace VaultProjection

/-- The key that a change sends, if its resource has a namespace and a name. -/
def Change.key? (c : Change) : Option String :=
  match c.resource.metadata.ns, c.resource.metadata.name with
  | some ns, some name => some (Key.join ns name)
  | _, _ => none

namespace Queues

variable {qs : Queues} {c : Change} {key : String}

/-- What a change does to the drift queue. -/
theorem dispatch_drift (qs : Queues) (c : Change) :
    (qs.dispatch c).1.get .drift = match c.key?, c.route with
      | some key, .drift => ((qs.get .drift).add key).1
      | some key, .structuralAndForget => (qs.get .drift).forget key
      | _, _ => qs.get .drift := by
  unfold dispatch Change.key?
  cases c.resource.metadata.ns with
  | none => rfl
  | some ns =>
    cases c.resource.metadata.name with
    | none => rfl
    | some name => cases c.route <;> rfl

theorem dispatch_drift_stopped (qs : Queues) (c : Change) :
    ((qs.dispatch c).1.get .drift).stopped = (qs.get .drift).stopped := by
  rw [dispatch_drift]
  split
  · exact WorkQueue.add_stopped _ _
  · rfl
  · rfl

/-- A change leaves what the drift queue has on other keys. -/
theorem view_dispatch_other (works : (qs.get .drift).stopped = false) (h : c.key? ≠ some key) :
    ((qs.dispatch c).1.get .drift).view key = (qs.get .drift).view key := by
  rw [dispatch_drift]
  split
  · next hkey _ =>
    rw [WorkQueue.view_add works, if_neg]
    rintro rfl
    exact h hkey
  · next hkey _ =>
    rw [WorkQueue.view_forget, if_neg]
    rintro rfl
    exact h hkey
  · rfl

/-- The deletion of a resource with an output clears what the drift queue has on its key. -/
theorem view_dispatch_deleted {r : Resource} (hkey : (Change.deleted r).key? = some key)
    (hout : r.hasOutput = true) (qs : Queues) :
    ((qs.dispatch (.deleted r)).1.get .drift).view key =
      ((qs.get .drift).view key).forgotten := by
  have hroute : (Change.deleted r).route = .structuralAndForget := by simp [Change.route, hout]
  simp only [dispatch_drift, hkey, hroute]
  rw [WorkQueue.view_forget, if_pos rfl]

end Queues

/-- The policy brings the key back and counts the failure, or it clears what the queue has on the
key. -/
theorem Retry.view_handle_self {q : WorkQueue} (works : q.stopped = false) (now : Duration)
    (key : String) (result : Except PassError Unit) (maxRetries : Nat) :
    (∃ delay, (handle q now key result maxRetries).2.1 = .requeued delay) ∧
        (handle q now key result maxRetries).1.view key = (q.view key).retried ∨
      (¬ ∃ delay, (handle q now key result maxRetries).2.1 = .requeued delay) ∧
        (handle q now key result maxRetries).1.view key = (q.view key).forgotten := by
  cases result with
  | ok =>
    refine .inr ⟨nofun, ?_⟩
    rw [view_handle_ok, if_pos rfl]
  | error e =>
    rw [view_handle_error works, if_pos rfl]
    unfold handle KeyView.failed
    have hview : (q.view key).failures = q.requeues key := rfl
    by_cases hless : q.requeues key < maxRetries
    · refine .inl ⟨⟨(q.addRateLimited now key).2, ?_⟩, by rw [hview, if_pos hless]⟩
      simp only [hless, if_true]
    · refine .inr ⟨?_, by rw [hview, if_neg hless]⟩
      simp only [hless, if_false]
      exact nofun

theorem Retry.view_handle_other {q : WorkQueue} (works : q.stopped = false) (now : Duration)
    {key k : String} (hk : k ≠ key) (result : Except PassError Unit) (maxRetries : Nat) :
    (handle q now key result maxRetries).1.view k = q.view k := by
  cases result with
  | ok => rw [view_handle_ok, if_neg hk]
  | error e => rw [view_handle_error works, if_neg hk]

namespace Deletion

/-! ## Changes, drift passes and timers -/

/-- How far a drift pass over a key has come. -/
inductive Stage where
  | running
  /-- The retry policy was applied to its result. -/
  | handled

structure State where
  queues : Queues
  /-- The drift passes under way, by key. -/
  passes : String → Option Stage

namespace State

def start (backoff : Backoff) : State := ⟨.empty backoff, fun _ => none⟩

def drift (s : State) : WorkQueue := s.queues.get .drift

def setDrift (s : State) (q : WorkQueue) : State := { s with queues := s.queues.set .drift q }

def setPass (s : State) (key : String) (stage : Option Stage) : State :=
  { s with passes := fun k => if k = key then stage else s.passes k }

end State

/-- What happens at a step. -/
inductive Act where
  /-- A change is sent to the queues. -/
  | change (c : Change)
  /-- The structural queue moves on. -/
  | structural
  /-- A structural pass asks for a drift pass. -/
  | add (key : String)
  /-- A worker takes a key and its pass starts. -/
  | take (key : String)
  /-- A pass has ended, and the retry policy has decided what becomes of its key. -/
  | handle (key : String) (outcome : Outcome)
  /-- The worker gives the key back. -/
  | done (key : String)
  /-- The pending delayed add of a key fires. -/
  | fire (key : String)
  /-- A delayed add that was given up tries to fire. -/
  | lapse (key : String)

/-- What can happen next. A pass may end in any result, and timers may run out at any time. -/
inductive Step (maxRetries : Nat) (s : State) : Act → State → Prop where
  | change (c : Change) :
      Step maxRetries s (.change c) { s with queues := (s.queues.dispatch c).1 }
  | structural (q : WorkQueue) :
      Step maxRetries s .structural { s with queues := s.queues.set .structural q }
  | add (key : String) : Step maxRetries s (.add key) (s.setDrift (s.drift.add key).1)
  | take {key : String} {q : WorkQueue} {ss : List Signal}
      (found : s.drift.take = (q, .key key, ss)) :
      Step maxRetries s (.take key) ((s.setDrift q).setPass key (some .running))
  | handle {key : String} (runs : s.passes key = some .running) (now : Duration)
      (result : Except PassError Unit) :
      Step maxRetries s (.handle key (Retry.handle s.drift now key result maxRetries).2.1)
        ((s.setDrift (Retry.handle s.drift now key result maxRetries).1).setPass key
          (some .handled))
  | done {key : String} (handled : s.passes key = some .handled) :
      Step maxRetries s (.done key) ((s.setDrift (s.drift.done key).1).setPass key none)
  | fire {key : String} {d : DelayedAdd} (pending : s.drift.delayed.get? key = some d) :
      Step maxRetries s (.fire key) (s.setDrift (s.drift.fire key d.number).1)
  | lapse {key : String} {number : Nat}
      (givenUp : ∀ d, s.drift.delayed.get? key = some d → d.number ≠ number) :
      Step maxRetries s (.lapse key) (s.setDrift (s.drift.fire key number).1)

/-- Any sequence of steps. -/
inductive Run (maxRetries : Nat) (s : State) : List Act → State → Prop where
  | refl : Run maxRetries s [] s
  | step {acts : List Act} {s' s'' : State} (run : Run maxRetries s acts s') {a : Act}
      (next : Step maxRetries s' a s'') : Run maxRetries s (acts ++ [a]) s''

variable {maxRetries : Nat} {s s' s'' : State} {a : Act} {acts acts' : List Act} {key : String}

theorem Run.last (run : Run maxRetries s (acts ++ [a]) s'') :
    ∃ s', Run maxRetries s acts s' ∧ Step maxRetries s' a s'' := by
  generalize heq : acts ++ [a] = all at run
  cases run with
  | refl => simp at heq
  | step run next =>
    obtain ⟨rfl, ha⟩ := List.append_inj' heq rfl
    cases ha
    exact ⟨_, run, next⟩

theorem Run.split (run : Run maxRetries s (acts ++ acts') s'') :
    ∃ s', Run maxRetries s acts s' ∧ Run maxRetries s' acts' s'' := by
  generalize heq : acts ++ acts' = all at run
  induction run generalizing acts' with
  | refl =>
    obtain ⟨rfl, rfl⟩ := List.append_eq_nil_iff.1 heq
    exact ⟨s, .refl, .refl⟩
  | step run next ih =>
    rcases List.eq_nil_or_concat acts' with rfl | ⟨rest, x, rfl⟩
    · rw [List.append_nil] at heq
      subst heq
      exact ⟨_, .step run next, .refl⟩
    · rw [List.concat_eq_append, ← List.append_assoc] at heq
      obtain ⟨hrest, hx⟩ := List.append_inj' heq rfl
      obtain ⟨m, hbefore, hafter⟩ := ih hrest
      cases hx
      exact ⟨m, hbefore, List.concat_eq_append ▸ .step hafter next⟩

/-! ## What a step does to a key -/

theorem Step.works (works : s.drift.stopped = false) (next : Step maxRetries s a s') :
    s'.drift.stopped = false := by
  cases next with
  | change c => exact (Queues.dispatch_drift_stopped s.queues c).trans works
  | structural q => exact works
  | add key => exact (WorkQueue.add_stopped _ _).trans works
  | take found => exact (WorkQueue.take_frame found).2.2.trans works
  | handle runs now result => exact (Retry.handle_frame _ now _ result maxRetries).2.2.2.trans works
  | done handled => exact (WorkQueue.done_stopped _ _).trans works
  | fire pending =>
    refine (congrArg WorkQueue.stopped (WorkQueue.fire_pending pending)).trans ?_
    exact (WorkQueue.add_stopped _ _).trans works
  | lapse givenUp => exact (congrArg WorkQueue.stopped (WorkQueue.fire_other givenUp)).trans works

/-- What the drift queue has on a key. -/
def State.view (s : State) (key : String) : KeyView := s.drift.view key

/-- The act is the end of a pass over the key that is to be retried. -/
def Act.IsRetry (key : String) (a : Act) : Prop := ∃ delay, a = .handle key (.requeued delay)

/-- The act is the end of a pass over the key. -/
def Act.IsEnd (key : String) (a : Act) : Prop := ∃ outcome, a = .handle key outcome

/-- The retries of a key after a step: a pass that is to be retried is counted and sets a delayed
add on its way, every other end of a pass clears both, and the delayed add is over when it fires. -/
def Effect (key : String) (a : Act) (v v' : KeyView) : Prop :=
  (v'.failures ≠ 0 ↔ a.IsRetry key ∨ v.failures ≠ 0 ∧ ¬ a.IsEnd key) ∧
    (v'.delayed = true ↔ a.IsRetry key ∨ v.delayed = true ∧ ¬ (a.IsEnd key ∨ a = .fire key))

theorem Effect.same {v v' : KeyView} (failures : v'.failures = v.failures)
    (delayed : v'.delayed = v.delayed) (ends : ¬ a.IsEnd key) (fires : a ≠ .fire key) :
    Effect key a v v' := by
  have hretry : ¬ a.IsRetry key := fun ⟨delay, h⟩ => ends ⟨_, h⟩
  simp [Effect, failures, delayed, ends, fires, hretry]

theorem Effect.retried {v : KeyView} (retry : a.IsRetry key) : Effect key a v v.retried := by
  have hcap : (0 : Nat) < Nat.min (v.failures + 1) (Nat.pow 2 32 - 1) :=
    Nat.lt_min.2 ⟨Nat.succ_pos _, by decide⟩
  exact ⟨⟨fun _ => .inl retry, fun _ => Nat.ne_of_gt hcap⟩, fun _ => .inl retry, fun _ => rfl⟩

theorem Effect.cleared {v : KeyView} (ends : a.IsEnd key) (retry : ¬ a.IsRetry key) :
    Effect key a v v.forgotten := by
  simp [Effect, KeyView.forgotten, ends, retry]

theorem Effect.fired (v : KeyView) : Effect key (.fire key) v v.fired := by
  simp [Effect, KeyView.fired, Act.IsRetry, Act.IsEnd]

theorem Step.effect (works : s.drift.stopped = false) (next : Step maxRetries s a s')
    (other : ∀ c, a = .change c → c.key? ≠ some key) : Effect key a (s.view key) (s'.view key) := by
  cases next with
  | change c =>
    have hview := Queues.view_dispatch_other works (other c rfl)
    exact .same (congrArg KeyView.failures hview) (congrArg KeyView.delayed hview) nofun nofun
  | structural q => exact .same rfl rfl nofun nofun
  | add k =>
    have hview : (s.drift.add k).1.view key =
        if key = k then (s.drift.view key).added else s.drift.view key := WorkQueue.view_add works
    refine .same ?_ ?_ nofun nofun <;> refine (congrArg _ hview).trans ?_ <;> split <;> rfl
  | take found =>
    have hview := WorkQueue.view_take (k := key) found
    refine .same ?_ ?_ nofun nofun <;> refine (congrArg _ hview).trans ?_ <;> split <;> rfl
  | @handle k runs now result =>
    by_cases hk : key = k
    · subst hk
      rcases Retry.view_handle_self works now key result maxRetries with
        ⟨⟨delay, hout⟩, hview⟩ | ⟨hout, hview⟩
      · exact congrArg (Effect key _ _) hview ▸ .retried ⟨delay, congrArg _ hout⟩
      · refine congrArg (Effect key _ _) hview ▸ .cleared ⟨_, rfl⟩ ?_
        rintro ⟨delay, h⟩
        exact hout ⟨delay, (Act.handle.inj h).2⟩
    · have hview := Retry.view_handle_other works now hk result maxRetries
      refine .same (congrArg KeyView.failures hview) (congrArg KeyView.delayed hview) ?_ nofun
      rintro ⟨outcome, h⟩
      cases h
      exact hk rfl
  | @done k handled =>
    have hview : (s.drift.done k).1.view key =
        if key = k then (s.drift.view key).finished else s.drift.view key :=
      WorkQueue.view_done works
    refine .same ?_ ?_ nofun nofun <;> refine (congrArg _ hview).trans ?_ <;> split <;> rfl
  | @fire k d pending =>
    have hview := WorkQueue.view_fire (k := key) works pending
    by_cases hk : key = k
    · subst hk
      rw [if_pos rfl] at hview
      exact congrArg (Effect key _ _) hview ▸ .fired _
    · rw [if_neg hk] at hview
      refine .same (congrArg KeyView.failures hview) (congrArg KeyView.delayed hview) nofun ?_
      rintro h
      cases h
      exact hk rfl
  | lapse givenUp =>
    have hview := congrArg (WorkQueue.view · key) (WorkQueue.fire_other givenUp)
    exact .same (congrArg KeyView.failures hview) (congrArg KeyView.delayed hview) nofun nofun

/-! ## After a deletion -/

/-- The acts hold one of the first kind, and none of the second kind comes after it. -/
def Since (first second : Act → Prop) (acts : List Act) : Prop :=
  ∃ before a after, acts = before ++ a :: after ∧ first a ∧ ∀ b ∈ after, ¬ second b

theorem since_snoc {first second : Act → Prop} :
    Since first second (acts ++ [a]) ↔ first a ∨ Since first second acts ∧ ¬ second a := by
  constructor
  · rintro ⟨before, x, after, heq, hx, hnone⟩
    rcases List.eq_nil_or_concat after with rfl | ⟨after, y, rfl⟩
    · obtain ⟨-, ha⟩ := List.append_inj' heq rfl
      cases ha
      exact .inl hx
    · rw [List.concat_eq_append] at heq hnone
      rw [← List.cons_append, ← List.append_assoc] at heq
      obtain ⟨rfl, ha⟩ := List.append_inj' heq rfl
      cases ha
      exact .inr ⟨⟨before, x, after, rfl, hx, fun b hb => hnone b (List.mem_append_left _ hb)⟩,
        hnone a (List.mem_append_right _ List.mem_cons_self)⟩
  · rintro (ha | ⟨⟨before, x, after, rfl, hx, hnone⟩, ha⟩)
    · exact ⟨acts, a, [], rfl, ha, by simp⟩
    · refine ⟨before, x, after ++ [a], by simp, hx, fun b hb => ?_⟩
      rcases List.mem_append.1 hb with hb | hb
      · exact hnone b hb
      · exact List.mem_singleton.1 hb ▸ ha

/-- The last pass over the key to end is to be retried. -/
def Retried (key : String) : List Act → Prop := Since (Act.IsRetry key) (Act.IsEnd key)

/-- The last pass over the key to end is to be retried, and its delayed add has not fired. -/
def Awaited (key : String) : List Act → Prop :=
  Since (Act.IsRetry key) fun a => a.IsEnd key ∨ a = .fire key

theorem Run.works (works : s.drift.stopped = false) (run : Run maxRetries s acts s') :
    s'.drift.stopped = false := by
  induction run with
  | refl => exact works
  | step run next ih => exact next.works ih

/-- Where the drift queue starts with nothing on a key, it has what the ends of passes have left. -/
theorem Run.retries (works : s.drift.stopped = false) (clear : s.view key = (s.view key).forgotten)
    (run : Run maxRetries s acts s') (other : ∀ c, .change c ∈ acts → c.key? ≠ some key) :
    ((s'.view key).failures ≠ 0 ↔ Retried key acts) ∧
      ((s'.view key).delayed = true ↔ Awaited key acts) := by
  -- On the steps since the deletion: each decides what is counted, or leaves it to those before.
  induction run with
  | refl =>
    have hnone : ∀ P Q, ¬ Since P Q [] := by
      rintro P Q ⟨before, a, after, heq, -⟩
      simp at heq
    rw [clear]
    exact ⟨⟨fun h => absurd rfl h, fun h => absurd h (hnone _ _)⟩, nofun,
      fun h => absurd h (hnone _ _)⟩
  | @step acts m s'' run a next ih =>
    obtain ⟨hcount, hdelay⟩ := ih fun c hc => other c (List.mem_append_left _ hc)
    obtain ⟨hcount', hdelay'⟩ : Effect key a (m.view key) (s''.view key) :=
      next.effect (run.works works) fun c hc =>
        other c (hc ▸ List.mem_append_right _ List.mem_cons_self)
    exact ⟨by rw [hcount', hcount]; exact since_snoc.symm, by
      rw [hdelay', hdelay]; exact since_snoc.symm⟩

/-- After the deletion of a resource with an output, and until its next change, the drift queue
counts failures of its key exactly if the last pass over it to end since the deletion is to be
retried, and it has a delayed add of the key exactly if that one has not fired. -/
theorem retries_iff {backoff : Backoff} {r : Resource} {before after : List Act}
    (run : Run maxRetries (.start backoff) (before ++ .change (.deleted r) :: after) s)
    (named : (Change.deleted r).key? = some key) (output : r.hasOutput = true)
    (last : ∀ c, .change c ∈ after → c.key? ≠ some key) :
    (s.drift.requeues key ≠ 0 ↔ Retried key after) ∧
      (s.drift.hasPendingRetry key = true ↔ Awaited key after) := by
  rw [List.append_cons] at run
  obtain ⟨s', hbefore, hafter⟩ := run.split
  have hworks : s'.drift.stopped = false := hbefore.works rfl
  obtain ⟨m, -, hdelete⟩ := hbefore.last
  have hclear : s'.view key = (m.view key).forgotten := by
    cases hdelete
    exact Queues.view_dispatch_deleted named output m.queues
  have hagain : s'.view key = (s'.view key).forgotten := by
    rw [hclear]
    rfl
  exact hafter.retries hworks hagain last

/-! ## A pass that outlives its resource -/

/-- A worker has taken the key of the resource, and its pass is under way. -/
def underWay : State :=
  let s := (State.start .default).setDrift ((State.start .default).drift.add "prod/app").1
  (s.setDrift s.drift.take.1).setPass "prod/app" (some .running)

/-- The resource is deleted meanwhile. -/
def deleted : State := { underWay with queues := (underWay.queues.dispatch (.deleted Watch.app)).1 }

/-- The pass finds its output gone. -/
def missing : Except PassError Unit := .error (.outputMissing ⟨.secret, "prod", "login"⟩)

/-- Its failure is handled. -/
def failed : State :=
  (deleted.setDrift (Retry.handle deleted.drift .zero "prod/app" missing 5).1).setPass "prod/app"
    (some .handled)

/-- The pass is over. -/
def ended : State := (failed.setDrift (failed.drift.done "prod/app").1).setPass "prod/app" none

/-- What happens before and after the deletion. -/
def before : List Act := [.add "prod/app", .take "prod/app"]

def after : List Act := [.handle "prod/app" (.requeued ⟨5000000⟩), .done "prod/app"]

theorem run_ended :
    Run 5 (.start .default) (before ++ .change (.deleted Watch.app) :: after) ended := by
  have hadd : Run 5 (.start .default) [.add "prod/app"] _ := .step .refl (.add _)
  have htake : Run 5 (.start .default) before underWay := .step hadd (.take rfl)
  have hdelete : Run 5 (.start .default) (before ++ [.change (.deleted Watch.app)]) deleted :=
    .step htake (.change _)
  have houtcome : (Retry.handle deleted.drift .zero "prod/app" missing 5).2.1 =
      .requeued ⟨5000000⟩ := by decide +kernel
  have hhandle : Step 5 deleted (.handle "prod/app" _) failed := .handle rfl .zero missing
  rw [houtcome] at hhandle
  have hfail : Run 5 (.start .default) (before ++ [.change (.deleted Watch.app),
      .handle "prod/app" (.requeued ⟨5000000⟩)]) failed := .step hdelete hhandle
  exact .step hfail (.done rfl)

/-- The failure is counted, and a delayed add of the key is on its way. -/
theorem retries_iff_ghost :
    Run 5 (.start .default) (before ++ .change (.deleted Watch.app) :: after) ended ∧
      ended.drift.requeues "prod/app" ≠ 0 ∧ ended.drift.hasPendingRetry "prod/app" = true := by
  have hlast : ∀ c, .change c ∈ after → c.key? ≠ some "prod/app" := by simp [after]
  have hnamed : (Change.deleted Watch.app).key? = some "prod/app" := by decide
  obtain ⟨hcount, hdelay⟩ := retries_iff run_ended hnamed rfl hlast
  have hquiet : ∀ b ∈ [Act.done "prod/app"],
      ¬ (b.IsEnd "prod/app" ∨ b = .fire "prod/app") := by simp [Act.IsEnd]
  have hretry : Act.IsRetry "prod/app" (.handle "prod/app" (.requeued ⟨5000000⟩)) := ⟨_, rfl⟩
  refine ⟨run_ended, hcount.2 ⟨[], _, _, rfl, hretry, fun b hb hends => ?_⟩,
    hdelay.2 ⟨[], _, _, rfl, hretry, hquiet⟩⟩
  exact hquiet b hb (.inl hends)

end Deletion

end VaultProjection

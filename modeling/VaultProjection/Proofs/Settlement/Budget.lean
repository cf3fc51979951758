import VaultProjection.Proofs.Pass.Outputs
import VaultProjection.Proofs.Status.Attempts

/-!
# What a pass spends

Every question of a pass costs one, and a key that it sends to the other queue costs what the work
there may cost. A creation earns the cost of the work that it may lead to, so that a pass can send
the key after each of its creations. `Pays` says of a pass with some credit that it never runs out,
whatever is answered, as long as the cached specs stay as they are.

Results:
1. `pays_structural`, `pays_drift`: credit that a whole pass can do with.
2. `Pays.reach`: what is left of a pass under way has some credit left.
-/

namespace VaultProjection.Settlement

/-! ## What is fixed -/

/-- The specs in the cache, by namespace and name. -/
abbrev Specs := String → String → Option Spec

/-- The cache shows a resource with its spec, or does not show it; anything may answer the rest. -/
def Fits (specs : Specs) : (r : Request) → r.Answer → Prop
  | .lookup ns name, found => ∀ r, found = some r → specs ns name = some r.spec
  | _, _ => True

/-- The kind, namespace and name of an object. -/
abbrev Address := OutputKind × String × String

/-- The objects that were created by a question with its answer. -/
def creates : (r : Request) → r.Answer → List Address
  | .create k ns object, .ok _ => [(k, ns, (OutputKind.metadata object).name.getD "")]
  | _, _ => []

/-- The objects that the resource of a key asks for. -/
def outputs (specs : Specs) (key : String) : List Address :=
  match Key.split? key with
  | none => []
  | some (ns, name) =>
    match specs ns name with
    | none => []
    | some spec =>
      (Resource.declared ⟨.empty, spec, none⟩).map fun d => (d.1, ns, d.2)

variable {specs : Specs} {key ns name : String} {r : Resource}

theorem mem_outputs (hkey : Key.split? key = some (ns, name))
    (hspec : specs ns name = some r.spec) {d : OutputKind × String} (hd : d ∈ r.declared) :
    (d.1, ns, d.2) ∈ outputs specs key := by
  have hsame : Resource.declared ⟨.empty, r.spec, none⟩ = r.declared :=
    Resource.declared_congr rfl
  unfold outputs
  rw [hkey]
  dsimp only
  rw [hspec]
  dsimp only
  rw [hsame]
  exact List.mem_map_of_mem hd

theorem declared_length (r : Resource) : r.declared.length ≤ 2 := by
  unfold Resource.declared
  cases r.secretOutput? <;> cases r.configMapOutput? <;> simp

/-! ## Credit -/

/-- The pass over a key, and what it costs to send a key to a queue. -/
structure Terms where
  specs : Specs
  queue : QueueId
  key : String
  cost : QueueId → Nat

namespace Terms

/-- A pass sends no other key than its own, and only to the other queue, and it creates only what
its resource asks for. -/
def Allows (c : Terms) : Request → Prop
  | .enqueue queue key => queue ≠ c.queue ∧ key = c.key
  | .create k ns object =>
    (k, ns, (OutputKind.metadata object).name.getD "") ∈ outputs c.specs c.key
  | .lookup .. | .get .. | .update .. | .getDeclaring .. | .updateStatus _ | .readVault ..
  | .record _ | .now | .tell _ => True

def price (c : Terms) : Request → Nat
  | .enqueue queue _ => c.cost queue
  | .lookup .. | .get .. | .create .. | .update .. | .getDeclaring .. | .updateStatus _
  | .readVault .. | .record _ | .now | .tell _ => 0

def income (c : Terms) (r : Request) (answer : r.Answer) : Nat :=
  c.cost .drift * (creates r answer).length

end Terms

/-- A question with no consequences for the queues. -/
def isFree : Request → Bool
  | .create .. | .enqueue .. => false
  | .lookup .. | .get .. | .update .. | .getDeclaring .. | .updateStatus _ | .readVault ..
  | .record _ | .now | .tell _ => true

end Settlement

namespace Program

open Settlement

variable {α β : Type} {c : Terms} {post : α → Nat → Prop} {m n : Nat}

/-- With so much credit the program never runs out, and its result fits what is left. -/
def Pays (c : Terms) (post : α → Nat → Prop) : Program α → Nat → Prop
  | .done a, n => post a n
  | .ask r next, n => c.Allows r ∧ ∀ answer, Fits c.specs r answer →
    ∃ left, left + c.price r + 1 ≤ n + c.income r answer ∧ (next answer).Pays c post left

theorem Pays.mono {post' : α → Nat → Prop} {p : Program α} (hpost : ∀ a n, post a n → post' a n)
    (hp : p.Pays c post n) : p.Pays c post' n := by
  induction p generalizing n with
  | done a => exact hpost a n hp
  | ask r next ih =>
    refine ⟨hp.1, fun answer hfits => ?_⟩
    obtain ⟨left, hle, hnext⟩ := hp.2 answer hfits
    exact ⟨left, hle, ih answer hnext⟩

theorem Pays.bind {p : Program α} {f : α → Program β} {post : β → Nat → Prop}
    (hp : p.Pays c (fun a n => (f a).Pays c post n) n) : (p >>= f).Pays c post n := by
  induction p generalizing n with
  | done a => exact hp
  | ask r next ih =>
    refine ⟨hp.1, fun answer hfits => ?_⟩
    obtain ⟨left, hle, hnext⟩ := hp.2 answer hfits
    exact ⟨left, hle, ih answer hnext⟩

/-- A program with no more than so many questions, all of them free, needs no more than that. -/
theorem Guarded.pays {ok : Transcript → Request → Prop} {post' : α → Transcript → Prop}
    {p : Program α} {t : Transcript} (most : Nat)
    (hok : ∀ t r, ok t r → isFree r = true ∧ t.length < most) (hp : p.Guarded ok post' t)
    (hn : m + (most - t.length) ≤ n) : p.Pays c (fun _ left => m ≤ left) n := by
  induction p generalizing t n with
  | done a => exact Nat.le_trans (Nat.le_add_right _ _) hn
  | ask r next ih =>
    obtain ⟨hfree, hless⟩ := hok t r hp.1
    have hprice : c.Allows r ∧ c.price r = 0 := by
      cases r with
      | create | enqueue => cases hfree
      | lookup | get | update | getDeclaring | updateStatus | readVault | record | now | tell =>
        exact ⟨trivial, rfl⟩
    refine ⟨hprice.1, fun answer _ => ⟨n - 1, ?_, ih answer (hp.2 answer) ?_⟩⟩
    · rw [hprice.2]
      omega
    · rw [List.length_append, List.length_singleton]
      omega

/-- What is left of a program under way has some credit left. -/
theorem Pays.reach {p p' : Program α} {t : Transcript} (hp : p.Pays c post n)
    (hr : Reach p t p') (hfits : ∀ e ∈ t, Fits c.specs e.request e.answer) :
    ∃ left, p'.Pays c post left := by
  induction hr with
  | refl => exact ⟨n, hp⟩
  | step before answer ih =>
    obtain ⟨left, -, hnext⟩ := ih fun e he => hfits e (List.mem_append_left _ he)
    obtain ⟨left', -, hnext'⟩ := hnext answer
      (hfits _ (List.mem_append_right _ (List.mem_singleton.2 rfl)))
    exact ⟨left', hnext'⟩

end Program

namespace Pass

open Settlement

variable {α β : Type} {c : Terms} {m n l : Nat} {r : Resource} {owner : Kube.OwnerReference}
  {ns name : String} {k : OutputKind}

/-- Unless it fails, a pass with so much credit never runs out and leaves so much. -/
def Pays (c : Terms) (m : Nat) (p : Pass α) (n : Nat) : Prop :=
  p.run.Pays c (fun res left => ∀ a, res = .ok a → m ≤ left) n

/-! ## Rules -/

theorem pays_pure {a : α} (hn : m ≤ n) : (pure a : Pass α).Pays c m n := fun _ _ => hn

theorem pays_throw {e : PassError} : (throw e : Pass α).Pays c m n := nofun

theorem Pays.bind {p : Pass α} {f : α → Pass β} (hp : p.Pays c l n)
    (hf : ∀ a left, l ≤ left → (f a).Pays c m left) : (p >>= f).Pays c m n := by
  refine Program.Pays.bind (Program.Pays.mono ?_ hp)
  rintro (e | a) left hres
  · exact nofun
  · exact hf a left (hres a rfl)

theorem pays_free_bind {r : Request} {f : r.Answer → Pass α} (hr : isFree r = true)
    (hn : l + 1 ≤ n) (hf : ∀ answer, Fits c.specs r answer → (f answer).Pays c m l) :
    (ask r >>= f).Pays c m n := by
  cases r with
  | create | enqueue => cases hr
  | lookup | get | update | getDeclaring | updateStatus | readVault | record | now | tell =>
    exact ⟨trivial, fun answer hfits => ⟨l, Nat.le_trans hn (Nat.le_add_right _ _),
      hf answer hfits⟩⟩

/-- The last question of a pass. -/
theorem pays_free {r : Request} (hr : isFree r = true) (hn : m + 1 ≤ n) : (ask r).Pays c m n := by
  cases r with
  | create | enqueue => cases hr
  | lookup | get | update | getDeclaring | updateStatus | readVault | record | now | tell =>
    exact ⟨trivial, fun answer _ => ⟨m, Nat.le_trans hn (Nat.le_add_right _ _),
      fun _ _ => Nat.le_refl m⟩⟩

theorem pays_tell_bind {s : Signal} {f : Unit → Pass α} (hn : l + 1 ≤ n)
    (hf : (f ()).Pays c m l) : (tell s >>= f).Pays c m n :=
  pays_free_bind rfl hn fun _ _ => hf

theorem pays_enqueue_bind {queue : QueueId} {f : Unit → Pass α} (hq : queue ≠ c.queue)
    (hn : l + c.cost queue + 1 ≤ n) (hf : (f ()).Pays c m l) :
    (ask (.enqueue queue c.key) >>= f).Pays c m n :=
  ⟨⟨hq, rfl⟩, fun () _ => ⟨l, Nat.le_trans hn (Nat.le_add_right _ _), hf⟩⟩

theorem pays_create_bind {object : k.Object}
    {f : (Request.create k ns object).Answer → Pass α}
    (ha : (k, ns, (OutputKind.metadata object).name.getD "") ∈ outputs c.specs c.key)
    (hn : l + 1 ≤ n) (hok : ∀ stored, (f (.ok stored)).Pays c m (l + c.cost .drift))
    (herror : ∀ e, (f (.error e)).Pays c m l) : (ask (.create k ns object) >>= f).Pays c m n := by
  refine ⟨ha, fun answer _ => ?_⟩
  cases answer with
  | ok stored =>
    refine ⟨l + c.cost .drift, ?_, hok stored⟩
    simp only [Terms.price, Terms.income, creates, List.length_singleton]
    omega
  | error e => exact ⟨l, Nat.le_trans hn (Nat.le_add_right _ _), herror e⟩

theorem pays_splitKey_bind {key : String} {f : String × String → Pass α}
    (hf : ∀ parts, Key.split? key = some parts → (f parts).Pays c m n) :
    (splitKey key >>= f).Pays c m n := by
  unfold splitKey
  split
  · next parts hkey => exact hf parts hkey
  · exact pays_throw

theorem pays_ownerOf_bind {f : Kube.OwnerReference → Pass α}
    (hf : ∀ owner, (f owner).Pays c m n) : (ownerOf r >>= f).Pays c m n := by
  unfold ownerOf
  split
  · exact hf _
  · exact pays_throw

theorem pays_forM {γ : Type} {f : γ → Pass Unit} {xs : List γ} (each : Nat)
    (hf : ∀ x ∈ xs, ∀ left, m + each ≤ left → (f x).Pays c (left - each) left)
    (hn : m + each * xs.length ≤ n) : (xs.forM f).Pays c m n := by
  induction xs generalizing n with
  | nil => exact pays_pure hn
  | cons x xs ih =>
    rw [List.length_cons, Nat.mul_succ] at hn
    refine Pays.bind (hf x List.mem_cons_self n (by omega)) fun _ left hleft => ?_
    exact ih (fun x' hx' => hf x' (List.mem_cons_of_mem _ hx')) (by omega)

/-! ## Steps of the passes -/

theorem pays_persistStatus {u : StatusUpdate} (hn : m + 25 ≤ n) :
    (persistStatus ns name u).Pays c m n := by
  have hpersist : (persist ns name u).Pays c (fun _ left => m ≤ left) n := by
    refine Program.Guarded.pays 25 (fun t request hasks => ?_)
      (guarded_persist ns name u) hn
    refine ⟨?_, hasks.1⟩
    cases request with
    | getDeclaring | updateStatus | now | tell => rfl
    | lookup | get | create | update | readVault | record | enqueue => exact hasks.2.2.elim
  have hlift : Pass.Pays c m (ExceptT.lift (persist ns name u)) n :=
    Program.Pays.bind (Program.Pays.mono (fun _ _ hleft _ _ => hleft) hpersist)
  refine Pays.bind hlift fun result left hleft => ?_
  cases result with
  | ok outcome => exact pays_pure hleft
  | error e => exact pays_throw

theorem pays_ensureOwned {object : Kube.ObjectMeta} {action : String} (hn : m + 3 ≤ n) :
    (ensureOwned r owner k object action).Pays c m n := by
  unfold ensureOwned
  split
  · exact pays_pure (by omega)
  · refine pays_tell_bind (l := m + 2) (by omega) (pays_tell_bind (l := m + 1) (by omega) ?_)
    exact pays_free_bind rfl (Nat.le_refl _) fun _ _ => pays_throw

/-- A creation earns what sending the key costs. -/
theorem pays_ensure (hqueue : c.queue = .structural) {output : String}
    (ha : (k, ns, output) ∈ outputs c.specs c.key) (hn : m + 33 ≤ n) :
    (Structural.ensure r c.key ns owner k output).Pays c m n := by
  unfold Structural.ensure
  refine pays_free_bind rfl (l := m + 32) (by omega) fun answer _ => ?_
  cases answer with
  | ok object => exact pays_ensureOwned (by omega)
  | error e =>
    dsimp only
    split
    · exact pays_throw
    · have hname : (OutputKind.metadata (Structural.fresh r
          (Structural.outputMeta ns output owner) k)).name.getD "" = output := by
        cases k <;> rfl
      refine pays_create_bind (hname.symm ▸ ha) (l := m + 31) (by omega) (fun stored => ?_)
        fun e => pays_throw
      refine Pays.bind (pays_pure (Nat.le_refl _)) fun created left hleft => ?_
      refine pays_tell_bind (l := left - 1) (by omega)
        (pays_tell_bind (l := left - 2) (by omega) ?_)
      refine pays_splitKey_bind fun parts _ => ?_
      refine Pays.bind (pays_persistStatus (m := left - 27) (by omega)) fun _ left hleft => ?_
      refine pays_enqueue_bind (l := m + 3) (by simp [hqueue]) (by omega) ?_
      exact pays_ensureOwned (Nat.le_refl _)

theorem pays_failProjection {e : ProjectionError} (hn : 1 ≤ n) :
    (Drift.failProjection r e : Pass α).Pays c m n :=
  pays_free_bind rfl (l := 0) hn fun _ _ => pays_throw

theorem pays_follow {recipe : Recipe α} (hn : m + 2 ≤ n) :
    (Drift.follow r recipe).Pays c m n := by
  cases recipe with
  | given result =>
    cases result with
    | ok a => exact pays_pure (by omega)
    | error e => exact pays_failProjection (by omega)
  | read kind finish =>
    refine pays_free_bind rfl (l := m + 1) (by omega) fun answer _ => ?_
    cases answer with
    | error e => exact pays_failProjection (by omega)
    | ok raw =>
      dsimp only
      split
      · exact pays_pure (by omega)
      · exact pays_failProjection (by omega)

/-- Sending the key ends the pass, so that no output comes after it. -/
theorem pays_sync (hqueue : c.queue = .drift) {h : Handler} {output : String}
    (hn : m + 35 ≤ n) (hm : c.cost .structural ≤ m) :
    (Drift.sync r c.key ns name owner h k output).Pays c m n := by
  unfold Drift.sync
  refine Pays.bind (pays_follow (m := n - 2) (by omega)) fun wanted left hleft => ?_
  refine pays_free_bind rfl (l := m + 32) (by omega) fun answer _ => ?_
  cases answer with
  | error e =>
    dsimp only
    split
    · exact pays_throw
    · exact pays_enqueue_bind (l := 0) (by simp [hqueue]) (by omega) pays_throw
  | ok object =>
    refine Pays.bind (pays_ensureOwned (m := m + 29) (by omega)) fun _ left hleft => ?_
    dsimp only
    split
    · exact pays_tell_bind (l := m) (by omega) (pays_pure (Nat.le_refl m))
    · have hnote : ∀ {digest : Digest k} {current : Bool} {s : Signal} {event : Event} {n : Nat},
          m + 26 ≤ n → Pays c m (do
            let _ ← persistStatus ns name (.record k output digest)
            if current then tell s else ask (.record event) : Pass Unit) n := by
        intro digest current s event n hn
        refine Pays.bind (pays_persistStatus (m := m + 1) (by omega)) fun _ left hleft => ?_
        cases current with
        | true => exact pays_free rfl (by omega)
        | false => exact pays_free rfl (by omega)
      split
      · refine pays_free_bind rfl (l := m + 28) (by omega) fun updated _ => ?_
        cases updated with
        | error e => exact pays_throw
        | ok stored =>
          refine Pays.bind (pays_pure (Nat.le_refl _)) fun _ left hleft => ?_
          refine pays_tell_bind (l := m + 27) (by omega)
            (pays_tell_bind (l := m + 26) (by omega) ?_)
          exact hnote (Nat.le_refl _)
      · exact hnote (by omega)

/-! ## Whole passes -/

/-- A structural pass earns with each creation what it spends on the other queue. -/
theorem pays_structural (hqueue : c.queue = .structural) : (structural c.key).Pays c 0 68 := by
  rw [structural_eq]
  refine pays_splitKey_bind fun parts hkey => ?_
  refine pays_free_bind rfl (l := 67) (by omega) fun found hfits => ?_
  cases found with
  | none => exact pays_free rfl (by omega)
  | some r =>
    dsimp only
    split
    · exact pays_free rfl (by omega)
    · unfold Structural.over
      refine pays_ownerOf_bind fun owner => ?_
      refine Pays.bind (m := 0) (l := 1) (pays_forM 33 (fun d hd left hleft => ?_) ?_)
        fun _ left hleft => pays_free rfl (by omega)
      · exact pays_ensure hqueue (mem_outputs hkey (hfits r rfl) hd) (by omega)
      · have hlength := declared_length r
        omega

/-- A drift pass sends its key once at most, and fails when it does. -/
theorem pays_drift (hqueue : c.queue = .drift) :
    (drift c.key).Pays c (c.cost .structural) (c.cost .structural + 71) := by
  rw [drift_eq]
  refine pays_splitKey_bind fun parts _ => ?_
  refine pays_free_bind rfl (l := c.cost .structural + 70) (by omega) fun found _ => ?_
  cases found with
  | none => exact pays_free rfl (by omega)
  | some r =>
    dsimp only
    split
    · unfold Drift.over
      split
      · exact pays_failProjection (by omega)
      · refine pays_ownerOf_bind fun owner => ?_
        refine pays_forM 35
          (fun d _ left hleft => pays_sync hqueue (by omega) (by omega)) ?_
        have hlength := declared_length r
        omega
    · exact pays_pure (by omega)

end Pass

end VaultProjection

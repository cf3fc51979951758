import VaultProjection.Proofs.Pass.Run
import VaultProjection.Proofs.Queue.Sound
import VaultProjection.Proofs.Watch.Shelf
import VaultProjection.Queue.Pair

/-!
# A calm world

The surroundings in which the controller is left alone: the watch cache and the vault stay as they
are, nobody else writes to the cluster, and no call fails but by saying that an object is not there.
What the API server is like beyond that is left open: it may number, stamp and complete what is
written to it, as long as it keeps names, owners and content (`Keeps`). The cache may show any
status of a resource, and another one at every look.

Results:
1. `persistStatus_calm`: writing a status succeeds and touches no output.
2. `ensureOwned_calm`: an object of the resource passes the check of its owner.
-/

namespace VaultProjection.Convergence

/-! ## The world -/

/-- What answers a pass, apart from the queues, and the outputs that are stored in it. -/
structure World (σ : Type) where
  reply : (r : Request) → σ → r.Answer
  after : Request → σ → σ
  object : σ → (k : OutputKind) → (ns name : String) → Option k.Object

/-- What an API server keeps of an object that it is given. -/
structure Keeps {k : OutputKind} (given stored : k.Object) : Prop where
  name : (OutputKind.metadata stored).name = (OutputKind.metadata given).name
  owners : (OutputKind.metadata stored).ownerReferences =
    (OutputKind.metadata given).ownerReferences
  content : OutputKind.content stored = OutputKind.content given

/-- A request that may change an output. -/
abbrev writes : Request → Bool
  | .create .. | .update .. => true
  | .lookup .. | .get .. | .getDeclaring .. | .updateStatus _ | .readVault .. | .record _
  | .enqueue .. | .now | .tell _ => false

namespace World

variable {σ : Type}

/-- The output at one address is now `o`, and every other one is what it was. -/
structure Puts (w : World σ) (s s' : σ) (k : OutputKind) (ns name : String) (o : k.Object) :
    Prop where
  here : w.object s' k ns name = some o
  elsewhere : ∀ k' ns' name', (k', ns', name') ≠ (k, ns, name) →
    w.object s' k' ns' name' = w.object s k' ns' name'

/-- Nobody else writes, nothing fails, and cache and vault stay as they are. -/
structure Calm (w : World σ) (cache : Watch.Cache)
    (vault : VaultRef → Vault.ObjectKind → Except Vault.ReadError Vault.RawObject) : Prop where
  /-- The cache shows its resources, with any status. -/
  lookup : ∀ ns name s, ∃ status, w.reply (.lookup ns name) s =
    (cache.lookup ns name).map fun r => { r with status }
  readVault : ∀ v k s, w.reply (.readVault v k) s = vault v k
  get_present : ∀ k ns name s o, w.object s k ns name = some o →
    w.reply (.get k ns name) s = .ok o
  get_absent : ∀ k ns name s, w.object s k ns name = none →
    ∃ e, w.reply (.get k ns name) s = .error e ∧ e.isNotFound = true
  create : ∀ k ns name s (o : k.Object), (OutputKind.metadata o).name = some name →
    w.object s k ns name = none →
    ∃ stored, Keeps o stored ∧ w.reply (.create k ns o) s = .ok stored ∧
      w.Puts s (w.after (.create k ns o) s) k ns name stored
  update : ∀ k ns name s (o : k.Object), (OutputKind.metadata o).name = some name →
    w.object s k ns name ≠ none →
    ∃ stored, Keeps o stored ∧ w.reply (.update k ns o) s = .ok stored ∧
      w.Puts s (w.after (.update k ns o) s) k ns name stored
  getDeclaring : ∀ ns name s e, w.reply (.getDeclaring ns name) s = .error e →
    e.isNotFound = true
  updateStatus : ∀ r s e, w.reply (.updateStatus r) s = .error e → e.isNotFound = true
  frame : ∀ r s, writes r = false → w.object (w.after r s) = w.object s

/-- The surroundings of a pass: the queues of the controller, and the world for all else. -/
def serve (w : World σ) (r : Request) (x : Queues × σ) : r.Answer × (Queues × σ) :=
  match r with
  | .enqueue id key => ((), (x.1.add id key).1, x.2)
  | r => (w.reply r x.2, x.1, w.after r x.2)

end World

/-! ## What every pass relies on -/

section

variable {σ : Type} {w : World σ} {cache : Watch.Cache}
  {vault : VaultRef → Vault.ObjectKind → Except Vault.ReadError Vault.RawObject}

/-- An attempt to write a status ends well and touches no output. -/
theorem attempt_calm (hw : w.Calm cache vault) (ns name : String) (u : StatusUpdate)
    (qs : Queues) (s : σ) :
    ∃ outcome s', (Pass.attempt ns name u).run w.serve (qs, s) =
      (.finished (.ok outcome), (qs, s')) ∧ w.object s' = w.object s := by
  unfold Pass.attempt
  rw [Program.run_question_bind]
  split
  · next e he =>
    exact ⟨.gone, _, by simp [hw.getDeclaring ns name s e he]; rfl, hw.frame _ _ rfl⟩
  · rw [Program.run_question_bind]
    dsimp only
    split
    · exact ⟨.unchanged, _, rfl, by simp [World.serve, hw.frame]⟩
    · rw [Program.run_question_bind]
      split
      · exact ⟨.written, _, rfl, by simp [World.serve, hw.frame]⟩
      · next e he =>
        exact ⟨.gone, _, by simp [hw.updateStatus _ _ e he]; rfl, by simp [World.serve, hw.frame]⟩

theorem persistStatus_calm (hw : w.Calm cache vault) (ns name : String) (u : StatusUpdate)
    (qs : Queues) (s : σ) :
    ∃ outcome s', Pass.exec w.serve (Pass.persistStatus ns name u) (qs, s) =
      (.ok outcome, (qs, s')) ∧ w.object s' = w.object s := by
  obtain ⟨outcome, s', hrun, hs'⟩ := attempt_calm hw ns name u qs s
  have hpersist : (Pass.persist ns name u).run w.serve (qs, s) = (.ok outcome, (qs, s')) := by
    unfold Pass.persist Pass.persistFrom Pass.statusAttempts
    exact Program.run_bind_of_run hrun _
  refine ⟨outcome, s', ?_, hs'⟩
  unfold Pass.persistStatus
  rw [Pass.exec_bind, Pass.exec_lift, hpersist]
  rfl

/-- The check of the owner lets an object of the resource pass. -/
theorem ensureOwned_calm {r : Resource} {owner : Kube.OwnerReference} {k : OutputKind}
    {m : Kube.ObjectMeta} (h : m.isControlledBy owner = true) (action : String) (x : Queues × σ) :
    Pass.exec w.serve (Pass.ensureOwned r owner k m action) x = (.ok (), x) := by
  unfold Pass.ensureOwned
  simp [h]

end

/-! ## A world in memory -/

/-- The stored outputs by address. -/
abbrev Objects := (k : OutputKind) → (ns name : String) → Option k.Object

def Objects.put (s : Objects) (k : OutputKind) (ns name : String) (o : k.Object) : Objects :=
  fun k' ns' name' =>
    if h : k = k' ∧ ns' = ns ∧ name' = name then some (h.1 ▸ o) else s k' ns' name'

namespace World

/-- Objects are stored as they are given, and the resources never change. -/
def memory (cache : Watch.Cache)
    (vault : VaultRef → Vault.ObjectKind → Except Vault.ReadError Vault.RawObject) :
    World Objects where
  reply r s := match r with
    | .lookup ns name => cache.lookup ns name
    | .get k ns name =>
      match s k ns name with
      | some o => .ok o
      | none => .error (.notFound ⟨k.kind, ns, name⟩)
    | .create _ _ o | .update _ _ o => .ok o
    | .getDeclaring ns name =>
      match cache.lookup ns name with
      | some r => .ok r
      | none => .error (.notFound ⟨.declaring, ns, name⟩)
    | .updateStatus r => .ok r
    | .readVault v k => vault v k
    | .now => "2024-01-01T00:00:00Z"
    | .record _ | .enqueue .. | .tell _ => ()
  after r s := match r with
    | .create k ns o | .update k ns o => s.put k ns ((OutputKind.metadata o).name.getD "") o
    | _ => s
  object s := s

theorem memory_puts (cache : Watch.Cache)
    (vault : VaultRef → Vault.ObjectKind → Except Vault.ReadError Vault.RawObject) (s : Objects)
    (k : OutputKind) (ns name : String) (o : k.Object) :
    (memory cache vault).Puts s (s.put k ns name o) k ns name o := by
  constructor
  · simp [memory, Objects.put]
  · intro k' ns' name' hne
    have hne' : ¬ (k = k' ∧ ns' = ns ∧ name' = name) := by
      rintro ⟨rfl, rfl, rfl⟩
      exact hne rfl
    simp only [memory, Objects.put, hne', dite_false]

theorem memory_calm (cache : Watch.Cache)
    (vault : VaultRef → Vault.ObjectKind → Except Vault.ReadError Vault.RawObject) :
    (memory cache vault).Calm cache vault where
  lookup ns name s := by
    cases h : cache.lookup ns name with
    | none => exact ⟨none, h⟩
    | some r => exact ⟨r.status, h⟩
  readVault v k s := rfl
  get_present k ns name s o h := by
    have h' : s k ns name = some o := h
    simp only [memory, h']
    rfl
  get_absent k ns name s h := by
    have h' : s k ns name = none := h
    exact ⟨_, by simp only [memory, h']; rfl, rfl⟩
  create k ns name s o hname _ := by
    refine ⟨o, ⟨rfl, rfl, rfl⟩, rfl, ?_⟩
    have hput := memory_puts cache vault s k ns name o
    simpa [memory, hname] using hput
  update k ns name s o hname _ := by
    refine ⟨o, ⟨rfl, rfl, rfl⟩, rfl, ?_⟩
    have hput := memory_puts cache vault s k ns name o
    simpa [memory, hname] using hput
  getDeclaring ns name s e h := by
    cases hl : cache.lookup ns name with
    | none =>
      simp only [memory, hl] at h
      cases h
      rfl
    | some r => simp [memory, hl] at h
  updateStatus r s e h := by simp [memory] at h
  frame r s h := by
    cases r <;> first | rfl | cases h

end World

end VaultProjection.Convergence

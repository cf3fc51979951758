import VaultProjection.Proofs.Convergence.Passes
import VaultProjection.Proofs.Pass.Served

/-!
# A backend without other writers

The surroundings of a pass while nobody else writes. The watch cache shows some copy of the
resource, however old. Three laws say how much may go wrong:
- `Lawful`: reads are answered truthfully. A write may be refused for any reason, and unless the
  answer says that the object is gone or that another writer was faster, nothing is known of what
  became of it; a drift pass that meets such an answer does not end well.
- `Truthful`: reads may fail as well, and only what is answered is true.
- `Orderly`: besides, a write reaches nothing but what it is about, whatever is answered.

Results:
1. `Lawful.truthful`, `Truthful.serve_same`: a request that writes nothing leaves outputs and
   resources as they are.
2. `Memory.lawful`, `Memory.orderly`: a store in memory is such a backend.
-/

namespace VaultProjection

namespace Resource

/-- What a pass over the resource goes by, apart from the status: its spec, and its name and uid as
the owner of outputs. -/
def declaration (r : Resource) : Spec × Option String × Option String :=
  (r.spec, r.metadata.name, r.metadata.uid)

theorem spec_congr {r r' : Resource} (h : r'.declaration = r.declaration) : r'.spec = r.spec :=
  congrArg Prod.fst h

theorem ownerReference?_congr {r r' : Resource} (h : r'.declaration = r.declaration) :
    r'.ownerReference? = r.ownerReference? := by
  obtain ⟨-, hname, huid⟩ : r'.spec = r.spec ∧ r'.metadata.name = r.metadata.name ∧
      r'.metadata.uid = r.metadata.uid := by simpa [declaration] using h
  simp [ownerReference?, hname, huid]

/-- What the status notes of a kind of output: its name and its content. -/
def noted (r : Resource) (k : OutputKind) : Option String × Option String :=
  ((r.status.getD .empty).outputName k, (r.status.getD .empty).outputHash k)

end Resource

/-- A request that may change the cluster. -/
def Request.isWrite : Request → Bool
  | .create .. | .update .. | .updateStatus _ => true
  | .lookup .. | .get .. | .getDeclaring .. | .readVault .. | .record _ | .enqueue .. | .now
  | .tell _ => false

namespace Idempotence

open Convergence (World Keeps Vaults)

/-! ## Backends -/

/-- What answers a pass, with the outputs and the resources that are stored in it. -/
structure Backend (σ : Type) extends World σ where
  resource : σ → (ns name : String) → Option Resource

namespace Backend

variable {σ γ : Type}

/-- Outputs and resources are what they were. -/
structure Same (w : Backend σ) (s s' : σ) : Prop where
  object : w.object s' = w.object s
  resource : w.resource s' = w.resource s

/-- The resource, if it is still there, is what it was as far as `part` shows. -/
def Unchanged (w : Backend σ) (ns name : String) (part : Resource → γ) (s s' : σ) : Prop :=
  ∀ f', w.resource s' ns name = some f' → ∃ f, w.resource s ns name = some f ∧ part f' = part f

/-- How the backend behaves while nobody else writes and the vault stays as it is. -/
structure Lawful (w : Backend σ) (vault : Vaults) : Prop where
  readVault : ∀ v k s, w.reply (.readVault v k) s = vault v k
  get_present : ∀ k ns name s o, w.object s k ns name = some o →
    (OutputKind.metadata o).name = some name ∧ w.reply (.get k ns name) s = .ok o
  get_absent : ∀ k ns name s, w.object s k ns name = none →
    ∃ e, w.reply (.get k ns name) s = .error e ∧ e.isNotFound = true
  getDeclaring_present : ∀ ns name s r, w.resource s ns name = some r →
    r.metadata.ns = some ns ∧ r.metadata.name = some name ∧
      w.reply (.getDeclaring ns name) s = .ok r
  getDeclaring_absent : ∀ ns name s, w.resource s ns name = none →
    ∃ e, w.reply (.getDeclaring ns name) s = .error e ∧ e.isNotFound = true
  /-- An update that is accepted is stored, and changes nothing else. -/
  update : ∀ k ns name s (o : k.Object), (OutputKind.metadata o).name = some name →
    ∀ answer, w.reply (.update k ns o) s = .ok answer →
      ∃ stored, Keeps o stored ∧ w.Puts s (w.after (.update k ns o) s) k ns name stored ∧
        w.resource (w.after (.update k ns o) s) = w.resource s
  /-- A status that is accepted is stored, and changes nothing else. -/
  updateStatus_ok : ∀ ns name s r, r.metadata.ns = some ns → r.metadata.name = some name →
    ∀ answer, w.reply (.updateStatus r) s = .ok answer →
      w.object (w.after (.updateStatus r) s) = w.object s ∧
        ∃ before stored, w.resource s ns name = some before ∧
          w.resource (w.after (.updateStatus r) s) ns name = some stored ∧
          stored.declaration = before.declaration ∧ stored.status = r.status
  updateStatus_gone : ∀ ns name s r, r.metadata.ns = some ns → r.metadata.name = some name →
    ∀ e, w.reply (.updateStatus r) s = .error e → e.isNotFound = true →
      w.resource s ns name = none
  updateStatus_conflict : ∀ s r e, w.reply (.updateStatus r) s = .error e → e.isConflict = true →
    w.Same s (w.after (.updateStatus r) s)
  frame : ∀ r s, r.isWrite = false → w.Same s (w.after r s)

/-- What a pass may rely on where any call may fail: an answer that something was seen or done, or
that it is gone, is true. -/
structure Truthful (w : Backend σ) (vault : Vaults) : Prop where
  readVault : ∀ v k s, w.reply (.readVault v k) s = vault v k
  get : ∀ k ns name s o, w.reply (.get k ns name) s = .ok o →
    (OutputKind.metadata o).name = some name ∧ w.object s k ns name = some o
  getDeclaring_ok : ∀ ns name s r, w.reply (.getDeclaring ns name) s = .ok r →
    r.metadata.ns = some ns ∧ r.metadata.name = some name ∧ w.resource s ns name = some r
  getDeclaring_gone : ∀ ns name s e, w.reply (.getDeclaring ns name) s = .error e →
    e.isNotFound = true → w.resource s ns name = none
  update : ∀ k ns name s (o : k.Object), (OutputKind.metadata o).name = some name →
    ∀ answer, w.reply (.update k ns o) s = .ok answer →
      ∃ stored, Keeps o stored ∧ w.Puts s (w.after (.update k ns o) s) k ns name stored ∧
        w.resource (w.after (.update k ns o) s) = w.resource s
  updateStatus_ok : ∀ ns name s r, r.metadata.ns = some ns → r.metadata.name = some name →
    ∀ answer, w.reply (.updateStatus r) s = .ok answer →
      w.object (w.after (.updateStatus r) s) = w.object s ∧
        ∃ before stored, w.resource s ns name = some before ∧
          w.resource (w.after (.updateStatus r) s) ns name = some stored ∧
          stored.declaration = before.declaration ∧ stored.status = r.status
  updateStatus_gone : ∀ ns name s r, r.metadata.ns = some ns → r.metadata.name = some name →
    ∀ e, w.reply (.updateStatus r) s = .error e → e.isNotFound = true →
      w.resource s ns name = none
  updateStatus_conflict : ∀ s r e, w.reply (.updateStatus r) s = .error e → e.isConflict = true →
    w.Same s (w.after (.updateStatus r) s)
  frame : ∀ r s, r.isWrite = false → w.Same s (w.after r s)

/-- What a pass may rely on besides: a write changes nothing but the outputs of its kind, or the
status of its resource, whatever is answered. An output whose creation is accepted is there. -/
structure Orderly (w : Backend σ) (vault : Vaults) : Prop extends w.Truthful vault where
  create : ∀ k ns name s (o : k.Object), (OutputKind.metadata o).name = some name →
    ∀ answer, w.reply (.create k ns o) s = .ok answer →
      (w.object (w.after (.create k ns o) s) k ns name).isSome = true
  create_apart : ∀ k ns s (o : k.Object),
    w.resource (w.after (.create k ns o) s) = w.resource s ∧
      ∀ k', k' ≠ k → w.object (w.after (.create k ns o) s) k' = w.object s k'
  update_apart : ∀ k ns s (o : k.Object),
    w.resource (w.after (.update k ns o) s) = w.resource s ∧
      ∀ k', k' ≠ k → w.object (w.after (.update k ns o) s) k' = w.object s k'
  /-- The status that is stored is the one before or the one that was sent. -/
  updateStatus_apart : ∀ ns name s r, r.metadata.ns = some ns → r.metadata.name = some name →
    w.object (w.after (.updateStatus r) s) = w.object s ∧
      ((w.resource (w.after (.updateStatus r) s) ns name).map (·.status) =
          (w.resource s ns name).map (·.status) ∨
        (w.resource (w.after (.updateStatus r) s) ns name).map (·.status) =
          (w.resource s ns name).map fun _ => r.status)

/-- A read fails only where there is nothing to read. -/
theorem Lawful.object_of_error {w : Backend σ} {vault : Vaults} (hw : w.Lawful vault)
    {k : OutputKind} {ns name : String} {s : σ} {e : Cluster.ClusterError}
    (hreply : w.reply (.get k ns name) s = .error e) : w.object s k ns name = none := by
  cases ho : w.object s k ns name with
  | none => rfl
  | some o =>
    rw [(hw.get_present k ns name s o ho).2] at hreply
    cases hreply

theorem Lawful.resource_of_error {w : Backend σ} {vault : Vaults} (hw : w.Lawful vault)
    {ns name : String} {s : σ} {e : Cluster.ClusterError}
    (hreply : w.reply (.getDeclaring ns name) s = .error e) :
    w.resource s ns name = none ∧ e.isNotFound = true := by
  cases hr : w.resource s ns name with
  | none =>
    obtain ⟨e', hreply', he'⟩ := hw.getDeclaring_absent ns name s hr
    cases hreply.symm.trans hreply'
    exact ⟨rfl, he'⟩
  | some r =>
    rw [(hw.getDeclaring_present ns name s r hr).2.2] at hreply
    cases hreply

theorem Lawful.truthful {w : Backend σ} {vault : Vaults} (hw : w.Lawful vault) :
    w.Truthful vault := by
  refine { hw with
    get := ?_
    getDeclaring_ok := ?_
    getDeclaring_gone := fun ns name s e hreply _ => (hw.resource_of_error hreply).1 }
  · intro k ns name s o hreply
    cases ho : w.object s k ns name with
    | none =>
      obtain ⟨e, hreply', -⟩ := hw.get_absent k ns name s ho
      rw [hreply] at hreply'
      cases hreply'
    | some o' =>
      obtain ⟨hname, hreply'⟩ := hw.get_present k ns name s o' ho
      cases hreply.symm.trans hreply'
      exact ⟨hname, rfl⟩
  · intro ns name s r hreply
    cases hr : w.resource s ns name with
    | none =>
      obtain ⟨e, hreply', -⟩ := hw.getDeclaring_absent ns name s hr
      rw [hreply] at hreply'
      cases hreply'
    | some r' =>
      obtain ⟨hns, hname, hreply'⟩ := hw.getDeclaring_present ns name s r' hr
      cases hreply.symm.trans hreply'
      exact ⟨hns, hname, rfl⟩

/-- The surroundings of a pass: the cache shows this copy of the resource. -/
def serve (w : Backend σ) (copy : Option Resource) (r : Request) (s : σ) : r.Answer × σ :=
  match r with
  | .lookup _ _ => (copy, s)
  | r => (w.reply r s, w.after r s)

/-! ## What stays as it is -/

variable {w : Backend σ} {vault : Vaults} {ns name : String} {part : Resource → γ} {s s' s'' : σ}

theorem Same.refl : w.Same s s := ⟨rfl, rfl⟩

theorem Same.trans (h : w.Same s s') (h' : w.Same s' s'') : w.Same s s'' :=
  ⟨h'.object.trans h.object, h'.resource.trans h.resource⟩

theorem Unchanged.trans (h : w.Unchanged ns name part s s')
    (h' : w.Unchanged ns name part s' s'') : w.Unchanged ns name part s s'' := by
  intro f'' hf''
  obtain ⟨f', hf', hpart'⟩ := h' f'' hf''
  obtain ⟨f, hf, hpart⟩ := h f' hf'
  exact ⟨f, hf, hpart'.trans hpart⟩

theorem Unchanged.of_resource (h : w.resource s' = w.resource s) :
    w.Unchanged ns name part s s' := fun f' hf' => ⟨f', h ▸ hf', rfl⟩

/-- The look-up shows the copy and changes nothing, and no other request that does not write
changes anything. -/
theorem Truthful.serve_same (hw : w.Truthful vault) (copy : Option Resource) {r : Request}
    (hr : r.isWrite = false) (s : σ) : w.Same s (w.serve copy r s).2 := by
  cases r with
  | lookup => exact .refl
  | get | getDeclaring | readVault | record | enqueue | now | tell => exact hw.frame _ s hr
  | create | update | updateStatus => cases hr

end Backend

/-! ## A backend in memory -/

/-- Outputs and resources under their own names. -/
structure Memory where
  objects : Convergence.Objects
  resources : (ns name : String) → Option Resource
  objects_named : ∀ k ns name o, objects k ns name = some o →
    (OutputKind.metadata o).name = some name
  resources_named : ∀ ns name r, resources ns name = some r →
    r.metadata.ns = some ns ∧ r.metadata.name = some name

namespace Memory

/-- An output is stored under its name. -/
def put (m : Memory) (k : OutputKind) (ns : String) (o : k.Object) : Memory where
  objects :=
    match (OutputKind.metadata o).name with
    | some name => m.objects.put k ns name o
    | none => m.objects
  resources := m.resources
  objects_named k' ns' name' o' ho' := by
    cases hname : (OutputKind.metadata o).name with
    | none =>
      rw [hname] at ho'
      exact m.objects_named k' ns' name' o' ho'
    | some name =>
      simp only [hname, Convergence.Objects.put] at ho'
      split at ho'
      · next heq =>
        obtain ⟨rfl, rfl, rfl⟩ := heq
        exact Option.some.inj ho' ▸ hname
      · exact m.objects_named k' ns' name' o' ho'
  resources_named := m.resources_named

/-- The stored resource of the same name. -/
def find? (m : Memory) (r : Resource) : Option Resource :=
  r.metadata.ns.bind fun ns => r.metadata.name.bind fun name => m.resources ns name

/-- The status is stored with the resource of the same name. -/
def putStatus (m : Memory) (r : Resource) : Memory where
  objects := m.objects
  resources ns name :=
    if r.metadata.ns = some ns ∧ r.metadata.name = some name then
      (m.resources ns name).map fun before => { before with status := r.status }
    else m.resources ns name
  objects_named := m.objects_named
  resources_named ns name stored hstored := by
    split at hstored
    · obtain ⟨before, hbefore, rfl⟩ := Option.map_eq_some_iff.1 hstored
      exact m.resources_named ns name before hbefore
    · exact m.resources_named ns name stored hstored

end Memory

/-- Whatever is written is stored as it is given. -/
def Backend.memory (vault : Vaults) : Backend Memory where
  reply r m := match r with
    | .lookup ns name => m.resources ns name
    | .get k ns name =>
      match m.objects k ns name with
      | some o => .ok o
      | none => .error (.notFound ⟨k.kind, ns, name⟩)
    | .create _ _ o | .update _ _ o => .ok o
    | .getDeclaring ns name =>
      match m.resources ns name with
      | some r => .ok r
      | none => .error (.notFound ⟨.declaring, ns, name⟩)
    | .updateStatus r =>
      match m.find? r with
      | some before => .ok { before with status := r.status }
      | none => .error (.notFound ⟨.declaring, r.metadata.ns.getD "", r.metadata.name.getD ""⟩)
    | .readVault v k => vault v k
    | .now => "2024-01-01T00:00:00Z"
    | .record _ | .enqueue .. | .tell _ => ()
  after r m := match r with
    | .create k ns o | .update k ns o => m.put k ns o
    | .updateStatus r => m.putStatus r
    | _ => m
  object m := m.objects
  resource m := m.resources

/-- An output with a name is put there, and nowhere else. -/
theorem Memory.put_puts (vault : Vaults) {k : OutputKind} {o : k.Object} {name : String}
    (hname : (OutputKind.metadata o).name = some name) (m : Memory) (ns : String) :
    (Backend.memory vault).Puts m (m.put k ns o) k ns name o := by
  obtain ⟨hhere, helsewhere⟩ :=
    Convergence.World.memory_puts ⟨[], []⟩ vault m.objects k ns name o
  have hobjects : (m.put k ns o).objects = m.objects.put k ns name o := by
    simp [Memory.put, hname]
  constructor
  · exact (congrFun (congrFun (congrFun hobjects k) ns) name).trans hhere
  · intro k' ns' name' hne
    exact (congrFun (congrFun (congrFun hobjects k') ns') name').trans
      (helsewhere k' ns' name' hne)

theorem Memory.lawful (vault : Vaults) : (Backend.memory vault).Lawful vault where
  readVault v k s := rfl
  get_present k ns name m o ho := by
    have ho' : m.objects k ns name = some o := ho
    exact ⟨m.objects_named k ns name o ho', by simp only [Backend.memory, ho']; rfl⟩
  get_absent k ns name m ho := by
    have ho' : m.objects k ns name = none := ho
    exact ⟨_, by simp only [Backend.memory, ho']; rfl, rfl⟩
  getDeclaring_present ns name m r hr := by
    have hr' : m.resources ns name = some r := hr
    obtain ⟨hns, hname⟩ := m.resources_named ns name r hr'
    exact ⟨hns, hname, by simp only [Backend.memory, hr']; rfl⟩
  getDeclaring_absent ns name m hr := by
    have hr' : m.resources ns name = none := hr
    exact ⟨_, by simp only [Backend.memory, hr']; rfl, rfl⟩
  update k ns name m o hname _ _ := ⟨o, ⟨rfl, rfl, rfl⟩, m.put_puts vault hname ns, rfl⟩
  updateStatus_ok ns name m r hns hname answer hreply := by
    cases hbefore : m.resources ns name with
    | none => simp [Backend.memory, Memory.find?, hns, hname, hbefore] at hreply
    | some before =>
      refine ⟨rfl, before, { before with status := r.status }, hbefore, ?_, rfl, rfl⟩
      simp [Backend.memory, Memory.putStatus, hns, hname, hbefore]
  updateStatus_gone ns name m r hns hname e hreply _ := by
    cases hbefore : m.resources ns name with
    | none => exact hbefore
    | some before => simp [Backend.memory, Memory.find?, hns, hname, hbefore] at hreply
  updateStatus_conflict m r e hreply he := by
    simp only [Backend.memory] at hreply
    split at hreply
    · cases hreply
    · cases hreply
      cases he
  frame r m hr := by
    cases r <;> first | exact .refl | cases hr

/-- An output that is put in memory leaves those of the other kind alone. -/
theorem Memory.objects_put_of_ne {k k' : OutputKind} (hk : k' ≠ k) (m : Memory) (ns : String)
    (o : k.Object) : (m.put k ns o).objects k' = m.objects k' := by
  funext ns' name'
  cases hname : (OutputKind.metadata o).name with
  | none => simp [Memory.put, hname]
  | some name => simp [Memory.put, hname, Convergence.Objects.put, hk.symm]

theorem Memory.orderly (vault : Vaults) : (Backend.memory vault).Orderly vault where
  toTruthful := (Memory.lawful vault).truthful
  create k ns name m o hname _ _ := Option.isSome_iff_exists.2 ⟨o, (m.put_puts vault hname ns).here⟩
  create_apart k ns m o := ⟨rfl, fun _ hk => Memory.objects_put_of_ne hk m ns o⟩
  update_apart k ns m o := ⟨rfl, fun _ hk => Memory.objects_put_of_ne hk m ns o⟩
  updateStatus_apart ns name m r hns hname := by
    refine ⟨rfl, .inr ?_⟩
    simp only [Backend.memory, Memory.putStatus, hns, hname, and_self, if_true, Option.map_map]
    rfl

end Idempotence

end VaultProjection

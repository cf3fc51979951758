import VaultProjection.Proofs.Pass.Run
import VaultProjection.Proofs.Projection.Recipe

/-!
# The outputs of a resource as a list

Both passes go over the Secret and then over the ConfigMap that a resource asks for. `declared`
lists these outputs, and the passes are loops over the list (`structural_eq`, `drift_eq`), so that a
property of all outputs is an induction over it.
-/

namespace VaultProjection

namespace Resource

variable {r : Resource}

/-- The outputs that are asked for, in the order in which the passes come to them. -/
def declared (r : Resource) : List (OutputKind × String) :=
  (r.secretOutput?.map fun o => (OutputKind.secret, o.name)).toList ++
    (r.configMapOutput?.map fun o => (OutputKind.configMap, o.name)).toList

theorem hasOutput_iff : r.hasOutput = true ↔ r.declared ≠ [] := by
  unfold hasOutput declared
  cases r.secretOutput? <;> cases r.configMapOutput? <;> simp

/-- The outputs are of different kinds. -/
theorem declared_kinds (r : Resource) : (r.declared.map (·.1)).Nodup := by
  unfold declared
  cases r.secretOutput? <;> cases r.configMapOutput? <;> simp

/-! What is asked for depends on the spec alone, and so not on the noted status. -/

theorem declared_congr {r' : Resource} (h : r'.spec = r.spec) : r'.declared = r.declared := by
  simp [declared, secretOutput?, configMapOutput?, h]

theorem hasOutput_congr {r' : Resource} (h : r'.spec = r.spec) : r'.hasOutput = r.hasOutput := by
  simp [hasOutput, secretOutput?, configMapOutput?, h]

@[simp] theorem secretOutput?_status (r : Resource) (status : Option Status) :
    ({ r with status } : Resource).secretOutput? = r.secretOutput? := rfl

@[simp] theorem configMapOutput?_status (r : Resource) (status : Option Status) :
    ({ r with status } : Resource).configMapOutput? = r.configMapOutput? := rfl

@[simp] theorem secretType_status (r : Resource) (status : Option Status) :
    ({ r with status } : Resource).secretType = r.secretType := rfl

@[simp] theorem declared_status (r : Resource) (status : Option Status) :
    ({ r with status } : Resource).declared = r.declared := rfl

end Resource

theorem Handler.select_congr {r r' : Resource} (h : r'.spec = r.spec) : select r' = select r := by
  simp [select, h]

theorem Handler.recipe_congr (g : Handler) {r r' : Resource} (h : r'.spec = r.spec)
    (k : OutputKind) : g.recipe r' k = g.recipe r k := by
  obtain ⟨m, spec, status⟩ := r
  obtain ⟨m', spec', status'⟩ := r'
  obtain rfl : spec' = spec := h
  rfl

@[simp] theorem Handler.select_status (r : Resource) (status : Option Status) :
    select { r with status } = select r := select_congr rfl

@[simp] theorem Handler.recipe_status (h : Handler) (r : Resource) (status : Option Status)
    (k : OutputKind) : h.recipe { r with status } k = h.recipe r k := h.recipe_congr rfl k

namespace Pass

/-- What the structural pass does for a resource that asks for outputs. -/
def Structural.over (r : Resource) (key ns : String) : Pass Unit := do
  let owner ← ownerOf r
  r.declared.forM fun d => Structural.ensure r key ns owner d.1 d.2
  record r.reference .normal Event.synced Event.reconcileOutput
    "AzureKeyVaultSecret synced successfully"

/-- What the drift pass does for a resource that asks for outputs. -/
def Drift.over (r : Resource) (key ns name : String) : Pass Unit :=
  match Handler.select r with
  | .error e => Drift.failProjection r e
  | .ok h => do
    let owner ← ownerOf r
    r.declared.forM fun d => Drift.sync r key ns name owner h d.1 d.2

/-- The two outputs one after the other are a loop over the list. -/
theorem declared_forM (r : Resource) (f : OutputKind → String → Pass Unit) :
    r.declared.forM (fun d => f d.1 d.2) = (do
      if let some o := r.secretOutput? then f .secret o.name
      if let some o := r.configMapOutput? then f .configMap o.name) := by
  unfold Resource.declared
  cases r.secretOutput? <;> cases r.configMapOutput? <;> simp

theorem structural_eq (key : String) : structural key = (do
    let (ns, name) ← splitKey key
    match ← ask (.lookup ns name) with
    | none =>
      tell (.say .debug .outputPass "AzureKeyVaultSecret no longer exists, nothing to reconcile"
        [.text "key" key])
    | some r =>
      if !r.hasOutput then
        tell (.say .debug .outputPass "AzureKeyVaultSecret has no output, nothing to reconcile"
          [.text "key" key])
      else Structural.over r key ns) := by
  unfold structural
  refine bind_congr fun ⟨ns, name⟩ => bind_congr fun found => ?_
  cases found with
  | none => rfl
  | some r =>
    unfold Structural.over
    dsimp only
    split
    · rfl
    · refine bind_congr fun owner => ?_
      rw [declared_forM r fun k o => Structural.ensure r key ns owner k o]
      cases r.secretOutput? <;> cases r.configMapOutput? <;> simp

/-- What the structural pass does after its look at the cache. -/
def Structural.after (key ns : String) : Option Resource → Pass Unit
  | none =>
    tell (.say .debug .outputPass "AzureKeyVaultSecret no longer exists, nothing to reconcile"
      [.text "key" key])
  | some r =>
    if !r.hasOutput then
      tell (.say .debug .outputPass "AzureKeyVaultSecret has no output, nothing to reconcile"
        [.text "key" key])
    else Structural.over r key ns

/-- The structural pass begins with a look at the cache. -/
theorem structural_run {key ns name : String} (h : Key.split? key = some (ns, name)) :
    (structural key).run =
      .ask (.lookup ns name) fun found => (Structural.after key ns found).run := by
  rw [structural_eq]
  simp only [splitKey, h]
  show Program.ask _ _ = _
  refine congrArg _ (funext fun found => ?_)
  cases found <;> rfl

theorem drift_eq (key : String) : drift key = (do
    let (ns, name) ← splitKey key
    match ← ask (.lookup ns name) with
    | none =>
      tell (.say .debug .vaultPass "AzureKeyVaultSecret no longer exists, skipping vault sync"
        [.text "key" key])
    | some r => if r.hasOutput then Drift.over r key ns name else pure ()) := by
  unfold drift
  refine bind_congr fun ⟨ns, name⟩ => bind_congr fun found => ?_
  cases found with
  | none => rfl
  | some r =>
    unfold Drift.over
    dsimp only
    split
    · cases Handler.select r with
      | error e => rfl
      | ok h =>
        exact bind_congr fun owner =>
          (declared_forM r fun k o => Drift.sync r key ns name owner h k o).symm
    · rfl

/-- What the drift pass does after its look at the cache. -/
def Drift.after (key ns name : String) : Option Resource → Pass Unit
  | none =>
    tell (.say .debug .vaultPass "AzureKeyVaultSecret no longer exists, skipping vault sync"
      [.text "key" key])
  | some r => if r.hasOutput then Drift.over r key ns name else pure ()

/-- The drift pass begins with a look at the cache. -/
theorem drift_run {key ns name : String} (h : Key.split? key = some (ns, name)) :
    (drift key).run =
      .ask (.lookup ns name) fun found => (Drift.after key ns name found).run := by
  rw [drift_eq]
  simp only [splitKey, h]
  show Program.ask _ _ = _
  refine congrArg _ (funext fun found => ?_)
  cases found <;> rfl

end Pass

end VaultProjection

import VaultProjection.Proofs.Convergence.World
import VaultProjection.Proofs.Pass.Outputs
import VaultProjection.Proofs.Queue.Pair

/-!
# The passes in a calm world

What one pass does to the outputs and to the queues if the world is calm and the outputs of its
resource, as far as they are there, belong to it (`Tidy`).

Results:
1. `structural_calm`: a structural pass ends well and creates what is missing (`Fills`); if anything
   was missing the key goes to the drift queue.
2. `drift_calm`: a drift pass rewrites the outputs that it comes to (`Syncs`) and either ends well
   with every output as wanted, or finds one missing and sends the key to the structural queue.
-/

namespace VaultProjection.Convergence

/-- What the vault answers to each read. -/
abbrev Vaults := VaultRef → Vault.ObjectKind → Except Vault.ReadError Vault.RawObject

/-- The handler of the resource makes this data of the vault. -/
def Yields (vault : Vaults) (r : Resource) (k : OutputKind) (p : k.Payload) : Prop :=
  ∃ h, Handler.select r = .ok h ∧ (h.recipe r k).result (vault r.spec.vault) = .ok p

theorem Yields.unique {vault : Vaults} {r : Resource} {k : OutputKind} {p p' : k.Payload}
    (h : Yields vault r k p) (h' : Yields vault r k p') : p = p' := by
  obtain ⟨g, hg, hp⟩ := h
  obtain ⟨g', hg', hp'⟩ := h'
  obtain rfl : g = g' := by simpa [hg] using hg'
  simpa [hp] using hp'

/-- What a handler makes of a resource does not depend on the noted status. -/
@[simp] theorem yields_status (vault : Vaults) (r : Resource) (status : Option Status)
    (k : OutputKind) (p : k.Payload) :
    Yields vault { r with status } k p ↔ Yields vault r k p := by
  simp only [Yields, Handler.select_status, Handler.recipe_status]

/-- Two payloads that differ have different digests. -/
def ToldApart {k : OutputKind} (p p' : k.Payload) : Prop :=
  Digest.ofPayload p = Digest.ofPayload p' → p = p'

section

variable {σ : Type}

/-- The output, if it is there, belongs to the resource, and its content is told from the wanted
one by its digest. -/
def Tidy (w : World σ) (vault : Vaults) (r : Resource) (owner : Kube.OwnerReference) (ns : String)
    (d : OutputKind × String) (s : σ) : Prop :=
  ∀ o, w.object s d.1 ns d.2 = some o →
    (OutputKind.metadata o).isControlledBy owner = true ∧
    (OutputKind.metadata o).name = some d.2 ∧
    ∀ p, Yields vault r d.1 p → ToldApart (OutputKind.content o) p

/-- The output is there, belongs to the resource and holds what the vault holds. -/
def Holds (w : World σ) (vault : Vaults) (r : Resource) (owner : Kube.OwnerReference) (ns : String)
    (d : OutputKind × String) (s : σ) : Prop :=
  ∃ o, w.object s d.1 ns d.2 = some o ∧ (OutputKind.metadata o).isControlledBy owner = true ∧
    Yields vault r d.1 (OutputKind.content o)

/-- Some outputs of the list were created, and no other output changed. -/
def Fills (w : World σ) (r : Resource) (owner : Kube.OwnerReference) (ns : String)
    (ds : List (OutputKind × String)) (s s' : σ) : Prop :=
  ∀ k ns' name, w.object s' k ns' name = w.object s k ns' name ∨
    ns' = ns ∧ (k, name) ∈ ds ∧ w.object s k ns' name = none ∧
      ∃ o, w.object s' k ns' name = some o ∧
        Keeps (Pass.Structural.fresh r (Pass.Structural.outputMeta ns name owner) k) o

/-- Some outputs of the list were rewritten as wanted, and no other output changed. -/
def Syncs (w : World σ) (vault : Vaults) (r : Resource) (ns : String)
    (ds : List (OutputKind × String)) (s s' : σ) : Prop :=
  ∀ k ns' name, w.object s' k ns' name = w.object s k ns' name ∨
    ns' = ns ∧ (k, name) ∈ ds ∧
      ∃ o o', w.object s k ns' name = some o ∧ w.object s' k ns' name = some o' ∧
        (OutputKind.metadata o').name = (OutputKind.metadata o).name ∧
        (OutputKind.metadata o').ownerReferences = (OutputKind.metadata o).ownerReferences ∧
        Yields vault r k (OutputKind.content o')

end

/-! ## Steps of the passes -/

section

variable {σ : Type} {w : World σ} {cache : Watch.Cache} {vault : Vaults} {r : Resource}
  {owner : Kube.OwnerReference} {key ns name rname : String} {k : OutputKind} {qs : Queues}
  {s s' : σ}
  {ds ds' : List (OutputKind × String)} {d : OutputKind × String}

@[simp] theorem metadata_fresh (r : Resource) (m : Kube.ObjectMeta) (k : OutputKind) :
    OutputKind.metadata (Pass.Structural.fresh r m k) = m := by cases k <;> rfl

theorem isControlledBy_congr {m m' : Kube.ObjectMeta} (h : m'.ownerReferences = m.ownerReferences) :
    m'.isControlledBy owner = m.isControlledBy owner := by
  simp [Kube.ObjectMeta.isControlledBy, h]

theorem ownerReference?_controller (h : r.ownerReference? = some owner) :
    owner.controller = some true := by
  obtain ⟨name, uid, -, -, rfl⟩ := Resource.ownerReference?_eq_some.1 h
  rfl

/-- What is created belongs to the resource. -/
theorem Keeps.controlled {o : k.Object} (hc : owner.controller = some true)
    (h : Keeps (Pass.Structural.fresh r (Pass.Structural.outputMeta ns name owner) k) o) :
    (OutputKind.metadata o).isControlledBy owner = true := by
  rw [isControlledBy_congr h.owners, metadata_fresh]
  simp [Kube.ObjectMeta.isControlledBy, Pass.Structural.outputMeta, hc]

/-- An output that is there and belongs to the resource is left alone. -/
theorem ensure_present (hw : w.Calm cache vault) {o : k.Object}
    (ho : w.object s k ns name = some o)
    (hc : (OutputKind.metadata o).isControlledBy owner = true) (r : Resource) (key : String)
    (qs : Queues) :
    ∃ s', Pass.exec w.serve (Pass.Structural.ensure r key ns owner k name) (qs, s) =
      (.ok (), (qs, s')) ∧ w.object s' = w.object s := by
  refine ⟨w.after (.get k ns name) s, ?_, hw.frame _ _ rfl⟩
  unfold Pass.Structural.ensure
  simp only [Pass.exec_ask_bind, World.serve, hw.get_present k ns name s o ho]
  exact ensureOwned_calm hc _ _

/-- An output that is missing is created, and the key goes to the drift queue. -/
theorem ensure_absent (hw : w.Calm cache vault) (hkey : Key.split? key = some (ns, rname))
    (howner : owner.controller = some true) (ho : w.object s k ns name = none) (r : Resource)
    (qs : Queues) :
    ∃ s' o, Pass.exec w.serve (Pass.Structural.ensure r key ns owner k name) (qs, s) =
        (.ok (), ((qs.add .drift key).1, s')) ∧
      Keeps (Pass.Structural.fresh r (Pass.Structural.outputMeta ns name owner) k) o ∧
      w.Puts s s' k ns name o := by
  obtain ⟨e, hget, he⟩ := hw.get_absent k ns name s ho
  have hread : w.object (w.after (.get k ns name) s) = w.object s := hw.frame _ _ rfl
  obtain ⟨o, hkeeps, hcreate, hputs⟩ := hw.create k ns name (w.after (.get k ns name) s)
    (Pass.Structural.fresh r (Pass.Structural.outputMeta ns name owner) k)
    (by simp [Pass.Structural.outputMeta]) (by rw [hread, ho])
  unfold Pass.Structural.ensure
  simp only [Pass.exec_ask_bind, World.serve, hget, he, Bool.not_true, Bool.false_eq_true, if_false]
  simp only [World.serve, hcreate, pure_bind, Pass.ofCluster, Pass.exec_tell_bind,
    Pass.exec_bind_ok (Pass.exec_splitKey hkey)]
  generalize hs₁ : w.after (.tell _) _ = s₁
  obtain ⟨outcome, s₂, hpersist, hs₂⟩ := persistStatus_calm hw ns rname (.invalidate k) qs s₁
  rw [Pass.exec_bind_ok hpersist]
  subst hs₁
  have hs := hs₂.trans ((hw.frame (.tell _) _ rfl).trans (hw.frame (.tell _) _ rfl))
  refine ⟨s₂, o, ?_, hkeeps, ?_⟩
  · refine (Pass.exec_enqueue_bind _ _ _).trans ?_
    exact ensureOwned_calm (hkeeps.controlled howner) _ _
  · constructor
    · rw [hs, hputs.here]
    · intro k' ns' name' hne
      rw [hs, hputs.elsewhere k' ns' name' hne, hread]

/-! ## The structural pass -/

theorem Tidy.fills (hc : owner.controller = some true)
    (hfresh : ∀ p, Yields vault r d.1 p → ToldApart (OutputKind.content
      (Pass.Structural.fresh r (Pass.Structural.outputMeta ns d.2 owner) d.1)) p)
    (hf : Fills w r owner ns ds s s') (h : Tidy w vault r owner ns d s) :
    Tidy w vault r owner ns d s' := by
  intro o ho
  rcases hf d.1 ns d.2 with hsame | ⟨-, -, -, o', ho', hkeeps⟩
  · exact h o (hsame ▸ ho)
  · obtain rfl : o' = o := by simpa [ho'] using ho
    refine ⟨hkeeps.controlled hc, ?_, ?_⟩
    · rw [hkeeps.name, metadata_fresh]
      rfl
    · rw [hkeeps.content]
      exact hfresh

theorem Fills.refl : Fills w r owner ns ds s s := fun _ _ _ => .inl rfl

theorem Fills.trans {s'' : σ} (h : Fills w r owner ns ds s s') (h' : Fills w r owner ns ds s' s'') :
    Fills w r owner ns ds s s'' := by
  intro k ns' name
  rcases h' k ns' name with hsame' | ⟨hns, hm, hnone, o, ho, hkeeps⟩
  · rcases h k ns' name with hsame | ⟨hns, hm, hnone, o, ho, hkeeps⟩
    · exact .inl (hsame'.trans hsame)
    · exact .inr ⟨hns, hm, hnone, o, hsame' ▸ ho, hkeeps⟩
  · rcases h k ns' name with hsame | ⟨-, -, -, o', ho', -⟩
    · exact .inr ⟨hns, hm, hsame ▸ hnone, o, ho, hkeeps⟩
    · rw [ho'] at hnone
      cases hnone

/-- What is there stays there. -/
theorem Fills.mono (h : Fills w r owner ns ds s s') {ns' : String} {o : k.Object}
    (ho : w.object s k ns' name = some o) : w.object s' k ns' name = some o := by
  rcases h k ns' name with hsame | ⟨-, -, hnone, -⟩
  · rw [hsame, ho]
  · rw [ho] at hnone
    cases hnone

theorem Fills.weaken (hsub : ∀ d ∈ ds, d ∈ ds') (h : Fills w r owner ns ds s s') :
    Fills w r owner ns ds' s s' := fun k ns' name =>
  (h k ns' name).imp_right fun ⟨hns, hm, hrest⟩ => ⟨hns, hsub _ hm, hrest⟩

/-- How a loop over outputs leaves the queues: the key goes to the drift queue if some output was
missing. -/
def Kicked (w : World σ) (key ns : String) (ds : List (OutputKind × String)) (s : σ)
    (qs qs' : Queues) : Prop :=
  (∀ d ∈ ds, w.object s d.1 ns d.2 ≠ none) ∧ qs' = qs ∨
    (∃ d ∈ ds, w.object s d.1 ns d.2 = none) ∧ qs' = (qs.add .drift key).1

theorem Kicked.cons {qs₁ qs₂ : Queues} (h : Kicked w key ns [d] s qs qs₁)
    (hf : Fills w r owner ns [d] s s') (h' : Kicked w key ns ds s' qs₁ qs₂) :
    Kicked w key ns (d :: ds) s qs qs₂ := by
  have hback : ∀ d' ∈ ds, w.object s' d'.1 ns d'.2 = none → w.object s d'.1 ns d'.2 = none := by
    intro d' _ hnone
    rw [← Option.not_isSome_iff_eq_none, Option.isSome_iff_exists]
    rintro ⟨o, ho⟩
    rw [hf.mono ho] at hnone
    cases hnone
  rcases h with ⟨hthere, rfl⟩ | ⟨⟨d', hd', hnone⟩, rfl⟩
  · rcases h' with ⟨hthere', rfl⟩ | ⟨⟨d', hd', hnone⟩, rfl⟩
    · refine .inl ⟨fun d' hd' => ?_, rfl⟩
      rcases List.mem_cons.1 hd' with rfl | hd'
      · exact hthere _ (List.mem_singleton.2 rfl)
      · rcases hf d'.1 ns d'.2 with hsame | ⟨-, hm, hnone, -⟩
        · exact hsame ▸ hthere' d' hd'
        · exact absurd hnone (hthere _ hm)
    · exact .inr ⟨⟨d', List.mem_cons_of_mem _ hd', hback d' hd' hnone⟩, rfl⟩
  · rw [List.mem_singleton] at hd'
    subst hd'
    refine .inr ⟨⟨d', List.mem_cons_self, hnone⟩, ?_⟩
    rcases h' with ⟨-, rfl⟩ | ⟨-, rfl⟩
    · rfl
    · exact Queues.add_add _ _ _

theorem ensure_calm (hw : w.Calm cache vault) (hkey : Key.split? key = some (ns, rname))
    (howner : owner.controller = some true)
    (hown : ∀ o, w.object s d.1 ns d.2 = some o →
      (OutputKind.metadata o).isControlledBy owner = true) (r : Resource) (qs : Queues) :
    ∃ qs' s', Pass.exec w.serve (Pass.Structural.ensure r key ns owner d.1 d.2) (qs, s) =
        (.ok (), (qs', s')) ∧
      Fills w r owner ns [d] s s' ∧ w.object s' d.1 ns d.2 ≠ none ∧
      Kicked w key ns [d] s qs qs' := by
  cases ho : w.object s d.1 ns d.2 with
  | some o =>
    obtain ⟨s', hrun, hs'⟩ := ensure_present hw ho (hown o ho) r key qs
    exact ⟨qs, s', hrun, fun k ns' name => .inl (by rw [hs']), by simp [hs', ho],
      .inl ⟨by simp [ho], rfl⟩⟩
  | none =>
    obtain ⟨s', o, hrun, hkeeps, hputs⟩ := ensure_absent hw hkey howner ho r qs
    refine ⟨_, s', hrun, fun k ns' name => ?_, by simp [hputs.here], .inr ⟨⟨d, by simp, ho⟩, rfl⟩⟩
    by_cases hd : (k, ns', name) = (d.1, ns, d.2)
    · obtain ⟨rfl, rfl, rfl⟩ : k = d.1 ∧ ns' = ns ∧ name = d.2 := by simpa using hd
      exact .inr ⟨rfl, List.mem_singleton.2 rfl, ho, o, hputs.here, hkeeps⟩
    · exact .inl (hputs.elsewhere k ns' name hd)

theorem ensureAll_calm (hw : w.Calm cache vault) (hkey : Key.split? key = some (ns, rname))
    (howner : owner.controller = some true)
    (hown : ∀ d ∈ ds, ∀ o, w.object s d.1 ns d.2 = some o →
      (OutputKind.metadata o).isControlledBy owner = true) (r : Resource) (qs : Queues) :
    ∃ qs' s', Pass.exec w.serve
        (ds.forM fun d => Pass.Structural.ensure r key ns owner d.1 d.2) (qs, s) =
        (.ok (), (qs', s')) ∧
      Fills w r owner ns ds s s' ∧ (∀ d ∈ ds, w.object s' d.1 ns d.2 ≠ none) ∧
      Kicked w key ns ds s qs qs' := by
  induction ds generalizing qs s with
  | nil => exact ⟨qs, s, rfl, Fills.refl, by simp, .inl ⟨by simp, rfl⟩⟩
  | cons d ds ih =>
    obtain ⟨qs₁, s₁, hrun₁, hfills₁, hthere₁, hkick₁⟩ := ensure_calm hw hkey howner
      (hown d List.mem_cons_self) r qs
    have hown₁ : ∀ d' ∈ ds, ∀ o, w.object s₁ d'.1 ns d'.2 = some o →
        (OutputKind.metadata o).isControlledBy owner = true := by
      intro d' hd' o ho
      rcases hfills₁ d'.1 ns d'.2 with hsame | ⟨-, -, -, o', ho', hkeeps⟩
      · exact hown d' (List.mem_cons_of_mem _ hd') o (hsame ▸ ho)
      · obtain rfl : o' = o := by simpa [ho'] using ho
        exact hkeeps.controlled howner
    obtain ⟨qs₂, s₂, hrun₂, hfills₂, hthere₂, hkick₂⟩ := ih hown₁ qs₁
    refine ⟨qs₂, s₂, ?_, ?_, ?_, ?_⟩
    · exact (Pass.exec_bind_ok hrun₁ _).trans hrun₂
    · exact (hfills₁.weaken (by simp)).trans (hfills₂.weaken fun d hd => List.mem_cons_of_mem _ hd)
    · intro d' hd'
      rcases List.mem_cons.1 hd' with rfl | hd'
      · obtain ⟨o, ho⟩ := Option.ne_none_iff_exists'.1 hthere₁
        simp [hfills₂.mono ho]
      · exact hthere₂ d' hd'
    · exact hkick₁.cons hfills₁ hkick₂

theorem structural_over_calm (hw : w.Calm cache vault) (hkey : Key.split? key = some (ns, rname))
    (howner : r.ownerReference? = some owner)
    (hown : ∀ d ∈ r.declared, ∀ o, w.object s d.1 ns d.2 = some o →
      (OutputKind.metadata o).isControlledBy owner = true) (qs : Queues) :
    ∃ qs' s', Pass.exec w.serve (Pass.Structural.over r key ns) (qs, s) = (.ok (), (qs', s')) ∧
      Fills w r owner ns r.declared s s' ∧ (∀ d ∈ r.declared, w.object s' d.1 ns d.2 ≠ none) ∧
      Kicked w key ns r.declared s qs qs' := by
  obtain ⟨qs', s', hrun, hfills, hthere, hkick⟩ := ensureAll_calm hw hkey
    (ownerReference?_controller howner) hown r qs
  unfold Pass.Structural.over
  rw [Pass.exec_bind_ok (Pass.exec_ownerOf howner), Pass.exec_bind_ok hrun]
  refine ⟨qs', _, rfl, fun k ns' name => ?_, ?_, hkick⟩
  · rw [hw.frame _ _ rfl]
    exact hfills k ns' name
  · rw [hw.frame _ _ rfl]
    exact hthere

/-- The structural pass over a resource that asks for outputs. -/
theorem structural_calm (hw : w.Calm cache vault) (hkey : Key.split? key = some (ns, rname))
    (hfound : cache.lookup ns rname = some r) (hout : r.hasOutput = true)
    (howner : r.ownerReference? = some owner)
    (hown : ∀ d ∈ r.declared, ∀ o, w.object s d.1 ns d.2 = some o →
      (OutputKind.metadata o).isControlledBy owner = true) (qs : Queues) :
    ∃ qs' s', Pass.exec w.serve (Pass.structural key) (qs, s) = (.ok (), (qs', s')) ∧
      Fills w r owner ns r.declared s s' ∧ (∀ d ∈ r.declared, w.object s' d.1 ns d.2 ≠ none) ∧
      Kicked w key ns r.declared s qs qs' := by
  obtain ⟨status, hlook⟩ := hw.lookup ns rname s
  rw [hfound, Option.map_some] at hlook
  have hs : w.object (w.after (.lookup ns rname) s) = w.object s := hw.frame _ _ rfl
  have hout' : ({ r with status } : Resource).hasOutput = true := hout
  obtain ⟨qs', s', hrun, hfills, hthere, hkick⟩ := structural_over_calm (r := { r with status })
    (s := w.after (.lookup ns rname) s) hw hkey howner (by rw [hs]; exact hown) qs
  refine ⟨qs', s', ?_, fun k ns' name => ?_, hthere, ?_⟩
  · rw [Pass.structural_eq, Pass.exec_bind_ok (Pass.exec_splitKey hkey)]
    simpa only [Pass.exec_ask_bind, World.serve, hlook, hout', Bool.not_true, Bool.false_eq_true,
      if_false] using hrun
  · rw [← hs]
    exact hfills k ns' name
  · unfold Kicked
    rw [← hs]
    exact hkick

/-! ## The drift pass -/

theorem follow_calm {α : Type} (hw : w.Calm cache vault) {recipe : Recipe α} {a : α}
    (h : recipe.result (vault r.spec.vault) = .ok a) (qs : Queues) (s : σ) :
    ∃ s', Pass.exec w.serve (Pass.Drift.follow r recipe) (qs, s) = (.ok a, (qs, s')) ∧
      w.object s' = w.object s := by
  cases recipe with
  | given result =>
    obtain rfl : result = .ok a := h
    exact ⟨s, rfl, rfl⟩
  | read kind finish =>
    refine ⟨w.after (.readVault r.spec.vault kind) s, ?_, hw.frame _ _ rfl⟩
    unfold Pass.Drift.follow
    simp only [Recipe.result] at h
    simp only [Pass.exec_ask_bind, World.serve, hw.readVault]
    cases hraw : vault r.spec.vault kind with
    | error e => simp [hraw] at h
    | ok raw =>
      simp only [hraw] at h
      simp [h]

/-- An output that is missing fails the pass and sends the key to the structural queue. -/
theorem sync_absent (hw : w.Calm cache vault) {h : Handler} {p : k.Payload}
    (hp : (h.recipe r k).result (vault r.spec.vault) = .ok p)
    (ho : w.object s k ns name = none) (key rname : String) (owner : Kube.OwnerReference)
    (qs : Queues) :
    ∃ e s', Pass.exec w.serve (Pass.Drift.sync r key ns rname owner h k name) (qs, s) =
        (.error e, ((qs.add .structural key).1, s')) ∧ w.object s' = w.object s := by
  obtain ⟨s₁, hfollow, hs₁⟩ := follow_calm hw hp qs s
  obtain ⟨e, hget, he⟩ := hw.get_absent k ns name s₁ (by rw [hs₁, ho])
  refine ⟨.outputMissing ⟨k.kind, ns, name⟩, w.after (.get k ns name) s₁, ?_, ?_⟩
  · unfold Pass.Drift.sync
    rw [Pass.exec_bind_ok hfollow]
    simp only [Pass.exec_ask_bind, World.serve, hget, he, Bool.not_true, Bool.false_eq_true,
      if_false]
    rfl
  · rw [hw.frame _ _ rfl, hs₁]

theorem Syncs.refl_of_object (h : w.object s' = w.object s) : Syncs w vault r ns ds s s' :=
  fun _ _ _ => .inl (by rw [h])

/-- An output that is there is brought up to date. -/
theorem sync_present (hw : w.Calm cache vault) {h : Handler} {p : k.Payload}
    (hsel : Handler.select r = .ok h) (hp : (h.recipe r k).result (vault r.spec.vault) = .ok p)
    {o : k.Object} (ho : w.object s k ns name = some o)
    (htidy : Tidy w vault r owner ns (k, name) s) (key rname : String) (qs : Queues) :
    ∃ s', Pass.exec w.serve (Pass.Drift.sync r key ns rname owner h k name) (qs, s) =
        (.ok (), (qs, s')) ∧
      Syncs w vault r ns [(k, name)] s s' ∧ Holds w vault r owner ns (k, name) s' := by
  obtain ⟨hc, hname, htold⟩ := htidy o ho
  obtain ⟨s₁, hfollow, hs₁⟩ := follow_calm hw hp qs s
  have hget := hw.get_present k ns name s₁ o (by rw [hs₁, ho])
  have hs₂ : w.object (w.after (.get k ns name) s₁) = w.object s := by
    rw [hw.frame _ _ rfl, hs₁]
  unfold Pass.Drift.sync
  rw [Pass.exec_bind_ok hfollow]
  simp only [Pass.exec_ask_bind, World.serve, hget]
  rw [Pass.exec_bind_ok (ensureOwned_calm hc _ _)]
  generalize w.after (.get k ns name) s₁ = s₂ at hs₂
  cases hcurrent : Digest.ofPayload (OutputKind.content o) == Digest.ofPayload p with
  | true =>
    -- The digest says that nothing is to be written, and it is right about that.
    have hcontent : OutputKind.content o = p := htold p ⟨h, hsel, hp⟩ (eq_of_beq hcurrent)
    have hholds : ∀ s', w.object s' = w.object s → Holds w vault r owner ns (k, name) s' :=
      fun s' hs' => ⟨o, by rw [hs', ho], hc, h, hsel, by rw [hp, hcontent]⟩
    split
    · refine ⟨_, rfl, .refl_of_object ?_, hholds _ ?_⟩ <;> rw [hw.frame _ _ rfl, hs₂]
    · simp only [Bool.not_true, Bool.false_eq_true, if_false, if_true]
      obtain ⟨_, s₃, hpersist, hs₃⟩ := persistStatus_calm hw ns rname
        (.record k name (Digest.ofPayload p)) qs s₂
      rw [Pass.exec_bind_ok hpersist]
      refine ⟨_, rfl, .refl_of_object ?_, hholds _ ?_⟩ <;> rw [hw.frame _ _ rfl, hs₃, hs₂]
  | false =>
    obtain ⟨o', hkeeps, hupdate, hputs⟩ := hw.update k ns name s₂ (OutputKind.replaceContent o p)
      (by rw [OutputKind.metadata_replaceContent, hname]) (by rw [hs₂, ho]; simp)
    simp only [Bool.and_false, Bool.false_eq_true, if_false, Bool.not_false, if_true,
      Pass.exec_ask_bind, World.serve, hupdate, Pass.ofCluster, pure_bind, Pass.exec_tell_bind,
      Pass.Drift.say]
    generalize hs₃ : w.after (.update k ns _) s₂ = s₃ at hputs
    generalize hs₄ : w.after (.tell _) (w.after (.tell _) s₃) = s₄
    have hs₄ : w.object s₄ = w.object s₃ := by rw [← hs₄, hw.frame _ _ rfl, hw.frame _ _ rfl]
    obtain ⟨_, s₅, hpersist, hs₅⟩ := persistStatus_calm hw ns rname
      (.record k name (Digest.ofPayload p)) qs s₄
    rw [Pass.exec_bind_ok hpersist]
    have hyields : Yields vault r k (OutputKind.content o') := by
      rw [hkeeps.content, OutputKind.content_replaceContent]
      exact ⟨h, hsel, hp⟩
    have howners : (OutputKind.metadata o').ownerReferences =
        (OutputKind.metadata o).ownerReferences := by
      rw [hkeeps.owners, OutputKind.metadata_replaceContent]
    refine ⟨_, rfl, fun k' ns' name' => ?_, o', ?_, ?_, hyields⟩
    · rw [hw.frame _ _ rfl, hs₅, hs₄]
      by_cases hd : (k', ns', name') = (k, ns, name)
      · obtain ⟨rfl, rfl, rfl⟩ : k' = k ∧ ns' = ns ∧ name' = name := by simpa using hd
        refine .inr ⟨rfl, List.mem_singleton.2 rfl, o, o', ho, hputs.here, ?_, howners, hyields⟩
        rw [hkeeps.name, OutputKind.metadata_replaceContent]
      · exact .inl (by rw [hputs.elsewhere _ _ _ hd, hs₂])
    · rw [hw.frame _ _ rfl, hs₅, hs₄, hputs.here]
    · rw [isControlledBy_congr howners, hc]

theorem Syncs.trans {s'' : σ} (h : Syncs w vault r ns ds s s') (h' : Syncs w vault r ns ds s' s'') :
    Syncs w vault r ns ds s s'' := by
  intro k ns' name
  rcases h' k ns' name with hsame' | ⟨hns, hm, o', o'', ho', ho'', hname', howners', hy⟩
  · rw [hsame']
    exact h k ns' name
  · rcases h k ns' name with hsame | ⟨-, -, o, o₁, ho, ho₁, hname, howners, -⟩
    · exact .inr ⟨hns, hm, o', o'', hsame ▸ ho', ho'', hname', howners', hy⟩
    · obtain rfl : o₁ = o' := by simpa [ho₁] using ho'
      exact .inr ⟨hns, hm, o, o'', ho, ho'', hname'.trans hname, howners'.trans howners, hy⟩

theorem Syncs.weaken (hsub : ∀ d ∈ ds, d ∈ ds') (h : Syncs w vault r ns ds s s') :
    Syncs w vault r ns ds' s s' := fun k ns' name =>
  (h k ns' name).imp_right fun ⟨hns, hm, hrest⟩ => ⟨hns, hsub _ hm, hrest⟩

/-- No output comes or goes. -/
theorem Syncs.none_iff (h : Syncs w vault r ns ds s s') (k : OutputKind) (ns' name : String) :
    w.object s' k ns' name = none ↔ w.object s k ns' name = none := by
  rcases h k ns' name with hsame | ⟨-, -, o, o', ho, ho', -⟩
  · rw [hsame]
  · simp [ho, ho']

theorem Tidy.syncs (hs : Syncs w vault r ns ds s s') (h : Tidy w vault r owner ns d s) :
    Tidy w vault r owner ns d s' := by
  intro o' ho'
  rcases hs d.1 ns d.2 with hsame | ⟨-, -, o, o₁, ho, ho₁, hname, howners, hy⟩
  · exact h o' (hsame ▸ ho')
  · obtain rfl : o₁ = o' := by simpa [ho₁] using ho'
    obtain ⟨hc, hn, -⟩ := h o ho
    exact ⟨(isControlledBy_congr howners).trans hc, hname.trans hn, fun p hp _ => hy.unique hp⟩

theorem Holds.syncs (hs : Syncs w vault r ns ds s s') (h : Holds w vault r owner ns d s) :
    Holds w vault r owner ns d s' := by
  obtain ⟨o, ho, hc, hy⟩ := h
  rcases hs d.1 ns d.2 with hsame | ⟨-, -, o₁, o', ho₁, ho', -, howners, hy'⟩
  · exact ⟨o, hsame ▸ ho, hc, hy⟩
  · obtain rfl : o₁ = o := by simpa [ho₁] using ho
    exact ⟨o', ho', (isControlledBy_congr howners).trans hc, hy'⟩

theorem syncAll_calm (hw : w.Calm cache vault) {h : Handler} (hsel : Handler.select r = .ok h)
    (hyield : ∀ d ∈ ds, ∃ p, (h.recipe r d.1).result (vault r.spec.vault) = .ok p)
    (htidy : ∀ d ∈ ds, Tidy w vault r owner ns d s) :
    (∃ s', Pass.exec w.serve (ds.forM fun d => Pass.Drift.sync r key ns rname owner h d.1 d.2)
          (qs, s) = (.ok (), (qs, s')) ∧
        Syncs w vault r ns ds s s' ∧ ∀ d ∈ ds, Holds w vault r owner ns d s') ∨
      ∃ e s', Pass.exec w.serve (ds.forM fun d => Pass.Drift.sync r key ns rname owner h d.1 d.2)
          (qs, s) = (.error e, ((qs.add .structural key).1, s')) ∧
        Syncs w vault r ns ds s s' ∧ ∃ d ∈ ds, w.object s d.1 ns d.2 = none := by
  induction ds generalizing s with
  | nil => exact .inl ⟨s, rfl, .refl_of_object rfl, by simp⟩
  | cons d ds ih =>
    obtain ⟨p, hp⟩ := hyield d List.mem_cons_self
    cases ho : w.object s d.1 ns d.2 with
    | none =>
      obtain ⟨e, s', hrun, hs'⟩ := sync_absent hw hp ho key rname owner qs
      exact .inr ⟨e, s', Pass.exec_bind_error hrun _, .refl_of_object hs',
        d, List.mem_cons_self, ho⟩
    | some o =>
      obtain ⟨s₁, hrun₁, hsync₁, hholds₁⟩ := sync_present hw hsel hp ho
        (htidy d List.mem_cons_self) key rname qs
      have hsync₁' : Syncs w vault r ns (d :: ds) s s₁ := hsync₁.weaken (by simp)
      rcases ih (fun d' hd' => hyield d' (List.mem_cons_of_mem _ hd'))
        (fun d' hd' => (htidy d' (List.mem_cons_of_mem _ hd')).syncs hsync₁') with
        ⟨s₂, hrun₂, hsync₂, hholds₂⟩ | ⟨e, s₂, hrun₂, hsync₂, d', hd', hnone⟩
      · refine .inl ⟨s₂, (Pass.exec_bind_ok hrun₁ _).trans hrun₂,
          hsync₁'.trans (hsync₂.weaken fun _ => List.mem_cons_of_mem _), fun d' hd' => ?_⟩
        rcases List.mem_cons.1 hd' with rfl | hd'
        · exact hholds₁.syncs hsync₂
        · exact hholds₂ d' hd'
      · exact .inr ⟨e, s₂, (Pass.exec_bind_ok hrun₁ _).trans hrun₂,
          hsync₁'.trans (hsync₂.weaken fun _ => List.mem_cons_of_mem _),
          d', List.mem_cons_of_mem _ hd', (hsync₁.none_iff ..).1 hnone⟩

theorem drift_over_calm (hw : w.Calm cache vault) (howner : r.ownerReference? = some owner)
    (hyield : ∀ d ∈ r.declared, ∃ p, Yields vault r d.1 p) (hne : r.declared ≠ [])
    (htidy : ∀ d ∈ r.declared, Tidy w vault r owner ns d s) (key rname : String) (qs : Queues) :
    (∃ s', Pass.exec w.serve (Pass.Drift.over r key ns rname) (qs, s) = (.ok (), (qs, s')) ∧
        Syncs w vault r ns r.declared s s' ∧ ∀ d ∈ r.declared, Holds w vault r owner ns d s') ∨
      ∃ e s', Pass.exec w.serve (Pass.Drift.over r key ns rname) (qs, s) =
          (.error e, ((qs.add .structural key).1, s')) ∧
        Syncs w vault r ns r.declared s s' ∧ ∃ d ∈ r.declared, w.object s d.1 ns d.2 = none := by
  obtain ⟨d, hd⟩ := List.exists_mem_of_ne_nil _ hne
  obtain ⟨_, h, hsel, -⟩ := hyield d hd
  have hyield' : ∀ d ∈ r.declared, ∃ p, (h.recipe r d.1).result (vault r.spec.vault) = .ok p := by
    intro d hd
    obtain ⟨p, h', hsel', hp⟩ := hyield d hd
    obtain rfl : h = h' := by simpa [hsel] using hsel'
    exact ⟨p, hp⟩
  unfold Pass.Drift.over
  rw [hsel]
  simp only [Pass.exec_bind_ok (Pass.exec_ownerOf howner)]
  exact syncAll_calm hw hsel hyield' htidy

/-- The drift pass over a resource that asks for outputs. -/
theorem drift_calm (hw : w.Calm cache vault) (hkey : Key.split? key = some (ns, rname))
    (hfound : cache.lookup ns rname = some r) (hout : r.hasOutput = true)
    (howner : r.ownerReference? = some owner)
    (hyield : ∀ d ∈ r.declared, ∃ p, Yields vault r d.1 p)
    (htidy : ∀ d ∈ r.declared, Tidy w vault r owner ns d s) (qs : Queues) :
    (∃ s', Pass.exec w.serve (Pass.drift key) (qs, s) = (.ok (), (qs, s')) ∧
        Syncs w vault r ns r.declared s s' ∧ ∀ d ∈ r.declared, Holds w vault r owner ns d s') ∨
      ∃ e s', Pass.exec w.serve (Pass.drift key) (qs, s) =
          (.error e, ((qs.add .structural key).1, s')) ∧
        Syncs w vault r ns r.declared s s' ∧ ∃ d ∈ r.declared, w.object s d.1 ns d.2 = none := by
  obtain ⟨status, hlook⟩ := hw.lookup ns rname s
  rw [hfound, Option.map_some] at hlook
  have hs : w.object (w.after (.lookup ns rname) s) = w.object s := hw.frame _ _ rfl
  have hout' : ({ r with status } : Resource).hasOutput = true := hout
  have htidy' : ∀ d ∈ r.declared,
      Tidy w vault { r with status } owner ns d (w.after (.lookup ns rname) s) := by
    simpa only [Tidy, yields_status, hs] using htidy
  have hexec : Pass.exec w.serve (Pass.drift key) (qs, s) = Pass.exec w.serve
      (Pass.Drift.over { r with status } key ns rname) (qs, w.after (.lookup ns rname) s) := by
    rw [Pass.drift_eq, Pass.exec_bind_ok (Pass.exec_splitKey hkey)]
    simp only [Pass.exec_ask_bind, World.serve, hlook, hout', if_true]
  rw [hexec]
  have hover := drift_over_calm (r := { r with status }) hw howner
    (by simpa only [yields_status, Resource.declared_status] using hyield)
    (Resource.hasOutput_iff.1 hout) htidy' key rname qs
  simpa only [Syncs, Holds, yields_status, Resource.declared_status, hs] using hover

end

end VaultProjection.Convergence

import VaultProjection.Proofs.Idempotence.Again

/-!
# What one output owes to the other

A resource may ask for a Secret and for a ConfigMap. Both passes come to the Secret first, and end
there if its steps fail. Nobody else writes, but any call may fail, and of a write that fails it is
only known that it reached nothing but what it was about.

Results:
1. `sync_kept`, `ensure_does`: the steps for one output leave the other alone, however they end.
2. `independent_iff`: the Secret gets all that its own steps give it. The ConfigMap does exactly if
   the steps for the Secret succeed, or it had that before.
-/

namespace VaultProjection.Independence

open Idempotence (Backend Done Memory Silent noting settle attempt_does persistStatus_does
  settle_does sync_does sync_done ensureOwned_does login sampleBackend sampleVault)
open Convergence (Vaults)

section

variable {σ : Type} {w : Backend σ} {vault : Vaults} {copy : Option Resource}
  {key ns name output : String} {r : Resource} {owner : Kube.OwnerReference} {h : Handler}
  {k k' : OutputKind} {u : StatusUpdate} {s s' s'' : σ}

/-! ## What is left alone -/

/-- The outputs of the kind are what they were, and so is what the status notes of them. -/
structure Kept (w : Backend σ) (ns name : String) (k : OutputKind) (s s' : σ) : Prop where
  object : w.object s' k = w.object s k
  noted : (w.resource s' ns name).map (·.noted k) = (w.resource s ns name).map (·.noted k)

theorem Kept.of_same (hs : w.Same s s') : Kept w ns name k s s' :=
  ⟨congrFun hs.object k, by rw [hs.resource]⟩

theorem Kept.of_apart (hk : k' ≠ k) (hs : w.resource s' = w.resource s ∧
    ∀ k', k' ≠ k → w.object s' k' = w.object s k') : Kept w ns name k' s s' :=
  ⟨hs.2 k' hk, by rw [hs.1]⟩

theorem Kept.trans (h : Kept w ns name k s s') (h' : Kept w ns name k s' s'') :
    Kept w ns name k s s'' := ⟨h'.object.trans h.object, h'.noted.trans h.noted⟩

theorem Kept.symm (h : Kept w ns name k s s') : Kept w ns name k s' s :=
  ⟨h.object.symm, h.noted.symm⟩

theorem Kept.unchanged (h : Kept w ns name k s s') : w.Unchanged ns name (·.noted k) s s' := by
  intro f' hf'
  have hnoted : (w.resource s ns name).map (·.noted k) = some (f'.noted k) := by
    rw [← h.noted, hf']
    rfl
  obtain ⟨f, hf, hsame⟩ := Option.map_eq_some_iff.1 hnoted
  exact ⟨f, hf, hsame.symm⟩

/-- An output that is left alone is done afterwards exactly if it was done before. -/
theorem Kept.done_iff (hs : Kept w ns name k s' s'') :
    Done w vault r h ns name owner k output s s'' ↔ Done w vault r h ns name owner k output s s' :=
  ⟨.kept hs.symm.object hs.symm.unchanged, .kept hs.object hs.unchanged⟩

/-! ## Writing the status -/

/-- No output changed, and of the status no group but that of the kind. -/
structure Regroups (w : Backend σ) (ns name : String) (k : OutputKind) (s s' : σ) : Prop where
  object : w.object s' = w.object s
  noted : ∀ k', k' ≠ k →
    (w.resource s' ns name).map (·.noted k') = (w.resource s ns name).map (·.noted k')

theorem Regroups.of_same (hs : w.Same s s') : Regroups w ns name k s s' :=
  ⟨hs.object, fun _ _ => by rw [hs.resource]⟩

theorem Regroups.trans (h : Regroups w ns name k s s') (h' : Regroups w ns name k s' s'') :
    Regroups w ns name k s s'' :=
  ⟨h'.object.trans h.object, fun k' hk' => (h'.noted k' hk').trans (h.noted k' hk')⟩

theorem Regroups.kept (h : Regroups w ns name k s s') (hk : k' ≠ k) : Kept w ns name k' s s' :=
  ⟨congrFun h.object k', h.noted k' hk⟩

/-- A status with a change, sent over a copy of the stored one, changes one group at most. -/
theorem updateStatus_regroups (hw : w.Orderly vault) {f : Resource} (u : StatusUpdate)
    (now : String) (hns : f.metadata.ns = some ns) (hname : f.metadata.name = some name)
    (hf : w.resource s ns name = some f) :
    Regroups w ns name u.kind s (w.after (.updateStatus { f with
      status := some (u.apply (f.status.getD .empty) now) }) s) := by
  obtain ⟨hobject, hstatus⟩ := hw.updateStatus_apart ns name s
    { f with status := some (u.apply (f.status.getD .empty) now) } hns hname
  refine ⟨hobject, fun k hk => ?_⟩
  obtain ⟨hgroup, hhash⟩ := StatusUpdate.apply_other hk (f.status.getD .empty) now
  -- What is noted is read off the status.
  have hread (x : Option Resource) : x.map (·.noted k) = (x.map (·.status)).map fun status =>
      ((status.getD .empty).outputName k, (status.getD .empty).outputHash k) := by
    rw [Option.map_map]
    rfl
  rw [hread, hread (w.resource s ns name)]
  rcases hstatus with hbefore | hsent
  · rw [hbefore]
  · rw [hsent, hf]
    simp [hgroup, hhash]

theorem attempt_regroups (hw : w.Orderly vault) (u : StatusUpdate) (s : σ) :
    (Pass.attempt ns name u).Does (w.serve copy) (fun _ => True)
      (fun _ s' => Regroups w ns name u.kind s s') s := by
  refine attempt_does hw.toTruthful (fun _ _ => trivial)
    (fun _ _ _ _ hs' => .of_same hs') (fun _ _ hs' => .of_same hs')
    (fun _ _ _ _ _ hs' => .of_same hs') ?_
  intro f now hns hname hf _ s₁ hs₁
  have hsent := (Regroups.of_same hs₁).trans
    (updateStatus_regroups hw u now hns hname (hs₁.resource ▸ hf))
  refine Program.does_question_bind trivial ?_
  simp only [Backend.serve]
  split
  · exact Program.does_question_bind trivial (hsent.trans (.of_same (hw.frame _ _ rfl)))
  · split
    · exact hsent
    · split
      · exact hsent
      · exact Program.does_question_bind trivial (hsent.trans (.of_same (hw.frame _ _ rfl)))

theorem persistStatus_regroups (hw : w.Orderly vault) (u : StatusUpdate) (s : σ) :
    (Pass.persistStatus ns name u).Does (w.serve copy) (fun _ => True)
      (fun _ s' => Regroups w ns name u.kind s s') s := by
  have hattempt (s : σ) : (Pass.attempt ns name u).Does (w.serve copy) (fun _ => True)
      (fun a s' => (∀ result, a = .finished result → Regroups w ns name u.kind s s') ∧
        ∀ e, a = .lost e → Regroups w ns name u.kind s s' ∧ Regroups w ns name u.kind s s') s :=
    (attempt_regroups hw u s).mono fun _ _ hs' => ⟨fun _ _ => hs', fun _ _ => ⟨hs', hs'⟩⟩
  refine (persistStatus_does hw.toTruthful (fun _ _ => trivial) hattempt ?_ s).mono ?_
  · exact fun hlost hs hrest => (hlost.trans (.of_same hs)).trans hrest
  · rintro (e | outcome) s' ⟨hok, herror⟩
    · obtain ⟨-, hs'⟩ := herror e rfl
      exact hs'
    · exact hok outcome rfl

/-! ## The steps for one output -/

theorem noting_kept (hw : w.Orderly vault) (hk : k' ≠ k) (d : Digest k) {last : Pass Unit}
    (hlast : Silent w copy (fun _ => True) last) (s : σ) :
    (noting ns name k output d last).Does (w.serve copy) (fun _ => True)
      (fun _ s' => Kept w ns name k' s s') s := by
  refine Pass.Does.bind ((persistStatus_regroups hw _ s).mono ?_)
  rintro (e | outcome) s₁ hs₁
  · exact hs₁.kept hk
  · exact (hlast s₁).mono fun _ s' hs' => (hs₁.kept hk).trans (.of_same hs'.2)

theorem settle_kept (hw : w.Orderly vault) (hk : k' ≠ k) (wanted : k.Payload) (o : k.Object)
    (s : σ) : (settle r key ns name k output wanted o).Does (w.serve copy) (fun _ => True)
      (fun _ s' => Kept w ns name k' s s') s := by
  -- It does not matter here whether the rewrite is accepted.
  have hwritten : Kept w ns name k' s
      (w.after (.update k ns (OutputKind.replaceContent o wanted)) s) :=
    .of_apart hk (hw.update_apart k ns s _)
  refine settle_does hw.toTruthful (fun _ _ => trivial) (fun _ _ _ hs' => .of_same hs')
    (fun _ _ last hlast => noting_kept hw hk _ hlast s)
    fun _ => ⟨trivial, fun _ _ => hwritten, fun _ _ s₁ hs₁ last hlast => ?_⟩
  refine (noting_kept hw hk _ hlast s₁).mono ?_
  exact fun _ s' hs' => (hwritten.trans (.of_same hs₁)).trans hs'

/-- Seeing to the content of one output leaves the outputs of the other kind alone. -/
theorem sync_kept (hw : w.Orderly vault) (hk : k' ≠ k) (s : σ) :
    (Pass.Drift.sync r key ns name owner h k output).Does (w.serve copy) (fun _ => True)
      (fun _ s' => Kept w ns name k' s s') s := by
  refine sync_does hw.toTruthful (fun _ _ => trivial)
    (fun _ _ _ _ _ _ hs' => .of_same hs') (fun _ _ _ hs' => .of_same hs') ?_
  intro wanted o _ _ _ _ s₁ hs₁
  exact (settle_kept hw hk wanted o s₁).mono fun _ s' hs' => (Kept.of_same hs₁).trans hs'

/-- What comes after an output was created. -/
theorem created_does (hw : w.Orderly vault) (m : Kube.ObjectMeta) (m₁ m₂ : Signal) (s : σ) :
    (do
      Pass.tell m₁
      Pass.tell m₂
      let _ ← Pass.persistStatus ns name (.invalidate k)
      Pass.ask (.enqueue .drift key)
      Pass.ensureOwned r owner k m Event.reconcileOutput : Pass Unit).Does (w.serve copy)
        (fun _ => True) (fun _ s' => Regroups w ns name k s s') s := by
  refine Pass.does_tell_bind trivial (Pass.does_tell_bind trivial ?_)
  have htold := (hw.frame (.tell m₁) s rfl).trans (hw.frame (.tell m₂) _ rfl)
  refine Pass.Does.bind ((persistStatus_regroups hw _ _).mono ?_)
  rintro (e | outcome) s₁ hs₁
  · exact (Regroups.of_same htold).trans hs₁
  · refine Pass.does_ask_bind trivial ?_
    refine (ensureOwned_does hw.toTruthful (fun _ _ => trivial) m _ _).mono ?_
    rintro res s' ⟨hs', -⟩
    have hend := (hw.frame (.enqueue .drift key) s₁ rfl).trans hs'
    exact ((Regroups.of_same htold).trans hs₁).trans (.of_same hend)

/-- The output is there. -/
def Present (w : Backend σ) (ns : String) (k : OutputKind) (output : String) (s : σ) : Prop :=
  (w.object s k ns output).isSome = true

theorem Present.congr (hobject : w.object s' k = w.object s k) :
    Present w ns k output s' ↔ Present w ns k output s := by
  rw [Present, Present, hobject]

/-- Seeing to the existence of one output leaves the outputs of the other kind alone, and the output
is there if nothing fails. -/
theorem ensure_does (hw : w.Orderly vault) (hkey : Key.split? key = some (ns, name))
    (s : σ) : (Pass.Structural.ensure r key ns owner k output).Does (w.serve copy) (fun _ => True)
      (fun res s' => (∀ k', k' ≠ k → Kept w ns name k' s s') ∧
        (res = .ok () → Present w ns k output s')) s := by
  unfold Pass.Structural.ensure
  refine Pass.does_ask_bind trivial ?_
  have hread : w.Same s (w.after (.get k ns output) s) := hw.frame _ s rfl
  cases hreply : w.reply (.get k ns output) s with
  | ok o =>
    simp only [Backend.serve, hreply]
    refine (ensureOwned_does hw.toTruthful (fun _ _ => trivial) _ _ _).mono ?_
    rintro res s' ⟨hs', -⟩
    refine ⟨fun k' _ => .of_same (hread.trans hs'), fun _ => ?_⟩
    rw [Present, (hread.trans hs').object, (hw.get k ns output s o hreply).2]
    rfl
  | error e =>
    simp only [Backend.serve, hreply]
    cases he : e.isNotFound with
    | false =>
      refine Pass.Does.bind (Pass.does_throw ⟨fun k' _ => .of_same hread, fun hres => ?_⟩)
      cases hres
    | true =>
      simp only [Bool.not_true, Bool.false_eq_true, if_false]
      generalize w.after (.get k ns output) s = s₁ at hread
      refine Pass.does_ask_bind trivial ?_
      have hcreated (k' : OutputKind) (hk : k' ≠ k) : Kept w ns name k' s
          (w.after (.create k ns
            (Pass.Structural.fresh r (Pass.Structural.outputMeta ns output owner) k)) s₁) :=
        (Kept.of_same hread).trans (.of_apart hk (hw.create_apart k ns s₁ _))
      have hname : (OutputKind.metadata (Pass.Structural.fresh r
          (Pass.Structural.outputMeta ns output owner) k)).name = some output := by
        rw [Convergence.metadata_fresh]
        rfl
      generalize Pass.Structural.fresh r (Pass.Structural.outputMeta ns output owner) k = o
        at hcreated hname
      cases hanswer : w.reply (.create k ns o) s₁ with
      | error e =>
        simp only [Backend.serve, hanswer]
        refine Pass.Does.bind (Pass.does_throw ⟨hcreated, fun hres => ?_⟩)
        cases hres
      | ok created =>
        simp only [Backend.serve, hanswer, Pass.ofCluster, Pass.splitKey, hkey, pure_bind]
        refine (created_does hw _ _ _ _).mono ?_
        intro res s' hs'
        refine ⟨fun k' hk => (hcreated k' hk).trans (hs'.kept hk), fun _ => ?_⟩
        exact (Present.congr (congrFun hs'.object k)).2
          (hw.create k ns output s₁ o hname created hanswer)

/-! ## Both outputs -/

/-- Two steps in a row, the first of which leaves alone what the second is for. Nothing takes from
the first what it has done; the second does its part exactly if it is come to. -/
theorem exec_in_turn {serve : (r : Request) → σ → r.Answer × σ} {p q : Pass Unit}
    {first second : σ → Prop} {works : Prop}
    (hfirst : (Pass.exec serve p s).1 = .ok () →
      first (Pass.exec serve q (Pass.exec serve p s).2).2)
    (hsecond : works → second (Pass.exec serve q (Pass.exec serve p s).2).2)
    (hkept : second (Pass.exec serve p s).2 ↔ second s) :
    ((Pass.exec serve p s).1 = .ok () → first (Pass.exec serve (do p; q) s).2) ∧
      (works → (second (Pass.exec serve (do p; q) s).2 ↔
        (Pass.exec serve p s).1 = .ok () ∨ second s)) := by
  rcases hp : Pass.exec serve p s with ⟨e | ⟨⟨⟩⟩, s₁⟩
  -- The first step fails, and the second is never come to.
  · rw [Pass.exec_bind_error hp]
    rw [hp] at hkept
    exact ⟨nofun, fun _ => by simp [hkept]⟩
  · rw [Pass.exec_bind_ok hp]
    rw [hp] at hfirst hsecond
    exact ⟨fun _ => hfirst rfl, fun hworks => by simp [hsecond hworks]⟩

variable {a : SecretOutput} {b : ConfigMapOutput}

/-- The drift pass over a resource with both outputs. -/
theorem exec_drift (hkey : Key.split? key = some (ns, name)) (hh : Handler.select r = .ok h)
    (howner : r.ownerReference? = some owner) (hsecret : r.secretOutput? = some a)
    (hconfigMap : r.configMapOutput? = some b) (s : σ) :
    Pass.exec (w.serve (some r)) (Pass.drift key) s = Pass.exec (w.serve (some r)) (do
      Pass.Drift.sync r key ns name owner h .secret a.name
      Pass.Drift.sync r key ns name owner h .configMap b.name) s := by
  have hout : r.hasOutput = true := by simp [Resource.hasOutput, hsecret]
  rw [Pass.drift_eq, Pass.exec_bind_ok (Pass.exec_splitKey hkey), Pass.exec_ask_bind]
  simp only [Backend.serve, hout, if_true, Pass.Drift.over, hh]
  rw [Pass.exec_bind_ok (Pass.exec_ownerOf howner), Pass.declared_forM r
    (fun k output => Pass.Drift.sync r key ns name owner h k output)]
  simp only [hsecret, hconfigMap]

/-- The structural pass over a resource with both outputs; its last word changes nothing. -/
theorem exec_structural (hw : w.Orderly vault) (hkey : Key.split? key = some (ns, name))
    (howner : r.ownerReference? = some owner) (hsecret : r.secretOutput? = some a)
    (hconfigMap : r.configMapOutput? = some b) (s : σ) :
    w.Same (Pass.exec (w.serve (some r)) (do
        Pass.Structural.ensure r key ns owner .secret a.name
        Pass.Structural.ensure r key ns owner .configMap b.name) s).2
      (Pass.exec (w.serve (some r)) (Pass.structural key) s).2 := by
  have hout : r.hasOutput = true := by simp [Resource.hasOutput, hsecret]
  rw [Pass.structural_eq, Pass.exec_bind_ok (Pass.exec_splitKey hkey), Pass.exec_ask_bind]
  simp only [Backend.serve, hout, Bool.not_true, Bool.false_eq_true, if_false, Pass.Structural.over]
  rw [Pass.exec_bind_ok (Pass.exec_ownerOf howner), Pass.declared_forM r
    (fun k output => Pass.Structural.ensure r key ns owner k output)]
  simp only [hsecret, hconfigMap]
  generalize (do
    Pass.Structural.ensure r key ns owner .secret a.name
    Pass.Structural.ensure r key ns owner .configMap b.name : Pass Unit) = both
  rcases hboth : Pass.exec (w.serve (some r)) both s with ⟨e | ⟨⟨⟩⟩, s₁⟩
  · rw [Pass.exec_bind_error hboth]
    exact .refl
  · rw [Pass.exec_bind_ok hboth]
    exact hw.frame (.record _) s₁ rfl

/-- A resource asks for a Secret and for a ConfigMap. The steps of a pass for the Secret (`first`)
are followed by the steps for the ConfigMap from there on (`second`). If the steps for the Secret
succeed, then the drift pass leaves it done, and the structural pass leaves it there, whatever comes
of the ConfigMap. If the steps for the ConfigMap succeed, then so it is with the ConfigMap exactly
if the steps for the Secret succeed as well, or it was so before the pass. -/
theorem independent_iff (hw : w.Orderly vault) (hkey : Key.split? key = some (ns, name))
    (howner : r.ownerReference? = some owner) (hsecret : r.secretOutput? = some a)
    (hconfigMap : r.configMapOutput? = some b) (s : σ) :
    (∀ h, Handler.select r = .ok h →
      let first := Pass.exec (w.serve (some r))
        (Pass.Drift.sync r key ns name owner h .secret a.name) s
      let second := Pass.exec (w.serve (some r))
        (Pass.Drift.sync r key ns name owner h .configMap b.name) first.2
      let after := (Pass.exec (w.serve (some r)) (Pass.drift key) s).2
      (first.1 = .ok () → Done w vault r h ns name owner .secret a.name s after) ∧
        (second.1 = .ok () → (Done w vault r h ns name owner .configMap b.name s after ↔
          first.1 = .ok () ∨ Done w vault r h ns name owner .configMap b.name s s))) ∧
    (let first := Pass.exec (w.serve (some r))
        (Pass.Structural.ensure r key ns owner .secret a.name) s
      let second := Pass.exec (w.serve (some r))
        (Pass.Structural.ensure r key ns owner .configMap b.name) first.2
      let after := (Pass.exec (w.serve (some r)) (Pass.structural key) s).2
      (first.1 = .ok () → Present w ns .secret a.name after) ∧
        (second.1 = .ok () → (Present w ns .configMap b.name after ↔
          first.1 = .ok () ∨ Present w ns .configMap b.name s))) := by
  refine ⟨fun h hh => ?_, ?_⟩
  · intro first second after
    have hkept : Kept w ns name .configMap s first.2 := (sync_kept hw (by decide) s).exec
    have hkept' : Kept w ns name .secret first.2 second.2 :=
      (sync_kept hw (by decide) first.2).exec
    have hafter : after = (Pass.exec (w.serve (some r)) (do
        Pass.Drift.sync r key ns name owner h .secret a.name
        Pass.Drift.sync r key ns name owner h .configMap b.name) s).2 :=
      congrArg Prod.snd (exec_drift hkey hh howner hsecret hconfigMap s)
    rw [hafter]
    refine exec_in_turn (fun hfirst => ?_) (fun hsecond => ?_) hkept.done_iff
    · exact hkept'.done_iff.2 ((sync_done hw.toTruthful s).exec hfirst).1
    · exact ((sync_done hw.toTruthful first.2).exec hsecond).1.before hkept.unchanged
  · intro first second after
    have hafter (k : OutputKind) (output : String) :
        Present w ns k output after ↔ Present w ns k output (Pass.exec (w.serve (some r)) (do
          Pass.Structural.ensure r key ns owner .secret a.name
          Pass.Structural.ensure r key ns owner .configMap b.name) s).2 :=
      Present.congr (congrFun (exec_structural hw hkey howner hsecret hconfigMap s).object k)
    have hfirst : (∀ k, k ≠ .secret → Kept w ns name k s first.2) ∧
        (first.1 = .ok () → Present w ns .secret a.name first.2) := (ensure_does hw hkey s).exec
    have hsecond : (∀ k, k ≠ .configMap → Kept w ns name k first.2 second.2) ∧
        (second.1 = .ok () → Present w ns .configMap b.name second.2) :=
      (ensure_does hw hkey first.2).exec
    rw [hafter, hafter]
    refine exec_in_turn (fun hok => ?_) hsecond.2
      (Present.congr (hfirst.1 .configMap (by decide)).object)
    exact (Present.congr (hsecond.1 .secret (by decide)).object).2 (hfirst.2 hok)

end

/-! ## A Secret that cannot be seen to -/

/-- A resource with both outputs, the Secret without a key for its data. -/
def sampleBoth : Resource :=
  { Watch.app with
    spec.output := ⟨some ⟨"login", none, none⟩, some ⟨"settings", some "password"⟩, []⟩ }

/-- The ConfigMap of the resource, still without data. -/
def sampleSettings : Kube.ConfigMap :=
  ⟨{ login.metadata with name := some "settings" }, none, none, none⟩

/-- What is stored: the resource, and a Secret of the same name that belongs to nobody. -/
def sampleTaken : Memory where
  objects k ns name :=
    match k with
    | .secret =>
      if ns = "prod" ∧ name = "login" then
        some { login with
          metadata := { login.metadata with ownerReferences := none } }
      else none
    | .configMap => none
  resources ns name := if ns = "prod" ∧ name = "app" then some sampleBoth else none
  objects_named k ns name o ho := by
    cases k with
    | configMap => cases ho
    | secret =>
      obtain ⟨⟨-, rfl⟩, ho₁⟩ := Option.ite_none_right_eq_some.1 ho
      exact Option.some.inj ho₁ ▸ rfl
  resources_named ns name r hr := by
    obtain ⟨⟨rfl, rfl⟩, hr₁⟩ := Option.ite_none_right_eq_some.1 hr
    exact Option.some.inj hr₁ ▸ ⟨rfl, rfl⟩

/-- The ConfigMap is there, too. -/
def sampleUnfilled : Memory := sampleTaken.put .configMap "prod" sampleSettings

/-- A pass, or a part of one, for which the cache shows the resource. -/
def sampleExec (p : Pass Unit) (m : Memory) : Except PassError Unit × Memory :=
  Pass.exec (sampleBackend.serve (some sampleBoth)) p m

/-- The steps of the drift pass for one output. -/
def sampleSync (k : OutputKind) (output : String) : Memory → Except PassError Unit × Memory :=
  sampleExec
    (Pass.Drift.sync sampleBoth "prod/app" "prod" "app" Watch.appOwner (.secret []) k output)

/-- The steps of the structural pass for one output. -/
def sampleEnsure (k : OutputKind) (output : String) : Memory → Except PassError Unit × Memory :=
  sampleExec (Pass.Structural.ensure sampleBoth "prod/app" "prod" Watch.appOwner k output)

/-- The ConfigMap is not done, whatever it may hold: nothing is noted of it. -/
theorem not_done_sample (m : Memory)
    (hm : sampleBackend.resource m "prod" "app" = some sampleBoth) :
    ¬ Done sampleBackend sampleVault sampleBoth (.secret []) "prod" "app"
      Watch.appOwner .configMap "settings" m m := by
  rintro ⟨wanted, -, -, hrecorded | ⟨hcopy, -⟩⟩
  · exact nomatch hrecorded sampleBoth hm
  · exact nomatch hcopy

/-- The steps for the ConfigMap would succeed, but it is neither filled, as the Secret has no key
for its data, nor created, as the name of the Secret is taken. -/
theorem independent_iff_withheld :
    ((sampleSync .secret "login" sampleUnfilled).1 ≠ .ok () ∧
      (sampleSync .configMap "settings" (sampleSync .secret "login" sampleUnfilled).2).1 = .ok () ∧
      ¬ Done sampleBackend sampleVault sampleBoth (.secret []) "prod" "app"
        Watch.appOwner .configMap "settings" sampleUnfilled
        (sampleExec (Pass.drift "prod/app") sampleUnfilled).2) ∧
    (sampleEnsure .secret "login" sampleTaken).1 ≠ .ok () ∧
      (sampleEnsure .configMap "settings" (sampleEnsure .secret "login" sampleTaken).2).1 = .ok () ∧
      ¬ Present sampleBackend "prod" .configMap "settings"
        (sampleExec (Pass.structural "prod/app") sampleTaken).2 := by
  have hw : sampleBackend.Orderly sampleVault := Memory.orderly _
  have hkey : Key.split? "prod/app" = some ("prod", "app") := by decide
  have howner : sampleBoth.ownerReference? = some Watch.appOwner := rfl
  have hsecret : sampleBoth.secretOutput? = some ⟨"login", none, none⟩ := by decide
  have hconfigMap : sampleBoth.configMapOutput? = some ⟨"settings", some "password"⟩ := by decide
  refine ⟨?_, ?_⟩
  · have hfirst : (sampleSync .secret "login" sampleUnfilled).1 ≠ .ok () := by decide +kernel
    have hsecond : (sampleSync .configMap "settings"
        (sampleSync .secret "login" sampleUnfilled).2).1 = .ok () := by decide +kernel
    refine ⟨hfirst, hsecond, fun hdone => ?_⟩
    have hiff := ((independent_iff hw hkey howner hsecret hconfigMap sampleUnfilled).1 (.secret [])
      rfl).2 hsecond
    exact (hiff.1 hdone).elim hfirst (not_done_sample sampleUnfilled rfl)
  · have hfirst : (sampleEnsure .secret "login" sampleTaken).1 ≠ .ok () := by decide +kernel
    have hsecond : (sampleEnsure .configMap "settings"
        (sampleEnsure .secret "login" sampleTaken).2).1 = .ok () := by decide +kernel
    refine ⟨hfirst, hsecond, fun hpresent => ?_⟩
    have hiff := (independent_iff hw hkey howner hsecret hconfigMap sampleTaken).2.2 hsecond
    exact (hiff.1 hpresent).elim hfirst nofun

end VaultProjection.Independence

import VaultProjection.Proofs.Idempotence.Writes
import VaultProjection.Proofs.Watch.Shelf

/-!
# A drift pass that has nothing left to do

A pass over a key ended well, and nobody else writes. The next pass over the key ends well, too, and
writes nothing: not to an output, and not to a status.

Results:
1. `drift_quiet`: a pass writes nothing if all outputs are done that its copy asks for.
2. `quiet_again`: the next pass may read the copy that the first one read, however old, or what is
   stored by now, if the copy was what was stored then.
3. `not_quiet_same_status`: it is not enough that the copy had the status that was stored.
-/

namespace VaultProjection.Idempotence

open Convergence (Keeps Vaults)
open Backend (Same Unchanged Lawful)

section

variable {σ : Type} {w : Backend σ} {vault : Vaults} {copy : Option Resource}
  {key ns name output : String} {r f : Resource} {owner : Kube.OwnerReference} {h : Handler}
  {k : OutputKind} {s s' : σ}

/-- Only requests that write nothing. -/
def Reads (q : Request) : Prop := q.isWrite = false

/-! ## Nothing left to do -/

/-- An attempt to note what is noted sends nothing. -/
theorem attempt_quiet (hw : w.Lawful vault) {d : Digest k}
    (hr : Recorded w ns name k output d s) :
    (Pass.attempt ns name (.record k output d)).Does (w.serve copy) Reads
      (fun a s' => (∃ outcome, a = .finished (.ok outcome)) ∧ w.Same s s') s := by
  refine attempt_does hw.truthful (fun _ hq => hq) ?_ ?_ ?_ ?_
  · intro e hreply he
    rw [(hw.resource_of_error hreply).2] at he
    cases he
  · exact fun _ s' hs' => ⟨⟨_, rfl⟩, hs'⟩
  · exact fun _ _ _ _ s' hs' => ⟨⟨_, rfl⟩, hs'⟩
  · intro f now _ _ hf hdiffers
    obtain ⟨hname, hhash⟩ := Prod.mk.inj (hr f hf)
    rw [StatusUpdate.sameGroups_apply_record.2 ⟨hname, hhash⟩] at hdiffers
    cases hdiffers

theorem persistStatus_quiet (hw : w.Lawful vault) {d : Digest k}
    (hr : Recorded w ns name k output d s) :
    (Pass.persistStatus ns name (.record k output d)).Does (w.serve copy) Reads
      (fun res s' => (∃ outcome, res = .ok outcome) ∧ w.Same s s') s := by
  unfold Pass.persistStatus Pass.persist Pass.statusAttempts Pass.persistFrom
  refine Pass.Does.bind (Pass.does_lift (Program.Does.bind ((attempt_quiet hw hr).mono ?_)))
  rintro _ s' ⟨⟨outcome, rfl⟩, hs'⟩
  exact Pass.does_pure ⟨⟨outcome, rfl⟩, hs'⟩

theorem settle_quiet (hw : w.Lawful vault) {wanted : k.Payload} {o : k.Object}
    (hc : Digest.ofPayload (OutputKind.content o) = Digest.ofPayload wanted)
    (hn : Recorded w ns name k output (Digest.ofPayload wanted) s ∨
      r.noted k = (some output, some (Digest.ofPayload wanted).hex)) :
    (settle r key ns name k output wanted o).Does (w.serve copy) Reads
      (fun res s' => res = .ok () ∧ w.Same s s') s := by
  refine settle_does hw.truthful (fun _ hq => hq) (fun _ _ s' hs' => ⟨rfl, hs'⟩) ?_
    fun hc' => absurd hc hc'
  -- The copy is too old to show the note, but the write of the status starts from a fresh one.
  intro _ hcopy last hlast
  refine Pass.Does.bind ((persistStatus_quiet hw (hn.resolve_right hcopy)).mono ?_)
  rintro _ s₁ ⟨⟨outcome, rfl⟩, hs₁⟩
  exact (hlast s₁).mono fun _ s' ⟨hres, hs'⟩ => ⟨hres, hs₁.trans hs'⟩

/-- What was done from some state on is done. -/
theorem Done.here (hd : Done w vault r h ns name owner k output s s') :
    Done w vault r h ns name owner k output s' s' := by
  obtain ⟨wanted, hwanted, hcurrent, hnoted⟩ := hd
  exact ⟨wanted, hwanted, hcurrent, hnoted.imp_right fun ⟨hr, _⟩ => ⟨hr, .of_resource rfl⟩⟩

theorem Done.of_same (hs : w.Same s s') (hd : Done w vault r h ns name owner k output s s) :
    Done w vault r h ns name owner k output s' s' := by
  have hspares : Spares w ns name [] s s' := .of_same hs
  exact (hd.after List.not_mem_nil hspares).here

theorem sync_quiet (hw : w.Lawful vault) (hd : Done w vault r h ns name owner k output s s) :
    (Pass.Drift.sync r key ns name owner h k output).Does (w.serve copy) Reads
      (fun res s' => res = .ok () ∧ w.Same s s') s := by
  obtain ⟨wanted, hwanted, ⟨o, ho, howned, hc⟩, hn⟩ := hd
  refine sync_does hw.truthful (fun _ hq => hq) ?_
    (fun hno => absurd ⟨wanted, o, hwanted, ho, howned⟩ hno) ?_
  · intro e s₁ hs₁ hreply
    rw [← hs₁.object, hw.object_of_error hreply] at ho
    cases ho
  · intro wanted' o' hwanted' _ ho' _ s₁ hs₁
    obtain rfl : wanted = wanted' := Except.ok.inj (hwanted ▸ hwanted')
    obtain rfl : o = o' := Option.some.inj (ho ▸ ho')
    have hn₁ : Recorded w ns name k output (Digest.ofPayload wanted) s₁ ∨
        r.noted k = (some output, some (Digest.ofPayload wanted).hex) :=
      hn.imp (·.of_same hs₁) And.left
    refine (settle_quiet hw hc hn₁).mono ?_
    exact fun _ s' ⟨hres, hs'⟩ => ⟨hres, hs₁.trans hs'⟩

theorem syncAll_quiet (hw : w.Lawful vault) {ds : List (OutputKind × String)}
    (hds : ∀ d ∈ ds, Done w vault r h ns name owner d.1 d.2 s s) :
    (ds.forM fun d => Pass.Drift.sync r key ns name owner h d.1 d.2).Does (w.serve copy) Reads
      (fun res _ => res = .ok ()) s := by
  induction ds generalizing s with
  | nil => exact Pass.does_pure rfl
  | cons d ds ih =>
    refine Pass.Does.bind ((sync_quiet hw (hds d List.mem_cons_self)).mono ?_)
    rintro _ s₁ ⟨rfl, hs₁⟩
    exact ih fun d' hd' => (hds d' (List.mem_cons_of_mem _ hd')).of_same hs₁

/-- A pass that finds all outputs done ends well and writes nothing. -/
theorem drift_quiet (hw : w.Lawful vault) (hkey : Key.split? key = some (ns, name))
    (hdone : ∀ r, copy = some r → AllDone w vault ns name r s s) :
    (Pass.drift key).Does (w.serve copy) Reads (fun res _ => res = .ok ()) s := by
  refine drift_does hw.truthful (fun _ hq => hq) hkey (fun _ _ _ => rfl) ?_ ?_
  · intro r hr hout hno
    obtain ⟨h, owner, hh, howner, -⟩ := hdone r hr hout
    exact absurd ⟨h, owner, hh, howner⟩ hno
  · intro r h owner hr hout hh howner
    obtain ⟨h', owner', hh', howner', hdones⟩ := hdone r hr hout
    obtain rfl : h = h' := Except.ok.inj (hh ▸ hh')
    obtain rfl : owner = owner' := Option.some.inj (howner ▸ howner')
    exact syncAll_quiet hw hdones

/-! ## The next pass -/

/-- The pass over the key ends well and asks for no write. -/
def Quiet (w : Backend σ) (copy : Option Resource) (key : String) (s : σ) : Prop :=
  (Pass.exec (w.serve copy) (Pass.drift key) s).1 = .ok () ∧
    ∀ e ∈ (Pass.drift key).run.transcript (w.serve copy) s, e.request.isWrite = false

instance (res : Except PassError Unit) : Decidable (res = .ok ()) :=
  decidable_of_iff (res.toBool = true) (by cases res <;> simp [Except.toBool])

instance (w : Backend σ) (copy : Option Resource) (key : String) (s : σ) :
    Decidable (Quiet w copy key s) := inferInstanceAs (Decidable (_ ∧ _))

theorem quiet_of_done (hw : w.Lawful vault) (hkey : Key.split? key = some (ns, name))
    (hdone : ∀ r, copy = some r → AllDone w vault ns name r s s) : Quiet w copy key s :=
  ⟨(drift_quiet hw hkey hdone).exec, (drift_quiet hw hkey hdone).asked⟩

/-- What is stored has the status and the declaration of the copy. -/
def Agrees (w : Backend σ) (ns name : String) (copy : Option Resource) (s : σ) : Prop :=
  ∀ f, w.resource s ns name = some f →
    ∃ r, copy = some r ∧ f.status = r.status ∧ f.declaration = r.declaration

/-- What was done for a copy is done for what is stored by now, if they agreed before. -/
theorem AllDone.stored (hd : AllDone w vault ns name r s s')
    (hkept : w.Unchanged ns name Resource.declaration s s')
    (hagree : ∀ f, w.resource s ns name = some f →
      f.status = r.status ∧ f.declaration = r.declaration)
    (hf : w.resource s' ns name = some f) : AllDone w vault ns name f s' s' := by
  obtain ⟨f₀, hf₀, hdeclaration⟩ := hkept f hf
  obtain ⟨hstatus, hdeclaration₀⟩ := hagree f₀ hf₀
  have hsame : f.declaration = r.declaration := hdeclaration.trans hdeclaration₀
  intro hout
  have hspec : f.spec = r.spec := Resource.spec_congr hsame
  rw [Resource.hasOutput_congr hspec] at hout
  obtain ⟨h, owner, hh, howner, hdones⟩ := hd hout
  rw [← Handler.select_congr hspec] at hh
  rw [← Resource.ownerReference?_congr hsame] at howner
  rw [← Resource.declared_congr hspec] at hdones
  refine ⟨h, owner, hh, howner, fun d hd' => ?_⟩
  obtain ⟨wanted, hwanted, hcurrent, hnoted⟩ := hdones d hd'
  refine ⟨wanted, ?_, hcurrent, .inl ?_⟩
  · rw [Handler.recipe_congr _ hspec, hspec, hwanted]
  · rcases hnoted with hrecorded | ⟨hr, hkept⟩
    · exact hrecorded
    · -- Nobody wrote to the group, which is in what is stored as it was in the copy.
      intro f' hf'
      obtain ⟨f₁, hf₁, hnoted⟩ := hkept f' hf'
      calc f'.noted d.1 = f₁.noted d.1 := hnoted
        _ = r.noted d.1 := by simp only [Resource.noted, (hagree f₁ hf₁).1]
        _ = (some d.2, some (Digest.ofPayload wanted).hex) := hr

/-- A pass over a key ended well, and nobody else writes. Then the next pass ends well and writes
nothing, if it reads the same copy, however old. So it does if it reads what is stored by now, and
the copy was what was stored then: in its status, its spec, its name and its uid. -/
theorem quiet_again (hw : w.Lawful vault) (hkey : Key.split? key = some (ns, name))
    (hok : Pass.exec (w.serve copy) (Pass.drift key) s = (.ok (), s')) :
    Quiet w copy key s' ∧
      (Agrees w ns name copy s → Quiet w (w.resource s' ns name) key s') := by
  obtain ⟨hdone, hkept⟩ := (drift_done hw hkey s).of_exec hok rfl
  refine ⟨quiet_of_done hw hkey fun r hr => ?_, fun hagree => quiet_of_done hw hkey fun f hf => ?_⟩
  · intro hout
    obtain ⟨h, owner, hh, howner, hdones⟩ := hdone r hr hout
    exact ⟨h, owner, hh, howner, fun d hd => (hdones d hd).here⟩
  · obtain ⟨f₀, hf₀, -⟩ := hkept f hf
    obtain ⟨r, hr, -⟩ := hagree f₀ hf₀
    refine (hdone r hr).stored hkept (fun f₁ hf₁ => ?_) hf
    obtain ⟨r', hr', hsame⟩ := hagree f₁ hf₁
    obtain rfl : r = r' := Option.some.inj (hr ▸ hr')
    exact hsame

end

/-! ## One resource -/

/-- A resource that asks for an object of the vault in the Secret `login`, and notes nothing. -/
def asking (uid object : String) : Resource :=
  { Watch.app with metadata.uid := some uid, spec.vault.object.name := object }

/-- Each object of the vault has its own name as its value. -/
def sampleVault : Vaults := fun v _ => .ok ⟨v.object.name, none⟩

/-- The Secret of the resource with the uid `u1`, with the value of the object `password`. -/
def login : Kube.Secret :=
  ⟨{ Kube.ObjectMeta.empty with
      name := some "login", ns := some "prod", ownerReferences := some [Watch.appOwner] },
    some [("password", Bytes.ofText "password")], none, none, some defaultSecretType⟩

/-- What is stored: the Secret, and the resource. -/
def sampleMemory (uid object : String) : Memory where
  objects k ns name :=
    match k with
    | .secret => if ns = "prod" ∧ name = "login" then some login else none
    | .configMap => none
  resources ns name := if ns = "prod" ∧ name = "app" then some (asking uid object) else none
  objects_named k ns name o ho := by
    cases k with
    | configMap => cases ho
    | secret =>
      obtain ⟨⟨-, rfl⟩, ho₁⟩ := Option.ite_none_right_eq_some.1 ho
      exact Option.some.inj ho₁ ▸ rfl
  resources_named ns name r hr := by
    obtain ⟨⟨rfl, rfl⟩, hr₁⟩ := Option.ite_none_right_eq_some.1 hr
    exact Option.some.inj hr₁ ▸ ⟨rfl, rfl⟩

def sampleBackend : Backend Memory := .memory sampleVault

theorem sampleBackend_lawful : sampleBackend.Lawful sampleVault := Memory.lawful _

theorem sampleMemory_resource {uid object : String} {f : Resource}
    (hf : sampleBackend.resource (sampleMemory uid object) "prod" "app" = some f) :
    f = asking uid object := by
  have hf₁ : (if "prod" = "prod" ∧ "app" = "app" then some (asking uid object) else none) =
    some f := hf
  simpa [eq_comm] using hf₁

/-- The pass over the resource, when the cache shows the resource as it was once. -/
def samplePass (m : Memory) : Except PassError Unit × Memory :=
  Pass.exec (sampleBackend.serve (some (asking "u1" "password"))) (Pass.drift "prod/app") m

/-- What is stored after the pass. -/
def sampleNext (uid object : String) : Memory := (samplePass (sampleMemory uid object)).2

theorem samplePass_of_ok {uid object : String}
    (h : (samplePass (sampleMemory uid object)).1 = .ok ()) :
    samplePass (sampleMemory uid object) = (.ok (), sampleNext uid object) := by
  rw [sampleNext, ← h]

/-- The first pass notes the content of the Secret, and the next one writes nothing, whether it
reads the old copy or what is stored by now. -/
theorem quiet_again_login :
    samplePass (sampleMemory "u1" "password") = (.ok (), sampleNext "u1" "password") ∧
    (((sampleNext "u1" "password").resources "prod" "app").bind (·.status)).isSome = true ∧
    Quiet sampleBackend (some (asking "u1" "password")) "prod/app" (sampleNext "u1" "password") ∧
    Quiet sampleBackend (sampleBackend.resource (sampleNext "u1" "password") "prod" "app")
      "prod/app" (sampleNext "u1" "password") := by
  have hkey : Key.split? "prod/app" = some ("prod", "app") := by decide
  have hok : samplePass (sampleMemory "u1" "password") = (.ok (), sampleNext "u1" "password") :=
    samplePass_of_ok (by decide +kernel)
  obtain ⟨hsame, hstored⟩ := quiet_again sampleBackend_lawful hkey hok
  refine ⟨hok, by decide +kernel, hsame, hstored fun f hf => ?_⟩
  exact ⟨_, rfl, sampleMemory_resource hf ▸ ⟨rfl, rfl⟩⟩

/-- It is not enough that the copy had the status that was stored. The resource may ask for another
object by now, which the next pass writes; or it is another resource of the same name, which the
Secret does not belong to. -/
theorem not_quiet_same_status :
    sampleBackend.Lawful sampleVault ∧ ∀ p ∈ [("u1", "token"), ("u2", "password")],
      (∀ f, sampleBackend.resource (sampleMemory p.1 p.2) "prod" "app" = some f →
        f.status = (asking "u1" "password").status) ∧
      samplePass (sampleMemory p.1 p.2) = (.ok (), sampleNext p.1 p.2) ∧
      ¬ Quiet sampleBackend (sampleBackend.resource (sampleNext p.1 p.2) "prod" "app") "prod/app"
        (sampleNext p.1 p.2) := by
  have hfirst : ∀ p ∈ [("u1", "token"), ("u2", "password")],
      (samplePass (sampleMemory p.1 p.2)).1 = .ok () := by decide +kernel
  have hsecond : ∀ p ∈ [("u1", "token"), ("u2", "password")],
      ¬ Quiet sampleBackend (sampleBackend.resource (sampleNext p.1 p.2) "prod" "app") "prod/app"
        (sampleNext p.1 p.2) := by decide +kernel
  refine ⟨sampleBackend_lawful, fun p hp => ⟨fun f hf => ?_, ?_, hsecond p hp⟩⟩
  · rw [sampleMemory_resource hf]
    rfl
  · exact samplePass_of_ok (hfirst p hp)

end VaultProjection.Idempotence

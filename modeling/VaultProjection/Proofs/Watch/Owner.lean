import VaultProjection.Dispatch
import VaultProjection.Pass.Structural
import VaultProjection.Proofs.Queue.Pair
import VaultProjection.Proofs.Watch.Shelf

/-!
# The owner of a deleted output

Who owns an object is read from its owner references in three ways: a new output is given one, a
pass looks for any that controls it and names the resource, and a deletion follows the first that
controls it and names the kind. Where at most one reference controls an object the three agree, so
the deletion of an output sends its owner to the structural queue, which creates it again.

Results:
1. `controllerKey?_of_sole`: a deletion follows the reference by which a pass takes an object for
   owned.
2. `deleted_finds_owner`: the deletion of an owned object sends the key of its owner, and a new
   output is owned by its resource alone.
-/

namespace VaultProjection

namespace Kube.ObjectMeta

variable {m : ObjectMeta} {owner ref : OwnerReference}

/-- The owner references that control the object. -/
def controllers (m : ObjectMeta) : List OwnerReference :=
  (m.ownerReferences.getD []).filter (·.controller == some true)

/-- A deletion looks for the kind among the references that control the object. -/
theorem controllerKey?_eq (m : ObjectMeta) : m.controllerKey? = m.ns.bind fun ns =>
    (m.controllers.find? (·.kind == Resource.kind)).map fun ref => Key.join ns ref.name := by
  simp only [controllerKey?, controllers, List.find?_filter, Option.bind_eq_bind,
    Option.map_eq_bind, Bool.decide_and, Bool.decide_eq_true]
  rfl

/-- A pass looks for the kind, the name and the uid among them. -/
theorem isControlledBy_iff : m.isControlledBy owner = true ↔
    ∃ ref ∈ m.controllers, ref.kind = owner.kind ∧ ref.name = owner.name ∧ ref.uid = owner.uid := by
  simp only [isControlledBy, controllers, List.any_eq_true, List.mem_filter, Bool.and_eq_true,
    beq_iff_eq, and_assoc]

theorem controllers_of_sole (hsole : m.controllers.length ≤ 1) (href : ref ∈ m.controllers) :
    m.controllers = [ref] := by
  have hone : m.controllers.length = 1 := Nat.le_antisymm hsole (List.length_pos_of_mem href)
  obtain ⟨c, hc⟩ := List.length_eq_one_iff.1 hone
  rw [hc] at href ⊢
  rw [List.mem_singleton.1 href]

/-- Where at most one reference controls an object, a deletion follows the one by which a pass takes
the object for owned. -/
theorem controllerKey?_of_sole {ns : String} (hns : m.ns = some ns)
    (hsole : m.controllers.length ≤ 1) (hkind : owner.kind = Resource.kind)
    (howned : m.isControlledBy owner = true) :
    m.controllerKey? = some (Key.join ns owner.name) := by
  obtain ⟨ref, href, hrefkind, hrefname, -⟩ := isControlledBy_iff.1 howned
  rw [controllerKey?_eq, hns, controllers_of_sole hsole href]
  simp [hrefkind, hkind, hrefname]

end Kube.ObjectMeta

namespace Queues

/-- The deletion of a controlled object adds the key to the structural queue, and does no more. -/
theorem dispatchDeleted_of_key {m : Kube.ObjectMeta} {key : String}
    (h : m.controllerKey? = some key) (qs : Queues) (kind : String) :
    (qs.dispatchDeleted kind m).1 = (qs.add .structural key).1 ∧
      (qs.dispatchDeleted kind m).2.1 = some key := by
  simp only [dispatchDeleted, h, and_self]

end Queues

namespace Resource

variable {r : Resource} {owner : Kube.OwnerReference} {ns : String}

/-- One reference controls a new output: that to its resource. -/
theorem controllers_outputMeta (h : r.ownerReference? = some owner) (ns output : String) :
    (Pass.Structural.outputMeta ns output owner).controllers = [owner] := by
  obtain ⟨name, uid, -, -, rfl⟩ := ownerReference?_eq_some.1 h
  rfl

/-- A new output is owned by the resources with the name and the uid of the one it was made for. -/
theorem isControlledBy_outputMeta (h : r.ownerReference? = some owner) {r' : Resource}
    {owner' : Kube.OwnerReference} (h' : r'.ownerReference? = some owner') (ns output : String) :
    (Pass.Structural.outputMeta ns output owner).isControlledBy owner' = true ↔
      r'.metadata.name = r.metadata.name ∧ r'.metadata.uid = r.metadata.uid := by
  rw [Kube.ObjectMeta.isControlledBy_iff, controllers_outputMeta h]
  obtain ⟨name, uid, hname, huid, rfl⟩ := ownerReference?_eq_some.1 h
  obtain ⟨name', uid', hname', huid', rfl⟩ := ownerReference?_eq_some.1 h'
  simp [hname, huid, hname', huid', eq_comm]

/-! ## Main result -/

/-- An object in the namespace of a resource that no two references control, and that a pass takes
for the resource's, leads back to it when it is deleted: the reference that is followed gives the
key of the resource, the key splits into its namespace and name, and it is asked for on the
structural queue, while the drift queue stays as it is. A new output is such an object, and of all
resources those with this name and uid own it. -/
theorem deleted_finds_owner {name : String} (hnamed : r.Named ns name)
    (howner : r.ownerReference? = some owner) :
    (∀ m : Kube.ObjectMeta, m.ns = r.metadata.ns → m.controllers.length ≤ 1 →
      m.isControlledBy owner = true →
        m.controllerKey? = some (Key.join ns name) ∧
        Key.split? (Key.join ns name) = some (ns, name) ∧
        ∀ (qs : Queues) (kind : String), qs.structural.stopped = false →
          (qs.dispatchDeleted kind m).2.1 = some (Key.join ns name) ∧
          Key.join ns name ∈ (qs.dispatchDeleted kind m).1.structural.dirty ∧
          (qs.dispatchDeleted kind m).1.drift = qs.drift) ∧
      ∀ output, let m := Pass.Structural.outputMeta ns output owner
        m.ns = r.metadata.ns ∧ m.controllers = [owner] ∧ m.isControlledBy owner = true ∧
          ∀ (r' : Resource) owner', r'.ownerReference? = some owner' →
            (m.isControlledBy owner' = true ↔
              r'.metadata.name = r.metadata.name ∧ r'.metadata.uid = r.metadata.uid) := by
  refine ⟨fun m hm hsole howned => ?_, fun output => ?_⟩
  · have hkey : m.controllerKey? = some (Key.join ns name) := by
      obtain ⟨name', uid, hname', -, rfl⟩ := ownerReference?_eq_some.1 howner
      obtain rfl : name = name' := Option.some.inj (hnamed.name_eq.symm.trans hname')
      exact Kube.ObjectMeta.controllerKey?_of_sole (hm.trans hnamed.ns_eq) hsole rfl howned
    refine ⟨hkey, Key.split?_join hnamed.ns_part hnamed.name_part, fun qs kind works => ?_⟩
    obtain ⟨hqueues, hsent⟩ := Queues.dispatchDeleted_of_key hkey qs kind
    rw [hqueues]
    exact ⟨hsent, (WorkQueue.mem_dirty_add works).2 (.inr rfl), rfl⟩
  · refine ⟨hnamed.ns_eq.symm, controllers_outputMeta howner ns output, ?_, fun r' owner' h' => ?_⟩
    · exact (isControlledBy_outputMeta howner howner ns output).2 ⟨rfl, rfl⟩
    · exact isControlledBy_outputMeta howner h' ns output

/-- The metadata of an object with three owners, of which a former resource with this name comes
first but does not control it. -/
def shared : Kube.ObjectMeta :=
  { Kube.ObjectMeta.empty with
    ns := some "prod"
    ownerReferences := some [⟨apiVersion, none, none, kind, "app", "u0"⟩, Watch.appOwner,
      ⟨"apps/v1", none, some false, "Deployment", "web", "u2"⟩] }

/-- The deletion of that object asks for its owner, whatever waits on the structural queue. -/
theorem deleted_finds_owner_shared : Watch.app.Named "prod" "app" ∧
    ∃ owner, Watch.app.ownerReference? = some owner ∧ shared.isControlledBy owner = true ∧
      shared.controllerKey? = some "prod/app" ∧
      ∀ qs : Queues, qs.structural.stopped = false →
        "prod/app" ∈ (qs.dispatchDeleted "Secret" shared).1.structural.dirty := by
  have howned : shared.isControlledBy Watch.appOwner = true := by decide
  obtain ⟨hkey, -, hsent⟩ :=
    (deleted_finds_owner Watch.app_named Watch.app_owner).1 shared rfl (by decide) howned
  exact ⟨Watch.app_named, _, Watch.app_owner, howned, hkey,
    fun qs works => (hsent qs "Secret" works).2.1⟩

end Resource

end VaultProjection

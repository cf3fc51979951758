import VaultProjection.Proofs.Status.Exact

/-!
# A resource is read back as it was written

A spec and a status are written as records of records: names of members differ from those of fields,
values that are absent are `null`, and the status itself is left out if there is none. What is
written of each record, its reader reads as that record, so nothing that a resource says is lost on
the way through the cluster but what is lost of its metadata. A document may spell a resource in
many ways; what it is read as is written in one, and that is read as the same resource.

Results:
1. `exists_fields`: the fields of a closed record are the members that were written.
2. `Spec.readsBack`, `Status.readsBack`: a record is read back from what is written of it.
3. `Resource.ofJson?_toJson`: a resource is read back but for its metadata.
4. `Resource.roundTrip`: reading and writing resources agree.
-/

namespace VaultProjection

/-! ## Fields of what is written -/

namespace Json.Raw

/-- The fields of a closed record are the members that were written, whatever their order. -/
theorem exists_fields {j : Json} {es : List (String × Json)} (hj : j = .ofMembers es)
    (hnodup : (Entries.keys es).Nodup) (names : List String) (least : Nat := 0) :
    ∃ fields, (ofJson j).fields? names least = some fields ∧
      ∀ name ∈ names, fields.lookup name = (Entries.get? es name).map ofJson := by
  subst hj
  obtain ⟨fields, hfields⟩ := fields?_obj (Entries.sorted_ofList es) names least
  refine ⟨fields, hfields, fun name hname => ?_⟩
  rw [lookup_fields hfields hname, Entries.get?_ofList hnodup]

namespace ReadsBack

variable {α : Type} {write : α → Json} {read : Raw → Option α}
  {fields : List (String × Raw)} {name : String}

theorem list (h : ReadsBack write read) :
    ReadsBack (fun as => .arr (as.map write)) (list? read) := by
  refine ⟨fun as => ?_, fun _ => rfl⟩
  rw [ofJson, list?]
  induction as with
  | nil => rfl
  | cons a as ih =>
    rw [List.map_cons, ofItems, List.mapM_cons, h.back, ih]
    rfl

theorem required (h : ReadsBack write read) {a : α}
    (hfield : fields.lookup name = some (ofJson (write a))) :
    required? fields name read = some a := by
  rw [required?, hfield]
  exact h.back a

/-- A field that is `null` if its value is absent is read back. -/
theorem maybe (h : ReadsBack write read) {a : Option α}
    (hfield : fields.lookup name = some (ofJson (.ofOption write a))) :
    maybe? fields name read = some a := by
  rw [maybe?, hfield]
  cases a with
  | none => rfl
  | some a => simp [ofOption, optional?, h.notNull, h.back]

theorem defaulted (h : ReadsBack write read) {a : α}
    (hfield : fields.lookup name = some (ofJson (write a))) (fallback : α) :
    defaulted? fields name fallback read = some a := by
  rw [defaulted?, hfield]
  exact h.back a

end ReadsBack

end Json.Raw

/-! ## Records -/

open Json.Raw

theorem VaultObject.readsBack : ReadsBack toJson read? := by
  refine ⟨fun o => ?_, fun _ => rfl⟩
  obtain ⟨fields, hfields, hfield⟩ := exists_fields (j := o.toJson) rfl (by simp [Entries.keys])
    ["name", "type", "version", "contentType"]
  have hname := readsBack_str.required (hfield "name" (by simp))
  have htype := readsBack_str.required (hfield "type" (by simp))
  have hversion := readsBack_str.maybe (hfield "version" (by simp))
  have hcontentType := readsBack_str.maybe (hfield "contentType" (by simp))
  simp only [read?, hfields, Option.bind_eq_bind, Option.bind_some, hname, htype, hversion,
    hcontentType]

theorem VaultRef.readsBack : ReadsBack toJson read? := by
  refine ⟨fun v => ?_, fun _ => rfl⟩
  obtain ⟨fields, hfields, hfield⟩ := exists_fields (j := v.toJson) rfl (by simp [Entries.keys])
    ["name", "object"]
  have hname := readsBack_str.required (hfield "name" (by simp))
  have hobject := VaultObject.readsBack.required (hfield "object" (by simp))
  simp only [read?, hfields, Option.bind_eq_bind, Option.bind_some, hname, hobject]

theorem SecretOutput.readsBack : ReadsBack toJson read? := by
  refine ⟨fun o => ?_, fun _ => rfl⟩
  obtain ⟨fields, hfields, hfield⟩ := exists_fields (j := o.toJson) rfl (by simp [Entries.keys])
    ["name", "type", "dataKey"]
  have hname := readsBack_str.required (hfield "name" (by simp))
  have htype := readsBack_str.maybe (hfield "type" (by simp))
  have hdataKey := readsBack_str.maybe (hfield "dataKey" (by simp))
  simp only [read?, hfields, Option.bind_eq_bind, Option.bind_some, hname, htype, hdataKey]

theorem ConfigMapOutput.readsBack : ReadsBack toJson read? := by
  refine ⟨fun o => ?_, fun _ => rfl⟩
  obtain ⟨fields, hfields, hfield⟩ := exists_fields (j := o.toJson) rfl (by simp [Entries.keys])
    ["name", "dataKey"]
  have hname := readsBack_str.required (hfield "name" (by simp))
  have hdataKey := readsBack_str.maybe (hfield "dataKey" (by simp))
  simp only [read?, hfields, Option.bind_eq_bind, Option.bind_some, hname, hdataKey]

theorem Outputs.readsBack : ReadsBack toJson read? := by
  refine ⟨fun o => ?_, fun _ => rfl⟩
  obtain ⟨fields, hfields, hfield⟩ := exists_fields (j := o.toJson) rfl (by simp [Entries.keys])
    ["secret", "configMap", "transform"]
  have hsecret := SecretOutput.readsBack.maybe (hfield "secret" (by simp))
  have hconfigMap := ConfigMapOutput.readsBack.maybe (hfield "configMap" (by simp))
  have htransform := readsBack_str.list.defaulted (hfield "transform" (by simp))
  simp only [read?, hfields, Option.bind_eq_bind, Option.bind_some, hsecret, hconfigMap,
    htransform]

theorem Spec.readsBack : ReadsBack toJson read? := by
  refine ⟨fun s => ?_, fun _ => rfl⟩
  obtain ⟨fields, hfields, hfield⟩ := exists_fields (j := s.toJson) rfl (by simp [Entries.keys])
    ["vault", "output"]
  have hvault := VaultRef.readsBack.required (hfield "vault" (by simp))
  have houtput := Outputs.readsBack.defaulted (hfield "output" (by simp))
  simp only [read?, hfields, Option.bind_eq_bind, Option.bind_some, hvault, houtput]

theorem Status.readsBack : ReadsBack toJson read? := by
  refine ⟨fun s => ?_, fun _ => rfl⟩
  obtain ⟨fields, hfields, hfield⟩ := exists_fields (j := s.toJson) rfl (by simp [Entries.keys])
    ["secretName", "secretHash", "configMapName", "configMapHash", "lastAzureUpdate"]
  have hsecretName := readsBack_str.maybe (hfield "secretName" (by simp))
  have hsecretHash := readsBack_str.maybe (hfield "secretHash" (by simp))
  have hconfigMapName := readsBack_str.maybe (hfield "configMapName" (by simp))
  have hconfigMapHash := readsBack_str.maybe (hfield "configMapHash" (by simp))
  have hlastUpdate := readsBack_str.maybe (hfield "lastAzureUpdate" (by simp))
  simp only [read?, hfields, Option.bind_eq_bind, Option.bind_some, hsecretName, hsecretHash,
    hconfigMapName, hconfigMapHash, hlastUpdate]

/-! ## Resources -/

namespace Resource

/-- A resource is read back with the metadata that is read from what is written of its own. -/
theorem ofJson?_toJson (r : Resource) : ofJson? r.toJson =
    (Kube.ObjectMeta.ofJson? r.metadata.toJson).map fun m => { r with metadata := m } := by
  obtain ⟨fields, hfields, hfield⟩ := exists_fields (j := r.toJson) rfl
    (by cases r.status <;> simp [Entries.keys]) ["metadata", "spec", "status"] 3
  have hmetadata : required? fields "metadata" Kube.ObjectMeta.read? =
      Kube.ObjectMeta.ofJson? r.metadata.toJson := by
    rw [required?, hfield "metadata" (by simp)]
    rfl
  have hspec := Spec.readsBack.required (hfield "spec" (by simp))
  have hstatus := Status.readsBack.maybe_absent (a := r.status)
    ((hfield "status" (by simp)).trans (by cases r.status <;> rfl))
  simp only [ofJson?, read?, hfields, Option.bind_eq_bind, Option.bind_some, hmetadata, hspec,
    hstatus]
  cases Kube.ObjectMeta.ofJson? r.metadata.toJson <;> rfl

/-- Every spec and every status is read back from what is written of it, and so is a resource of
which the metadata is. What a document is read as, whatever its form, is read back from the one form
in which it is written, and written in the same form again. -/
theorem roundTrip :
    (∀ s : Spec, Spec.read? (.ofJson s.toJson) = some s) ∧
    (∀ s : Status, Status.ofJson? s.toJson = some s) ∧
    (∀ r : Resource, Kube.ObjectMeta.ofJson? r.metadata.toJson = some r.metadata →
      ofJson? r.toJson = some r) ∧
    ∀ (d : Json.Raw) (r : Resource), read? d = some r →
      Kube.ObjectMeta.ofJson? r.metadata.toJson = some r.metadata →
        ofJson? r.toJson = some r ∧ (ofJson? r.toJson).map toJson = some r.toJson := by
  have hback : ∀ r : Resource, Kube.ObjectMeta.ofJson? r.metadata.toJson = some r.metadata →
      ofJson? r.toJson = some r := by
    intro r hmetadata
    rw [ofJson?_toJson, hmetadata, Option.map_some]
  refine ⟨Spec.readsBack.back, Status.readsBack.back, hback, ?_⟩
  intro d r _ hmetadata
  rw [hback r hmetadata]
  exact ⟨rfl, rfl⟩

/-- A resource in mixed form: lists of fields beside objects, with members that are no fields, and
values that are absent or `null`. -/
def mixedLogin : Json.Raw :=
  let member (name : String) (value : Json.Raw) : Json.RawText × Json.Raw :=
    (⟨some name, true⟩, value)
  .items [
    .members [member "name" (.ofText "app"), member "uid" .null, member "note" (.ofText "unknown"),
      member "labels" (.members [member "team" (.ofText "web")])],
    .members [member "note" (.items []),
      member "vault" (.items [.ofText "vault", .members [
        member "contentType" (.ofText "text/plain"), member "type" (.ofText "secret"),
        member "name" (.ofText "login"), member "version" .null]])],
    .null]

/-- Nothing of it is lost: not the type of the content, and not that there is no output. -/
theorem roundTrip_mixed : ∃ r, read? mixedLogin = some r ∧
    Kube.ObjectMeta.ofJson? r.metadata.toJson = some r.metadata ∧
    r.spec = ⟨⟨"vault", ⟨"login", "secret", none, some "text/plain"⟩⟩, .none⟩ ∧
    Spec.read? (.ofJson r.spec.toJson) = some r.spec ∧
    ofJson? r.toJson = some r ∧ (ofJson? r.toJson).map toJson = some r.toJson :=
  ⟨⟨{ Kube.ObjectMeta.empty with name := some "app", labels := some [("team", "web")] },
      ⟨⟨"vault", ⟨"login", "secret", none, some "text/plain"⟩⟩, .none⟩, none⟩,
    rfl, rfl, rfl, roundTrip.1 _, roundTrip.2.2.2 mixedLogin _ rfl rfl⟩

end Resource

end VaultProjection

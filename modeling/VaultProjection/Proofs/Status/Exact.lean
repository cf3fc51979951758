import VaultProjection.Proofs.Status.Patch

/-!
# A status patch says exactly the new status

A value that is absent is `null` in a patch, and a patch removes what it names with `null`. So the
status that a patch leaves reads as the one that was sent, whatever stood there before: nothing,
some of its members, others beside them, or no object at all. The version that the patch names is
the one that is stored, so nothing changes but the status.

Results:
1. `Json.merged_statusPatch`: a patch over the stored version changes the status alone.
2. `Status.ofJson?_obj`: members that spell a status, among others, are read as it.
3. `Cluster.patch_exact`: a copy with a status can be sent, and what is stored afterwards reads as
   the same resource with that status; members that are not the controller's stay.
-/

namespace VaultProjection

/-! ## Documents in order -/

namespace Json

/-- The member of an object, if the value is one. -/
def member? (j : Json) (name : String) : Option Json := j.obj?.bind (Entries.get? · name)

/-- If the value is an object, its members stand in the order of their names, each once. -/
def Ordered (j : Json) : Prop := ∀ ms, j.obj? = some ms → Entries.Sorted ms

theorem get_eq_member? (j : Json) (name : String) : j.get name = (j.member? name).getD null := by
  cases j <;> rfl

theorem member?_obj (ms : Entries Json) (name : String) :
    (obj ms).member? name = Entries.get? ms name := rfl

theorem get?_obj? (j : Json) (name : String) :
    Entries.get? (j.obj?.getD []) name = j.member? name := by
  cases j <;> rfl

theorem Ordered.members {j : Json} (h : j.Ordered) : Entries.Sorted (j.obj?.getD []) := by
  cases hms : j.obj? with
  | none => exact Entries.sorted_nil
  | some ms => exact h ms hms

/-- A value with a member that is not `null` is an object. -/
theorem eq_obj_of_get {j value : Json} {name : String} (h : j.get name = value)
    (hne : value ≠ null) : ∃ ms, j = .obj ms ∧ Entries.get? ms name = some value := by
  cases j with
  | obj ms =>
    refine ⟨ms, rfl, ?_⟩
    rw [get_eq_member?, member?_obj] at h
    cases hm : Entries.get? ms name with
    | none =>
      rw [hm] at h
      exact absurd h.symm hne
    | some j => rw [← h, hm, Option.getD_some]
  | null | bool | int | double | str | arr => exact absurd h.symm hne

/-! ## What a patch leaves -/

theorem sorted_mergedMembers {es : Entries Json} (h : Entries.Sorted es)
    (changes : List (String × Option String)) :
    Entries.Sorted (mergedMembers es (changes.map fun (k, v) => (k, ofText? v))) := by
  induction changes generalizing es with
  | nil => exact h
  | cons c rest ih =>
    rw [List.map_cons, mergedMembers]
    split
    · exact ih (h.erase _)
    · exact ih (h.insert ..)

/-- A status that is sent sets each of its members, or removes it. -/
theorem member?_merged_status (j : Json) (s : Status) (name : String) :
    (j.merged s.toJson).member? name =
      ((s.texts.lookup name).map (Option.map str)).getD (j.member? name) := by
  rw [Status.toJson_eq, merged, member?_obj, get?_mergedMembers_texts s.texts_nodup, get?_obj?]

end Json

/-- A document that is stored under a version. -/
structure Stored (doc : Json) (version : String) : Prop where
  ordered : doc.Ordered
  metadata : (doc.get "metadata").Ordered
  status : (doc.get "status").Ordered
  version : (doc.get "metadata").get "resourceVersion" = .str version

/-- A patch over the stored version changes the status alone. -/
theorem Json.merged_statusPatch {doc : Json} {version : String} (h : Stored doc version)
    (s : Status) : ∃ ms, doc = .obj ms ∧ doc.merged (Cluster.statusPatch version (some s)) =
      .obj (Entries.insert ms "status" ((doc.get "status").merged s.toJson)) := by
  obtain ⟨mm, hmeta, hversion⟩ := eq_obj_of_get h.version (by rintro ⟨⟩)
  obtain ⟨ms, rfl, hmm⟩ := eq_obj_of_get hmeta (by rintro ⟨⟩)
  refine ⟨ms, rfl, ?_⟩
  have hpatch : Cluster.statusPatch version (some s) = .obj [("metadata",
      .obj [("resourceVersion", .str version)]), ("status", s.toJson)] := rfl
  have hstatus : s.toJson.isNull = false := rfl
  -- The version is the one that stands there, so the metadata stays as it is.
  have hsame : (Json.obj mm).merged (.obj [("resourceVersion", .str version)]) = .obj mm := by
    have hmm := h.metadata mm (by rw [hmeta]; rfl)
    rw [merged, mergedMembers, if_neg (by rintro ⟨⟩), mergedMembers, merged]
    · rw [obj?, Option.getD_some, hmm.insert_eq_self hversion]
    · rintro _ ⟨⟩
  have hms := h.ordered ms rfl
  rw [hpatch, merged, obj?, Option.getD_some, mergedMembers, if_neg (by rintro ⟨⟩), hmm,
    Option.getD_some, hsame, hms.insert_eq_self hmm, mergedMembers, hstatus,
    if_neg Bool.false_ne_true, mergedMembers]
  rfl

/-! ## Reading what is left -/

namespace Json.Raw

/-- The fields of an object in order can be taken. -/
theorem fields?_obj {ms : Entries Json} (h : Entries.Sorted ms) (names : List String)
    (least : Nat) : ∃ fields, (ofJson (.obj ms)).fields? names least = some fields := by
  have hmembers := members?_ofJson ms
  rw [ofJson] at hmembers ⊢
  simp only [fields?, hmembers, Option.bind_eq_bind, Option.bind_some]
  rw [if_pos]
  · exact ⟨_, rfl⟩
  · refine h.nodup.sublist ?_
    refine (List.filter_sublist.map _).trans ?_
    rw [List.map_map]
    exact List.Sublist.refl (Entries.keys ms)

/-- What is written is read back, and is never `null`, which stands for what is absent. -/
structure ReadsBack {α : Type} (write : α → Json) (read : Raw → Option α) : Prop where
  back : ∀ a, read (ofJson (write a)) = some a
  notNull : ∀ a, (ofJson (write a)).isNull = false

theorem readsBack_str : ReadsBack Json.str str? := ⟨fun _ => rfl, fun _ => rfl⟩

/-- A field that is left out if its value is absent is read back. -/
theorem ReadsBack.maybe_absent {α : Type} {write : α → Json} {read : Raw → Option α}
    (h : ReadsBack write read) {fields : List (String × Raw)} {name : String} {a : Option α}
    (hfield : fields.lookup name = (a.map write).map ofJson) :
    maybe? fields name read = some a := by
  rw [maybe?, hfield]
  cases a with
  | none => rfl
  | some a => simp [optional?, h.notNull, h.back]

/-- A field that is not read from `null` is there if it is read. -/
theorem required?_of_get {α : Type} {ms : Entries Json} {fields : List (String × Raw)}
    {name : String} {read : Raw → Option α} {a : α}
    (hlookup : fields.lookup name = (Entries.get? ms name).map ofJson) (hnull : read .null = none)
    (h : read (ofJson ((Json.obj ms).get name)) = some a) :
    required? fields name read = some a := by
  rw [get_eq_member?, member?_obj] at h
  rw [required?, hlookup]
  cases hm : Entries.get? ms name with
  | none =>
    rw [hm, Option.getD_none, ofJson, hnull] at h
    cases h
  | some j => rwa [hm, Option.getD_some] at h

theorem optional?_of_read {α : Type} {r : Raw} {read : Raw → Option α} {a : α}
    (hnull : read .null = none) (h : read r = some a) : optional? r read = some (some a) := by
  cases r with
  | null =>
    rw [hnull] at h
    cases h
  | bool | number | text | items | members => simp [optional?, isNull, h]

end Json.Raw

/-- Members that spell a status, among others, are read as it. -/
theorem Status.ofJson?_obj {ms : Entries Json} {s : Status} (h : Entries.Sorted ms)
    (hs : ∀ p ∈ s.texts, Entries.get? ms p.1 = p.2.map .str) : ofJson? (.obj ms) = some s := by
  obtain ⟨fields, hfields⟩ := Json.Raw.fields?_obj h
    ["secretName", "secretHash", "configMapName", "configMapHash", "lastAzureUpdate"] 0
  have htext : ∀ p ∈ s.texts, p.1 ∈ ["secretName", "secretHash", "configMapName", "configMapHash",
      "lastAzureUpdate"] → Json.Raw.maybe? fields p.1 Json.Raw.str? = some p.2 := by
    intro p hp hname
    refine Json.Raw.readsBack_str.maybe_absent ?_
    rw [Json.Raw.lookup_fields hfields hname, hs p hp]
  simp only [texts, List.forall_mem_cons, List.not_mem_nil, false_imp_iff, implies_true,
    and_true] at htext
  obtain ⟨h₁, h₂, h₃, h₄, h₅⟩ := htext
  simp only [ofJson?, read?, hfields, Option.bind_eq_bind, Option.bind_some]
  rw [h₅ (by simp), h₄ (by simp), h₂ (by simp), h₁ (by simp), h₃ (by simp)]
  rfl

/-- A resource is read from its metadata, its spec and its status. -/
theorem Resource.ofJson?_obj {ms : Entries Json} (h : Entries.Sorted ms) {m : Kube.ObjectMeta}
    {spec : Spec} {s : Status} {status : Json}
    (hmeta : Kube.ObjectMeta.ofJson? ((Json.obj ms).get "metadata") = some m)
    (hspec : Spec.read? (.ofJson ((Json.obj ms).get "spec")) = some spec)
    (hstatus : Entries.get? ms "status" = some status) (hs : Status.ofJson? status = some s) :
    ofJson? (.obj ms) = some ⟨m, spec, some s⟩ := by
  obtain ⟨fields, hfields⟩ := Json.Raw.fields?_obj h ["metadata", "spec", "status"] 3
  have hm : Json.Raw.required? fields "metadata" Kube.ObjectMeta.read? = some m :=
    Json.Raw.required?_of_get (Json.Raw.lookup_fields hfields (by simp)) rfl hmeta
  have hsp : Json.Raw.required? fields "spec" Spec.read? = some spec :=
    Json.Raw.required?_of_get (Json.Raw.lookup_fields hfields (by simp)) rfl hspec
  have hst : Json.Raw.maybe? fields "status" Status.read? = some (some s) := by
    have hlookup := Json.Raw.lookup_fields hfields (by simp : "status" ∈ _)
    rw [hstatus, Option.map_some] at hlookup
    rw [Json.Raw.maybe?, hlookup]
    exact Json.Raw.optional?_of_read rfl hs
  simp only [ofJson?, read?, hfields, Option.bind_eq_bind, Option.bind_some, hm, hsp, hst]

/-! ## Main result -/

/-- After a patch with a status the document reads as before but for the status, which reads as the
one that was sent. What the status held beside the members that the controller knows is kept. -/
structure Patched (before : Json) (s : Status) (after : Json) : Prop where
  others : ∀ name, name ≠ "status" → after.member? name = before.member? name
  status : Status.ofJson? (after.get "status") = some s
  known : ∀ p ∈ s.texts, (after.get "status").member? p.1 = p.2.map .str
  unknown : ∀ name, name ∉ s.texts.map (·.1) →
    (after.get "status").member? name = (before.get "status").member? name
  resource : ∀ m spec, Kube.ObjectMeta.ofJson? (before.get "metadata") = some m →
    Spec.read? (.ofJson (before.get "spec")) = some spec →
    Resource.ofJson? after = some ⟨m, spec, some s⟩

namespace Cluster

theorem merged_patched {doc : Json} {version : String} (h : Stored doc version) (s : Status) :
    Patched doc s (doc.merged (statusPatch version (some s))) := by
  obtain ⟨ms, rfl, hmerged⟩ := Json.merged_statusPatch h s
  rw [hmerged]
  have hordered := Json.sorted_mergedMembers h.status.members s.texts
  have hknown : ∀ p ∈ s.texts,
      ((((Json.obj ms).get "status").merged s.toJson).member? p.1) = p.2.map .str := by
    intro p hp
    rw [Json.member?_merged_status, show s.texts.lookup p.1 = some p.2 from
      Entries.get?_of_mem s.texts_nodup hp]
    rfl
  have hread : Status.ofJson? (((Json.obj ms).get "status").merged s.toJson) = some s := by
    rw [Status.toJson_eq, Json.merged] at hknown ⊢
    exact Status.ofJson?_obj hordered hknown
  have hstatus : (Json.obj (Entries.insert ms "status" (((Json.obj ms).get "status").merged
      s.toJson))).get "status" = ((Json.obj ms).get "status").merged s.toJson := by
    rw [Json.get_eq_member?, Json.member?_obj, Entries.get?_insert, if_pos rfl, Option.getD_some]
  have hother : ∀ name, name ≠ "status" → (Json.obj (Entries.insert ms "status"
      (((Json.obj ms).get "status").merged s.toJson))).member? name =
        (Json.obj ms).member? name := by
    intro name hname
    rw [Json.member?_obj, Entries.get?_insert, if_neg hname, Json.member?_obj]
  refine ⟨hother, ?_, ?_, ?_, ?_⟩
  · rw [hstatus, hread]
  · rw [hstatus]
    exact hknown
  · intro name hname
    rw [hstatus, Json.member?_merged_status, List.lookup_eq_none_iff.2, Option.map_none,
      Option.getD_none]
    intro p hp
    exact bne_iff_ne.2 fun he => hname (he ▸ List.mem_map_of_mem hp)
  · intro m spec hm hspec
    refine Resource.ofJson?_obj ((h.ordered ms rfl).insert ..) ?_ ?_ ?_ hread
    · rwa [Json.get_eq_member?, hother _ (by decide), ← Json.get_eq_member?]
    · rwa [Json.get_eq_member?, hother _ (by decide), ← Json.get_eq_member?]
    · rw [Entries.get?_insert, if_pos rfl]

/-- A copy with a status can be sent under its name, as a merge patch. The patch, over the version
that is stored, leaves the document as it was but for the status, which reads as the one of the
copy. -/
theorem patch_exact {r : Resource} {s : Status} {name ns version : String} {doc : Json}
    (hname : r.metadata.name = some name) (hns : r.metadata.ns = some ns)
    (hversion : r.metadata.resourceVersion = some version) (hstatus : r.status = some s)
    (hdoc : Stored doc version) :
    ∃ call patch, updateStatus r = .ok call ∧
      call.request = (objectTarget? ⟨.declaring, ns, name⟩ "/status?"
        [("fieldManager", controllerName)]).map
          (⟨.patch, ·, some Web.mergePatchType, some Web.jsonType, some patch⟩) ∧
      Patched doc s (doc.merged patch) := by
  obtain ⟨call, hcall, -, hrequest⟩ := updateStatus_ok hname hns hversion
  rw [hstatus] at hrequest
  exact ⟨call, _, hcall, hrequest, merged_patched hdoc s⟩

/-- A stored resource whose status holds a member that the controller does not know. -/
def storedLogin : Json :=
  .obj [("kind", .str Resource.kind),
    ("metadata", .obj [("name", .str "app"), ("namespace", .str "prod"),
      ("resourceVersion", .str "7")]),
    ("spec", .obj []),
    ("status", .obj [("note", .str "kept"), ("secretHash", .str "c0ffee"),
      ("secretName", .str "login")])]

/-- Its status without the hash of the Secret's content. -/
def withoutHash : Status :=
  (StatusUpdate.invalidate .secret).apply
    ⟨some "login", some "c0ffee", none, none, none⟩ "12:00"

def copyWithoutHash : Resource :=
  ⟨{ Kube.ObjectMeta.empty with
      name := some "app", ns := some "prod", resourceVersion := some "7" },
    ⟨⟨"vault", ⟨"login", "secret", none, none⟩⟩, .none⟩, some withoutHash⟩

theorem storedLogin_stored : Stored storedLogin "7" := by
  refine ⟨?_, ?_, ?_, rfl⟩ <;> rintro ms ⟨⟩ <;> unfold Entries.Sorted <;> decide

/-- The patch takes the hash away and leaves the rest. -/
theorem patch_exact_invalidate :
    Stored storedLogin "7" ∧ ∃ call q patch, updateStatus copyWithoutHash = .ok call ∧
      call.request = some q ∧ q.body = some patch ∧
      Status.ofJson? ((storedLogin.merged patch).get "status") = some withoutHash ∧
      ((storedLogin.merged patch).get "status").member? "secretHash" = none ∧
      ((storedLogin.merged patch).get "status").member? "note" = some (.str "kept") := by
  obtain ⟨call, patch, hcall, hrequest, h⟩ := patch_exact (r := copyWithoutHash) rfl rfl rfl rfl
    storedLogin_stored
  obtain ⟨target, htarget⟩ := Option.isSome_iff_exists.1 statusTarget_app
  rw [htarget, Option.map_some] at hrequest
  refine ⟨storedLogin_stored, call, _, patch, hcall, hrequest, rfl, h.status, ?_, ?_⟩
  · exact h.known ("secretHash", none) (by simp [withoutHash, StatusUpdate.apply, Status.texts])
  · rw [h.unknown "note" (by simp [Status.texts])]
    rfl

end Cluster

end VaultProjection

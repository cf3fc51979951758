import VaultProjection.Cluster.Call
import VaultProjection.Json.Merge
import VaultProjection.Status.Update

/-!
# What a status patch changes

A status is sent as a whole, as a patch that names each of its members. Members that have no value
are `null` there, which removes them. Over the status that a copy was read from, such a patch
changes only what the copy changed.

Results:
1. `Cluster.updateStatus_patch`: what is sent.
2. `Json.get?_mergedMembers_texts`: the members after a patch of texts.
3. `Status.get_of_ofJson?`: a copy holds what the members held.
4. `StatusUpdate.get_merged`: a change of a copy, sent over what it was read from, sets the members
   of its own group, and no member else.
-/

namespace VaultProjection

/-! ## What is sent -/

namespace Cluster

/-- A status as a patch, with the version that it is meant for. -/
def statusPatch (version : String) (status : Option Status) : Json :=
  .ofMembers [("metadata", .ofMembers [("resourceVersion", .str version)]),
    ("status", .ofOption Status.toJson status)]

/-- The patch carries the version of the copy and its whole status. -/
theorem updateStatus_patch {r : Resource} {call : Call Resource} {q : Web.Request}
    (hcall : updateStatus r = .ok call) (hq : call.request = some q) :
    ∃ version, r.metadata.resourceVersion = some version ∧
      q.body = some (statusPatch version r.status) := by
  unfold updateStatus named at hcall
  cases hname : r.metadata.name with
  | none => simp [hname, Bind.bind, Except.bind] at hcall
  | some name =>
    cases hns : r.metadata.ns with
    | none => simp [hname, hns, Bind.bind, Except.bind] at hcall
    | some ns =>
      cases hversion : r.metadata.resourceVersion with
      | none => simp [hname, hns, hversion, Bind.bind, Except.bind] at hcall
      | some version =>
        simp only [hname, hns, hversion, Bind.bind, Except.bind, Pure.pure, Except.pure,
          Except.ok.injEq] at hcall
        subst hcall
        obtain ⟨target, -, rfl⟩ := Option.map_eq_some_iff.1 hq
        exact ⟨version, rfl, rfl⟩

/-- A copy with a name, a namespace and a version can be sent, if its address can be written. -/
theorem updateStatus_ok {r : Resource} {name ns version : String}
    (hname : r.metadata.name = some name) (hns : r.metadata.ns = some ns)
    (hversion : r.metadata.resourceVersion = some version) :
    ∃ call, updateStatus r = .ok call ∧ call.object = ⟨.declaring, ns, name⟩ ∧
      call.request = (objectTarget? ⟨.declaring, ns, name⟩ "/status?"
        [("fieldManager", controllerName)]).map (⟨.patch, ·, some Web.mergePatchType,
          some Web.jsonType, some (statusPatch version r.status)⟩) := by
  unfold updateStatus
  rw [hname, hns, hversion]
  exact ⟨_, rfl, rfl, rfl⟩

/-- The status of the resource `app` in `prod` has an address. -/
theorem statusTarget_app : (objectTarget? ⟨.declaring, "prod", "app"⟩ "/status?"
    [("fieldManager", controllerName)]).isSome = true := by
  decide +kernel

end Cluster

/-! ## Patches of texts -/

namespace Json

/-- A member that is changed takes the new text, or is removed if it has none. -/
theorem get?_mergedMembers_texts {changes : List (String × Option String)}
    (hnodup : (changes.map (·.1)).Nodup) (es : Entries Json) (key : String) :
    Entries.get? (mergedMembers es (changes.map fun (k, v) => (k, ofText? v))) key =
      ((changes.lookup key).map (Option.map str)).getD (Entries.get? es key) := by
  induction changes generalizing es with
  | nil => simp [mergedMembers]
  | cons c rest ih =>
    obtain ⟨k, v⟩ := c
    obtain ⟨hk, hrest⟩ := List.nodup_cons.1 hnodup
    have hlast : rest.lookup k = none := by
      rw [List.lookup_eq_none_iff]
      intro p hp
      have hne : k ≠ p.1 := fun he => hk (List.mem_map.2 ⟨p, hp, he.symm⟩)
      simpa using hne
    rw [List.map_cons, mergedMembers]
    cases v with
    | none =>
      rw [if_pos (show (ofText? none).isNull = true from rfl), ih hrest, Entries.get?_erase]
      by_cases hkey : key = k
      · simp [hkey, hlast]
      · simp [hkey, List.lookup_cons, beq_eq_false_iff_ne.2 hkey]
    | some s =>
      rw [if_neg (show ¬(ofText? (some s)).isNull = true from nofun), ih hrest,
        Entries.get?_insert]
      by_cases hkey : key = k
      · simp [hkey, hlast, ofText?, ofOption, merged]
      · simp [hkey, List.lookup_cons, beq_eq_false_iff_ne.2 hkey]

theorem getD_map_str (v : Option String) : (v.map str).getD null = ofText? v := by
  cases v <;> rfl

end Json

/-! ## The members of a status -/

namespace Status

/-- The members of a status with their values. -/
def texts (s : Status) : List (String × Option String) :=
  [("configMapHash", s.configMapHash), ("configMapName", s.configMapName),
    ("lastAzureUpdate", s.lastAzureUpdate), ("secretHash", s.secretHash),
    ("secretName", s.secretName)]

theorem toJson_eq (s : Status) :
    s.toJson = .obj (s.texts.map fun (k, v) => (k, Json.ofText? v)) := rfl

theorem texts_nodup (s : Status) : (s.texts.map (·.1)).Nodup := by
  simp [texts]

end Status

namespace Json.Raw

theorem members?_ofJson (ms : Entries Json) :
    (ofJson (.obj ms)).members? = some (ms.map fun (k, j) => (k, ofJson j)) := by
  rw [ofJson, members?]
  induction ms with
  | nil => simp [ofMembers]
  | cons p ms ih =>
    obtain ⟨k, j⟩ := p
    simp [ofMembers, ih]

theorem lookup_fields {ms : Entries Json} {names : List String} {least : Nat}
    {fields : List (String × Raw)} (h : (ofJson (.obj ms)).fields? names least = some fields)
    {name : String} (hname : name ∈ names) :
    fields.lookup name = (Entries.get? ms name).map ofJson := by
  have hmembers := members?_ofJson ms
  rw [ofJson] at h hmembers
  simp only [fields?, hmembers, Option.bind_eq_bind, Option.bind_some] at h
  split at h
  · rw [← Option.some.inj h]
    -- Members with other names than those of fields are passed over.
    have hfilter := Entries.get?_filter names.contains (Entries.mapValues ofJson ms) name
    rw [if_pos (List.contains_iff_mem.2 hname), Entries.get?_mapValues] at hfilter
    exact hfilter
  · cases h

/-- A text that may be absent is read from its member. -/
theorem get_of_maybe? {ms : Entries Json} {names : List String} {fields : List (String × Raw)}
    (h : (ofJson (.obj ms)).fields? names = some fields) {name : String} (hname : name ∈ names)
    {v : Option String} (hv : maybe? fields name str? = some v) :
    (Json.obj ms).get name = .ofText? v := by
  rw [maybe?, lookup_fields h hname] at hv
  rw [Json.get]
  cases hj : Entries.get? ms name with
  | none =>
    simp only [hj, Option.map_none, Option.some.injEq] at hv
    rw [← hv]
    rfl
  | some j =>
    simp only [hj, Option.map_some] at hv
    cases j with
    | null =>
      cases hv
      rfl
    | str s =>
      cases hv
      rfl
    | bool | int | double | arr | obj => simp [ofJson, optional?, isNull, str?] at hv

end Json.Raw

/-- A copy holds what the members held. -/
theorem Status.get_of_ofJson? {ms : Entries Json} {s : Status} (h : ofJson? (.obj ms) = some s) :
    ∀ p ∈ s.texts, (Json.obj ms).get p.1 = .ofText? p.2 := by
  simp only [ofJson?, read?, Option.bind_eq_bind, Option.bind_eq_some_iff] at h
  obtain ⟨fields, hfields, v₁, h₁, v₂, h₂, v₃, h₃, v₄, h₄, v₅, h₅, hs⟩ := h
  cases hs
  simp only [texts, List.forall_mem_cons, List.not_mem_nil, false_imp_iff, implies_true, and_true]
  exact ⟨Json.Raw.get_of_maybe? hfields (by simp) h₄, Json.Raw.get_of_maybe? hfields (by simp) h₃,
    Json.Raw.get_of_maybe? hfields (by simp) h₅, Json.Raw.get_of_maybe? hfields (by simp) h₂,
    Json.Raw.get_of_maybe? hfields (by simp) h₁⟩

/-! ## Changes of a copy -/

/-- The member for the name of an output. -/
def OutputKind.nameMember : OutputKind → String
  | .secret => "secretName"
  | .configMap => "configMapName"

/-- The member for the digest of an output's content. -/
def OutputKind.hashMember : OutputKind → String
  | .secret => "secretHash"
  | .configMap => "configMapHash"

namespace StatusUpdate

/-- What a change at a time sets a member to, if it concerns the member. -/
def sets? (u : StatusUpdate) (now : String) (member : String) : Option Json :=
  match u with
  | .record k name d =>
    if member = k.nameMember then some (.str name)
    else if member = k.hashMember then some (.str d.hex)
    else if member = "lastAzureUpdate" then some (.str now)
    else none
  | .invalidate k => if member = k.hashMember then some .null else none

/-- What a status holds in a member after a change. -/
theorem lookup_texts_apply (u : StatusUpdate) (s : Status) (now member : String) :
    ((u.apply s now).texts.lookup member).map .ofText? =
      (u.sets? now member).or ((s.texts.lookup member).map .ofText?) := by
  by_cases hmember : member ∈ s.texts.map (·.1)
  · simp only [Status.texts, List.map_cons, List.map_nil, List.mem_cons, List.not_mem_nil,
      or_false] at hmember
    rcases hmember with rfl | rfl | rfl | rfl | rfl <;>
      rcases u with ⟨k, name, d⟩ | k <;> cases k <;> rfl
  · -- Members that are no members of a status are neither set nor there.
    have hnone : ∀ s' : Status, s'.texts.lookup member = none := by
      intro s'
      rw [List.lookup_eq_none_iff]
      intro p hp
      have hne : member ≠ p.1 := fun he => hmember (he ▸ List.mem_map_of_mem (f := (·.1)) hp)
      simpa using hne
    have hsets : u.sets? now member = none := by
      simp only [Status.texts, List.map_cons, List.map_nil, List.mem_cons, List.not_mem_nil,
        or_false, not_or] at hmember
      rcases u with ⟨k, name, d⟩ | k <;> cases k <;>
        simp [sets?, OutputKind.nameMember, OutputKind.hashMember, hmember]
    rw [hnone, hnone, hsets]
    rfl

/-- Over the status that the copy was read from, a change sets the members that it concerns. -/
theorem get_merged {before : Json} {s : Status}
    (hs : ∀ p ∈ s.texts, before.get p.1 = .ofText? p.2) (u : StatusUpdate) (now member : String) :
    (before.merged (u.apply s now).toJson).get member =
      (u.sets? now member).getD (before.get member) := by
  have hbefore : (Entries.get? (before.obj?.getD []) member).getD .null = before.get member := by
    cases before <;> rfl
  have hkept : ((s.texts.lookup member).map Json.ofText?).getD (before.get member) =
      before.get member := by
    cases hv : s.texts.lookup member with
    | none => rfl
    | some v =>
      obtain ⟨l₁, l₂, hl, -⟩ := List.lookup_eq_some_iff.1 hv
      exact (hs (member, v) (hl ▸ List.mem_append_right l₁ List.mem_cons_self)).symm
  calc (before.merged (u.apply s now).toJson).get member
      = (((u.apply s now).texts.lookup member).map Json.ofText?).getD (before.get member) := by
        rw [Status.toJson_eq, Json.merged, Json.get,
          Json.get?_mergedMembers_texts (Status.texts_nodup _)]
        cases (u.apply s now).texts.lookup member with
        | none => exact hbefore
        | some v => exact Json.getD_map_str v
    _ = (u.sets? now member).getD (before.get member) := by
        rw [lookup_texts_apply]
        cases u.sets? now member with
        | none => exact hkept
        | some j => rfl

end StatusUpdate

end VaultProjection

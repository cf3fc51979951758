import VaultProjection.Watch.Cache

/-!
# The shelf as a map from places to resources

A shelf that is only changed by `put` and `drop` holds every resource at its own place and no place
twice (`Shelf.Sound`). Seen through membership, `put` replaces what stood at a place and `drop`
takes it away (`mem_put`, `mem_drop`), and what is on the shelf is what is found (`find?_of_mem`,
`mem_of_find?`). On any shelf, what stands at a place is what was put there last (`lookup_put`,
`lookup_drop`).
-/

namespace VaultProjection

/-- The resource has a namespace and a name that a key can hold, as the API server gives them. -/
structure Resource.Named (r : Resource) (ns name : String) : Prop where
  ns_eq : r.metadata.ns = some ns
  name_eq : r.metadata.name = some name
  ns_part : Key.IsPart ns
  name_part : Key.IsPart name

/-- The namespace of the resource, where its outputs stand too. -/
def Resource.home (r : Resource) : String := r.metadata.ns.getD ""

/-- The key under which the queues hold the resource. -/
def Resource.key (r : Resource) : String := Key.join r.home (r.metadata.name.getD "")

namespace Resource.Named

variable {r : Resource} {ns name : String}

theorem home_eq (h : r.Named ns name) : r.home = ns := by simp [home, h.ns_eq]

theorem key_eq (h : r.Named ns name) : r.key = Key.join ns name := by
  simp [key, h.home_eq, h.name_eq]

theorem split?_key (h : r.Named ns name) : Key.split? r.key = some (r.home, name) := by
  rw [h.key_eq, h.home_eq, Key.split?_join h.ns_part h.name_part]

end Resource.Named

namespace Watch

theorem Place.of_named {r : Resource} {ns name : String} (h : r.Named ns name) :
    Place.of r = ⟨some ns, name⟩ := by
  simp [Place.of, h.ns_eq, h.name_eq]

namespace Shelf

variable {s : Shelf} {p : Place} {r : Resource}

structure Sound (s : Shelf) : Prop where
  own_place : ∀ e ∈ s, e.1 = Place.of e.2
  nodup : (s.map (·.1)).Nodup

theorem Sound.nil : Sound [] := ⟨by simp, by simp⟩

/-- What `put` does, seen through membership. -/
theorem mem_put (e : Place × Resource) :
    e ∈ s.put r ↔ e = (Place.of r, r) ∨ e ∈ s ∧ e.1 ≠ Place.of r := by
  unfold put
  by_cases hany : ∃ x ∈ s, x.1 = Place.of r
  · have hb : s.any (·.1 == Place.of r) = true := by simpa using hany
    simp only [hb, if_true, List.mem_map]
    constructor
    · rintro ⟨x, hx, rfl⟩
      by_cases hp : x.1 = Place.of r
      · simp [hp]
      · simp [hp, hx]
    · rintro (rfl | ⟨he, hp⟩)
      · obtain ⟨x, hx, hp⟩ := hany
        exact ⟨x, hx, by simp [hp]⟩
      · exact ⟨e, he, by simp [hp]⟩
  · have hb : s.any (·.1 == Place.of r) = false :=
      List.any_eq_false.2 fun x hx hp => hany ⟨x, hx, by simpa using hp⟩
    simp only [hb, Bool.false_eq_true, if_false, List.mem_append, List.mem_singleton]
    constructor
    · rintro (he | he)
      · exact .inr ⟨he, fun hp => hany ⟨e, he, hp⟩⟩
      · exact .inl he
    · rintro (he | ⟨he, -⟩)
      · exact .inr he
      · exact .inl he

theorem put_places (s : Shelf) (r : Resource) :
    (s.put r).map (·.1) = s.map (·.1) ∨
      Place.of r ∉ s.map (·.1) ∧ (s.put r).map (·.1) = s.map (·.1) ++ [Place.of r] := by
  unfold put
  by_cases hany : ∃ x ∈ s, x.1 = Place.of r
  · have hb : s.any (·.1 == Place.of r) = true := by simpa using hany
    left
    simp only [hb, if_true, List.map_map]
    apply List.map_congr_left
    intro x _
    by_cases hp : x.1 = Place.of r <;> simp [hp]
  · have hb : s.any (·.1 == Place.of r) = false :=
      List.any_eq_false.2 fun x hx hp => hany ⟨x, hx, by simpa using hp⟩
    right
    refine ⟨fun hm => ?_, by simp [hb]⟩
    obtain ⟨x, hx, hp⟩ := List.mem_map.1 hm
    exact hany ⟨x, hx, hp⟩

theorem Sound.put (h : s.Sound) (r : Resource) : (s.put r).Sound := by
  constructor
  · intro e he
    rcases (mem_put e).1 he with rfl | ⟨he, -⟩
    · rfl
    · exact h.own_place e he
  · rcases put_places s r with hp | ⟨hn, hp⟩
    · rw [hp]
      exact h.nodup
    · rw [hp, List.nodup_append]
      refine ⟨h.nodup, by simp, fun a ha b hb => ?_⟩
      rw [List.mem_singleton.1 hb]
      exact fun he => hn (he ▸ ha)

theorem mem_drop (e : Place × Resource) : e ∈ s.drop p ↔ e ∈ s ∧ e.1 ≠ p := by
  simp [drop, List.mem_filter]

theorem Sound.drop (h : s.Sound) (p : Place) : (s.drop p).Sound :=
  ⟨fun e he => h.own_place e ((mem_drop e).1 he).1,
    h.nodup.sublist (List.filter_sublist.map _)⟩

theorem lookup_of_mem (h : s.Sound) (hm : (p, r) ∈ s) : s.lookup p = some r := by
  have hn := h.nodup
  clear h
  induction s with
  | nil => cases hm
  | cons e s ih =>
    rw [List.map_cons, List.nodup_cons] at hn
    rcases List.mem_cons.1 hm with rfl | hm
    · exact List.lookup_cons_self
    · have hne : p ≠ e.1 := fun he => hn.1 (he ▸ List.mem_map_of_mem hm)
      rw [List.lookup_cons, beq_eq_false_iff_ne.2 hne]
      exact ih hm hn.2

theorem mem_of_lookup (h : s.lookup p = some r) : (p, r) ∈ s := by
  induction s with
  | nil => simp at h
  | cons e s ih =>
    by_cases hp : p = e.1
    · rw [hp, List.lookup_cons_self, Option.some.injEq] at h
      rw [hp, ← h]
      exact List.mem_cons_self
    · rw [List.lookup_cons, beq_eq_false_iff_ne.2 hp] at h
      exact List.mem_cons_of_mem _ (ih h)

theorem lookup_cons_ne {e : Place × Resource} (h : p ≠ e.1) :
    List.lookup p (e :: s) = s.lookup p := by
  rw [List.lookup_cons, beq_eq_false_iff_ne.2 h]

/-- What stands at a place is what was put there last. -/
theorem lookup_put (s : Shelf) (r : Resource) (p : Place) :
    (s.put r).lookup p = if p = Place.of r then some r else s.lookup p := by
  unfold put
  by_cases hany : s.any (·.1 == Place.of r) = true
  · simp only [hany, if_true]
    split
    · next hp =>
      subst hp
      induction s with
      | nil => cases hany
      | cons e s ih =>
        by_cases he : e.1 = Place.of r
        · simp [he]
        · have hrest : s.any (·.1 == Place.of r) = true := by simpa [he] using hany
          rw [List.map_cons, if_neg (by simpa using he), lookup_cons_ne (Ne.symm he), ih hrest]
    · next hp =>
      clear hany
      induction s with
      | nil => rfl
      | cons e s ih =>
        by_cases he : e.1 = Place.of r
        · rw [List.map_cons, if_pos (by simpa using he), lookup_cons_ne hp, ih,
            lookup_cons_ne (he ▸ hp)]
        · rw [List.map_cons, if_neg (by simpa using he), List.lookup_cons, ih, List.lookup_cons]
  · have hnone : s.lookup (Place.of r) = none :=
      List.lookup_eq_none_iff.2 fun e he => by
        have hne : e.1 ≠ Place.of r := by
          simpa using List.any_eq_false.1 (Bool.eq_false_iff.2 hany) e he
        simpa using Ne.symm hne
    simp only [hany, Bool.false_eq_true, if_false, List.lookup_append]
    split
    · next hp => simp [hp, hnone]
    · next hp =>
      have hrest : List.lookup p [(Place.of r, r)] = none := lookup_cons_ne hp
      rw [hrest, Option.or_none]

theorem lookup_drop (s : Shelf) (q p : Place) :
    (s.drop q).lookup p = if p = q then none else s.lookup p := by
  unfold drop
  induction s with
  | nil => simp
  | cons e s ih =>
    by_cases he : e.1 = q
    · rw [List.filter_cons_of_neg (by simpa using he), ih]
      split
      · rfl
      · next hp => rw [lookup_cons_ne (he ▸ hp)]
    · rw [List.filter_cons_of_pos (by simpa using he), List.lookup_cons, ih, List.lookup_cons]
      by_cases hp : p = e.1
      · simp [hp, he]
      · simp [beq_eq_false_iff_ne.2 hp]

theorem find?_of_mem (h : s.Sound) (hm : (p, r) ∈ s) : s.find? p = some r := by
  simp [find?, lookup_of_mem h hm]

/-- Where every resource has a namespace, nothing is found but what stands at the place. -/
theorem mem_of_find? {ns name : String} (hns : ∀ e ∈ s, e.1.ns ≠ none)
    (h : s.find? ⟨some ns, name⟩ = some r) : (⟨some ns, name⟩, r) ∈ s := by
  unfold find? at h
  cases hl : s.lookup ⟨some ns, name⟩ with
  | some r' =>
    simp only [hl, Option.orElse_some, Option.some.injEq] at h
    exact h ▸ mem_of_lookup hl
  | none =>
    simp only [hl, Option.orElse_none] at h
    exact absurd rfl (hns _ (mem_of_lookup h))

end Shelf

namespace Cache

variable {c : Cache} {r r' : Resource} {ns name : String}

theorem mem_shown (h : c.shown.Sound) (hr : r ∈ c.resources) : (Place.of r, r) ∈ c.shown := by
  obtain ⟨e, he, rfl⟩ := List.mem_map.1 hr
  rw [← h.own_place e he]
  exact he

/-- A shown resource is found under its name. -/
theorem lookup_of_mem (h : c.shown.Sound) (hr : r ∈ c.resources) (hn : r.Named ns name) :
    c.lookup ns name = some r := by
  have hm := mem_shown h hr
  rw [Place.of_named hn] at hm
  exact Shelf.find?_of_mem h hm

/-- Two shown resources have different keys. -/
theorem key_inj (h : c.shown.Sound) (hn : ∀ r ∈ c.resources, ∃ ns name, r.Named ns name)
    (hr : r ∈ c.resources) (hr' : r' ∈ c.resources) (hk : r.key = r'.key) : r = r' := by
  obtain ⟨ns, name, hnamed⟩ := hn r hr
  obtain ⟨ns', name', hnamed'⟩ := hn r' hr'
  rw [hnamed.key_eq, hnamed'.key_eq] at hk
  obtain ⟨rfl, rfl⟩ := Key.join_inj hnamed'.ns_part hnamed'.name_part hk
  simpa [lookup_of_mem h hr hnamed] using lookup_of_mem h hr' hnamed'

end Cache

/-! ## A sample -/

/-- A resource that asks for a Secret, and for no ConfigMap. -/
def app : Resource :=
  { metadata := { Kube.ObjectMeta.empty with
      name := some "app", ns := some "prod", uid := some "u1", resourceVersion := some "1" }
    spec := ⟨⟨"vault", ⟨"password", "secret", none, none⟩⟩,
      ⟨some ⟨"login", none, some "password"⟩, none, []⟩⟩
    status := none }

theorem app_named : app.Named "prod" "app" := ⟨rfl, rfl, by decide, by decide⟩

/-- The reference by which its outputs name it as their owner. -/
def appOwner : Kube.OwnerReference :=
  ⟨Resource.apiVersion, none, some true, Resource.kind, "app", "u1"⟩

theorem app_owner : app.ownerReference? = some appOwner := rfl

end Watch

end VaultProjection

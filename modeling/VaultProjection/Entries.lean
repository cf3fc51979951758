/-!
Maps from names to values as lists of pairs, sorted by name, each name once. Two maps with the same
pairs are the same list, so neither a digest nor a printed document depends on the order in which
the pairs arrived.
-/

namespace VaultProjection

/-- A map from names to values. -/
abbrev Entries (α : Type) := List (String × α)

namespace Entries

variable {α β : Type}

/-- Puts a pair in its place, instead of an earlier one with the same name. -/
def insert (m : Entries α) (key : String) (value : α) : Entries α :=
  match m with
  | [] => [(key, value)]
  | (k, v) :: rest =>
    if key = k then (key, value) :: rest
    else if key < k then (key, value) :: (k, v) :: rest
    else (k, v) :: insert rest key value

/-- Inserts the pairs in order, so that of two with one name the later one stays. -/
def ofList (pairs : List (String × α)) : Entries α :=
  pairs.foldl (fun m (k, v) => insert m k v) []

def get? (m : Entries α) (key : String) : Option α := List.lookup key m

def contains (m : Entries α) (key : String) : Bool := (get? m key).isSome

def erase (m : Entries α) (key : String) : Entries α := m.filter (·.1 ≠ key)

def keys (m : Entries α) : List String := m.map (·.1)

def mapValues (f : α → β) (m : Entries α) : Entries β := m.map fun (k, v) => (k, f v)

/-! ## Looking up -/

@[simp] theorem get?_nil (key : String) : get? ([] : Entries α) key = none := rfl

theorem get?_cons (p : String × α) (m : Entries α) (key : String) :
    get? (p :: m) key = if key = p.1 then some p.2 else get? m key := by
  obtain ⟨k, v⟩ := p
  by_cases h : key = k
  · simp [get?, h]
  · simp [get?, List.lookup_cons, h, beq_eq_false_iff_ne.2 h]

theorem get?_insert (m : Entries α) (key other : String) (value : α) :
    get? (insert m key value) other = if other = key then some value else get? m other := by
  induction m with
  | nil => simp [insert, get?_cons]
  | cons p m ih =>
    obtain ⟨k, v⟩ := p
    by_cases hk : key = k
    · subst hk
      by_cases ho : other = key <;> simp [insert, get?_cons, ho]
    · by_cases hlt : key < k
      · by_cases ho : other = key <;> simp [insert, get?_cons, hk, hlt, ho]
      · by_cases ho : other = k
        · subst ho
          simp [insert, get?_cons, hk, hlt, Ne.symm hk]
        · simp [insert, get?_cons, hk, hlt, ih, ho]

theorem get?_erase (m : Entries α) (key other : String) :
    get? (erase m key) other = if other = key then none else get? m other := by
  induction m with
  | nil => simp [erase]
  | cons p m ih =>
    have h : erase (p :: m) key = if p.1 = key then erase m key else p :: erase m key := by
      by_cases hp : p.1 = key <;> simp [erase, hp]
    rw [h]
    by_cases hp : p.1 = key
    · rw [if_pos hp, ih, get?_cons, hp]
      by_cases ho : other = key <;> simp [ho]
    · by_cases ho : other = p.1
      · simp [hp, get?_cons, ho]
      · simp [hp, get?_cons, ho, ih]

/-- A pair that is left out by its name is not found, and no other pair is found in its place. -/
theorem get?_filter (f : String → Bool) (m : Entries α) (key : String) :
    get? (m.filter (f ·.1)) key = if f key then get? m key else none := by
  induction m with
  | nil => simp
  | cons p m ih =>
    rw [List.filter_cons, get?_cons]
    by_cases hp : key = p.1
    · subst hp
      cases hf : f p.1 <;> simp [hf, get?_cons, ih]
    · cases hf : f p.1 <;> simp [get?_cons, hp, ih]

theorem get?_mapValues (f : α → β) (m : Entries α) (key : String) :
    get? (mapValues f m) key = (get? m key).map f := by
  induction m with
  | nil => rfl
  | cons p m ih =>
    have h : mapValues f (p :: m) = (p.1, f p.2) :: mapValues f m := rfl
    rw [h, get?_cons, get?_cons, ih]
    split <;> rfl

@[simp] theorem keys_mapValues (f : α → β) (m : Entries α) : keys (mapValues f m) = keys m := by
  simp [keys, mapValues]

theorem eq_nil_of_get? {m : Entries α} (h : ∀ key, get? m key = none) : m = [] := by
  cases m with
  | nil => rfl
  | cons p m => simpa [get?_cons] using h p.1

/-! ## Order -/

/-- The names are in order, each once. -/
def Sorted (m : Entries α) : Prop := (keys m).Pairwise (· < ·)

theorem sorted_nil : Sorted ([] : Entries α) := List.Pairwise.nil

theorem Sorted.nodup {m : Entries α} (h : Sorted m) : (keys m).Nodup := by
  refine List.Pairwise.imp (fun hlt => ?_) h
  rintro rfl
  exact String.lt_irrefl _ hlt

theorem mem_of_get? {m : Entries α} {key : String} {value : α} (h : get? m key = some value) :
    (key, value) ∈ m := by
  induction m with
  | nil => cases h
  | cons p m ih =>
    rw [get?_cons] at h
    split at h
    · next hk =>
      cases h
      subst hk
      exact List.mem_cons_self
    · exact List.mem_cons_of_mem p (ih h)

/-- Where each name stands once, every pair is found. -/
theorem get?_of_mem {m : Entries α} (h : (keys m).Nodup) {key : String} {value : α}
    (hm : (key, value) ∈ m) : get? m key = some value := by
  induction m with
  | nil => cases hm
  | cons p m ih =>
    obtain ⟨hp, hs⟩ := List.nodup_cons.1 h
    rw [get?_cons]
    rcases List.mem_cons.1 hm with rfl | hm
    · exact if_pos rfl
    · have hne : key ≠ p.1 := fun he => hp (List.mem_map.2 ⟨(key, value), hm, he⟩)
      rw [if_neg hne, ih hs hm]

theorem Sorted.get?_of_mem {m : Entries α} (h : Sorted m) {key : String} {value : α}
    (hm : (key, value) ∈ m) : get? m key = some value := Entries.get?_of_mem h.nodup hm

theorem mem_insert {m : Entries α} {key : String} {value : α} {p : String × α}
    (h : p ∈ insert m key value) : p = (key, value) ∨ p ∈ m := by
  induction m with
  | nil => exact .inl (List.mem_singleton.1 h)
  | cons q m ih =>
    obtain ⟨k, v⟩ := q
    unfold insert at h
    split at h
    · exact .imp_right (List.mem_cons_of_mem _) (List.mem_cons.1 h)
    · split at h
      · exact List.mem_cons.1 h
      · rcases List.mem_cons.1 h with rfl | h
        · exact .inr List.mem_cons_self
        · exact (ih h).imp_right (List.mem_cons_of_mem _)

theorem mem_keys_insert {m : Entries α} {key name : String} {value : α}
    (h : name ∈ keys (insert m key value)) : name = key ∨ name ∈ keys m := by
  obtain ⟨p, hp, rfl⟩ := List.mem_map.1 h
  rcases mem_insert hp with rfl | hp
  · exact .inl rfl
  · exact .inr (List.mem_map_of_mem hp)

theorem Sorted.insert {m : Entries α} (h : Sorted m) (key : String) (value : α) :
    Sorted (insert m key value) := by
  induction m with
  | nil => exact List.pairwise_singleton _ _
  | cons p m ih =>
    obtain ⟨k, v⟩ := p
    obtain ⟨hk, hm⟩ := List.pairwise_cons.1 h
    unfold Entries.insert
    split
    · next he => exact List.pairwise_cons.2 ⟨he ▸ hk, hm⟩
    · next hne =>
      split
      · next hlt =>
        refine List.pairwise_cons.2 ⟨fun name hname => ?_, h⟩
        rcases List.mem_cons.1 hname with rfl | hname
        · exact hlt
        · exact String.lt_trans hlt (hk name hname)
      · next hnot =>
        refine List.pairwise_cons.2 ⟨fun name hname => ?_, ih hm⟩
        rcases mem_keys_insert hname with rfl | hname
        · -- Neither before the first name nor the same, the new one comes after it.
          refine Classical.byContradiction fun hnot' => hne ?_
          exact String.le_antisymm (String.not_lt.1 hnot') (String.not_lt.1 hnot)
        · exact hk name hname

theorem Sorted.erase {m : Entries α} (h : Sorted m) (key : String) : Sorted (erase m key) :=
  h.sublist (List.filter_sublist.map _)

theorem Sorted.insert_eq_self {m : Entries α} (h : Sorted m) {key : String} {value : α}
    (hm : get? m key = some value) : Entries.insert m key value = m := by
  induction m with
  | nil => cases hm
  | cons p m ih =>
    obtain ⟨k, v⟩ := p
    obtain ⟨hk, hs⟩ := List.pairwise_cons.1 h
    rw [get?_cons] at hm
    by_cases hkey : key = k
    · rw [if_pos hkey] at hm
      cases hm
      rw [Entries.insert, if_pos hkey, hkey]
    · rw [if_neg hkey] at hm
      have hlt : k < key := hk key (List.mem_map_of_mem (mem_of_get? hm))
      rw [Entries.insert, if_neg hkey, if_neg (String.lt_asymm hlt), ih hs hm]

/-! ## Lists in any order -/

theorem insert_perm {m : Entries α} {key : String} (h : key ∉ keys m) (value : α) :
    (insert m key value).Perm ((key, value) :: m) := by
  induction m with
  | nil => exact .refl _
  | cons p m ih =>
    obtain ⟨k, v⟩ := p
    obtain ⟨hk, hm⟩ := not_or.1 (mt List.mem_cons.2 h)
    rw [insert, if_neg hk]
    split
    · exact .refl _
    · exact ((ih hm).cons (k, v)).trans (.swap ..)

theorem foldl_insert_perm {es m : Entries α} (h : (keys (es ++ m)).Nodup) :
    (es.foldl (fun m (k, v) => insert m k v) m).Perm (es ++ m) := by
  induction es generalizing m with
  | nil => exact .refl _
  | cons e es ih =>
    obtain ⟨k, v⟩ := e
    have hperm : (es ++ insert m k v).Perm ((k, v) :: (es ++ m)) := by
      refine ((insert_perm ?_ v).append_left es).trans List.perm_middle
      intro hk
      obtain ⟨p, hp, hpk⟩ := List.mem_map.1 hk
      exact (List.nodup_cons.1 h).1 (List.mem_map.2 ⟨p, List.mem_append_right es hp, hpk⟩)
    have hkeys : (keys (es ++ insert m k v)).Nodup := (hperm.map _).nodup_iff.2 h
    exact (ih hkeys).trans hperm

/-- A list with each name once loses nothing when it is put in order. -/
theorem ofList_perm {es : List (String × α)} (h : (keys es).Nodup) : (ofList es).Perm es := by
  have hperm := @foldl_insert_perm α es [] (by rwa [List.append_nil])
  rwa [List.append_nil] at hperm

theorem sorted_ofList (es : List (String × α)) : Sorted (ofList es) := by
  suffices h : ∀ m : Entries α, Sorted m → Sorted (es.foldl (fun m (k, v) => insert m k v) m) from
    h [] sorted_nil
  induction es with
  | nil => exact fun m hm => hm
  | cons e es ih => exact fun m hm => ih _ (hm.insert e.1 e.2)

/-- Where each name stands once, putting pairs in order changes nothing that is found. -/
theorem get?_ofList {es : List (String × α)} (h : (keys es).Nodup) (key : String) :
    get? (ofList es) key = get? es key := by
  have hperm := ofList_perm h
  refine Option.ext fun value => ?_
  constructor
  · exact fun hget => get?_of_mem h (hperm.mem_iff.1 (mem_of_get? hget))
  · exact fun hget => (sorted_ofList es).get?_of_mem (hperm.mem_iff.2 (mem_of_get? hget))

/-- Maps in order with the same pairs are the same list. -/
theorem Sorted.eq_of_perm {m n : Entries α} (hm : Sorted m) (hn : Sorted n) (h : m.Perm n) :
    m = n := by
  refine h.eq_of_pairwise ?_ (List.pairwise_map.1 hm) (List.pairwise_map.1 hn)
  intro a b _ _ hab hba
  exact absurd (String.lt_trans hab hba) (String.lt_irrefl _)

theorem nodup_of_keys {es : Entries α} (h : (keys es).Nodup) : es.Nodup := by
  refine List.Pairwise.of_map (·.1) ?_ h
  rintro a b hne rfl
  exact hne rfl

/-- Lists with each name once make the same map exactly if they hold the same pairs. -/
theorem ofList_eq_iff {es fs : List (String × α)} (he : (keys es).Nodup) (hf : (keys fs).Nodup) :
    ofList es = ofList fs ↔ ∀ e, e ∈ es ↔ e ∈ fs := by
  rw [← List.perm_ext_iff_of_nodup (nodup_of_keys he) (nodup_of_keys hf)]
  constructor
  · intro h
    exact ((ofList_perm he).symm.trans (h ▸ .refl _)).trans (ofList_perm hf)
  · intro h
    exact (sorted_ofList es).eq_of_perm (sorted_ofList fs)
      (((ofList_perm he).trans h).trans (ofList_perm hf).symm)

end Entries

end VaultProjection

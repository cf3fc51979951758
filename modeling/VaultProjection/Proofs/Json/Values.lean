import Mathlib.Data.List.Forall2
import Mathlib.Data.List.Nodup
import Mathlib.Data.List.Perm.Basic
import VaultProjection.Json.Number
import VaultProjection.Json.Raw

/-!
# Values of documents

A document without repeated names whose numbers are integers of 64 bits has an exact value: nothing
in it is rounded or overwritten. The value does not depend on the order of the members.

Results:
1. `Raw.Exact.value`: an exact document has an exact value.
2. `Raw.Reordered.value?_eq`: members in another order, at any depth, make the same value.
-/

namespace VaultProjection.Json

/-! ## Lists that correspond -/

section

variable {α β : Type} {p : α → β → Prop} {xs : List α} {ys : List β}

theorem mapM_eq_some_iff {f : α → Option β} :
    xs.mapM f = some ys ↔ List.Forall₂ (fun x y => f x = some y) xs ys := by
  induction xs generalizing ys with
  | nil => simp [eq_comm]
  | cons x xs ih =>
    simp only [List.mapM_cons, Option.bind_eq_bind, Option.bind_eq_some_iff, Option.pure_def,
      Option.some_inj, ih, List.forall₂_cons_left_iff]
    constructor
    · rintro ⟨y, hy, ys, hys, rfl⟩
      exact ⟨y, ys, hy, hys, rfl⟩
    · rintro ⟨y, ys, hy, hys, rfl⟩
      exact ⟨y, hy, ys, hys, rfl⟩

theorem exists_of_mem_right (h : List.Forall₂ p xs ys) {y : β} (hy : y ∈ ys) :
    ∃ x ∈ xs, p x y := by
  induction h with
  | nil => cases hy
  | cons hp _ ih =>
    rcases List.mem_cons.1 hy with rfl | hy
    · exact ⟨_, List.mem_cons_self, hp⟩
    · obtain ⟨x, hx, hxy⟩ := ih hy
      exact ⟨x, List.mem_cons_of_mem _ hx, hxy⟩

theorem exists_of_mem_left (h : List.Forall₂ p xs ys) {x : α} (hx : x ∈ xs) :
    ∃ y ∈ ys, p x y := exists_of_mem_right h.flip hx

theorem exists_forall₂ (h : ∀ x ∈ xs, ∃ y, p x y) : ∃ ys, List.Forall₂ p xs ys := by
  induction xs with
  | nil => exact ⟨[], .nil⟩
  | cons x xs ih =>
    obtain ⟨⟨y, hy⟩, hxs⟩ := List.forall_mem_cons.1 h
    obtain ⟨ys, hys⟩ := ih hxs
    exact ⟨y :: ys, .cons hy hys⟩

end

/-! ## Exact values -/

/-- The integer has 64 bits, with a sign or without. -/
def Fits (n : Int) : Prop := -Nat.pow 2 63 ≤ n ∧ n ≤ maxUInt64

instance (n : Int) : Decidable (Fits n) := inferInstanceAs (Decidable (_ ∧ _))

/-- All numbers in the value are integers of 64 bits, every object is in order, and containers are
nested at most so deep. -/
inductive Exact : Nat → Json → Prop where
  | null (room : Nat) : Exact room .null
  | bool (room : Nat) (b : Bool) : Exact room (.bool b)
  | int (room : Nat) {n : Int} : Fits n → Exact room (.int n)
  | str (room : Nat) (s : String) : Exact room (.str s)
  | arr {room : Nat} {js : List Json} : (∀ j ∈ js, Exact room j) → Exact (room + 1) (.arr js)
  | obj {room : Nat} {ms : List (String × Json)} :
    Entries.Sorted ms → (∀ m ∈ ms, Exact room m.2) → Exact (room + 1) (.obj ms)

theorem Exact.succ {room : Nat} {j : Json} (h : j.Exact room) : j.Exact (room + 1) := by
  induction h with
  | null => exact .null _
  | bool _ b => exact .bool _ b
  | int _ hn => exact .int _ hn
  | str _ s => exact .str _ s
  | arr _ ih => exact .arr ih
  | obj hs _ ih => exact .obj hs ih

namespace Raw

/-- No object in the document has two members of one name, and every number is an integer of 64
bits, written without a fraction or an exponent. -/
inductive Exact : Raw → Prop where
  | null : Exact .null
  | bool (b : Bool) : Exact (.bool b)
  | int {n : Int} : Fits n → Exact (.number (some (.int n)))
  | text (t : RawText) : Exact (.text t)
  | items {rs : List Raw} : (∀ r ∈ rs, Exact r) → Exact (.items rs)
  | members {ms : List (RawText × Raw)} :
    (ms.map (·.1.value?)).Nodup → (∀ m ∈ ms, Exact m.2) → Exact (.members ms)

variable {room : Nat} {rs : List Raw} {ms : List (RawText × Raw)} {d d' : Raw} {j : Json}

/-- A member and the entry that it makes. -/
def Makes (room : Nat) (m : RawText × Raw) (e : String × Json) : Prop :=
  m.1.value? = some e.1 ∧ m.2.value? room = some e.2

theorem value?_items : (items rs).value? (room + 1) = some j ↔
    ∃ js, List.Forall₂ (fun r j => r.value? room = some j) rs js ∧ j = .arr js := by
  simp only [value?, Option.map_eq_some_iff, mapM_eq_some_iff]
  exact exists_congr fun js => and_congr_right fun _ => eq_comm

theorem value?_members : (members ms).value? (room + 1) = some j ↔
    ∃ es, List.Forall₂ (Makes room) ms es ∧ j = .obj (Entries.ofList es) := by
  have hmember : ∀ (m : RawText × Raw) (e : String × Json),
      (do some (← m.1.value?, ← m.2.value? room)) = some e ↔ Makes room m e := by
    rintro m ⟨k, j⟩
    cases hk : m.1.value? <;> cases hj : m.2.value? room <;> simp [Makes, hk, hj]
  simp only [value?, Option.map_eq_some_iff, mapM_eq_some_iff, hmember]
  exact exists_congr fun es => and_congr_right fun _ => eq_comm

/-- Entries have the names that the members spell. -/
theorem names_of_makes {es : List (String × Json)} (h : List.Forall₂ (Makes room) ms es) :
    ms.map (·.1.value?) = (Entries.keys es).map some := by
  induction h with
  | nil => rfl
  | cons hm _ ih => simpa [Entries.keys, hm.1] using ih

theorem keys_nodup {es : List (String × Json)} (h : List.Forall₂ (Makes room) ms es)
    (hn : (ms.map (·.1.value?)).Nodup) : (Entries.keys es).Nodup := by
  rw [names_of_makes h] at hn
  exact List.Nodup.of_map some hn

theorem Exact.value (hd : d.Exact) (h : d.value? room = some j) : j.Exact room := by
  induction d generalizing room j with
  | null =>
    rw [value?] at h
    cases h
    exact .null _
  | bool b =>
    rw [value?] at h
    cases h
    exact .bool _ b
  | number v =>
    cases hd with
    | int hn =>
      rw [value?] at h
      cases h
      exact .int _ hn
  | text t =>
    rw [value?] at h
    obtain ⟨s, hs, rfl⟩ := Option.map_eq_some_iff.1 h
    exact .str _ s
  | items rs ih =>
    cases room with
    | zero => cases h
    | succ room =>
      obtain ⟨js, hjs, rfl⟩ := value?_items.1 h
      cases hd with
      | items hrs =>
        refine .arr fun j hj => ?_
        obtain ⟨r, hr, hrj⟩ := exists_of_mem_right hjs hj
        exact ih r hr (hrs r hr) hrj
  | members ms ih =>
    cases room with
    | zero => cases h
    | succ room =>
      obtain ⟨es, hes, rfl⟩ := value?_members.1 h
      cases hd with
      | members hn hms =>
        refine .obj (Entries.sorted_ofList es) fun e he => ?_
        have hmem : e ∈ es := (Entries.ofList_perm (keys_nodup hes hn)).mem_iff.1 he
        obtain ⟨m, hm, hme⟩ := exists_of_mem_right hes hmem
        exact ih m hm (hms m hm) hme.2

/-! ## Other orders -/

/-- The second document is the first with members in another order, at any depth, and with texts
that spell the same. -/
inductive Reordered : Raw → Raw → Prop where
  | refl (d : Raw) : Reordered d d
  | trans {d d' d'' : Raw} : Reordered d d' → Reordered d' d'' → Reordered d d''
  | text {t t' : RawText} : t.value? = t'.value? → Reordered (.text t) (.text t')
  | item (before after : List Raw) {r r' : Raw} : Reordered r r' →
    Reordered (.items (before ++ r :: after)) (.items (before ++ r' :: after))
  | member (before after : List (RawText × Raw)) {k k' : RawText} {r r' : Raw} :
    k.value? = k'.value? → Reordered r r' →
      Reordered (.members (before ++ (k, r) :: after)) (.members (before ++ (k', r') :: after))
  | perm {ms ms' : List (RawText × Raw)} : ms.Perm ms' → Reordered (.members ms) (.members ms')

/-- Where no name stands twice, the order of the members does not matter. -/
theorem value?_of_perm {ms' : List (RawText × Raw)} (hp : ms.Perm ms')
    (hn : (ms.map (·.1.value?)).Nodup) (h : (members ms).value? room = some j) :
    (members ms').value? room = some j := by
  cases room with
  | zero => cases h
  | succ room =>
    obtain ⟨es, hes, rfl⟩ := value?_members.1 h
    obtain ⟨es', hes', hperm⟩ := List.perm_comp_forall₂ hp.symm hes
    have hn' : (ms'.map (·.1.value?)).Nodup := (hp.map _).nodup_iff.1 hn
    refine value?_members.2 ⟨es', hes', congrArg Json.obj ?_⟩
    exact (Entries.ofList_eq_iff (keys_nodup hes hn) (keys_nodup hes' hn')).2 fun e =>
      hperm.mem_iff.symm

/-- A document in another order is as exact, and has the same value. -/
theorem Reordered.keeps (h : Reordered d d') (hd : d.Exact) :
    d'.Exact ∧ ∀ room, d'.value? room = d.value? room := by
  induction h with
  | refl d => exact ⟨hd, fun _ => rfl⟩
  | trans _ _ ih ih' =>
    obtain ⟨hexact, hvalue⟩ := ih hd
    obtain ⟨hexact', hvalue'⟩ := ih' hexact
    exact ⟨hexact', fun room => (hvalue' room).trans (hvalue room)⟩
  | @text t t' ht => exact ⟨.text t', fun room => by simp only [value?, ht]⟩
  | item before after _ ih =>
    cases hd with
    | items hrs =>
      simp only [List.forall_mem_append, List.forall_mem_cons] at hrs
      obtain ⟨hexact, hvalue⟩ := ih hrs.2.1
      refine ⟨.items ?_, fun room => ?_⟩
      · simpa only [List.forall_mem_append, List.forall_mem_cons] using ⟨hrs.1, hexact, hrs.2.2⟩
      · cases room with
        | zero => rfl
        | succ room => simp only [value?, List.mapM_append, List.mapM_cons, hvalue]
  | member before after hk _ ih =>
    cases hd with
    | members hn hms =>
      simp only [List.forall_mem_append, List.forall_mem_cons] at hms
      obtain ⟨hexact, hvalue⟩ := ih hms.2.1
      refine ⟨.members ?_ ?_, fun room => ?_⟩
      · simpa only [List.map_append, List.map_cons, hk] using hn
      · simpa only [List.forall_mem_append, List.forall_mem_cons] using ⟨hms.1, hexact, hms.2.2⟩
      · cases room with
        | zero => rfl
        | succ room => simp only [value?, List.mapM_append, List.mapM_cons, hvalue, hk]
  | perm hp =>
    cases hd with
    | members hn hms =>
      have hn' := (hp.map (·.1.value?)).nodup_iff.1 hn
      refine ⟨.members hn' fun m hm => hms m (hp.mem_iff.2 hm), fun room => ?_⟩
      exact Option.ext fun j => ⟨value?_of_perm hp.symm hn', value?_of_perm hp hn⟩

end Raw

end VaultProjection.Json

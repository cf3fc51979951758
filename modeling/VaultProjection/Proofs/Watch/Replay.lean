import Mathlib.Data.List.Induction
import Mathlib.Logic.Function.Basic
import VaultProjection.Proofs.Watch.Shelf

/-!
# What the announced changes tell

The watch announces what every notice means for a resource. Whoever keeps a map of the resources by
these changes alone (`Mirror`) should hold what the cache shows. Notices and deletions keep the two
together, and so does what a list shows. But a resource that is missing from a list leaves the cache
when the list is complete, and nothing announces that: the map holds it until the watch speaks of
its place again (`Vanished`).

Results:
1. `shown_after`, `mirror_after`: what an episode of the watch makes of the cache and of the map.
2. `mirrors_iff`: the map and the cache agree on a place exactly if nothing vanished from it; what
   leaves the cache is announced exactly if it does not leave by a list.
-/

namespace VaultProjection

open Watch (Cache Notice Place Shelf app)

/-! ## Maps kept by the announced changes -/

/-- The resources that the announced changes leave at each place. -/
abbrev Mirror := Place → Option Resource

namespace Mirror

def empty : Mirror := fun _ => none

def put (m : Mirror) (r : Resource) : Mirror := Function.update m (.of r) (some r)

def drop (m : Mirror) (p : Place) : Mirror := Function.update m p none

def follow (m : Mirror) : Change → Mirror
  | .added r => m.put r
  | .updated _ r => m.put r
  | .deleted r => m.drop (.of r)

/-- Follows changes one after the other. -/
def replay (m : Mirror) (cs : List Change) : Mirror := cs.foldl follow m

variable {m : Mirror} {p : Place}

theorem put_apply (m : Mirror) (r : Resource) (p : Place) :
    m.put r p = if p = .of r then some r else m p := Function.update_apply ..

theorem drop_apply (m : Mirror) (q p : Place) :
    m.drop q p = if p = q then none else m p := Function.update_apply ..

theorem replay_append (m : Mirror) (cs cs' : List Change) :
    m.replay (cs ++ cs') = (m.replay cs).replay cs' := List.foldl_append

/-- A notice that shows a resource is announced as its addition or as its update. -/
theorem replay_change (m : Mirror) (c : Cache) {n : Notice Resource} {r : Resource}
    (h : n = .apply r ∨ n = .initApply r) : m.replay (c.change? n).toList = m.put r := by
  have hchange : c.change? n = some (.added r) ∨
      ∃ old, c.change? n = some (.updated old r) := by
    rcases h with rfl | rfl <;> cases hfound : c.shown.find? (.of r) <;>
      simp [Cache.change?, hfound]
  rcases hchange with hc | ⟨old, hc⟩ <;> rw [hc] <;> rfl

end Mirror

/-! ## Notices one after the other -/

namespace Watch.Cache

/-- Applies notices one after the other, and collects the changes that they announce. -/
def feed (c : Cache) : List (Notice Resource) → Cache × List Change
  | [] => (c, [])
  | n :: ns =>
    let (c, change) := c.apply n
    let (c, changes) := c.feed ns
    (c, change.toList ++ changes)

/-- Deletions are announced for the notices of deletion, and for nothing else. -/
theorem deleted_mem_feed {c : Cache} {ns : List (Notice Resource)} {r : Resource} :
    .deleted r ∈ (c.feed ns).2 ↔ .delete r ∈ ns := by
  induction ns generalizing c with
  | nil => simp [feed]
  | cons n ns ih =>
    have hfirst : .deleted r ∈ (c.change? n).toList ↔ .delete r = n := by
      cases n with
      | apply r' | initApply r' =>
        cases hfound : c.shown.find? (.of r') <;> simp [change?, hfound]
      | delete | init | initDone => simp [change?]
    rw [List.mem_cons, ← hfirst, ← ih (c := c.step n)]
    exact List.mem_append

theorem feed_append (c : Cache) (ns ns' : List (Notice Resource)) :
    c.feed (ns ++ ns') =
      (((c.feed ns).1.feed ns').1, (c.feed ns).2 ++ ((c.feed ns).1.feed ns').2) := by
  induction ns generalizing c with
  | nil => rfl
  | cons n ns ih => simp [feed, ih]

end Watch.Cache

namespace Replay

/-- What the watch delivers: a change of one resource, or a list of them. -/
inductive Episode where
  | apply (r : Resource)
  | delete (r : Resource)
  | list (rs : List Resource)

/-- The copy of the place that is shown last. -/
def latest (rs : List Resource) (p : Place) : Option Resource :=
  rs.reverse.find? fun r => p = Place.of r

namespace Episode

def notices : Episode → List (Notice Resource)
  | .apply r => [.apply r]
  | .delete r => [.delete r]
  | .list rs => .init :: (rs.map .initApply ++ [.initDone])

/-- What the watch says of a place: which resource stands there, that none does, or nothing. -/
def tells : Episode → Place → Option (Option Resource)
  | .apply r, p => if p = .of r then some (some r) else none
  | .delete r, p => if p = .of r then some none else none
  | .list rs, p => (latest rs p).map some

/-- What stands at a place of which the watch said nothing. -/
def keeps : Episode → Option Resource → Option Resource
  | .list _, _ => none
  | _, old => old

end Episode

variable {p : Place} {rs : List Resource} {history : List Episode}

/-- The cache after a history, and the changes announced on the way. -/
def outcome (history : List Episode) : Cache × List Change :=
  Cache.empty.feed (history.flatMap Episode.notices)

/-- What the cache shows at a place after a history. -/
def shown (history : List Episode) (p : Place) : Option Resource :=
  (outcome history).1.shown.lookup p

/-- What the changes announced in a history leave at a place. -/
def mirrored (history : List Episode) (p : Place) : Option Resource :=
  Mirror.empty.replay (outcome history).2 p

/-- The changes that an episode announces after a history. -/
def news (history : List Episode) (e : Episode) : List Change :=
  ((outcome history).1.feed e.notices).2

/-- A resource of the place left the cache by a list, and the watch has not spoken of the place
since. -/
def Vanished (history : List Episode) (p : Place) : Prop :=
  ∃ before rs after, history = before ++ .list rs :: after ∧ (shown before p).isSome ∧
    ∀ e ∈ Episode.list rs :: after, e.tells p = none

/-! ## One episode -/

theorem latest_cons (r : Resource) (rs : List Resource) (p : Place) :
    latest (r :: rs) p = (latest rs p).or (if p = .of r then some r else none) := by
  unfold latest
  rw [List.reverse_cons, List.find?_append]
  by_cases hp : p = .of r <;> simp [hp]

theorem lookup_puts (s : Shelf) (rs : List Resource) (p : Place) :
    (rs.foldl Shelf.put s).lookup p = (latest rs p).or (s.lookup p) := by
  induction rs generalizing s with
  | nil => rfl
  | cons r rs ih =>
    rw [List.foldl_cons, ih, latest_cons, Shelf.lookup_put, Option.or_assoc]
    split <;> rfl

theorem puts_apply (m : Mirror) (rs : List Resource) (p : Place) :
    rs.foldl Mirror.put m p = (latest rs p).or (m p) := by
  induction rs generalizing m with
  | nil => rfl
  | cons r rs ih =>
    rw [List.foldl_cons, ih, latest_cons, Mirror.put_apply, Option.or_assoc]
    split <;> rfl

/-- What a list shows is collected, and announced at once. -/
theorem feed_collects (c : Cache) (rs : List Resource) :
    (c.feed (rs.map .initApply)).1 = ⟨c.shown, rs.foldl Shelf.put c.collected⟩ ∧
      ∀ m : Mirror, m.replay (c.feed (rs.map .initApply)).2 = rs.foldl Mirror.put m := by
  induction rs generalizing c with
  | nil => exact ⟨rfl, fun _ => rfl⟩
  | cons r rs ih =>
    obtain ⟨hcache, hmirror⟩ := ih (c.step (.initApply r))
    refine ⟨hcache, fun m => ?_⟩
    refine (m.replay_append _ _).trans ?_
    rw [Mirror.replay_change m c (.inr rfl)]
    exact hmirror (m.put r)

theorem feed_list (c : Cache) (rs : List Resource) :
    (c.feed (Episode.list rs).notices).1 = ⟨rs.foldl Shelf.put [], []⟩ ∧
      ∀ m : Mirror, m.replay (c.feed (Episode.list rs).notices).2 = rs.foldl Mirror.put m := by
  obtain ⟨hcache, hmirror⟩ := feed_collects ⟨c.shown, []⟩ rs
  have hfeed : c.feed (Episode.list rs).notices =
      (Cache.step (Cache.feed ⟨c.shown, []⟩ (rs.map .initApply)).1 .initDone,
        (Cache.feed ⟨c.shown, []⟩ (rs.map .initApply)).2 ++ []) := by
    have hinit : c.feed (Episode.list rs).notices =
        Cache.feed ⟨c.shown, []⟩ (rs.map .initApply ++ [.initDone]) := rfl
    rw [hinit, Cache.feed_append]
    rfl
  rw [hfeed, List.append_nil]
  exact ⟨by rw [hcache]; rfl, hmirror⟩

/-- What an episode makes of the cache: what the watch says stands, and only a list takes away what
it does not speak of. -/
theorem shown_after (c : Cache) (e : Episode) (p : Place) :
    (c.feed e.notices).1.shown.lookup p = (e.tells p).getD (e.keeps (c.shown.lookup p)) := by
  cases e with
  | apply r =>
    refine (Shelf.lookup_put c.shown r p).trans ?_
    by_cases hp : p = .of r <;> simp [Episode.tells, Episode.keeps, hp]
  | delete r =>
    refine (Shelf.lookup_drop c.shown (.of r) p).trans ?_
    by_cases hp : p = .of r <;> simp [Episode.tells, Episode.keeps, hp]
  | list rs =>
    rw [(feed_list c rs).1, lookup_puts]
    cases hl : latest rs p <;> simp [Episode.tells, Episode.keeps, hl]

/-- What an episode makes of the map: what the watch says stands, and the rest stays. -/
theorem mirror_after (m : Mirror) (c : Cache) (e : Episode) (p : Place) :
    m.replay (c.feed e.notices).2 p = (e.tells p).getD (m p) := by
  cases e with
  | apply r =>
    have hnews : (c.feed (Episode.apply r).notices).2 = (c.change? (.apply r)).toList :=
      List.append_nil _
    rw [hnews, Mirror.replay_change m c (.inl rfl), Mirror.put_apply]
    by_cases hp : p = .of r <;> simp [Episode.tells, hp]
  | delete r =>
    refine (m.drop_apply (.of r) p).trans ?_
    by_cases hp : p = .of r <;> simp [Episode.tells, hp]
  | list rs =>
    rw [(feed_list c rs).2, puts_apply]
    cases hl : latest rs p <;> simp [Episode.tells, hl]

/-! ## Whole histories -/

theorem outcome_snoc (history : List Episode) (e : Episode) :
    outcome (history ++ [e]) = (((outcome history).1.feed e.notices).1,
      (outcome history).2 ++ news history e) := by
  simp only [outcome, List.flatMap_append, List.flatMap_singleton, Cache.feed_append]
  rfl

theorem shown_snoc (history : List Episode) (e : Episode) (p : Place) :
    shown (history ++ [e]) p = (e.tells p).getD (e.keeps (shown history p)) := by
  rw [shown, outcome_snoc]
  exact shown_after _ e p

theorem mirrored_snoc (history : List Episode) (e : Episode) (p : Place) :
    mirrored (history ++ [e]) p = (e.tells p).getD (mirrored history p) := by
  rw [mirrored, outcome_snoc, Mirror.replay_append]
  exact mirror_after _ _ e p

theorem vanished_snoc (history : List Episode) (e : Episode) (p : Place) :
    Vanished (history ++ [e]) p ↔ e.tells p = none ∧
      (Vanished history p ∨ (∃ rs, e = .list rs) ∧ (shown history p).isSome) := by
  constructor
  · rintro ⟨before, rs, after, heq, hshown, hquiet⟩
    rcases List.eq_nil_or_concat after with rfl | ⟨after, e', rfl⟩
    · obtain ⟨rfl, he⟩ := List.append_inj' heq rfl
      cases he
      exact ⟨hquiet _ List.mem_cons_self, .inr ⟨⟨rs, rfl⟩, hshown⟩⟩
    · rw [List.concat_eq_append, ← List.cons_append, ← List.append_assoc] at heq
      obtain ⟨rfl, he⟩ := List.append_inj' heq rfl
      cases he
      refine ⟨hquiet e (by simp), .inl ⟨before, rs, after, rfl, hshown, fun x hx => ?_⟩⟩
      refine hquiet x ?_
      rw [List.concat_eq_append, ← List.cons_append]
      exact List.mem_append_left _ hx
  · rintro ⟨htells, ⟨before, rs, after, rfl, hshown, hquiet⟩ | ⟨⟨rs, rfl⟩, hshown⟩⟩
    · refine ⟨before, rs, after ++ [e], by simp, hshown, fun x hx => ?_⟩
      rcases List.mem_append.1 (List.cons_append ▸ hx) with hx | hx
      · exact hquiet x hx
      · exact List.mem_singleton.1 hx ▸ htells
    · refine ⟨history, rs, [], rfl, hshown, fun x hx => ?_⟩
      exact List.mem_singleton.1 hx ▸ htells

/-- The map agrees with the cache on a place, or it still holds what vanished from there. -/
theorem mirrored_cases (history : List Episode) (p : Place) :
    ¬ Vanished history p ∧ mirrored history p = shown history p ∨
      Vanished history p ∧ (mirrored history p).isSome ∧ shown history p = none := by
  -- An episode that tells of the place settles it for both; of the others only a list matters: it
  -- takes from the cache what the map still holds.
  induction history using List.reverseRecOn with
  | nil =>
    refine .inl ⟨?_, rfl⟩
    rintro ⟨before, rs, after, heq, -⟩
    simp at heq
  | append_singleton history e ih =>
    rw [vanished_snoc, mirrored_snoc, shown_snoc]
    cases htells : e.tells p with
    | some o => simp
    | none =>
      rcases ih with ⟨hnot, heq⟩ | ⟨hvanished, hholds, hgone⟩
      · cases e with
        | list rs => cases hshown : shown history p <;> simp [hnot, heq, hshown, Episode.keeps]
        | apply | delete => simp [hnot, heq, Episode.keeps]
      · cases e <;> simp [hvanished, hholds, hgone, Episode.keeps]

/-- A resource of the place leaves the cache with the episode. -/
def Leaves (history : List Episode) (e : Episode) (p : Place) : Prop :=
  (shown history p).isSome ∧ shown (history ++ [e]) p = none

/-- What leaves the cache is deleted, or missing from a list. -/
theorem Leaves.cases {e : Episode} (h : Leaves history e p) :
    (∃ r, e = .delete r ∧ .of r = p) ∨ ∃ rs, e = .list rs := by
  obtain ⟨hshown, hgone⟩ := h
  rw [shown_snoc] at hgone
  cases e with
  | list rs => exact .inr ⟨rs, rfl⟩
  | apply r | delete r =>
    by_cases hp : p = .of r <;> simp_all [Episode.tells, Episode.keeps]

/-- The map that follows the announced changes holds all that the cache shows, and it agrees with
the cache on a place exactly if nothing has vanished from there. The deletion of what leaves the
cache is announced exactly if it does not leave by a list. -/
theorem mirrors_iff (history : List Episode) (p : Place) :
    (∀ r, shown history p = some r → mirrored history p = some r) ∧
      (mirrored history p = shown history p ↔ ¬ Vanished history p) ∧
      ∀ e, Leaves history e p →
        ((∃ r, .of r = p ∧ .deleted r ∈ news history e) ↔ ∀ rs, e ≠ .list rs) := by
  refine ⟨?_, ?_, fun e hleaves => ?_⟩
  · intro r hshown
    rcases mirrored_cases history p with ⟨-, heq⟩ | ⟨-, -, hgone⟩
    · exact heq.trans hshown
    · exact absurd (hgone.symm.trans hshown) (by simp)
  · rcases mirrored_cases history p with ⟨hnot, heq⟩ | ⟨hvanished, hholds, hgone⟩
    · exact ⟨fun _ => hnot, fun _ => heq⟩
    · refine ⟨fun heq => ?_, fun hnot => absurd hvanished hnot⟩
      rw [heq, hgone] at hholds
      cases hholds
  · unfold news
    simp only [Cache.deleted_mem_feed]
    rcases hleaves.cases with ⟨r, rfl, hp⟩ | ⟨rs, rfl⟩
    · exact ⟨fun _ rs => by simp, fun _ => ⟨r, hp, List.mem_singleton_self _⟩⟩
    · simp [Episode.notices]

/-! ## A resource that is deleted unseen -/

/-- The second list shows nothing: the resource is gone from the cache, its deletion is not
announced, and the map holds it still. -/
theorem mirrors_iff_relisted : Leaves [.list [app]] (.list []) (.of app) ∧
    (¬ ∃ r, .of r = Place.of app ∧ .deleted r ∈ news [.list [app]] (.list [])) ∧
    Vanished [.list [app], .list []] (.of app) ∧
    mirrored [.list [app], .list []] (.of app) ≠ shown [.list [app], .list []] (.of app) := by
  have hleaves : Leaves [.list [app]] (.list []) (.of app) := ⟨by decide, by decide⟩
  have hvanished : Vanished [.list [app], .list []] (.of app) :=
    ⟨[.list [app]], [], [], rfl, hleaves.1, fun e he => by
      rw [List.mem_singleton.1 he]
      rfl⟩
  refine ⟨hleaves, fun hnews => ?_, hvanished, fun heq => ?_⟩
  · exact ((mirrors_iff [.list [app]] (.of app)).2.2 (.list []) hleaves).1 hnews [] rfl
  · exact (mirrors_iff [.list [app], .list []] (.of app)).2.1.1 heq hvanished

end Replay

end VaultProjection

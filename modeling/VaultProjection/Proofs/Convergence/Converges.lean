import Mathlib
import VaultProjection.Proofs.Convergence.Steps

/-!
# Convergence

From two idle queues, a resync and the passes that follow it bring every output to what the vault
holds, in whatever order the passes run.

Results:
1. `Inv.step`: each step keeps the invariant.
2. `step_potential`: each step uses up some of a potential, so runs end.
3. `converges`: a run from a resync is bounded, does not stop before both queues are quiet, and when
   they are quiet every output is there, belongs to its resource and holds what the vault holds.
-/

namespace VaultProjection.Convergence

section

variable {σ : Type} {w : World σ} {cache : Watch.Cache} {vault : Vaults} {start : σ}
  {r r' : Resource} {owner : Kube.OwnerReference} {maxRetries : Nat} {s s' : State σ}

/-! ## Other resources -/

theorem Tidy.congr {ns : String} {d : OutputKind × String} {s s' : σ}
    (h : w.object s' d.1 ns d.2 = w.object s d.1 ns d.2) (ht : Tidy w vault r owner ns d s) :
    Tidy w vault r owner ns d s' := by
  unfold Tidy
  rw [h]
  exact ht

theorem Holds.congr {ns : String} {d : OutputKind × String} {s s' : σ}
    (h : w.object s' d.1 ns d.2 = w.object s d.1 ns d.2) (ht : Holds w vault r owner ns d s) :
    Holds w vault r owner ns d s' := by
  unfold Holds
  rw [h]
  exact ht

theorem missing_congr {s s' : σ}
    (h : ∀ d ∈ r.declared, w.object s' d.1 r.home d.2 = w.object s d.1 r.home d.2) :
    missing w r s' = missing w r s := by
  rw [Bool.eq_iff_iff, missing_iff, missing_iff]
  constructor
  · rintro ⟨d, hd, hnone⟩
    exact ⟨d, hd, h d hd ▸ hnone⟩
  · rintro ⟨d, hd, hnone⟩
    exact ⟨d, hd, (h d hd).trans hnone⟩

theorem Syncs.missing_eq (h : Syncs w vault r r.home r.declared s.world s'.world) :
    missing w r s'.world = missing w r s.world := by
  rw [Bool.eq_iff_iff, missing_iff, missing_iff]
  simp only [h.none_iff]

/-- A step about a resource changes no outputs but those that the resource asks for. -/
theorem Move.elsewhere (h : Move w vault maxRetries r owner s s') {k : OutputKind}
    {ns name : String} (hd : ¬ (ns = r.home ∧ (k, name) ∈ r.declared)) :
    w.object s'.world k ns name = w.object s.world k ns name := by
  cases h with
  | take id dirty free views world => rw [world]
  | fire delayed drift structural world => rw [world]
  | fill working structural drift fills there =>
    exact (fills k ns name).resolve_right fun ⟨hns, hm, _⟩ => hd ⟨hns, hm⟩
  | sync working drift structural syncs holds =>
    exact (syncs k ns name).resolve_right fun ⟨hns, hm, _⟩ => hd ⟨hns, hm⟩
  | fail working drift structural syncs lacks =>
    exact (syncs k ns name).resolve_right fun ⟨hns, hm, _⟩ => hd ⟨hns, hm⟩

theorem Move.other (hset : Setting w cache vault start) (h : Move w vault maxRetries r owner s s')
    (hr : r ∈ cache.resources) (hr' : r' ∈ cache.resources) (hne : r' ≠ r) :
    ∀ d ∈ r'.declared, w.object s'.world d.1 r'.home d.2 = w.object s.world d.1 r'.home d.2 :=
  fun d hd => h.elsewhere fun ⟨hhome, hm⟩ => hne (hset.apart r' hr' r hr hhome d hd hm)

/-! ## The step lemma -/

theorem Move.tidy (hset : Setting w cache vault start) (h : Move w vault maxRetries r owner s s')
    (hr : r ∈ cache.resources) (howner : r.ownerReference? = some owner)
    {d : OutputKind × String} (hd : d ∈ r.declared) (ht : Tidy w vault r owner r.home d s.world) :
    Tidy w vault r owner r.home d s'.world := by
  cases h with
  | take id dirty free views world => rwa [world]
  | fire delayed drift structural world => rwa [world]
  | fill working structural drift fills there =>
    exact ht.fills (ownerReference?_controller howner) (hset.fresh r hr d hd _) fills
  | sync working drift structural syncs holds => exact ht.syncs syncs
  | fail working drift structural syncs lacks => exact ht.syncs syncs

theorem Move.due (h : Move w vault maxRetries r owner s s')
    (hdue : (∀ d ∈ r.declared, Holds w vault r owner r.home d s.world) ∨
      (s.view .drift r.key).owed = true ∨
      missing w r s.world = true ∧ (s.view .structural r.key).owed = true) :
    (∀ d ∈ r.declared, Holds w vault r owner r.home d s'.world) ∨
      (s'.view .drift r.key).owed = true ∨
      missing w r s'.world = true ∧ (s'.view .structural r.key).owed = true := by
  cases h with
  | take id dirty free views world =>
    have howed : ∀ id', (s.view id' r.key).owed = true → (s'.view id' r.key).owed = true := by
      intro id' ho
      rw [views]
      split
      · rfl
      · exact ho
    rw [world]
    exact hdue.imp_right (.imp (howed _) (.imp_right (howed _)))
  | fire delayed drift structural world =>
    refine .inr (.inl ?_)
    rw [drift]
    rfl
  | fill working structural drift fills there =>
    rw [drift]
    cases hm : missing w r s.world with
    | true => exact .inr (.inl rfl)
    | false =>
      rcases hdue with hholds | ho | ⟨hm', -⟩
      · refine .inl fun d hd => ?_
        obtain ⟨o, ho, hrest⟩ := hholds d hd
        exact ⟨o, fills.mono ho, hrest⟩
      · exact .inr (.inl ho)
      · rw [hm] at hm'
        cases hm'
  | sync working drift structural syncs holds => exact .inl holds
  | fail working drift structural syncs lacks =>
    refine .inr (.inr ⟨?_, ?_⟩)
    · rw [syncs.missing_eq, lacks]
    · rw [structural]
      rfl

/-- Each step keeps the invariant. -/
theorem Inv.step (hset : Setting w cache vault start) (hinv : Inv w cache vault s)
    (h : Step w maxRetries s s') : Inv w cache vault s' := by
  obtain ⟨r, hr, owner, howner, hout, hsane, hviews, hmove⟩ := step_cases hset hinv h
  -- What the step is not about keeps its views and its outputs.
  constructor
  · exact hsane
  · intro id key hb
    by_cases hk : key = r.key
    · exact ⟨r, hr, hout, hk.symm⟩
    · rw [hviews id key hk] at hb
      exact hinv.keys id key hb
  · intro key
    by_cases hk : key = r.key
    · subst hk
      have hno := hinv.noRetry r.key
      cases hmove with
      | take id dirty free views world =>
        rw [views]
        split
        · exact hno
        · exact hno
      | fire delayed drift structural world => rw [structural, hno]
      | fill working structural drift fills there => rw [structural]; rfl
      | sync working drift structural syncs holds => rw [structural, hno]
      | fail working drift structural syncs lacks => rw [structural]; exact hno
    · rw [hviews _ key hk, hinv.noRetry]
  · intro r' hr' owner' howner' d hd
    by_cases hrr : r' = r
    · subst hrr
      obtain rfl : owner = owner' := by simpa [howner] using howner'
      exact hmove.tidy hset hr howner hd (hinv.tidy r' hr' owner howner d hd)
    · exact (hinv.tidy r' hr' owner' howner' d hd).congr (hmove.other hset hr hr' hrr d hd)
  · intro r' hr' owner' howner'
    by_cases hrr : r' = r
    · subst hrr
      obtain rfl : owner = owner' := by simpa [howner] using howner'
      exact hmove.due (hinv.due r' hr' owner howner)
    · have hsame := hmove.other hset hr hr' hrr
      have hk : r'.key ≠ r.key := fun hk => hrr (hset.key_inj hr' hr hk)
      rw [hviews _ _ hk, hviews _ _ hk, missing_congr hsame]
      exact (hinv.due r' hr' owner' howner').imp_left fun hh d hd => (hh d hd).congr (hsame d hd)

/-! ## The bound on runs -/

/-- What is still to be done about a resource, counted so that every step makes it less. A delayed
add and a missing output count for the drift pass that they lead to, and a drift pass for the
structural pass that it may lead to and for the failures that it may clear. -/
def weight (maxRetries : Nat) (drift structural : KeyView) (missing : Bool) : Nat :=
  (5 * maxRetries + 5) * missing.toNat + (5 * maxRetries + 5) * drift.delayed.toNat +
    (5 * maxRetries + 4) * drift.dirty.toNat + (5 * maxRetries + 3) * drift.working.toNat +
    5 * (maxRetries - drift.failures) + 2 * structural.dirty.toNat + structural.working.toNat

def potential (w : World σ) (cache : Watch.Cache) (maxRetries : Nat) (s : State σ) : Nat :=
  (cache.resources.map fun r =>
    weight maxRetries (s.view .drift r.key) (s.view .structural r.key) (missing w r s.world)).sum

section

variable {d e : KeyView} {m : Bool}

theorem weight_take_drift (hd : d.dirty = true) (hw : d.working = false) :
    weight maxRetries d.taken e m < weight maxRetries d e m := by
  simp only [weight, KeyView.taken, hd, hw, Bool.toNat_true, Bool.toNat_false]
  omega

theorem weight_take_structural (hd : e.dirty = true) (hw : e.working = false) :
    weight maxRetries d e.taken m < weight maxRetries d e m := by
  simp only [weight, KeyView.taken, hd, hw, Bool.toNat_true, Bool.toNat_false]
  omega

theorem weight_fire (hd : d.delayed = true) :
    weight maxRetries d.fired e m < weight maxRetries d e m := by
  cases hdirty : d.dirty <;>
    simp only [weight, KeyView.fired, hd, hdirty, Bool.toNat_true, Bool.toNat_false] <;> omega

theorem weight_fill (hw : e.working = true) :
    weight maxRetries (if m then d.added else d) e.forgotten.finished false <
      weight maxRetries d e m := by
  cases m <;> cases hdirty : d.dirty <;>
    simp only [weight, KeyView.added, KeyView.forgotten, KeyView.finished, hw, hdirty, if_true,
      if_false, Bool.false_eq_true, Bool.toNat_true, Bool.toNat_false] <;> omega

theorem weight_sync (hw : d.working = true) :
    weight maxRetries d.forgotten.finished e m < weight maxRetries d e m := by
  simp only [weight, KeyView.forgotten, KeyView.finished, hw, Bool.toNat_true, Bool.toNat_false]
  omega

theorem weight_fail (hmax : maxRetries < 2 ^ 32) (hw : d.working = true) :
    weight maxRetries (d.failed maxRetries).finished e.added m < weight maxRetries d e m := by
  unfold KeyView.failed
  split
  · next hf =>
    have hpow : Nat.pow 2 32 = 2 ^ 32 := rfl
    have hmin : Nat.min (d.failures + 1) (Nat.pow 2 32 - 1) = d.failures + 1 :=
      Nat.min_eq_left (by omega)
    cases hdirty : e.dirty <;> cases hdelayed : d.delayed <;>
      simp only [weight, KeyView.retried, KeyView.finished, KeyView.added, hw, hdirty, hdelayed,
        hmin, Bool.toNat_true, Bool.toNat_false] <;> omega
  · next hf =>
    cases hdirty : e.dirty <;>
      simp only [weight, KeyView.forgotten, KeyView.finished, KeyView.added, hw, hdirty,
        Bool.toNat_true, Bool.toNat_false] <;> omega

end

theorem Move.weight_lt (hmax : maxRetries < 2 ^ 32) (h : Move w vault maxRetries r owner s s') :
    weight maxRetries (s'.view .drift r.key) (s'.view .structural r.key) (missing w r s'.world) <
      weight maxRetries (s.view .drift r.key) (s.view .structural r.key) (missing w r s.world) := by
  cases h with
  | take id dirty free views world =>
    rw [views, views, world]
    cases id with
    | structural => exact weight_take_structural dirty free
    | drift => exact weight_take_drift dirty free
  | fire delayed drift structural world =>
    rw [drift, structural, world]
    exact weight_fire delayed
  | fill working structural drift fills there =>
    rw [drift, structural, there]
    exact weight_fill working
  | sync working drift structural syncs holds =>
    rw [drift, structural, syncs.missing_eq]
    exact weight_sync working
  | fail working drift structural syncs lacks =>
    rw [drift, structural, syncs.missing_eq]
    exact weight_fail hmax working

/-- Each step uses up some of the potential. -/
theorem step_potential (hset : Setting w cache vault start) (hmax : maxRetries < 2 ^ 32)
    (hinv : Inv w cache vault s) (h : Step w maxRetries s s') :
    potential w cache maxRetries s' < potential w cache maxRetries s := by
  obtain ⟨r, hr, owner, -, -, -, hviews, hmove⟩ := step_cases hset hinv h
  refine List.sum_lt_sum _ _ (fun r' hr' => ?_) ⟨r, hr, hmove.weight_lt hmax⟩
  by_cases hrr : r' = r
  · rw [hrr]
    exact (hmove.weight_lt hmax).le
  · have hk : r'.key ≠ r.key := fun hk => hrr (hset.key_inj hr' hr hk)
    rw [hviews _ _ hk, hviews _ _ hk, missing_congr (hmove.other hset hr hr' hrr)]

/-- A run keeps the invariant and is no longer than the potential that it uses up. -/
theorem Run.inv (hset : Setting w cache vault start) (hmax : maxRetries < 2 ^ 32)
    (hinv : Inv w cache vault s) {n : Nat} (h : Run w maxRetries s n s') :
    Inv w cache vault s' ∧
      n + potential w cache maxRetries s' ≤ potential w cache maxRetries s := by
  induction h with
  | refl => exact ⟨hinv, by omega⟩
  | step run next ih =>
    have hless := step_potential hset hmax ih.1 next
    exact ⟨ih.1.step hset next, by omega⟩

/-! ## The start and the end -/

/-- A resync of idle queues makes a drift pass due for every resource. -/
theorem inv_resync (hset : Setting w cache vault start) {qs : Queues} (hsane : qs.Sane)
    (hidle : ∀ id, (qs.get id).Idle) : Inv w cache vault ⟨(cache.resync qs).1, start⟩ := by
  have hquiet : ∀ id key, ((qs.get id).view key).busy = false := fun id =>
    (WorkQueue.idle_iff (hsane id).1 (hsane id).2).1 (hidle id)
  have heq := Watch.Cache.resync_eq hset.named hset.version qs
  generalize hkeys : (cache.resources.filter (·.hasOutput)).map Resource.key = keys at heq
  have hstructural : ∀ key, State.view ⟨(cache.resync qs).1, start⟩ .structural key =
      (qs.get .structural).view key := by
    intro key
    simp only [State.view, heq]
    rw [Queues.addAll_other (by decide)]
  have hdrift : ∀ key, State.view ⟨(cache.resync qs).1, start⟩ .drift key =
      if key ∈ keys then ((qs.get .drift).view key).added else (qs.get .drift).view key := by
    intro key
    simp only [State.view, heq]
    rw [Queues.view_addAll hsane]
  constructor
  · simp only [heq]
    exact hsane.addAll .drift keys
  · intro id key hb
    cases id with
    | structural => simp [hstructural, hquiet] at hb
    | drift =>
      rw [hdrift] at hb
      split at hb
      · next hm =>
        rw [← hkeys] at hm
        obtain ⟨r, hr, rfl⟩ := List.mem_map.1 hm
        exact ⟨r, (List.mem_filter.1 hr).1, (List.mem_filter.1 hr).2, rfl⟩
      · simp [hquiet] at hb
  · intro key
    rw [hstructural]
    have hq := hquiet .structural key
    simp only [KeyView.busy, Bool.or_eq_false_iff] at hq
    exact hq.2
  · exact hset.tidy
  · intro r hr owner howner
    by_cases hout : r.hasOutput = true
    · refine .inr (.inl ?_)
      have hm : r.key ∈ keys :=
        hkeys ▸ List.mem_map_of_mem (List.mem_filter.2 ⟨hr, hout⟩)
      rw [hdrift, if_pos hm]
      rfl
    · have hnil : r.declared = [] := by
        rw [Resource.hasOutput_iff, not_not] at hout
        exact hout
      exact .inl fun d hd => by simp [hnil] at hd

/-- While some queue is not idle there is something to do. -/
theorem exists_step (hinv : Inv w cache vault s) (h : ¬ s.Quiet) :
    ∃ s', Step w maxRetries s s' := by
  obtain ⟨id, hid⟩ := not_forall.1 h
  obtain ⟨hsound, hrunning⟩ := hinv.sane id
  rcases WorkQueue.exists_work hrunning hid with ⟨key, hkey⟩ | ⟨key, q, ss, htake⟩ | ⟨key, d, hd⟩
  · exact ⟨_, .pass id hkey .zero⟩
  · exact ⟨_, .take id htake⟩
  · exact ⟨_, .fire id hd⟩

/-- When the queues are quiet every output is as wanted. -/
theorem Inv.quiet (hinv : Inv w cache vault s) (h : s.Quiet) (hr : r ∈ cache.resources)
    (howner : r.ownerReference? = some owner) {d : OutputKind × String} (hd : d ∈ r.declared) :
    Holds w vault r owner r.home d s.world := by
  have hfree : ∀ id, (s.view id r.key).owed ≠ true := by
    intro id ho
    have hq := (WorkQueue.idle_iff (hinv.sane id).1 (hinv.sane id).2).1 (h id) r.key
    simp only [KeyView.busy, Bool.or_eq_false_iff] at hq
    exact absurd (ho.symm.trans hq.1) (by decide)
  rcases hinv.due r hr owner howner with hh | ho | ⟨-, ho⟩
  · exact hh d hd
  · exact absurd ho (hfree .drift)
  · exact absurd ho (hfree .structural)

/-- From two idle queues, a resync and the passes that follow it end, and when both queues are idle
again every output is there, belongs to its resource and holds what the vault holds. -/
theorem converges (hset : Setting w cache vault start) {qs : Queues} (hsane : qs.Sane)
    (hidle : ∀ id, (qs.get id).Idle) (hmax : maxRetries < 2 ^ 32) :
    (∃ bound, ∀ n s, Run w maxRetries ⟨(cache.resync qs).1, start⟩ n s → n ≤ bound) ∧
      ∀ n s, Run w maxRetries ⟨(cache.resync qs).1, start⟩ n s →
        (s.Quiet ∨ ∃ s', Step w maxRetries s s') ∧
        (s.Quiet → ∀ r ∈ cache.resources, ∃ owner, r.ownerReference? = some owner ∧
          ∀ d ∈ r.declared, Holds w vault r owner r.home d s.world) := by
  have hinv := inv_resync hset hsane hidle
  refine ⟨⟨_, fun n s hrun => (Nat.le_add_right _ _).trans (hrun.inv hset hmax hinv).2⟩,
    fun n s hrun => ?_⟩
  obtain ⟨hinv', -⟩ := hrun.inv hset hmax hinv
  refine ⟨Classical.or_iff_not_imp_left.2 (exists_step hinv'), fun hquiet r hr => ?_⟩
  obtain ⟨name, owner, -, -, howner⟩ := hset.find hr
  exact ⟨owner, howner, fun d hd => hinv'.quiet hquiet hr howner hd⟩

end

/-! ## An instance -/

/-- A resource that asks for a Secret and a ConfigMap with one entry each. -/
def sample : Resource :=
  { Watch.app with spec.output.configMap := some ⟨"settings", some "password"⟩ }

/-- The Secret stands there with an older value; the ConfigMap is missing. -/
def sampleStart : Objects := fun k ns name =>
  match k with
  | .secret =>
    if ns = "prod" ∧ name = "login" then
      some ⟨{ Kube.ObjectMeta.empty with
          name := some "login", ns := some "prod", ownerReferences := some [Watch.appOwner] },
        some [("password", Bytes.ofText "old")], none, none, some defaultSecretType⟩
    else none
  | .configMap => none

def sampleVault : Vaults := fun _ _ => .ok ⟨"new", none⟩

def sampleCache : Watch.Cache := ⟨[(.of sample, sample)], []⟩

theorem sample_yields_secret {p : OutputKind.Payload .secret}
    (h : Yields sampleVault sample .secret p) : p = [("password", Bytes.ofText "new")] := by
  refine h.unique ⟨.secret [], by rfl, ?_⟩
  rfl

theorem sample_yields_configMap {p : OutputKind.Payload .configMap}
    (h : Yields sampleVault sample .configMap p) : p = [("password", "new")] := by
  refine h.unique ⟨.secret [], by rfl, ?_⟩
  rfl

theorem sample_declared : sample.declared = [(.secret, "login"), (.configMap, "settings")] := rfl

theorem sample_named : sample.Named "prod" "app" := ⟨rfl, rfl, by decide, by decide⟩

theorem sample_setting :
    Setting (.memory sampleCache sampleVault) sampleCache sampleVault sampleStart := by
  have hone : ∀ r ∈ sampleCache.resources, r = sample := fun r hr => by
    simpa [sampleCache, Watch.Cache.resources] using hr
  constructor
  · exact World.memory_calm ..
  · exact ⟨by simp [sampleCache], by simp [sampleCache]⟩
  · exact fun r hr => ⟨"prod", "app", hone r hr ▸ sample_named⟩
  · exact fun r hr => hone r hr ▸ rfl
  · exact fun r hr => hone r hr ▸ rfl
  · exact fun r hr r' hr' _ _ _ _ => (hone r hr).trans (hone r' hr').symm
  · intro r hr d hd
    obtain rfl := hone r hr
    simp only [sample_declared, List.mem_cons, List.not_mem_nil, or_false] at hd
    rcases hd with rfl | rfl
    · exact ⟨[("password", Bytes.ofText "new")], .secret [], by rfl, rfl⟩
    · exact ⟨[("password", "new")], .secret [], by rfl, rfl⟩
  · intro r hr owner howner d hd o ho
    obtain rfl := hone r hr
    simp only [sample_declared, List.mem_cons, List.not_mem_nil, or_false] at hd
    rcases hd with rfl | rfl
    · obtain rfl : _ = o := Option.some.inj ho
      obtain rfl : _ = owner := Option.some.inj howner
      refine ⟨by decide, rfl, fun p hp heq => ?_⟩
      obtain rfl := sample_yields_secret hp
      exact absurd heq (by decide +kernel)
    · cases ho
  · intro r hr d hd m p hp heq
    obtain rfl := hone r hr
    simp only [sample_declared, List.mem_cons, List.not_mem_nil, or_false] at hd
    rcases hd with rfl | rfl
    · obtain rfl := sample_yields_secret hp
      exact absurd (show @Digest.ofPayload .secret [] = _ from heq) (by decide +kernel)
    · obtain rfl := sample_yields_configMap hp
      exact absurd (show @Digest.ofPayload .configMap [] = _ from heq) (by decide +kernel)

/-- In the end the Secret has the newer value and the ConfigMap is there, and the resource owns
both. -/
theorem converges_sample :
    ∃ bound, ∀ n s, Run (.memory sampleCache sampleVault) 0
        ⟨(sampleCache.resync (.empty .default)).1, sampleStart⟩ n s →
      n ≤ bound ∧ (s.Quiet →
        (∃ o, s.world .secret "prod" "login" = some o ∧
          (OutputKind.metadata o).isControlledBy Watch.appOwner = true ∧
          OutputKind.content o = [("password", Bytes.ofText "new")]) ∧
        ∃ o, s.world .configMap "prod" "settings" = some o ∧
          (OutputKind.metadata o).isControlledBy Watch.appOwner = true ∧
          OutputKind.content o = [("password", "new")]) := by
  obtain ⟨⟨bound, hbound⟩, hend⟩ := converges sample_setting
    (Queues.sane_empty .default) (Queues.idle_empty .default) (show 0 < 2 ^ 32 by decide)
  refine ⟨bound, fun n s hrun => ⟨hbound n s hrun, fun hquiet => ?_⟩⟩
  obtain ⟨owner, howner, hholds⟩ := (hend n s hrun).2 hquiet sample List.mem_cons_self
  obtain rfl : Watch.appOwner = owner := Option.some.inj howner
  obtain ⟨o, ho, howned, hy⟩ := hholds (.secret, "login") List.mem_cons_self
  obtain ⟨o', ho', howned', hy'⟩ := hholds (.configMap, "settings")
    (List.mem_cons_of_mem _ List.mem_cons_self)
  exact ⟨⟨o, ho, howned, sample_yields_secret hy⟩, o', ho', howned', sample_yields_configMap hy'⟩

end VaultProjection.Convergence

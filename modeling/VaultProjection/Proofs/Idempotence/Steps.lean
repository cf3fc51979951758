import VaultProjection.Proofs.Idempotence.Backend
import VaultProjection.Proofs.Status.Attempts

/-!
# The steps of a drift pass without other writers

What a pass does over a backend whose calls may fail, one rule for each part of it. Requests that
write nothing are always allowed; where a pass may come to a write, the rule leaves it to its
premises what follows.

Results:
1. `attempt_does`, `persistStatus_does`: an attempt to write a status ends without a write, or sends
   the status; so it goes on until one does not lose.
2. `sync_does`, `settle_does`: a pass over an output fails, or comes to settle it.
3. `drift_does`: a pass over a key has nothing to do, fails, or goes over the outputs.
-/

namespace VaultProjection.Idempotence

open Convergence (Vaults)
open Backend (Truthful)

section

variable {σ α : Type} {w : Backend σ} {vault : Vaults} {copy : Option Resource}
  {allowed : Request → Prop} {key ns name output : String} {r : Resource}
  {owner : Kube.OwnerReference} {h : Handler} {k : OutputKind} {s : σ}

variable (hw : w.Truthful vault) (hallowed : ∀ q, q.isWrite = false → allowed q)

include hw hallowed

/-! ## Steps that write nothing -/

/-- What is said changes nothing. -/
theorem tell_does (m : Signal) (s : σ) :
    (Pass.tell m).Does (w.serve copy) allowed (fun res s' => res = .ok () ∧ w.Same s s') s :=
  Pass.does_tell (hallowed _ rfl) ⟨rfl, hw.frame (.tell m) s rfl⟩

/-- A failed projection is noted as an event. -/
theorem failProjection_does (e : ProjectionError) (s : σ) :
    (Pass.Drift.failProjection r e : Pass α).Does (w.serve copy) allowed
      (fun res s' => w.Same s s' ∧ res = .error (.projection e)) s := by
  unfold Pass.Drift.failProjection Pass.record
  refine Pass.does_ask_bind (hallowed _ rfl) (Pass.does_throw ⟨?_, rfl⟩)
  exact hw.serve_same copy rfl s

/-- Following a recipe gives what it comes to. -/
theorem follow_does (recipe : Recipe α) (s : σ) :
    (Pass.Drift.follow r recipe).Does (w.serve copy) allowed
      (fun res s' => w.Same s s' ∧
        ∀ a, res = .ok a ↔ recipe.result (vault r.spec.vault) = .ok a) s := by
  have hfail (e : ProjectionError) (he : ∀ a, recipe.result (vault r.spec.vault) ≠ .ok a)
      {s₁ : σ} (hs : w.Same s s₁) :
      (Pass.Drift.failProjection r e : Pass α).Does (w.serve copy) allowed
        (fun res s' => w.Same s s' ∧
          ∀ a, res = .ok a ↔ recipe.result (vault r.spec.vault) = .ok a) s₁ := by
    refine (failProjection_does hw hallowed e s₁).mono ?_
    rintro _ s' ⟨hs', rfl⟩
    exact ⟨hs.trans hs', fun a => ⟨nofun, fun ha => absurd ha (he a)⟩⟩
  unfold Pass.Drift.follow
  split
  · next a => exact Pass.does_pure ⟨.refl, fun a' => by simp [Recipe.result]⟩
  · next e => exact hfail e (fun a => by simp [Recipe.result]) .refl
  · next kind finish =>
    refine Pass.does_ask_bind (hallowed _ rfl) ?_
    have hread : w.Same s (w.after (.readVault r.spec.vault kind) s) := hw.frame _ s rfl
    simp only [Backend.serve, hw.readVault]
    split
    · next e he => exact hfail _ (fun a => by simp [Recipe.result, he]) hread
    · next raw hraw =>
      split
      · next a ha =>
        exact Pass.does_pure ⟨hread, fun a' => by simp [Recipe.result, hraw, ha]⟩
      · next e he => exact hfail _ (fun a => by simp [Recipe.result, hraw, he]) hread

/-- The check of the owner lets objects of the owner pass, and no others. -/
theorem ensureOwned_does (m : Kube.ObjectMeta) (action : String) (s : σ) :
    (Pass.ensureOwned r owner k m action).Does (w.serve copy) allowed
      (fun res s' => w.Same s s' ∧ (res = .ok () ↔ m.isControlledBy owner = true)) s := by
  unfold Pass.ensureOwned
  split
  · next hm => exact Pass.does_pure ⟨.refl, by simp [hm]⟩
  · next hm =>
    refine Pass.does_tell_bind (hallowed _ rfl) (Pass.does_tell_bind (hallowed _ rfl) ?_)
    refine Pass.does_ask_bind (hallowed _ rfl) (Pass.does_throw ⟨?_, by simp [hm]⟩)
    exact (hw.frame _ _ rfl).trans ((hw.frame _ _ rfl).trans (hw.frame _ _ rfl))

/-! ## Parts with writes -/

/-- An attempt writes nothing if the resource cannot be read, is gone or says so already, and else
sends the status with the change. -/
theorem attempt_does {u : StatusUpdate} {post : Pass.Attempt → σ → Prop}
    (hfail : ∀ e, w.reply (.getDeclaring ns name) s = .error e → e.isNotFound = false →
      ∀ s', w.Same s s' → post (.finished (.error e)) s')
    (hgone : w.resource s ns name = none →
      ∀ s', w.Same s s' → post (.finished (.ok .gone)) s')
    (hunchanged : ∀ f now, w.resource s ns name = some f →
      (f.status.getD .empty).sameGroups (u.apply (f.status.getD .empty) now) = true →
      ∀ s', w.Same s s' → post (.finished (.ok .unchanged)) s')
    (hsend : ∀ f now, f.metadata.ns = some ns → f.metadata.name = some name →
      w.resource s ns name = some f →
      (f.status.getD .empty).sameGroups (u.apply (f.status.getD .empty) now) = false →
      ∀ s', w.Same s s' →
        (Pass.send ns name u
          { f with status := some (u.apply (f.status.getD .empty) now) }).Does
            (w.serve copy) allowed post s') :
    (Pass.attempt ns name u).Does (w.serve copy) allowed post s := by
  rw [Pass.attempt_eq]
  refine Program.does_question_bind (hallowed _ rfl) ?_
  have hread : w.Same s (w.after (.getDeclaring ns name) s) := hw.frame _ s rfl
  cases hreply : w.reply (.getDeclaring ns name) s with
  | error e =>
    simp only [Backend.serve, hreply]
    cases he : e.isNotFound with
    | true => exact hgone (hw.getDeclaring_gone ns name s e hreply he) _ hread
    | false => exact hfail e hreply he _ hread
  | ok f =>
    obtain ⟨hns, hname, hf⟩ := hw.getDeclaring_ok ns name s f hreply
    simp only [Backend.serve, hreply]
    refine Program.does_now_bind (hallowed _ rfl) fun now => ?_
    have htold := hread.trans (hw.serve_same copy (r := .now) rfl _)
    split
    · next hsame => exact hunchanged f now hf hsame _ htold
    · next hsame => exact hsend f now hns hname hf (Bool.eq_false_iff.2 hsame) _ htold

/-- A status is written in attempts, each of which follows one that lost: what holds of the last of
them holds of all together. -/
theorem persistStatus_does {u : StatusUpdate}
    {post : Except Cluster.ClusterError Pass.StatusOutcome → σ → σ → Prop}
    {lost : σ → σ → Prop}
    (hattempt : ∀ s, (Pass.attempt ns name u).Does (w.serve copy) allowed (fun a s' =>
      (∀ result, a = .finished result → post result s s') ∧
        ∀ e, a = .lost e → lost s s' ∧ post (.error e) s s') s)
    (hagain : ∀ {result s₁ s₂ s₃ s₄}, lost s₁ s₂ → w.Same s₂ s₃ → post result s₃ s₄ →
      post result s₁ s₄) (s : σ) :
    (Pass.persistStatus ns name u).Does (w.serve copy) allowed (fun res s' =>
      (∀ outcome, res = .ok outcome → post (.ok outcome) s s') ∧
        ∀ e, res = .error e → ∃ e', post (.error e') s s') s := by
  have hfrom (n more : Nat) (s : σ) : (Pass.persistFrom ns name u n more).Does (w.serve copy)
      allowed (fun result s' => post result s s') s := by
    induction more generalizing n s with
    | zero =>
      refine Program.Does.bind ((hattempt s).mono ?_)
      rintro (result | e) s' ⟨hfinished, hlost⟩
      · exact hfinished result rfl
      · exact (hlost e rfl).2
    | succ more ih =>
      refine Program.Does.bind ((hattempt s).mono ?_)
      rintro (result | e) s' ⟨hfinished, hlost⟩
      · exact hfinished result rfl
      · refine Program.does_question_bind (hallowed _ rfl) ((ih _ _).mono ?_)
        exact fun result s'' => hagain (hlost e rfl).1 (hw.frame _ s' rfl)
  unfold Pass.persistStatus Pass.persist
  refine Pass.Does.bind (Pass.does_lift ((hfrom _ _ s).mono ?_))
  rintro (e | outcome) s' hs'
  · exact Pass.does_throw ⟨nofun, fun _ _ => ⟨e, hs'⟩⟩
  · refine Pass.does_pure ⟨fun outcome' houtcome => ?_, nofun⟩
    cases houtcome
    exact hs'

/-- What a pass says succeeds and changes nothing. -/
def Silent (w : Backend σ) (copy : Option Resource) (allowed : Request → Prop) (last : Pass Unit) :
    Prop :=
  ∀ s, last.Does (w.serve copy) allowed (fun res s' => res = .ok () ∧ w.Same s s') s

/-- The last steps over an output: its digest is noted, and a last word is said. -/
def noting (ns name : String) (k : OutputKind) (output : String) (d : Digest k)
    (last : Pass Unit) : Pass Unit := do
  let _ ← Pass.persistStatus ns name (.record k output d)
  last

/-- The rest of `Pass.Drift.sync`, for an object that belongs to the resource. -/
def settle (r : Resource) (key ns name : String) (k : OutputKind) (output : String)
    (wanted : k.Payload) (o : k.Object) : Pass Unit :=
  let digest := Digest.ofPayload wanted
  let current := Digest.ofPayload (OutputKind.content o) = digest
  if current ∧ r.noted k = (some output, some digest.hex) then
    Pass.Drift.say .debug k key output " data unchanged" []
  else do
    if ¬ current then
      let _ ← Pass.ofCluster (← Pass.ask (.update k ns (OutputKind.replaceContent o wanted)))
      Pass.tell (.count .outputsUpdated k.kind.name)
      Pass.Drift.say .info k key output " updated from Azure Key Vault" [.text "hash" digest.hex]
    let _ ← Pass.persistStatus ns name (.record k output digest)
    if current then
      Pass.Drift.say .debug k key output " data already current, status recorded" []
    else
      Pass.record r.reference .normal (Pass.Drift.updatedReason k) Event.syncVault
        (k.kind.name ++ " " ++ output ++ " updated from Azure Key Vault")

/-- Settling an output ends at once if all is as it should be. Else its digest is noted, and before
that its content is rewritten if it has to be; `last` stands for what is said at the end. -/
theorem settle_does {wanted : k.Payload} {o : k.Object} {post : Except PassError Unit → σ → Prop}
    (hquiet : Digest.ofPayload (OutputKind.content o) = Digest.ofPayload wanted →
      r.noted k = (some output, some (Digest.ofPayload wanted).hex) →
      ∀ s', w.Same s s' → post (.ok ()) s')
    (hnote : Digest.ofPayload (OutputKind.content o) = Digest.ofPayload wanted →
      r.noted k ≠ (some output, some (Digest.ofPayload wanted).hex) →
      ∀ last, Silent w copy allowed last →
        (noting ns name k output (Digest.ofPayload wanted) last).Does (w.serve copy) allowed post s)
    (hrewrite : Digest.ofPayload (OutputKind.content o) ≠ Digest.ofPayload wanted →
      allowed (.update k ns (OutputKind.replaceContent o wanted)) ∧
      (∀ e, w.reply (.update k ns (OutputKind.replaceContent o wanted)) s = .error e →
        post (.error (.cluster e))
          (w.after (.update k ns (OutputKind.replaceContent o wanted)) s)) ∧
      ∀ answer, w.reply (.update k ns (OutputKind.replaceContent o wanted)) s = .ok answer →
        ∀ s', w.Same (w.after (.update k ns (OutputKind.replaceContent o wanted)) s) s' →
        ∀ last, Silent w copy allowed last →
          (noting ns name k output (Digest.ofPayload wanted) last).Does (w.serve copy) allowed
            post s') :
    (settle r key ns name k output wanted o).Does (w.serve copy) allowed post s := by
  unfold settle
  dsimp only
  by_cases hc : Digest.ofPayload (OutputKind.content o) = Digest.ofPayload wanted
  · by_cases hn : r.noted k = (some output, some (Digest.ofPayload wanted).hex)
    · rw [if_pos ⟨hc, hn⟩]
      refine (tell_does hw hallowed _ s).mono ?_
      rintro _ s' ⟨rfl, hs'⟩
      exact hquiet hc hn s' hs'
    · rw [if_neg fun hcn => hn hcn.2]
      simp only [hc, not_true_eq_false, if_false, if_true]
      exact hnote hc hn _ (tell_does hw hallowed _)
  · obtain ⟨hupdate, hrefused, haccepted⟩ := hrewrite hc
    rw [if_neg fun hcn => hc hcn.1]
    simp only [hc, not_false_eq_true, if_true, if_false]
    refine Pass.does_ask_bind hupdate ?_
    cases hreply : w.reply (.update k ns (OutputKind.replaceContent o wanted)) s with
    | error e =>
      simp only [Backend.serve, hreply]
      exact Pass.Does.bind (Pass.does_throw (hrefused e hreply))
    | ok answer =>
      simp only [Backend.serve, hreply, Pass.ofCluster, pure_bind]
      refine Pass.Does.bind ((tell_does hw hallowed _ _).mono ?_)
      rintro _ s₁ ⟨rfl, hs₁⟩
      refine Pass.Does.bind ((tell_does hw hallowed _ s₁).mono ?_)
      rintro _ s₂ ⟨rfl, hs₂⟩
      refine haccepted answer hreply s₂ (hs₁.trans hs₂) _ fun s => ?_
      exact Pass.does_record (hallowed _ rfl) ⟨rfl, hw.frame _ s rfl⟩

/-- A pass over an output fails if the output cannot be read, or unless there is something to hold,
and something of the resource's own to hold it. -/
theorem sync_does {post : Except PassError Unit → σ → Prop}
    (hfail : ∀ e s₁, w.Same s s₁ → w.reply (.get k ns output) s₁ = .error e →
      ∀ e' s', w.Same s s' → post (.error e') s')
    (herror : (¬ ∃ wanted o, (h.recipe r k).result (vault r.spec.vault) = .ok wanted ∧
      w.object s k ns output = some o ∧ (OutputKind.metadata o).isControlledBy owner = true) →
      ∀ e s', w.Same s s' → post (.error e) s')
    (hsettle : ∀ wanted o, (h.recipe r k).result (vault r.spec.vault) = .ok wanted →
      (OutputKind.metadata o).name = some output → w.object s k ns output = some o →
      (OutputKind.metadata o).isControlledBy owner = true → ∀ s', w.Same s s' →
        (settle r key ns name k output wanted o).Does (w.serve copy) allowed post s') :
    (Pass.Drift.sync r key ns name owner h k output).Does (w.serve copy) allowed post s := by
  unfold Pass.Drift.sync
  refine Pass.Does.bind ((follow_does hw hallowed _ s).mono ?_)
  rintro (e | wanted) s₁ ⟨hs₁, hwanted⟩
  · refine herror ?_ e s₁ hs₁
    rintro ⟨wanted, -, hresult, -, -⟩
    exact nomatch (hwanted wanted).2 hresult
  · refine Pass.does_ask_bind (hallowed _ rfl) ?_
    have hread := hs₁.trans (hw.frame (.get k ns output) s₁ rfl)
    cases hreply : w.reply (.get k ns output) s₁ with
    | error e =>
      simp only [Backend.serve, hreply]
      split
      · exact Pass.Does.bind (Pass.does_throw (hfail e s₁ hs₁ hreply _ _ hread))
      · exact Pass.does_ask_bind (hallowed _ rfl) (Pass.does_throw
          (hfail e s₁ hs₁ hreply _ _ (hread.trans (hw.frame _ _ rfl))))
    | ok o =>
      obtain ⟨hname, ho⟩ := hw.get k ns output s₁ o hreply
      simp only [Backend.serve, hreply]
      rw [hs₁.object] at ho
      refine Pass.Does.bind ((ensureOwned_does hw hallowed _ _ _).mono ?_)
      rintro (e | ⟨⟩) s₂ ⟨hs₂, howned⟩
      · refine herror ?_ e s₂ (hread.trans hs₂)
        rintro ⟨-, o', -, ho', howned'⟩
        obtain rfl : o = o' := Option.some.inj (ho ▸ ho')
        exact nomatch howned.2 howned'
      · have hrest := hsettle wanted o ((hwanted wanted).1 rfl) hname ho (howned.1 rfl) s₂
          (hread.trans hs₂)
        have htest : ((r.status.getD .empty).outputName k == some output &&
            (Digest.ofPayload wanted).matches? ((r.status.getD .empty).outputHash k) &&
            Digest.ofPayload (OutputKind.content o) == Digest.ofPayload wanted) = true ↔
            Digest.ofPayload (OutputKind.content o) = Digest.ofPayload wanted ∧
              r.noted k = (some output, some (Digest.ofPayload wanted).hex) := by
          simp [Digest.matches?, Resource.noted, and_comm]
        unfold settle at hrest
        simpa [htest] using hrest

/-- A pass over a key does nothing for a resource that is gone or asks for no output, and fails for
one that has no handler or cannot own its outputs. -/
theorem drift_does (hkey : Key.split? key = some (ns, name))
    {post : Except PassError Unit → σ → Prop}
    (hidle : (∀ r, copy = some r → r.hasOutput = false) → ∀ s', w.Same s s' → post (.ok ()) s')
    (herror : ∀ r, copy = some r → r.hasOutput = true →
      (¬ ∃ h owner, Handler.select r = .ok h ∧ r.ownerReference? = some owner) →
      ∀ e s', post (.error e) s')
    (hsync : ∀ r h owner, copy = some r → r.hasOutput = true → Handler.select r = .ok h →
      r.ownerReference? = some owner →
      (r.declared.forM fun d => Pass.Drift.sync r key ns name owner h d.1 d.2).Does (w.serve copy)
        allowed post s) :
    (Pass.drift key).Does (w.serve copy) allowed post s := by
  rw [Pass.drift_eq]
  simp only [Pass.splitKey, hkey, pure_bind]
  refine Pass.does_ask_bind (hallowed _ rfl) ?_
  cases copy with
  | none =>
    refine Pass.does_tell (hallowed _ rfl) (hidle (fun r hr => ?_) _ (hw.frame _ s rfl))
    cases hr
  | some r =>
    show Pass.Does _ _ _ (if r.hasOutput then Pass.Drift.over r key ns name else pure ()) s
    by_cases hout : r.hasOutput = true
    · rw [if_pos hout]
      unfold Pass.Drift.over
      split
      · next e he =>
        refine (failProjection_does hw hallowed e s).mono ?_
        rintro _ s' ⟨-, rfl⟩
        refine herror r rfl hout ?_ _ s'
        rintro ⟨h, owner, hh, -⟩
        simp [he] at hh
      · next h hh =>
        unfold Pass.ownerOf
        split
        · next owner howner =>
          rw [pure_bind]
          exact hsync r h owner rfl hout hh howner
        · next howner =>
          refine Pass.Does.bind (Pass.does_throw (herror r rfl hout ?_ _ s))
          rintro ⟨_, owner, -, howner'⟩
          simp [howner] at howner'
    · rw [if_neg hout]
      refine Pass.does_pure (hidle (fun r' hr' => ?_) s .refl)
      exact Bool.eq_false_iff.2 (Option.some.inj hr' ▸ hout)

end

end VaultProjection.Idempotence

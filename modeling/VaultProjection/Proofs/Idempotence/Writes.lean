import VaultProjection.Proofs.Idempotence.Steps

/-!
# What a drift pass leaves behind

A pass that ends well has seen to every output: it holds what is wanted, and that is noted in the
copy that the pass read, or else in the resource that is stored (`Done`).

Results:
1. `persistStatus_notes`: a status that is written without failure notes the output.
2. `sync_done`: an output that a pass comes through is done, and outputs of other kinds are spared.
3. `drift_done`: so are all outputs after a pass that ends well.
-/

namespace VaultProjection

namespace StatusUpdate

variable {k : OutputKind} {name : String} {d : Digest k} {s : Status} {now : String}

/-- Noting an output changes nothing but the time if it is noted already. -/
theorem sameGroups_apply_record : s.sameGroups ((record k name d).apply s now) = true ↔
    s.outputName k = some name ∧ s.outputHash k = some d.hex := by
  cases k <;> simp [Status.sameGroups, apply, Status.outputName, Status.outputHash]

theorem outputName_apply_record : ((record k name d).apply s now).outputName k = some name := by
  cases k <;> rfl

theorem outputHash_apply_record : ((record k name d).apply s now).outputHash k = some d.hex := by
  cases k <;> rfl

end StatusUpdate

namespace Idempotence

open Convergence (Keeps Vaults)
open Backend (Same Unchanged Lawful Truthful)

section

variable {σ : Type} {w : Backend σ} {vault : Vaults} {copy : Option Resource}
  {key ns name output : String} {r : Resource} {owner : Kube.OwnerReference} {h : Handler}
  {k : OutputKind} {ks : List OutputKind} {s s' s'' : σ}

/-! ## What is left alone -/

/-- Nothing changed that concerns outputs of other kinds than these. -/
structure Spares (w : Backend σ) (ns name : String) (ks : List OutputKind) (s s' : σ) : Prop where
  object : ∀ k, k ∉ ks → w.object s' k = w.object s k
  noted : ∀ k, k ∉ ks → w.Unchanged ns name (·.noted k) s s'
  declaration : w.Unchanged ns name Resource.declaration s s'

theorem Spares.of_same (hs : w.Same s s') : Spares w ns name ks s s' :=
  ⟨fun k _ => congrFun hs.object k, fun _ _ => .of_resource hs.resource, .of_resource hs.resource⟩

theorem Spares.trans (h : Spares w ns name ks s s') (h' : Spares w ns name ks s' s'') :
    Spares w ns name ks s s'' where
  object k hk := (h'.object k hk).trans (h.object k hk)
  noted k hk := (h.noted k hk).trans (h'.noted k hk)
  declaration := h.declaration.trans h'.declaration

theorem Spares.weaken {ks' : List OutputKind} (hsub : ∀ k ∈ ks, k ∈ ks')
    (hs : Spares w ns name ks s s') : Spares w ns name ks' s s' where
  object k hk := hs.object k fun hm => hk (hsub k hm)
  noted k hk := hs.noted k fun hm => hk (hsub k hm)
  declaration := hs.declaration

/-- A write of one output spares those of other kinds. -/
theorem Spares.of_puts {o : k.Object} (hputs : w.Puts s s' k ns output o)
    (hr : w.resource s' = w.resource s) : Spares w ns name [k] s s' where
  object k' hk' := by
    funext ns' name'
    refine hputs.elsewhere k' ns' name' fun he => hk' ?_
    exact List.mem_singleton.2 (Prod.mk.inj he).1
  noted _ _ := .of_resource hr
  declaration := .of_resource hr

/-! ## Writing the status -/

/-- The stored resource, if it is still there, notes this content of an output. -/
def Recorded (w : Backend σ) (ns name : String) (k : OutputKind) (output : String) (d : Digest k)
    (s : σ) : Prop :=
  ∀ f, w.resource s ns name = some f → f.noted k = (some output, some d.hex)

theorem Recorded.of_same {d : Digest k} (hs : w.Same s s') (hr : Recorded w ns name k output d s) :
    Recorded w ns name k output d s' := fun f hf => hr f (hs.resource ▸ hf)

/-- An output was noted: in the group of its kind, and nowhere else. -/
structure Noted (w : Backend σ) (ns name : String) (k : OutputKind) (output : String) (d : Digest k)
    (s s' : σ) : Prop where
  object : w.object s' = w.object s
  recorded : Recorded w ns name k output d s'
  spares : Spares w ns name [k] s s'

theorem Noted.of_same {d : Digest k} (hs : w.Same s s') (hr : Recorded w ns name k output d s') :
    Noted w ns name k output d s s' := ⟨hs.object, hr, .of_same hs⟩

theorem Noted.before {d : Digest k} (hs : w.Same s s') (hn : Noted w ns name k output d s' s'') :
    Noted w ns name k output d s s'' :=
  ⟨hn.object.trans hs.object, hn.recorded, (Spares.of_same hs).trans hn.spares⟩

theorem Noted.after {d : Digest k} (hn : Noted w ns name k output d s s') (hs : w.Same s' s'') :
    Noted w ns name k output d s s'' :=
  ⟨hs.object.trans hn.object, hn.recorded.of_same hs, hn.spares.trans (.of_same hs)⟩

/-- A status with the note, written over a copy of the stored one, is refused or leaves the note. -/
theorem updateStatus_notes (hw : w.Truthful vault) (output : String) (d : Digest k) (now : String)
    {f r : Resource} (hns : f.metadata.ns = some ns) (hname : f.metadata.name = some name)
    (hf : w.resource s ns name = some f)
    (hr : r = { f with
      status := some ((StatusUpdate.record k output d).apply (f.status.getD .empty) now) }) :
    match w.reply (.updateStatus r) s with
    | .ok _ => Noted w ns name k output d s (w.after (.updateStatus r) s)
    | .error e => e.isNotFound = false ∧
      (e.isConflict = true → w.Same s (w.after (.updateStatus r) s)) := by
  cases hreply : w.reply (.updateStatus r) s with
  | error e =>
    refine ⟨Bool.eq_false_iff.2 fun he => ?_, hw.updateStatus_conflict s r e hreply⟩
    have hgone := hw.updateStatus_gone ns name s r (hr ▸ hns) (hr ▸ hname) e hreply he
    rw [hf] at hgone
    cases hgone
  | ok answer =>
    obtain ⟨hobject, before, stored, hbefore, hstored, hdeclaration, hstatus⟩ :=
      hw.updateStatus_ok ns name s r (hr ▸ hns) (hr ▸ hname) answer hreply
    obtain rfl : f = before := Option.some.inj (hf ▸ hbefore)
    have hwritten : stored.status.getD .empty =
        (StatusUpdate.record k output d).apply (f.status.getD .empty) now := by
      rw [hstatus, hr]
      rfl
    have hstored' : ∀ f', w.resource (w.after (.updateStatus r) s) ns name = some f' →
        stored = f' := fun f' hf' => Option.some.inj (hstored ▸ hf')
    refine ⟨hobject, fun f' hf' => ?_, fun k' _ => congrFun hobject k', fun k' hk' f' hf' => ?_,
      fun f' hf' => ?_⟩
    · rw [← hstored' f' hf', Resource.noted, hwritten, StatusUpdate.outputName_apply_record,
        StatusUpdate.outputHash_apply_record]
    · obtain ⟨hn, hh⟩ := StatusUpdate.apply_other (u := .record k output d)
        (fun he => hk' (List.mem_singleton.2 he)) (f.status.getD .empty) now
      refine ⟨f, hf, hstored' f' hf' ▸ ?_⟩
      show (_, _) = (_, _)
      rw [hwritten, hn, hh]
    · exact ⟨f, hf, hstored' f' hf' ▸ hdeclaration⟩

/-- An attempt that ends well has noted the output, and one that lost has changed nothing. -/
theorem attempt_notes (hw : w.Truthful vault) (d : Digest k) :
    (Pass.attempt ns name (.record k output d)).Does (w.serve copy) (fun _ => True)
      (fun a s' => match a with
        | .finished (.ok _) => Noted w ns name k output d s s'
        | .finished (.error _) => True
        | .lost _ => w.Same s s') s := by
  refine attempt_does hw (fun _ _ => trivial) (fun _ _ _ _ _ => trivial) ?_ ?_ ?_
  · intro hgone s' hs'
    refine .of_same hs' fun f hf => ?_
    rw [hs'.resource, hgone] at hf
    cases hf
  · intro f now hf hsame s' hs'
    -- The note is there already.
    obtain ⟨hname, hhash⟩ := StatusUpdate.sameGroups_apply_record.1 hsame
    refine .of_same hs' fun f' hf' => ?_
    obtain rfl : f = f' := Option.some.inj (hf ▸ hs'.resource ▸ hf')
    exact Prod.ext hname hhash
  · intro f now hns hname hf _ s₁ hs₁
    have hwrite := updateStatus_notes hw output d now hns hname (hs₁.resource ▸ hf) rfl
    refine Program.does_question_bind trivial ?_
    cases hreply : w.reply (.updateStatus { f with
      status := some ((StatusUpdate.record k output d).apply (f.status.getD .empty) now) }) s₁ with
    | ok answer =>
      rw [hreply] at hwrite
      simp only [Backend.serve, hreply]
      refine Program.does_question_bind trivial ?_
      exact (hwrite.after (hw.frame _ _ rfl)).before hs₁
    | error e =>
      rw [hreply] at hwrite
      obtain ⟨hfound, hlost⟩ := hwrite
      simp only [Backend.serve, hreply, hfound]
      by_cases hc : e.isConflict = true
      · simp only [hc]
        refine Program.does_question_bind trivial ?_
        exact hs₁.trans ((hlost hc).trans (hw.frame _ _ rfl))
      · simp only [hc]
        exact trivial

/-- A status that is written without failure notes the output. -/
theorem persistStatus_notes (hw : w.Truthful vault) (d : Digest k) (s : σ) :
    (Pass.persistStatus ns name (.record k output d)).Does (w.serve copy) (fun _ => True)
      (fun res s' => ∀ outcome, res = .ok outcome → Noted w ns name k output d s s') s := by
  let post (result : Except Cluster.ClusterError Pass.StatusOutcome) (s s' : σ) : Prop :=
    ∀ outcome, result = .ok outcome → Noted w ns name k output d s s'
  have hattempt (s : σ) : (Pass.attempt ns name (.record k output d)).Does (w.serve copy)
      (fun _ => True) (fun a s' => (∀ result, a = .finished result → post result s s') ∧
        ∀ e, a = .lost e → w.Same s s' ∧ post (.error e) s s') s := by
    refine (attempt_notes hw d).mono ?_
    rintro (⟨_ | _⟩ | _) s' hs'
    · refine ⟨fun result hresult => ?_, nofun⟩
      cases hresult
      nofun
    · refine ⟨fun result hresult => ?_, nofun⟩
      cases hresult
      exact fun _ _ => hs'
    · exact ⟨nofun, fun _ _ => ⟨hs', nofun⟩⟩
  -- A lost attempt has changed nothing, so the next one starts from where this one did.
  refine (persistStatus_does hw (fun _ _ => trivial) hattempt ?_ s).mono ?_
  · exact fun hlost hs hpost outcome houtcome => (hpost outcome houtcome).before (hlost.trans hs)
  · exact fun res s' ⟨hok, _⟩ outcome houtcome => hok outcome houtcome outcome rfl

/-! ## One output -/

/-- The output is there, belongs to the owner and has this content. -/
def Current (w : Backend σ) (ns : String) (owner : Kube.OwnerReference) (k : OutputKind)
    (output : String) (d : Digest k) (s : σ) : Prop :=
  ∃ o, w.object s k ns output = some o ∧ (OutputKind.metadata o).isControlledBy owner = true ∧
    Digest.ofPayload (OutputKind.content o) = d

/-- The output is as the resource asks, and that is noted in the copy or in what is stored. -/
def Done (w : Backend σ) (vault : Vaults) (r : Resource) (h : Handler) (ns name : String)
    (owner : Kube.OwnerReference) (k : OutputKind) (output : String) (s s' : σ) : Prop :=
  ∃ wanted, (h.recipe r k).result (vault r.spec.vault) = .ok wanted ∧
    Current w ns owner k output (Digest.ofPayload wanted) s' ∧
    (Recorded w ns name k output (Digest.ofPayload wanted) s' ∨
      r.noted k = (some output, some (Digest.ofPayload wanted).hex) ∧
        w.Unchanged ns name (·.noted k) s s')

/-- What was noted before may have been noted long before. -/
theorem Done.before (hn : w.Unchanged ns name (·.noted k) s s')
    (h' : Done w vault r h ns name owner k output s' s'') :
    Done w vault r h ns name owner k output s s'' := by
  obtain ⟨wanted, hwanted, hcurrent, hnoted⟩ := h'
  exact ⟨wanted, hwanted, hcurrent, hnoted.imp_right fun ⟨hr, hkept⟩ => ⟨hr, hn.trans hkept⟩⟩

/-- An output that holds what is wanted is done once its digest is noted. -/
theorem noting_done (hw : w.Truthful vault) {wanted : k.Payload}
    (hwanted : (h.recipe r k).result (vault r.spec.vault) = .ok wanted)
    (hcurrent : Current w ns owner k output (Digest.ofPayload wanted) s) {last : Pass Unit}
    (hlast : Silent w copy (fun _ => True) last) :
    (noting ns name k output (Digest.ofPayload wanted) last).Does (w.serve copy) (fun _ => True)
      (fun res s' => res = .ok () →
        Done w vault r h ns name owner k output s s' ∧ Spares w ns name [k] s s') s := by
  refine Pass.Does.bind ((persistStatus_notes hw _ s).mono ?_)
  rintro (e | outcome) s₁ hs₁
  · nofun
  · refine (hlast s₁).mono ?_
    rintro _ s' ⟨-, hs'⟩ -
    have hend := (hs₁ outcome rfl).after hs'
    obtain ⟨o, ho, howned, hcontent⟩ := hcurrent
    exact ⟨⟨wanted, hwanted, ⟨o, hend.object ▸ ho, howned, hcontent⟩, .inl hend.recorded⟩,
      hend.spares⟩

/-- An output that is settled without failure is done, and other outputs are spared. -/
theorem settle_done (hw : w.Truthful vault) {wanted : k.Payload} {o : k.Object}
    (hwanted : (h.recipe r k).result (vault r.spec.vault) = .ok wanted)
    (hname : (OutputKind.metadata o).name = some output) (ho : w.object s k ns output = some o)
    (howned : (OutputKind.metadata o).isControlledBy owner = true) :
    (settle r key ns name k output wanted o).Does (w.serve copy) (fun _ => True)
      (fun res s' => res = .ok () →
        Done w vault r h ns name owner k output s s' ∧ Spares w ns name [k] s s') s := by
  refine settle_does hw (fun _ _ => trivial) ?_ ?_ fun _ => ⟨trivial, fun _ _ => nofun, ?_⟩
  · -- Nothing is written, so the note stands only in the copy that the pass read.
    intro hc hn s' hs' _
    exact ⟨⟨wanted, hwanted, ⟨o, hs'.object ▸ ho, howned, hc⟩,
      .inr ⟨hn, .of_resource hs'.resource⟩⟩, .of_same hs'⟩
  · exact fun hc _ last hlast => noting_done hw hwanted ⟨o, ho, howned, hc⟩ hlast
  · intro answer hreply s₁ hs₁ last hlast
    obtain ⟨stored, hkeeps, hputs, hresource⟩ := hw.update k ns output s
      (OutputKind.replaceContent o wanted) (by simpa using hname) answer hreply
    have hcurrent : Current w ns owner k output (Digest.ofPayload wanted) s₁ := by
      refine ⟨stored, by rw [hs₁.object, hputs.here], ?_, ?_⟩
      · rw [Convergence.isControlledBy_congr hkeeps.owners]
        simpa using howned
      · rw [hkeeps.content, OutputKind.content_replaceContent]
    refine (noting_done hw hwanted hcurrent hlast).mono ?_
    intro res s' hs' hres
    obtain ⟨hdone, hrest⟩ := hs' hres
    exact ⟨hdone.before (.of_resource (hs₁.resource.trans hresource)),
      ((Spares.of_puts hputs hresource).trans (.of_same hs₁)).trans hrest⟩

theorem sync_done (hw : w.Truthful vault) (s : σ) :
    (Pass.Drift.sync r key ns name owner h k output).Does (w.serve copy) (fun _ => True)
      (fun res s' => res = .ok () →
        Done w vault r h ns name owner k output s s' ∧ Spares w ns name [k] s s') s := by
  refine sync_does hw (fun _ _ => trivial) (fun _ _ _ _ _ _ _ hres => nomatch hres)
    (fun _ _ _ _ hres => nomatch hres) ?_
  intro wanted o hwanted hname ho howned s₁ hs₁
  refine (settle_done hw hwanted hname (hs₁.object ▸ ho) howned).mono ?_
  intro res s' hs' hres
  obtain ⟨hdone, hspares⟩ := hs' hres
  exact ⟨hdone.before (.of_resource hs₁.resource), (Spares.of_same hs₁).trans hspares⟩

/-! ## All outputs -/

/-- What is done stays done while nobody touches it. -/
theorem Done.kept (hobject : w.object s'' k = w.object s' k)
    (hnoted : w.Unchanged ns name (·.noted k) s' s'')
    (hd : Done w vault r h ns name owner k output s s') :
    Done w vault r h ns name owner k output s s'' := by
  obtain ⟨wanted, hwanted, ⟨o, ho, howned, hcontent⟩, hrest⟩ := hd
  refine ⟨wanted, hwanted, ⟨o, hobject ▸ ho, howned, hcontent⟩, ?_⟩
  refine hrest.imp ?_ fun ⟨hr, hkept⟩ => ⟨hr, hkept.trans hnoted⟩
  intro hrecorded f'' hf''
  obtain ⟨f', hf', hsame⟩ := hnoted f'' hf''
  exact hsame.trans (hrecorded f' hf')

/-- What is done stays done while outputs of other kinds are seen to. -/
theorem Done.after (hk : k ∉ ks)
    (hd : Done w vault r h ns name owner k output s s') (hs : Spares w ns name ks s' s'') :
    Done w vault r h ns name owner k output s s'' := hd.kept (hs.object k hk) (hs.noted k hk)

theorem syncAll_done (hw : w.Lawful vault) {ds : List (OutputKind × String)}
    (hds : (ds.map (·.1)).Nodup) (s : σ) :
    (ds.forM fun d => Pass.Drift.sync r key ns name owner h d.1 d.2).Does (w.serve copy)
      (fun _ => True) (fun res s' => res = .ok () →
        (∀ d ∈ ds, Done w vault r h ns name owner d.1 d.2 s s') ∧
          Spares w ns name (ds.map (·.1)) s s') s := by
  induction ds generalizing s with
  | nil => exact Pass.does_pure fun _ => ⟨by simp, .of_same .refl⟩
  | cons d ds ih =>
    obtain ⟨hd, hnodup⟩ := List.nodup_cons.1 hds
    refine Pass.Does.bind ((sync_done hw.truthful s).mono ?_)
    rintro (e | ⟨⟩) s₁ hs₁
    · nofun
    · obtain ⟨hdone, hspares⟩ := hs₁ rfl
      refine (ih hnodup s₁).mono ?_
      intro res s' hs' hres
      obtain ⟨hdones, hrest⟩ := hs' hres
      refine ⟨fun d' hd' => ?_, ?_⟩
      · rcases List.mem_cons.1 hd' with rfl | hd'
        · exact hdone.after hd hrest
        · refine (hdones d' hd').before (hspares.noted d'.1 fun hk => hd ?_)
          exact List.mem_map.2 ⟨d', hd', List.mem_singleton.1 hk⟩
      · exact (hspares.weaken (by simp)).trans (hrest.weaken fun k hk => List.mem_cons_of_mem _ hk)

/-- All outputs that the copy asks for are done. -/
def AllDone (w : Backend σ) (vault : Vaults) (ns name : String) (r : Resource) (s s' : σ) : Prop :=
  r.hasOutput = true → ∃ h owner, Handler.select r = .ok h ∧ r.ownerReference? = some owner ∧
    ∀ d ∈ r.declared, Done w vault r h ns name owner d.1 d.2 s s'

/-- A pass that ends well leaves all outputs done that its copy asks for. -/
theorem drift_done (hw : w.Lawful vault) (hkey : Key.split? key = some (ns, name)) (s : σ) :
    (Pass.drift key).Does (w.serve copy) (fun _ => True) (fun res s' => res = .ok () →
      (∀ r, copy = some r → AllDone w vault ns name r s s') ∧
        w.Unchanged ns name Resource.declaration s s') s := by
  refine drift_does hw.truthful (fun _ _ => trivial) hkey ?_ (fun _ _ _ _ _ _ => nofun) ?_
  · intro hidle s' hs' _
    refine ⟨fun r hr hout => ?_, .of_resource hs'.resource⟩
    rw [hidle r hr] at hout
    cases hout
  · intro r h owner hr hout hh howner
    refine (syncAll_done hw r.declared_kinds s).mono ?_
    intro res s' hs' hres
    obtain ⟨hdones, hspares⟩ := hs' hres
    exact ⟨fun r' hr' _ => Option.some.inj (hr ▸ hr') ▸ ⟨h, owner, hh, howner, hdones⟩,
      hspares.declaration⟩

end

end Idempotence

end VaultProjection

import VaultProjection.Proofs.Convergence.Passes
import VaultProjection.Proofs.Pass.Kick
import VaultProjection.Proofs.Pass.Ownership

/-!
# The structural pass touches no content

Whatever is answered, a structural pass reads nothing from the vault and changes no object. It
creates outputs that were reported absent, clears what the status notes of their content, and then
asks for a pass that fills them. An API server that creates an object only where there is none holds
afterwards the objects that it held before, and of other objects some of these outputs at most.

Results:
1. `modest_structural`: every question of the pass is `Modest`, whatever is answered.
2. `Modest.adds`, `Modest.forgets`: what the API server holds after one of these questions.
3. `structural_only_adds`: both for passes under way and ended.
-/

namespace VaultProjection

namespace Pass

open Convergence (Keeps Objects metadata_fresh ownerReference?_controller)

variable {key : String} {r : Resource} {k : OutputKind} {t : Transcript} {req : Request}

/-! ## What the pass may ask -/

/-- A new output that the resource asks for: it has the name that is asked for, the resource is its
controller and its only owner, and its label says who manages it. -/
structure Declares (r : Resource) (k : OutputKind) (ns name : String) (object : k.Object) :
    Prop where
  declared : (k, name) ∈ r.declared
  name : (OutputKind.metadata object).name = some name
  ns : (OutputKind.metadata object).ns = some ns
  owners : ∃ owner, r.ownerReference? = some owner ∧ owner.controller = some true ∧
    (OutputKind.metadata object).ownerReferences = some [owner]
  labels : (OutputKind.metadata object).labels = some [(managedByLabel, controllerName)]

/-- The resource is the same but for its status, and there only the content that was noted of the
kind of output is not noted any more. -/
structure Clears (k : OutputKind) (r r' : Resource) : Prop where
  resource : r' = { r with status := r'.status }
  hash : (r'.status.getD .empty).outputHash k = none
  hashes : ∀ k', k' ≠ k →
    (r'.status.getD .empty).outputHash k' = (r.status.getD .empty).outputHash k'
  names : ∀ k', (r'.status.getD .empty).outputName k' = (r.status.getD .empty).outputName k'
  time : (r'.status.getD .empty).lastAzureUpdate = (r.status.getD .empty).lastAzureUpdate

/-- The API server has just said that there is no such output. -/
def Missed (t : Transcript) (k : OutputKind) (ns name : String) : Prop :=
  ∃ before e, t = before ++ [⟨.get k ns name, .error e⟩] ∧ e.isNotFound = true

/-- An output of the kind was created. -/
def Created (t : Transcript) (k : OutputKind) : Prop :=
  ∃ ns object stored, (⟨.create k ns object, .ok stored⟩ : Exchange) ∈ t

/-- This is the copy of the resource of the key that was read from the API server just now, but for
a look at the clock. -/
def Reread (t : Transcript) (key : String) (fresh : Resource) : Prop :=
  ∃ before ns name now, Key.split? key = some (ns, name) ∧
    t = before ++ [⟨.getDeclaring ns name, .ok fresh⟩, ⟨.now, now⟩]

/-- Nothing is read from the vault and no object is updated. What is created was asked for and is
absent. A status is written only to clear what it notes of an output that was created, in the copy
that was read just now, and the queue that fills outputs gets the key only for such an output. -/
def Modest (key : String) (t : Transcript) : Request → Prop
  | .create k ns object => (∃ resource, Key.split? key = some (ns, resource)) ∧
      ∃ r name, Shows t key r ∧ Declares r k ns name object ∧ Missed t k ns name
  | .updateStatus r => ∃ k fresh, Created t k ∧ Reread t key fresh ∧ Clears k fresh r
  | .enqueue id key' => id = .drift ∧ key' = key ∧ ∃ k, Created t k
  | .update .. | .readVault .. => False
  | .lookup .. | .get .. | .getDeclaring .. | .record _ | .now | .tell _ => True

/-! ## Writes of the pass -/

theorem declares_fresh {owner : Kube.OwnerReference} (howner : r.ownerReference? = some owner)
    {name : String} (hd : (k, name) ∈ r.declared) (ns : String) :
    Declares r k ns name (Structural.fresh r (Structural.outputMeta ns name owner) k) := by
  constructor
  · exact hd
  all_goals rw [metadata_fresh]
  · rfl
  · rfl
  · exact ⟨owner, howner, ownerReference?_controller howner, rfl⟩
  · rfl

theorem clears_invalidate (k : OutputKind) (fresh : Resource) (now : String) :
    Clears k fresh { fresh with
      status := some ((StatusUpdate.invalidate k).apply (fresh.status.getD .empty) now) } := by
  constructor
  · rfl
  · cases k <;> rfl
  · intro k' hk'
    exact (StatusUpdate.apply_other (u := .invalidate k) hk' _ now).2
  · intro k'
    cases k <;> cases k' <;> rfl
  · cases k <;> rfl

/-! ## The pass, question by question -/

theorem Created.append (h : Created t k) (e : Exchange) : Created (t ++ [e]) k := by
  obtain ⟨ns, object, stored, hm⟩ := h
  exact ⟨ns, object, stored, List.mem_append_left _ hm⟩

theorem created_append (t : Transcript) (ns : String) (object stored : k.Object) :
    Created (t ++ [⟨.create k ns object, .ok stored⟩]) k :=
  ⟨ns, object, stored, List.mem_append_right _ (List.mem_singleton.2 rfl)⟩

/-- What is true of a transcript and of all that continue it. -/
def Lasting (inv : Transcript → Prop) : Prop := ∀ t e, inv t → inv (t ++ [e])

variable {inv : Transcript → Prop} {owner : Kube.OwnerReference} {ns name : String}

theorem Lasting.ask_bind {α : Type} {post : Except PassError α → Transcript → Prop}
    {f : req.Answer → Pass α} (hl : Lasting inv) (h : inv t) (hreq : Modest key t req)
    (hf : ∀ answer t', inv t' → (f answer).Guarded (Modest key) post t') :
    (ask req >>= f).Guarded (Modest key) post t :=
  guarded_ask_bind hreq fun answer => hf answer _ (hl _ _ h)

theorem Lasting.tell_bind {α : Type} {post : Except PassError α → Transcript → Prop} {m : Signal}
    {f : Unit → Pass α} (hl : Lasting inv) (h : inv t)
    (hf : ∀ t', inv t' → (f ()).Guarded (Modest key) post t') :
    (tell m >>= f).Guarded (Modest key) post t :=
  hl.ask_bind h trivial fun () => hf

theorem modest_ensureOwned (hl : Lasting inv) (h : inv t) (m : Kube.ObjectMeta) (action : String) :
    (ensureOwned r owner k m action).Guarded (Modest key) (fun _ => inv) t := by
  unfold ensureOwned
  split
  · exact guarded_pure h
  · refine hl.tell_bind h fun t₁ h₁ => hl.tell_bind h₁ fun t₂ h₂ => ?_
    exact hl.ask_bind h₂ trivial fun _ t₃ h₃ => guarded_throw h₃

/-- Once an output of the kind is created, its status may be cleared. -/
theorem modest_persistStatus (hl : Lasting inv) (hcreated : ∀ t, inv t → Created t k) (h : inv t)
    (hkey : Key.split? key = some (ns, name)) :
    (persistStatus ns name (.invalidate k)).Guarded (Modest key) (fun _ => inv) t := by
  refine guarded_persistStatus_of (fun t request hinv hsends => ⟨?_, fun _ => hl _ _ hinv⟩) h
  cases request with
  | updateStatus w =>
    obtain ⟨before, fresh, now, ht, rfl⟩ := hsends
    exact ⟨k, fresh, hcreated t hinv, ⟨before, ns, name, now, hkey, ht⟩,
      clears_invalidate k fresh now⟩
  | getDeclaring | now | tell => trivial
  | lookup | get | create | update | readVault | record | enqueue => exact hsends.elim

theorem lasting_shows (key : String) (r : Resource) : Lasting fun t => Shows t key r :=
  fun _ e h => h.append e

/-- The pass has found its resource and has created an output of it. -/
theorem lasting_created (key : String) (r : Resource) (k : OutputKind) :
    Lasting fun t => Shows t key r ∧ Created t k := fun _ e h => ⟨h.1.append e, h.2.append e⟩

theorem modest_ensure {resource : String} (hkey : Key.split? key = some (ns, resource))
    (h : Shows t key r) (howner : r.ownerReference? = some owner) (hd : (k, name) ∈ r.declared) :
    (Structural.ensure r key ns owner k name).Guarded (Modest key) (fun _ t => Shows t key r)
      t := by
  unfold Structural.ensure
  refine guarded_ask_bind trivial fun answer => ?_
  have h₁ := h.append ⟨.get k ns name, answer⟩
  cases answer with
  | ok object => exact modest_ensureOwned (lasting_shows key r) h₁ _ _
  | error e =>
    dsimp only
    split
    · exact guarded_throw h₁
    · next he =>
      have hmissed : Missed (t ++ [⟨.get k ns name, .error e⟩]) k ns name :=
        ⟨t, e, rfl, by simpa using he⟩
      have hdeclares := declares_fresh howner hd ns
      refine guarded_ask_bind ⟨⟨resource, hkey⟩, r, name, h₁, hdeclares, hmissed⟩ fun created => ?_
      have h₂ := h₁.append ⟨.create k ns _, created⟩
      cases created with
      | error e => exact guarded_throw h₂
      | ok stored =>
        have hl := lasting_created key r k
        refine Guarded.bind (guarded_pure ?_)
        refine hl.tell_bind ⟨h₂, created_append ..⟩ fun t₃ h₃ => hl.tell_bind h₃ fun t₄ h₄ => ?_
        refine Guarded.bind (guarded_splitKey (fun parts hparts => ?_) fun e => h₄.1)
        refine Guarded.bind ((modest_persistStatus hl (fun _ h => h.2) h₄ hparts).mono ?_)
        rintro (e | outcome) t₅ h₅
        · exact h₅.1
        · refine hl.ask_bind h₅ ⟨rfl, rfl, k, h₅.2⟩ fun _ t₆ h₆ => ?_
          exact modest_ensureOwned (lasting_shows key r) h₆.1 _ _

/-- Whatever is answered, the pass asks nothing but this. -/
theorem modest_structural (key : String) :
    (structural key).Guarded (Modest key) (fun _ _ => True) [] := by
  rw [structural_eq]
  refine Guarded.bind (guarded_splitKey (fun parts hkey => ?_) fun e => trivial)
  obtain ⟨ns, name⟩ := parts
  refine guarded_ask_bind trivial fun found => ?_
  cases found with
  | none => exact ⟨trivial, fun _ => trivial⟩
  | some r =>
    dsimp only
    split
    · exact ⟨trivial, fun _ => trivial⟩
    · have h : Shows [⟨.lookup ns name, some r⟩] key r :=
        ⟨ns, name, hkey, List.mem_singleton.2 rfl⟩
      unfold Structural.over
      refine Guarded.bind (guarded_ownerOf (fun owner howner => ?_) fun e => trivial)
      refine Guarded.bind (guarded_forM
        (fun ds t => Shows t key r ∧ ∀ d ∈ ds, d ∈ r.declared) (fun d ds t hinv => ?_)
        (fun t _ => ⟨trivial, fun _ => trivial⟩) ⟨h, fun d hd => hd⟩)
      refine (modest_ensure hkey hinv.1 howner (hinv.2 d List.mem_cons_self)).mono ?_
      rintro (e | ⟨⟩) t' h'
      · trivial
      · exact ⟨h', fun d' hd' => hinv.2 d' (List.mem_cons_of_mem _ hd')⟩

/-! ## What the API server holds -/

/-- The outputs and the resources that are stored. -/
structure Holding where
  objects : Objects
  resource : (ns name : String) → Option Resource

def Holding.putResource (s : Holding) (ns name : String) (r : Resource) : Holding :=
  { s with resource := fun ns' name' =>
      if ns' = ns ∧ name' = name then some r else s.resource ns' name' }

/-- What an API server keeps of a new object. -/
structure KeepsNew {k : OutputKind} (given stored : k.Object) : Prop
    extends Keeps given stored where
  ns : (OutputKind.metadata stored).ns = (OutputKind.metadata given).ns
  labels : (OutputKind.metadata stored).labels = (OutputKind.metadata given).labels

/-- What is held after a question. An object is created only where there is none, a status is
written into the resource of its name and leaves the spec alone, and any of these writes may have
been carried out or not, whatever was answered. Nothing is said about updates of objects. A copy of
a resource is what is held of it. -/
def Effect (s : Holding) : Exchange → Holding → Prop
  | ⟨.create k ns given, _⟩, s' => s' = s ∨ ∃ name stored,
      (OutputKind.metadata given).name = some name ∧ s.objects k ns name = none ∧
      KeepsNew given stored ∧ s' = { s with objects := s.objects.put k ns name stored }
  | ⟨.updateStatus r, _⟩, s' => s' = s ∨ ∃ ns name old stored, r.metadata.ns = some ns ∧
      r.metadata.name = some name ∧ s.resource ns name = some old ∧ stored.spec = old.spec ∧
      stored.status = r.status ∧ s' = s.putResource ns name stored
  | ⟨.getDeclaring ns name, .ok fresh⟩, s' => s' = s ∧ s.resource ns name = some fresh ∧
      fresh.metadata.ns = some ns ∧ fresh.metadata.name = some name
  | ⟨.update .., _⟩, _ => True
  | _, s' => s' = s

/-- Nobody else writes while the pass gets these answers. -/
inductive Served (s : Holding) : Transcript → Holding → Prop where
  | nil : Served s [] s
  | snoc {t : Transcript} {e : Exchange} {s' s'' : Holding} (before : Served s t s')
      (effect : Effect s' e s'') : Served s (t ++ [e]) s''

/-- All objects are what they were. Those that there are besides belong to the resource that the
pass found, were asked for by it, and were reported absent. -/
structure Adds (key : String) (t : Transcript) (objects objects' : Objects) : Prop where
  kept : ∀ k ns name o, objects k ns name = some o → objects' k ns name = some o
  added : ∀ k ns name o, objects k ns name = none → objects' k ns name = some o →
    ∃ r e, Shows t key r ∧ Declares r k ns name o ∧
      (⟨.get k ns name, .error e⟩ : Exchange) ∈ t ∧ e.isNotFound = true

/-- The resource is what it was, but the content that was noted of some kinds of output is not noted
any more. -/
structure Forgets (of : OutputKind → Prop) (r r' : Resource) : Prop where
  spec : r'.spec = r.spec
  hash : ∀ k, (r'.status.getD .empty).outputHash k = (r.status.getD .empty).outputHash k ∨
    of k ∧ (r'.status.getD .empty).outputHash k = none
  names : ∀ k, (r'.status.getD .empty).outputName k = (r.status.getD .empty).outputName k
  time : (r'.status.getD .empty).lastAzureUpdate = (r.status.getD .empty).lastAzureUpdate

/-- All resources but that of the key are what they were, and its status has forgotten no more than
the content of what was created. -/
def OnlyForgets (key : String) (t : Transcript)
    (resource resource' : (ns name : String) → Option Resource) : Prop :=
  ∀ ns name, resource' ns name = resource ns name ∨ Key.split? key = some (ns, name) ∧
    ∃ r r', resource ns name = some r ∧ resource' ns name = some r' ∧ Forgets (Created t) r r'

variable {s s' s'' : Holding} {objects objects' objects'' : Objects} {e : Exchange}

/-! ## Objects -/

theorem Declares.stored {given stored : k.Object} (h : Declares r k ns name given)
    (hkeeps : KeepsNew given stored) : Declares r k ns name stored :=
  ⟨h.declared, hkeeps.name.trans h.name, hkeeps.ns.trans h.ns, hkeeps.owners ▸ h.owners,
    hkeeps.labels.trans h.labels⟩

theorem Adds.refl (key : String) (t : Transcript) (objects : Objects) :
    Adds key t objects objects := by
  constructor
  · exact fun _ _ _ _ ho => ho
  · intro k ns name o hnone ho
    cases hnone.symm.trans ho

theorem Adds.trans (h : Adds key t objects objects') (h' : Adds key t objects' objects'') :
    Adds key t objects objects'' := by
  constructor
  · exact fun k ns name o ho => h'.kept k ns name o (h.kept k ns name o ho)
  · intro k ns name o hnone ho
    cases hbetween : objects' k ns name with
    | none => exact h'.added k ns name o hbetween ho
    | some o' =>
      cases ho.symm.trans (h'.kept k ns name o' hbetween)
      exact h.added k ns name o hnone hbetween

theorem Adds.append (h : Adds key t objects objects') (e : Exchange) :
    Adds key (t ++ [e]) objects objects' := by
  refine ⟨h.kept, fun k ns name o hnone ho => ?_⟩
  obtain ⟨r, e', hshows, hdeclares, hmissed, he'⟩ := h.added k ns name o hnone ho
  exact ⟨r, e', hshows.append e, hdeclares, List.mem_append_left _ hmissed, he'⟩

/-- One more output. -/
theorem adds_put {o : k.Object} (hnone : objects k ns name = none) (h : Shows t key r)
    (hdeclares : Declares r k ns name o) (hmissed : Missed t k ns name) :
    Adds key t objects (objects.put k ns name o) := by
  constructor
  · intro k' ns' name' o' ho'
    unfold Objects.put
    split
    · next hsame =>
      obtain ⟨rfl, rfl, rfl⟩ := hsame
      cases hnone.symm.trans ho'
    · exact ho'
  · intro k' ns' name' o' hnone' ho'
    unfold Objects.put at ho'
    split at ho'
    · next hsame =>
      obtain ⟨rfl, rfl, rfl⟩ := hsame
      cases ho'
      obtain ⟨before, e, rfl, he⟩ := hmissed
      exact ⟨r, e, h, hdeclares, List.mem_append_right _ (List.mem_singleton.2 rfl), he⟩
    · cases hnone'.symm.trans ho'

/-- A question of the pass adds such an output at most. -/
theorem Modest.adds (h : Modest key t e.request) (heffect : Effect s e s') :
    Adds key t s.objects s'.objects := by
  obtain ⟨req, answer⟩ := e
  cases req with
  | create k ns given =>
    obtain rfl | ⟨name, stored, hname, hnone, hkeeps, rfl⟩ := heffect
    · exact .refl _ _ _
    · obtain ⟨-, r, name', hshows, hdeclares, hmissed⟩ := h
      cases hname.symm.trans hdeclares.name
      exact adds_put hnone hshows (hdeclares.stored hkeeps) hmissed
  | updateStatus r =>
    obtain rfl | ⟨_, _, _, _, -, -, -, -, -, rfl⟩ := heffect <;> exact .refl _ _ _
  | getDeclaring ns name =>
    cases answer with
    | ok fresh => exact heffect.1 ▸ .refl _ _ _
    | error e => exact Eq.symm heffect ▸ .refl _ _ _
  | update | readVault => exact h.elim
  | lookup | get | record | enqueue | now | tell => exact Eq.symm heffect ▸ .refl _ _ _

/-! ## Resources -/

section

variable {of of' : OutputKind → Prop} {r' r'' stored : Resource}
  {resource resource' resource'' : (ns name : String) → Option Resource}

theorem Forgets.trans (h : Forgets of r r') (h' : Forgets of r' r'') : Forgets of r r'' := by
  refine ⟨h'.spec.trans h.spec, fun k => ?_, fun k => (h'.names k).trans (h.names k),
    h'.time.trans h.time⟩
  rcases h'.hash k with hsame | hforgot
  · rw [hsame]
    exact h.hash k
  · exact .inr hforgot

theorem Forgets.mono (h : Forgets of r r') (himp : ∀ k, of k → of' k) : Forgets of' r r' :=
  ⟨h.spec, fun k => (h.hash k).imp_right fun hk => ⟨himp k hk.1, hk.2⟩, h.names, h.time⟩

theorem Clears.forgets (h : Clears k r r') (hspec : stored.spec = r.spec)
    (hstatus : stored.status = r'.status) (hk : of k) : Forgets of r stored := by
  constructor
  · exact hspec
  all_goals rw [hstatus]
  · intro k'
    by_cases hk' : k' = k
    · subst hk'
      exact .inr ⟨hk, h.hash⟩
    · exact .inl (h.hashes k' hk')
  · exact h.names
  · exact h.time

theorem OnlyForgets.refl (key : String) (t : Transcript)
    (resource : (ns name : String) → Option Resource) : OnlyForgets key t resource resource :=
  fun _ _ => .inl rfl

theorem OnlyForgets.trans (h : OnlyForgets key t resource resource')
    (h' : OnlyForgets key t resource' resource'') : OnlyForgets key t resource resource'' := by
  intro ns name
  rcases h' ns name with hsame | ⟨hkey, r', r'', hr', hr'', hforgets⟩
  · rw [hsame]
    exact h ns name
  · refine .inr ⟨hkey, ?_⟩
    rcases h ns name with hsame | ⟨-, r, _, hr, hr₁, hbefore⟩
    · exact ⟨r', r'', hsame ▸ hr', hr'', hforgets⟩
    · cases hr'.symm.trans hr₁
      exact ⟨r, r'', hr, hr'', hbefore.trans hforgets⟩

theorem OnlyForgets.append (h : OnlyForgets key t resource resource') (e : Exchange) :
    OnlyForgets key (t ++ [e]) resource resource' := by
  intro ns name
  refine (h ns name).imp_right fun ⟨hkey, r, r', hr, hr', hforgets⟩ => ?_
  exact ⟨hkey, r, r', hr, hr', hforgets.mono fun k hk => hk.append e⟩

theorem Served.of_snoc (h : Served s (t ++ [e]) s'') : ∃ s', Served s t s' ∧ Effect s' e s'' := by
  generalize ht : t ++ [e] = x at h
  cases h with
  | nil => simp at ht
  | snoc before effect =>
    obtain ⟨rfl, he⟩ := List.append_inj' ht rfl
    cases he
    exact ⟨_, before, effect⟩

/-- The copy that was read just now is still what is held. -/
theorem Served.reread {fresh : Resource} (h : Served s t s') (hread : Reread t key fresh) :
    ∃ ns name, Key.split? key = some (ns, name) ∧ s'.resource ns name = some fresh ∧
      fresh.metadata.ns = some ns ∧ fresh.metadata.name = some name := by
  obtain ⟨before, ns, name, now, hkey, rfl⟩ := hread
  -- Nothing is written by a look at the clock.
  rw [show before ++ [⟨.getDeclaring ns name, .ok fresh⟩, ⟨.now, now⟩] =
    (before ++ [⟨.getDeclaring ns name, .ok fresh⟩]) ++ [⟨.now, now⟩] by simp] at h
  obtain ⟨s₁, h₁, rfl⟩ := h.of_snoc
  obtain ⟨s₂, -, rfl, hheld, hns, hname⟩ := h₁.of_snoc
  exact ⟨ns, name, hkey, hheld, hns, hname⟩

/-- If nobody else writes, a question of the pass makes its resource forget what was created at
most. -/
theorem Modest.forgets {s₀ : Holding} (hserved : Served s₀ t s) (h : Modest key t e.request)
    (heffect : Effect s e s') : OnlyForgets key t s.resource s'.resource := by
  obtain ⟨req, answer⟩ := e
  cases req with
  | updateStatus w =>
    obtain rfl | ⟨ns, name, old, stored, hns, hname, hold, hspec, hstatus, rfl⟩ := heffect
    · exact .refl _ _ _
    obtain ⟨k, fresh, hcreated, hread, hclears⟩ := h
    obtain ⟨ns', name', hkey, hheld, hns', hname'⟩ := hserved.reread hread
    -- The status goes to the resource that was read, since a copy carries its name.
    rw [hclears.resource] at hns hname
    cases hns.symm.trans hns'
    cases hname.symm.trans hname'
    cases hold.symm.trans hheld
    intro ns' name'
    by_cases hsame : ns' = ns ∧ name' = name
    · obtain ⟨rfl, rfl⟩ := hsame
      exact .inr ⟨hkey, old, stored, hold, if_pos ⟨rfl, rfl⟩,
        hclears.forgets hspec hstatus hcreated⟩
    · exact .inl (if_neg hsame)
  | create k ns given =>
    obtain rfl | ⟨_, _, -, -, -, rfl⟩ := heffect <;> exact .refl _ _ _
  | getDeclaring ns name =>
    cases answer with
    | ok fresh => exact heffect.1 ▸ .refl _ _ _
    | error e => exact Eq.symm heffect ▸ .refl _ _ _
  | update | readVault => exact h.elim
  | lookup | get | record | enqueue | now | tell => exact Eq.symm heffect ▸ .refl _ _ _

end

/-! ## Whole passes -/

/-- What is left behind by modest questions, by induction on the last of them. -/
theorem Served.leaves (h : Served s t s')
    (hmodest : Transcript.Always (fun before e => Modest key before e.request) t) :
    Adds key t s.objects s'.objects ∧ OnlyForgets key t s.resource s'.resource := by
  induction h with
  | nil => exact ⟨.refl _ _ _, .refl _ _ _⟩
  | @snoc t e s' s'' before effect ih =>
    have hlast : Modest key t e.request := hmodest t e [] rfl
    have hbefore : Transcript.Always (fun before e => Modest key before e.request) t := by
      intro pre e' post ht
      exact hmodest pre e' (post ++ [e]) (by simp [ht])
    obtain ⟨hadds, hforgets⟩ := ih hbefore
    exact ⟨(hadds.trans (hlast.adds effect)).append e,
      (hforgets.trans (hlast.forgets before effect)).append e⟩

/-- Whatever a structural pass over the key is answered, and wherever it stops: each of its
questions is modest, and adds a declared output that was reported absent at most, whoever else
writes. If nobody else does, all that it leaves behind is such outputs, and a status that forgot
what it noted of the content of outputs that the pass created. -/
theorem structural_only_adds {p : Program (Except PassError Unit)}
    (hreach : (structural key).run.Reach t p) :
    (∀ before e after, t = before ++ e :: after → Modest key before e.request ∧
      ∀ s s', Effect s e s' → Adds key before s.objects s'.objects) ∧
    ∀ s s', Served s t s' →
      Adds key t s.objects s'.objects ∧ OnlyForgets key t s.resource s'.resource := by
  have hmodest := Program.Guarded.always (modest_structural key) hreach
  refine ⟨fun before e after ht => ?_, fun s s' hserved => hserved.leaves hmodest⟩
  have hquestion := hmodest before e after ht
  exact ⟨hquestion, fun s s' => hquestion.adds⟩

theorem Served.cons {s₀ s₁ : Holding} (heffect : Effect s₀ e s₁) (h : Served s₁ t s) :
    Served s₀ (e :: t) s := by
  induction h with
  | nil => exact .snoc (t := []) .nil heffect
  | snoc before effect ih => exact .snoc (t := e :: _) ih effect

/-- The resource after its Secret was filled, and what its status notes of that. -/
def sampleNoted (hash : Option String) : Resource :=
  { Watch.app with
    status := some ⟨some "login", hash, none, none, some "2024-01-01T00:00:00Z"⟩ }

/-- A pass creates the Secret again. -/
def sampleCreation : Transcript :=
  [⟨.lookup "prod" "app", some (sampleNoted (some "00"))⟩,
    ⟨.get .secret "prod" "login", .error (.notFound ⟨.secret, "prod", "login"⟩)⟩,
    ⟨.create .secret "prod" sampleSecret, .ok sampleSecret⟩,
    ⟨.tell (.count .outputsCreated "Secret"), ()⟩,
    ⟨.tell (.say .info .outputPass "Created output Secret"
      [.text "key" "prod/app", .text "secret" "login"]), ()⟩,
    ⟨.getDeclaring "prod" "app", .ok (sampleNoted (some "00"))⟩,
    ⟨.now, "2024-01-02T00:00:00Z"⟩,
    ⟨.updateStatus (sampleNoted none), .ok (sampleNoted none)⟩,
    ⟨.tell (.say .debug .status "Status updated" [.text "namespace" "prod", .text "name" "app",
      .text "update" "InvalidateSecret"]), ()⟩,
    ⟨.enqueue .drift "prod/app", ()⟩,
    ⟨.record ⟨Watch.app.reference, .normal, Event.synced, Event.reconcileOutput,
      "AzureKeyVaultSecret synced successfully"⟩, ()⟩]

/-- The Secret is there afterwards, and the status notes nothing of its content. -/
theorem structural_only_adds_login : ∃ s s',
    (structural "prod/app").run.Reach sampleCreation (.done (.ok ())) ∧
    Served s sampleCreation s' ∧
    s.objects .secret "prod" "login" = none ∧
    s'.objects .secret "prod" "login" = some sampleSecret ∧
    s'.resource "prod" "app" = some (sampleNoted none) ∧
    Adds "prod/app" sampleCreation s.objects s'.objects ∧
    OnlyForgets "prod/app" sampleCreation s.resource s'.resource := by
  have hkey : Key.split? "prod/app" = some ("prod", "app") := by decide
  have hends : (structural "prod/app").Ends sampleCreation (.ok ()) := by
    unfold Pass.Ends
    rw [structural_run hkey]
    exact .ask _ (.ask _ (.ask _ (.ask _ (.ask _ (.ask _ (.ask _ (.ask _ (.ask _ (.ask _
      (.ask _ (.done _)))))))))))
  let s : Holding := ⟨fun _ _ _ => none, fun _ _ => some (sampleNoted (some "00"))⟩
  let created : Holding := { s with objects := s.objects.put .secret "prod" "login" sampleSecret }
  let s' := created.putResource "prod" "app" (sampleNoted none)
  have hcreated : Effect s ⟨.create .secret "prod" sampleSecret, .ok sampleSecret⟩ created :=
    .inr ⟨"login", sampleSecret, rfl, rfl, ⟨⟨rfl, rfl, rfl⟩, rfl, rfl⟩, rfl⟩
  have hread : Effect created ⟨.getDeclaring "prod" "app", .ok (sampleNoted (some "00"))⟩ created :=
    ⟨rfl, rfl, rfl, rfl⟩
  have hwritten : Effect created ⟨.updateStatus (sampleNoted none), .ok (sampleNoted none)⟩ s' :=
    .inr ⟨"prod", "app", sampleNoted (some "00"), sampleNoted none, rfl, rfl, rfl, rfl, rfl, rfl⟩
  have hserved : Served s sampleCreation s' :=
    .cons rfl (.cons rfl (.cons hcreated (.cons rfl (.cons rfl (.cons hread (.cons rfl
      (.cons hwritten (.cons rfl (.cons rfl (.cons rfl .nil))))))))))
  refine ⟨s, s', hends.reach, hserved, rfl, ?_, rfl, ?_⟩
  · simp [s', created, Holding.putResource, Objects.put]
  · exact (structural_only_adds hends.reach).2 s s' hserved

end Pass

end VaultProjection

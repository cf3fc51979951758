import VaultProjection.Proofs.Pass.Outputs
import VaultProjection.Proofs.Status.Attempts

/-!
# Only owned objects are written

A pass writes an object only after it has read it and found itself named as its controller, and it
sends back what it read with other content. A pass that finds an object of somebody else says so in
an event, fails, and has written neither the object nor what the status notes of it.

Results:
1. `lawful_ofQueue`: every question of either pass is `Lawful` and its result is `Settled`, whatever
   is answered.
2. `untouched_of_foreign`: nothing was done about the kind of an object of somebody else, neither
   before it was read nor afterwards.
-/

namespace VaultProjection

/-! ## Who owns an object -/

/-- Some owner reference of the object controls it and names the kind, name and uid of the
resource. -/
def Resource.Owns (r : Resource) (m : Kube.ObjectMeta) : Prop :=
  ∃ ref ∈ m.ownerReferences.getD [], ref.controller = some true ∧ ref.kind = Resource.kind ∧
    r.metadata.name = some ref.name ∧ r.metadata.uid = some ref.uid

theorem Resource.owns_iff {r : Resource} {owner : Kube.OwnerReference}
    (h : r.ownerReference? = some owner) (m : Kube.ObjectMeta) :
    r.Owns m ↔ m.isControlledBy owner = true := by
  obtain ⟨name, uid, hname, huid, rfl⟩ := ownerReference?_eq_some.1 h
  simp only [Owns, Kube.ObjectMeta.isControlledBy, List.any_eq_true, Bool.and_eq_true,
    beq_iff_eq, hname, huid, Option.some.injEq, and_assoc]
  refine exists_congr fun ref => and_congr_right fun _ => and_congr_right fun _ =>
    and_congr_right fun _ => and_congr eq_comm eq_comm

theorem Resource.ownerReference?_name {r : Resource} {owner : Kube.OwnerReference}
    (h : r.ownerReference? = some owner) : owner.name = r.metadata.name.getD "" := by
  obtain ⟨name, uid, hname, -, rfl⟩ := ownerReference?_eq_some.1 h
  simp [hname]

/-! ## What a rewritten object keeps -/

/-- The object holds this content, in the one place that is meant for it, and is the copy in all
else: its names and owners, its type, and whether it may be changed. -/
def OutputKind.Refills : {k : OutputKind} → (copy : k.Object) → k.Payload → k.Object → Prop
  | .secret, copy, p, o => o.metadata = copy.metadata ∧ o.type = copy.type ∧
      o.immutable = copy.immutable ∧ o.data = some p ∧ o.stringData = none
  | .configMap, copy, p, o => o.metadata = copy.metadata ∧ o.immutable = copy.immutable ∧
      o.data = some p ∧ o.binaryData = none

/-- `replaceContent` makes such an object, and there is no other. -/
theorem OutputKind.refills_iff {k : OutputKind} {copy o : k.Object} {p : k.Payload} :
    Refills copy p o ↔ o = replaceContent copy p := by
  cases k with
  | secret =>
    refine ⟨fun h => ?_, fun h => h ▸ ⟨rfl, rfl, rfl, rfl, rfl⟩⟩
    obtain ⟨metadata, data, immutable, stringData, type⟩ := o
    obtain ⟨rfl, rfl, rfl, rfl, rfl⟩ := h
    rfl
  | configMap =>
    refine ⟨fun h => ?_, fun h => h ▸ ⟨rfl, rfl, rfl, rfl⟩⟩
    obtain ⟨metadata, binaryData, data, immutable⟩ := o
    obtain ⟨rfl, rfl, rfl, rfl⟩ := h
    rfl

namespace Pass

variable {key : String} {r : Resource} {k : OutputKind} {t : Transcript} {e : Exchange}

/-! ## What a transcript shows -/

/-- The pass over the key found the resource in the cache. -/
def Shows (t : Transcript) (key : String) (r : Resource) : Prop :=
  ∃ ns name, Key.split? key = some (ns, name) ∧ (⟨.lookup ns name, some r⟩ : Exchange) ∈ t

/-- The pass got this copy of an output. -/
def Gets (t : Transcript) (k : OutputKind) (ns name : String) (copy : k.Object) : Prop :=
  (⟨.get k ns name, .ok copy⟩ : Exchange) ∈ t

/-- The pass got a copy of an output that is not owned by its resource. -/
def Foreign (t : Transcript) (key : String) (r : Resource) (k : OutputKind) (copy : k.Object) :
    Prop :=
  Shows t key r ∧ (∃ ns name, Gets t k ns name copy) ∧ ¬ r.Owns (OutputKind.metadata copy)

/-- All copies so far are of objects that belong to the resource. -/
def Clean (t : Transcript) (key : String) : Prop := ∀ r k copy, ¬ Foreign t key r k copy

/-- The copy of a resource that was read from the API server just now, but for a look at the
clock. -/
def JustRead (t : Transcript) (fresh : Resource) : Prop :=
  ∃ before ns name now, t = before ++ [⟨.getDeclaring ns name, .ok fresh⟩, ⟨.now, now⟩]

/-- Two copies of a resource note the same of its output. -/
def SameGroup (k : OutputKind) (a b : Resource) : Prop :=
  (a.status.getD .empty).outputName k = (b.status.getD .empty).outputName k ∧
    (a.status.getD .empty).outputHash k = (b.status.getD .empty).outputHash k

/-- The request writes no output of the kind and changes nothing that the status notes of it. -/
def Leaves (k : OutputKind) (t : Transcript) : Request → Prop
  | .create k' .. | .update k' .. => k' ≠ k
  | .updateStatus r => ∃ fresh, JustRead t fresh ∧ SameGroup k r fresh
  | .lookup .. | .get .. | .getDeclaring .. | .readVault .. | .record _ | .enqueue .. | .now
  | .tell _ => True

/-- No request so far was about the kind. -/
def Untouched (k : OutputKind) (t : Transcript) : Prop :=
  ∀ before e after, t = before ++ e :: after → Leaves k before e.request

/-- The resource is looked up first, and an output is read before anything else is done about its
kind. Nothing is written once an object of somebody else was found, and what is written is a copy
that was read, with other content. -/
def Lawful (key : String) (t : Transcript) : Request → Prop
  | .lookup .. => t = []
  | .get k .. => Untouched k t
  | .create .. | .updateStatus _ => Clean t key
  | .update k ns object => Clean t key ∧ ∃ r name copy data, Shows t key r ∧ Gets t k ns name copy ∧
      r.Owns (OutputKind.metadata copy) ∧ object = OutputKind.replaceContent copy data
  | .getDeclaring .. | .readVault .. | .record _ | .enqueue .. | .now | .tell _ => True

/-- A pass that found an object of somebody else says so in an event and fails. -/
def Settled {α : Type} (key : String) (res : Except PassError α) (t : Transcript) : Prop :=
  ∀ r k copy, Foreign t key r k copy →
    let m := OutputKind.metadata copy
    res = .error (.notOwned ⟨k.kind, m.ns.getD "", m.name.getD ""⟩ (r.metadata.name.getD "")) ∧
    ∃ action, (⟨.record ⟨r.reference, .warning, Event.resourceExists, action,
      "Resource " ++ m.name.getD "" ++ " already exists and is not managed by AzureKeyVaultSecret"⟩,
      ()⟩ : Exchange) ∈ t

/-! ## Growing transcripts -/

theorem Shows.append (h : Shows t key r) (e : Exchange) : Shows (t ++ [e]) key r := by
  obtain ⟨ns, name, hkey, hm⟩ := h
  exact ⟨ns, name, hkey, List.mem_append_left _ hm⟩

/-- If resources are looked up at the beginning only, what is shown was shown from there on. -/
theorem Shows.first {before after : Transcript} (h : Shows (before ++ after) key r)
    (hfirst : ∀ b ns name answer a, before ++ after = b ++ ⟨.lookup ns name, answer⟩ :: a → b = [])
    (hne : before ≠ []) : Shows before key r := by
  obtain ⟨ns, name, hkey, hlook⟩ := h
  refine ⟨ns, name, hkey, ?_⟩
  obtain ⟨b, a, ht⟩ := List.append_of_mem hlook
  obtain rfl : b = [] := hfirst b ns name _ a ht
  obtain ⟨e', before', rfl⟩ := List.exists_cons_of_ne_nil hne
  obtain ⟨rfl, -⟩ : e' = ⟨.lookup ns name, some r⟩ ∧ _ := by simpa using ht
  exact List.mem_cons_self

theorem untouched_nil : Untouched k [] := Transcript.always_nil

theorem Untouched.append (h : Untouched k t) (he : Leaves k t e.request) :
    Untouched k (t ++ [e]) :=
  Transcript.Always.append (P := fun before e => Leaves k before e.request) h he

/-- Neither of the questions on which ownership depends. -/
def plain : Request → Bool
  | .lookup .. | .get .. => false
  | .create .. | .update .. | .getDeclaring .. | .updateStatus _ | .readVault .. | .record _
  | .enqueue .. | .now | .tell _ => true

theorem Shows.of_append (hp : plain e.request = true) (h : Shows (t ++ [e]) key r) :
    Shows t key r := by
  obtain ⟨ns, name, hkey, hm⟩ := h
  rcases List.mem_append.1 hm with hm | hm
  · exact ⟨ns, name, hkey, hm⟩
  · rw [← List.mem_singleton.1 hm] at hp
    cases hp

theorem Gets.of_append {ns name : String} {copy : k.Object} (hp : plain e.request = true)
    (h : Gets (t ++ [e]) k ns name copy) : Gets t k ns name copy := by
  rcases List.mem_append.1 h with hm | hm
  · exact hm
  · rw [← List.mem_singleton.1 hm] at hp
    cases hp

theorem Foreign.of_append {copy : k.Object} (hp : plain e.request = true)
    (h : Foreign (t ++ [e]) key r k copy) : Foreign t key r k copy := by
  obtain ⟨hshows, ⟨ns, name, hgets⟩, hnot⟩ := h
  exact ⟨hshows.of_append hp, ⟨ns, name, hgets.of_append hp⟩, hnot⟩

theorem Clean.append (hp : plain e.request = true) (h : Clean t key) : Clean (t ++ [e]) key :=
  fun r k copy hf => h r k copy (hf.of_append hp)

theorem Clean.settled {α : Type} (h : Clean t key) (res : Except PassError α) :
    Settled key res t := fun r k copy hf => absurd hf (h r k copy)

/-! ## While the outputs are gone over -/

/-- The pass has found its resource, everything that it read belongs to it, and it has not come to
the kinds that are still to do. -/
structure Stage (key : String) (r : Resource) (todo : List OutputKind) (t : Transcript) : Prop where
  shows : Shows t key r
  only : ∀ r', Shows t key r' → r' = r
  clean : Clean t key
  untouched : ∀ k ∈ todo, Untouched k t

variable {todo : List OutputKind} {owner : Kube.OwnerReference}

theorem Stage.append (h : Stage key r todo t) (hp : plain e.request = true)
    (he : ∀ k ∈ todo, Leaves k t e.request) : Stage key r todo (t ++ [e]) where
  shows := h.shows.append e
  only r' hs := h.only r' (hs.of_append hp)
  clean := h.clean.append hp
  untouched k hk := (h.untouched k hk).append (he k hk)

/-- A request that neither writes nor looks for a resource or an output. -/
def mute : Request → Bool
  | .getDeclaring .. | .readVault .. | .record _ | .enqueue .. | .now | .tell _ => true
  | .lookup .. | .get .. | .create .. | .update .. | .updateStatus _ => false

/-- A mute request is always lawful and leaves the stage as it is. -/
theorem Stage.mute (h : Stage key r todo t) {req : Request} (hm : mute req = true) :
    Lawful key t req ∧ ∀ answer, Stage key r todo (t ++ [⟨req, answer⟩]) := by
  cases req with
  | lookup | get | create | update | updateStatus => cases hm
  | getDeclaring | readVault | record | enqueue | now | tell =>
    exact ⟨trivial, fun _ => h.append rfl fun _ _ => trivial⟩

theorem Stage.ask_bind {α : Type} {post : Except PassError α → Transcript → Prop} {req : Request}
    {f : req.Answer → Pass α} (h : Stage key r todo t) (hm : Pass.mute req = true)
    (hf : ∀ answer t', Stage key r todo t' → (f answer).Guarded (Lawful key) post t') :
    (ask req >>= f).Guarded (Lawful key) post t :=
  guarded_ask_bind (h.mute hm).1 fun answer => hf answer _ ((h.mute hm).2 answer)

theorem Stage.tell_bind {α : Type} {post : Except PassError α → Transcript → Prop} {m : Signal}
    {f : Unit → Pass α} (h : Stage key r todo t)
    (hf : ∀ t', Stage key r todo t' → (f ()).Guarded (Lawful key) post t') :
    (tell m >>= f).Guarded (Lawful key) post t :=
  h.ask_bind rfl fun () => hf

theorem mem_get_append {ns name : String} {copy : k.Object} {ns' name' : String}
    {k' : OutputKind} {answer : (Request.get k' ns' name').Answer}
    (h : Gets (t ++ [⟨.get k' ns' name', answer⟩]) k ns name copy) :
    Gets t k ns name copy ∨
      (⟨.get k' ns' name', answer⟩ : Exchange) = ⟨.get k ns name, .ok copy⟩ := by
  rcases List.mem_append.1 h with hm | hm
  · exact .inl hm
  · exact .inr (List.mem_singleton.1 hm).symm

theorem Shows.of_get {ns name : String} {answer : (Request.get k ns name).Answer}
    (h : Shows (t ++ [⟨.get k ns name, answer⟩]) key r) : Shows t key r := by
  obtain ⟨ns', name', hkey, hm⟩ := h
  rcases List.mem_append.1 hm with hm | hm
  · exact ⟨ns', name', hkey, hm⟩
  · have hreq := congrArg Exchange.request (List.mem_singleton.1 hm)
    cases hreq

/-- Only this object can be one of somebody else. -/
def Suspect (t : Transcript) (key : String) (r : Resource) (k : OutputKind) (m : Kube.ObjectMeta) :
    Prop :=
  ∀ r' k' copy, Foreign t key r' k' copy → r' = r ∧ k' = k ∧ OutputKind.metadata copy = m

theorem Clean.suspect (h : Clean t key) (m : Kube.ObjectMeta) : Suspect t key r k m :=
  fun r' k' copy hf => absurd hf (h r' k' copy)

theorem Stage.suspect (h : Stage key r todo t) {ns name : String} (copy : k.Object) :
    Suspect (t ++ [⟨.get k ns name, .ok copy⟩]) key r k (OutputKind.metadata copy) := by
  rintro r' k' copy' ⟨hshows, ⟨ns', name', hgets⟩, hnot⟩
  have hshows' := hshows.of_get
  rcases mem_get_append hgets with hgets | heq
  · exact absurd ⟨hshows', ⟨ns', name', hgets⟩, hnot⟩ (h.clean r' k' copy')
  · cases heq
    exact ⟨h.only r' hshows', rfl, rfl⟩

theorem Stage.get {k : OutputKind} (h : Stage key r (k :: todo) t) {ns name : String}
    {answer : (Request.get k ns name).Answer}
    (hanswer : ∀ copy, answer = .ok copy → r.Owns (OutputKind.metadata copy)) :
    Stage key r todo (t ++ [⟨.get k ns name, answer⟩]) where
  shows := h.shows.append _
  only r' hs := h.only r' hs.of_get
  clean := by
    rintro r' k' copy ⟨hshows, ⟨ns', name', hgets⟩, hnot⟩
    have hshows' := hshows.of_get
    rcases mem_get_append hgets with hgets | heq
    · exact h.clean r' k' copy ⟨hshows', ⟨ns', name', hgets⟩, hnot⟩
    · cases heq
      rw [h.only r' hshows'] at hnot
      exact hnot (hanswer copy rfl)
  untouched k' hk' := (h.untouched k' (List.mem_cons_of_mem _ hk')).append trivial

/-! ## Steps of the passes -/

/-- The check of the owner ends the pass, with an event, unless the object belongs to the
resource. -/
theorem guarded_ensureOwned (howner : r.ownerReference? = some owner) {m : Kube.ObjectMeta}
    (hsus : Suspect t key r k m) (action : String) :
    (ensureOwned r owner k m action).Guarded (Lawful key) (fun res t' =>
      match res with
      | .ok () => t' = t ∧ r.Owns m
      | .error e => Settled key (.error e : Except PassError Unit) t') t := by
  unfold ensureOwned
  by_cases hc : m.isControlledBy owner = true
  · simp only [hc, if_true]
    exact guarded_pure ⟨rfl, (Resource.owns_iff howner m).2 hc⟩
  · simp only [hc]
    refine guarded_tell_bind trivial (guarded_tell_bind trivial ?_)
    refine guarded_ask_bind trivial fun _ => guarded_throw ?_
    rintro r' k' copy hf
    obtain ⟨rfl, rfl, rfl⟩ := hsus r' k' copy
      (((hf.of_append rfl).of_append rfl).of_append rfl)
    refine ⟨?_, action, ?_⟩
    · rw [Resource.ownerReference?_name howner]
    · exact List.mem_append_right _ (List.mem_singleton.2 rfl)

/-- A write of a status starts from a copy that was read just now, and changes no other group than
its own. -/
theorem Fresh.justRead {ns name : String} {u : StatusUpdate} {w : Resource}
    (h : Fresh ns name u t w) (hk : k ≠ u.kind) :
    ∃ fresh, JustRead t fresh ∧ SameGroup k w fresh := by
  obtain ⟨before, fresh, now, ht, rfl⟩ := h
  exact ⟨fresh, ⟨before, ns, name, now, ht⟩, StatusUpdate.apply_other hk _ now⟩

/-- Writing a status, with all attempts, leaves the kinds that are still to do alone. -/
theorem guarded_persistStatus (h : Stage key r todo t) {u : StatusUpdate} (hu : u.kind ∉ todo)
    (ns name : String) :
    (persistStatus ns name u).Guarded (Lawful key) (fun _ t' => Stage key r todo t') t := by
  refine guarded_persistStatus_of (fun t request h hsends => ?_) h
  cases request with
  | updateStatus w =>
    exact ⟨h.clean, fun _ => h.append rfl fun k' hk' => hsends.justRead fun hk => hu (hk ▸ hk')⟩
  | getDeclaring | now | tell => exact ⟨trivial, fun _ => h.append rfl fun _ _ => trivial⟩
  | lookup | get | create | update | readVault | record | enqueue => exact hsends.elim

/-- What a step over one output leaves: the other kinds are still to do, or the pass has failed. -/
def Passed (key : String) (r : Resource) (todo : List OutputKind) (res : Except PassError Unit)
    (t : Transcript) : Prop :=
  match res with
  | .ok () => Stage key r todo t
  | .error e => Settled key (.error e : Except PassError Unit) t

theorem Stage.failed (h : Stage key r todo t) (e : PassError) :
    Passed key r todo (.error e) t := h.clean.settled _

theorem guarded_ensure {k : OutputKind} (h : Stage key r (k :: todo) t)
    (howner : r.ownerReference? = some owner) (hk : k ∉ todo) (ns name : String) :
    (Structural.ensure r key ns owner k name).Guarded (Lawful key) (Passed key r todo) t := by
  unfold Structural.ensure
  refine guarded_ask_bind (h.untouched k List.mem_cons_self) fun answer => ?_
  cases answer with
  | ok object =>
    refine (guarded_ensureOwned howner (h.suspect object) _).mono ?_
    rintro (e | ⟨⟩) t' hres
    · exact hres
    · obtain ⟨rfl, howns⟩ := hres
      exact h.get fun copy hcopy => by cases hcopy; exact howns
  | error e =>
    have h₁ : Stage key r todo (t ++ [⟨.get k ns name, .error e⟩]) :=
      h.get fun copy hcopy => by cases hcopy
    dsimp only
    split
    · exact guarded_throw (h₁.failed _)
    · refine guarded_ask_bind h₁.clean fun created => ?_
      -- From here on the kind is not to do any more, so it may be written.
      have h₂ := h₁.append (e := ⟨.create k ns _, created⟩) rfl fun k' hk' hkk => hk (hkk ▸ hk')
      cases created with
      | error e => exact guarded_throw (h₂.failed _)
      | ok stored =>
        refine Guarded.bind (guarded_pure ?_)
        refine h₂.tell_bind fun t₃ h₃ => h₃.tell_bind fun t₄ h₄ => ?_
        refine Guarded.bind (guarded_splitKey (fun parts _ => ?_) fun e => h₄.failed e)
        refine Guarded.bind ((guarded_persistStatus (u := .invalidate k) h₄ hk _ _).mono ?_)
        rintro (e | outcome) t₅ h₅
        · exact h₅.failed e
        · refine h₅.ask_bind rfl fun _ t₆ h₆ => ?_
          refine (guarded_ensureOwned howner (h₆.clean.suspect _) _).mono ?_
          rintro (e | ⟨⟩) t' hres
          · exact hres
          · exact hres.1 ▸ h₆

theorem guarded_follow {α : Type} (h : Stage key r todo t) (recipe : Recipe α) :
    (Drift.follow r recipe).Guarded (Lawful key) (fun _ t' => Stage key r todo t') t := by
  have hfail : ∀ (e : ProjectionError) {t}, Stage key r todo t →
      (Drift.failProjection r e : Pass α).Guarded (Lawful key)
        (fun _ t' => Stage key r todo t') t :=
    fun e t h => h.ask_bind rfl fun _ t' h' => guarded_throw h'
  cases recipe with
  | given result =>
    cases result with
    | ok a => exact guarded_pure h
    | error e => exact hfail e h
  | read kind finish =>
    refine h.ask_bind rfl fun answer t₁ h₁ => ?_
    cases answer with
    | error e => exact hfail _ h₁
    | ok raw =>
      dsimp only
      split
      · exact guarded_pure h₁
      · exact hfail _ h₁

/-- The last step of a drift pass over one output. -/
theorem guarded_note {k : OutputKind} (h : Stage key r todo t) (hk : k ∉ todo) {ns name : String}
    {output : String} {digest : Digest k} {current : Bool} {m : Signal} {event : Event} :
    (do
      let _ ← persistStatus ns name (.record k output digest)
      if current then tell m else ask (.record event) : Pass Unit).Guarded (Lawful key)
      (Passed key r todo) t := by
  refine Guarded.bind ((guarded_persistStatus (u := .record k output digest) h hk _ _).mono ?_)
  rintro (e | outcome) t₁ h₁
  · exact h₁.failed e
  · cases current with
    | true => exact ⟨(h₁.mute rfl).1, (h₁.mute rfl).2⟩
    | false => exact ⟨(h₁.mute rfl).1, (h₁.mute rfl).2⟩

theorem guarded_sync {k : OutputKind} (h : Stage key r (k :: todo) t)
    (howner : r.ownerReference? = some owner) (hk : k ∉ todo) (ns name : String) (g : Handler)
    (output : String) :
    (Drift.sync r key ns name owner g k output).Guarded (Lawful key) (Passed key r todo) t := by
  unfold Drift.sync
  refine Guarded.bind ((guarded_follow h _).mono ?_)
  rintro (e | wanted) t₁ h₁
  · exact h₁.failed e
  · refine guarded_ask_bind (h₁.untouched k List.mem_cons_self) fun answer => ?_
    cases answer with
    | error e =>
      have h₂ : Stage key r todo (t₁ ++ [⟨.get k ns output, .error e⟩]) :=
        h₁.get fun copy hcopy => by cases hcopy
      dsimp only
      split
      · exact guarded_throw (h₂.failed _)
      · exact h₂.ask_bind rfl fun _ t₃ h₃ => guarded_throw (h₃.failed _)
    | ok object =>
      refine Guarded.bind ((guarded_ensureOwned howner (h₁.suspect object) _).mono ?_)
      rintro (e | ⟨⟩) t₂ hres
      · exact hres
      · obtain ⟨rfl, howns⟩ := hres
        have h₂ : Stage key r todo (t₁ ++ [⟨.get k ns output, .ok object⟩]) :=
          h₁.get fun copy hcopy => by cases hcopy; exact howns
        dsimp only
        split
        · exact h₂.tell_bind fun t₃ h₃ => guarded_pure h₃
        · split
          · refine guarded_ask_bind ⟨h₂.clean, r, output, object, wanted, h₂.shows,
              List.mem_append_right _ (List.mem_singleton.2 rfl), howns, rfl⟩ fun updated => ?_
            have h₃ := h₂.append (e := ⟨.update k ns _, updated⟩) rfl fun k' hk' hkk =>
              hk (hkk ▸ hk')
            cases updated with
            | error e => exact guarded_throw (h₃.failed _)
            | ok stored =>
              refine Guarded.bind (guarded_pure ?_)
              refine h₃.tell_bind fun t₄ h₄ => h₄.tell_bind fun t₅ h₅ => ?_
              exact guarded_note h₅ hk
          · exact guarded_note h₂ hk

/-! ## Whole passes -/

theorem clean_nil : Clean [] key := by
  rintro r k copy ⟨⟨ns, name, -, hm⟩, -⟩
  cases hm

theorem clean_lookup {ns name : String} (found : Option Resource) :
    Clean [⟨.lookup ns name, found⟩] key := by
  rintro r k copy ⟨-, ⟨ns', name', hm⟩, -⟩
  have hreq := congrArg Exchange.request (List.mem_singleton.1 hm)
  cases hreq

theorem Stage.start {ns name : String} (hkey : Key.split? key = some (ns, name))
    (todo : List OutputKind) : Stage key r todo [⟨.lookup ns name, some r⟩] where
  shows := ⟨ns, name, hkey, List.mem_singleton.2 rfl⟩
  only := by
    rintro r' ⟨ns', name', -, hm⟩
    cases List.mem_singleton.1 hm
    rfl
  clean := clean_lookup _
  untouched k _ := untouched_nil.append trivial

/-- A pass over all outputs of a resource, one after the other. -/
theorem guarded_outputs {f : OutputKind × String → Pass Unit}
    (hf : ∀ d todo t, Stage key r (d.1 :: todo) t → d.1 ∉ todo →
      (f d).Guarded (Lawful key) (Passed key r todo) t)
    (h : Stage key r (r.declared.map (·.1)) t) :
    (r.declared.forM f).Guarded (Lawful key) (Passed key r []) t := by
  refine guarded_forM (fun ds t => Stage key r (ds.map (·.1)) t ∧ (ds.map (·.1)).Nodup)
    (fun d ds t hinv => ?_) (fun t hinv => hinv.1) ⟨h, r.declared_kinds⟩
  obtain ⟨hd, hds⟩ := List.nodup_cons.1 hinv.2
  refine (hf d _ t hinv.1 hd).mono ?_
  rintro (e | ⟨⟩) t' hres
  · exact hres
  · exact ⟨hres, hds⟩

theorem lawful_structural (key : String) :
    (structural key).Guarded (Lawful key) (Settled key) [] := by
  rw [structural_eq]
  refine Guarded.bind (guarded_splitKey (fun parts hkey => ?_) fun e => clean_nil.settled _)
  obtain ⟨ns, name⟩ := parts
  refine guarded_ask_bind rfl fun found => ?_
  cases found with
  | none => exact ⟨trivial, fun _ => ((clean_lookup none).append rfl).settled _⟩
  | some r =>
    dsimp only
    split
    · exact ⟨trivial, fun _ => ((clean_lookup (some r)).append rfl).settled _⟩
    · have h := Stage.start (r := r) hkey (r.declared.map (·.1))
      unfold Structural.over
      refine Guarded.bind (guarded_ownerOf (fun owner howner => ?_) fun e => h.clean.settled _)
      refine Guarded.bind ((guarded_outputs (fun d todo t h hd =>
        guarded_ensure h howner hd ns d.2) h).mono ?_)
      rintro (e | ⟨⟩) t hres
      · exact hres
      · exact ⟨trivial, fun _ => (hres.clean.append rfl).settled _⟩

theorem lawful_drift (key : String) : (drift key).Guarded (Lawful key) (Settled key) [] := by
  rw [drift_eq]
  refine Guarded.bind (guarded_splitKey (fun parts hkey => ?_) fun e => clean_nil.settled _)
  obtain ⟨ns, name⟩ := parts
  refine guarded_ask_bind rfl fun found => ?_
  cases found with
  | none => exact ⟨trivial, fun _ => ((clean_lookup none).append rfl).settled _⟩
  | some r =>
    dsimp only
    split
    · have h := Stage.start (r := r) hkey (r.declared.map (·.1))
      unfold Drift.over
      split
      · exact h.ask_bind rfl fun _ t' h' => guarded_throw (h'.clean.settled _)
      · refine Guarded.bind (guarded_ownerOf (fun owner howner => ?_) fun e => h.clean.settled _)
        refine (guarded_outputs (fun d todo t h hd =>
          guarded_sync h howner hd ns name _ d.2) h).mono ?_
        rintro (e | ⟨⟩) t hres
        · exact hres
        · exact hres.clean.settled _
    · exact guarded_pure ((clean_lookup (some r)).settled _)

/-- Whatever is answered, a pass asks nothing unlawful, and it fails if it finds an object of
somebody else. -/
theorem lawful_ofQueue (id : QueueId) (key : String) :
    (ofQueue id key).Guarded (Lawful key) (Settled key) [] := by
  cases id with
  | structural => exact lawful_structural key
  | drift => exact lawful_drift key

/-! ## What was asked on the way -/

theorem Foreign.append {after : Transcript} {copy : k.Object} (h : Foreign t key r k copy) :
    Foreign (t ++ after) key r k copy := by
  obtain ⟨⟨ns, name, hkey, hm⟩, ⟨ns', name', hgets⟩, hnot⟩ := h
  exact ⟨⟨ns, name, hkey, List.mem_append_left _ hm⟩,
    ⟨ns', name', List.mem_append_left _ hgets⟩, hnot⟩

/-- Where every question was lawful, nothing was done about the kind of an object of somebody else:
not before it was read, as it is read first, and not afterwards, as nothing is written then. -/
theorem untouched_of_foreign {copy : k.Object}
    (hlaw : ∀ before e after, t = before ++ e :: after → Lawful key before e.request)
    (hf : Foreign t key r k copy) : Untouched k t := by
  obtain ⟨hshows, ⟨ns', name', hgets⟩, hnot⟩ := hf
  rintro before e after rfl
  rcases List.mem_append.1 hgets with hm | hm
  · have hfirst := hshows.first (fun b ns name answer a hb => hlaw b _ a hb) (List.ne_nil_of_mem hm)
    have hforeign : Foreign before key r k copy := ⟨hfirst, ⟨ns', name', hm⟩, hnot⟩
    have hlawful := hlaw before e after rfl
    obtain ⟨req, answer⟩ := e
    cases req with
    | create | updateStatus => exact absurd hforeign (hlawful r k copy)
    | update => exact absurd hforeign (hlawful.1 r k copy)
    | lookup | get | getDeclaring | readVault | record | enqueue | now | tell => trivial
  · rcases List.mem_cons.1 hm with rfl | hm
    · trivial
    · obtain ⟨between, after', rfl⟩ := List.append_of_mem hm
      have huntouched : Untouched k (before ++ e :: between) :=
        hlaw (before ++ e :: between) ⟨.get k ns' name', .ok copy⟩ after' (by simp)
      exact huntouched before e between rfl

end Pass

end VaultProjection

import VaultProjection.Proofs.Convergence.Passes
import VaultProjection.Proofs.Pass.Ownership

/-!
# What is noted was there before

The drift pass notes an output only after it got a copy with the content that it notes, or after an
update with that content was accepted. Whatever can go wrong with an output goes wrong before its
first note, and ends the pass.

Results:
1. `careful_drift`: every question of a drift pass is `Careful`, whatever is answered.
2. `Careful.spares`, `spared_of_failed`: nothing is noted of an output that failed, neither later in
   the pass nor before.
-/

namespace VaultProjection.Backing

open Pass

variable {key ns name output : String} {r w : Resource} {k : OutputKind} {digest : Digest k}
  {t : Transcript} {e : Exchange} {req : Request}

/-! ## What fails an output -/

/-- A copy of an output was asked for. -/
def isGet : Exchange → Bool
  | ⟨.get .., _⟩ => true
  | _ => false

/-- The outputs are done in their order and each of them is read once, so as many reads as there
were have been for the outputs before this one. -/
def Turn (t : Transcript) (r : Resource) (k : OutputKind) : Prop :=
  ∃ output, r.declared[t.countP isGet]? = some (k, output)

/-- The resource is such that its handler makes no content for the output, whatever the vault
holds. -/
def Misconfigured (r : Resource) (k : OutputKind) : Prop :=
  ∀ g, Handler.select r = .ok g → ∃ e, g.recipe r k = .given (.error e)

/-- An exchange that fails the output: the vault cannot be read for it, or the handler cannot use
the answer; the output cannot be read, or its copy belongs to somebody else; it cannot be
updated. -/
def Fails (key : String) (k : OutputKind) (t : Transcript) : Exchange → Prop
  | ⟨.readVault .., answer⟩ => ∃ r g e, Shows t key r ∧ Turn t r k ∧ Handler.select r = .ok g ∧
      (g.recipe r k).result (fun _ => answer) = .error e
  | ⟨.get k' .., .error _⟩ | ⟨.update k' .., .error _⟩ => k' = k
  | ⟨.get k' .., .ok copy⟩ => k' = k ∧ ∃ r, Shows t key r ∧ ¬ r.Owns (OutputKind.metadata copy)
  | _ => False

/-- The pass over the key found that the output fails. -/
def Failed (t : Transcript) (key : String) (k : OutputKind) : Prop :=
  (∃ r, Shows t key r ∧ Misconfigured r k) ∨
    ∃ before e after, t = before ++ e :: after ∧ Fails key k before e

/-! ## What is noted -/

/-- The request changes nothing that the status notes of the output. -/
def Spares (k : OutputKind) (t : Transcript) : Request → Prop
  | .updateStatus w => ∃ fresh, JustRead t fresh ∧ SameGroup k w fresh
  | .lookup .. | .get .. | .create .. | .update .. | .getDeclaring .. | .readVault .. | .record _
  | .enqueue .. | .now | .tell _ => True

/-- Nothing was noted of the output so far. -/
def Spared (k : OutputKind) (t : Transcript) : Prop :=
  t.Always fun before e => Spares k before e.request

/-- A copy of the resource of the key that notes this digest for an output that the resource asks
for, and is otherwise what was read just now. -/
structure Notes (t : Transcript) (key ns name : String) (w r : Resource) (k : OutputKind)
    (output : String) (digest : Digest k) : Prop where
  split : Key.split? key = some (ns, name)
  shows : Shows t key r
  declared : (k, output) ∈ r.declared
  fresh : Fresh ns name (.record k output digest) t w

/-- The API server had this object: the pass got it like this, or it got it with other content and
its update was accepted. -/
def Stored (t : Transcript) (k : OutputKind) (ns name : String) (o : k.Object) : Prop :=
  Gets t k ns name o ∨ ∃ copy data stored, Gets t k ns name copy ∧
    o = OutputKind.replaceContent copy data ∧ (⟨.update k ns o, .ok stored⟩ : Exchange) ∈ t

/-- The API server had the output of the resource with content of this digest. -/
def Backed (t : Transcript) (ns : String) (r : Resource) (k : OutputKind) (output : String)
    (digest : Digest k) : Prop :=
  ∃ o, Stored t k ns output o ∧ r.Owns (OutputKind.metadata o) ∧
    Digest.ofPayload (OutputKind.content o) = digest

/-- The resource is looked up first. Everything that can fail an output is asked before something is
noted of it, and what is noted is backed and of an output that did not fail. -/
def Careful (key : String) (t : Transcript) : Request → Prop
  | .lookup .. => t = []
  | .readVault .. => ∀ r k, Shows t key r → Turn t r k → Spared k t
  | .get k .. | .update k .. => Spared k t
  | .updateStatus w => ∃ ns name r k output digest, Notes t key ns name w r k output digest ∧
      Backed t ns r k output digest ∧ ¬ Failed t key k
  | .create .. | .getDeclaring .. | .record _ | .enqueue .. | .now | .tell _ => True

/-! ## Growing transcripts -/

theorem Spared.append (h : Spared k t) (he : Spares k t e.request) : Spared k (t ++ [e]) :=
  Transcript.Always.append (P := fun before e => Spares k before e.request) h he

theorem Backed.append (h : Backed t ns r k output digest) (e : Exchange) :
    Backed (t ++ [e]) ns r k output digest := by
  obtain ⟨o, hstored, howns, hdigest⟩ := h
  refine ⟨o, ?_, howns, hdigest⟩
  rcases hstored with hgets | ⟨copy, data, stored, hgets, ho, hm⟩
  · exact .inl (List.mem_append_left _ hgets)
  · exact .inr ⟨copy, data, stored, List.mem_append_left _ hgets, ho, List.mem_append_left _ hm⟩

/-! ## While the outputs are gone over -/

/-- The pass has found its resource, nothing failed, the outputs before those that are still to do
were read, and nothing was noted of the others. -/
structure Stage (key : String) (r : Resource) (todo : List (OutputKind × String))
    (t : Transcript) : Prop where
  shows : Shows t key r
  only : ∀ r', Shows t key r' → r' = r
  sound : t.Always fun before e => ∀ k, ¬ Fails key k before e
  turn : ∃ past, r.declared = past ++ todo ∧ t.countP isGet = past.length
  spared : ∀ d ∈ todo, Spared d.1 t

variable {todo : List (OutputKind × String)}

theorem Stage.turn_eq (h : Stage key r ((k, output) :: todo) t) {k' : OutputKind}
    (ht : Turn t r k') : k' = k := by
  obtain ⟨past, hdeclared, hcount⟩ := h.turn
  obtain ⟨output', hget⟩ := ht
  rw [hdeclared, hcount, List.getElem?_append_right (Nat.le_refl _), Nat.sub_self] at hget
  simp only [List.getElem?_cons_zero, Option.some.injEq, Prod.mk.injEq] at hget
  exact hget.1.symm

theorem isGet_of_plain (hp : plain e.request = true) : isGet e = false := by
  obtain ⟨req, answer⟩ := e
  cases req with
  | get => cases hp
  | lookup | create | update | getDeclaring | updateStatus | readVault | record | enqueue | now
  | tell => rfl

theorem Stage.append (h : Stage key r todo t) (hp : plain e.request = true)
    (hsound : ∀ k, ¬ Fails key k t e) (hspares : ∀ d ∈ todo, Spares d.1 t e.request) :
    Stage key r todo (t ++ [e]) where
  shows := h.shows.append e
  only r' hs := h.only r' (hs.of_append hp)
  sound := h.sound.append hsound
  turn := by
    obtain ⟨past, hdeclared, hcount⟩ := h.turn
    exact ⟨past, hdeclared, by simp [List.countP_append, isGet_of_plain hp, hcount]⟩
  spared d hd := (h.spared d hd).append (hspares d hd)

/-- A request that nothing here depends on. -/
def silent : Request → Bool
  | .getDeclaring .. | .record _ | .enqueue .. | .now | .tell _ => true
  | .lookup .. | .get .. | .create .. | .update .. | .updateStatus _ | .readVault .. => false

theorem Stage.silent (h : Stage key r todo t) (hs : silent req = true) :
    Careful key t req ∧ ∀ answer, Stage key r todo (t ++ [⟨req, answer⟩]) := by
  cases req with
  | lookup | get | create | update | updateStatus | readVault => cases hs
  | getDeclaring | record | enqueue | now | tell =>
    exact ⟨trivial, fun _ => h.append rfl (fun _ => id) fun _ _ => trivial⟩

theorem Stage.tell_bind {α : Type} {post : Except PassError α → Transcript → Prop} {m : Signal}
    {f : Unit → Pass α} (h : Stage key r todo t)
    (hf : ∀ t', Stage key r todo t' → (f ()).Guarded (Careful key) post t') :
    (tell m >>= f).Guarded (Careful key) post t :=
  guarded_tell_bind trivial (hf _ ((h.silent rfl).2 _))

/-- An output was read, and its copy belongs to the resource. -/
theorem Stage.get (h : Stage key r ((k, output) :: todo) t) {copy : k.Object}
    (howns : r.Owns (OutputKind.metadata copy)) :
    Stage key r todo (t ++ [⟨.get k ns name, .ok copy⟩]) where
  shows := h.shows.append _
  only r' hs := h.only r' hs.of_get
  sound := by
    refine h.sound.append ?_
    rintro k' ⟨rfl, r', hshows, hnot⟩
    exact hnot (h.only r' hshows ▸ howns)
  turn := by
    obtain ⟨past, hdeclared, hcount⟩ := h.turn
    exact ⟨past ++ [(k, output)], by simp [hdeclared], by simp [List.countP_append, isGet, hcount]⟩
  spared d hd := (h.spared d (List.mem_cons_of_mem _ hd)).append trivial

theorem Stage.unfailed (h : Stage key r todo t) (hm : ¬ Misconfigured r k) : ¬ Failed t key k := by
  rintro (⟨r', hshows, hm'⟩ | ⟨before, e, after, ht, hfails⟩)
  · exact hm (h.only r' hshows ▸ hm')
  · exact h.sound before e after ht k hfails

/-! ## Steps of the pass -/

/-- What a step over one output leaves, unless the pass has failed. -/
def Passed (key : String) (r : Resource) (todo : List (OutputKind × String))
    (res : Except PassError Unit) (t : Transcript) : Prop :=
  res = .ok () → Stage key r todo t

/-- The content is made of what the vault holds, before the output is read. -/
theorem careful_follow {g : Handler} (h : Stage key r ((k, output) :: todo) t)
    (hsel : Handler.select r = .ok g) :
    (Drift.follow r (g.recipe r k)).Guarded (Careful key) (fun res t' =>
      ∀ wanted, res = .ok wanted → Stage key r ((k, output) :: todo) t' ∧ ¬ Misconfigured r k)
      t := by
  have hfail : ∀ (e : ProjectionError) (t' : Transcript),
      (Drift.failProjection r e : Pass k.Payload).Guarded (Careful key) (fun res t' =>
        ∀ wanted, res = .ok wanted → Stage key r ((k, output) :: todo) t' ∧ ¬ Misconfigured r k)
        t' :=
    fun e t' => guarded_ask_bind trivial fun _ => guarded_throw fun _ hok => by cases hok
  generalize hrecipe : g.recipe r k = recipe
  have hmisconfigured : (∀ e, recipe ≠ .given (.error e)) → ¬ Misconfigured r k := by
    intro hne hm
    obtain ⟨e, he⟩ := hm g hsel
    exact hne e (hrecipe.symm.trans he)
  cases recipe with
  | given result =>
    cases result with
    | ok wanted => exact guarded_pure fun _ _ => ⟨h, hmisconfigured nofun⟩
    | error e => exact hfail e t
  | read kind finish =>
    refine guarded_ask_bind (fun r' k' hshows hturn => ?_) fun answer => ?_
    · obtain rfl := h.only r' hshows
      exact h.turn_eq hturn ▸ h.spared (k, output) List.mem_cons_self
    · cases answer with
      | error e => exact hfail _ _
      | ok raw =>
        dsimp only
        split
        · next wanted hwanted =>
          refine guarded_pure fun _ _ => ⟨h.append rfl ?_ fun _ _ => trivial, hmisconfigured nofun⟩
          -- The answer was of use to the output whose turn it is.
          rintro k' ⟨r', g', e, hshows, hturn, hsel', he⟩
          obtain rfl := h.only r' hshows
          obtain rfl := h.turn_eq hturn
          obtain rfl : g = g' := by simpa [hsel] using hsel'
          rw [hrecipe] at he
          simp [Recipe.result, hwanted] at he
        · exact hfail _ _

/-- Only an object of the resource passes the check of its owner. -/
theorem careful_ensureOwned {owner : Kube.OwnerReference} (howner : r.ownerReference? = some owner)
    (m : Kube.ObjectMeta) (action : String) :
    (ensureOwned r owner k m action).Guarded (Careful key) (fun res t' =>
      res = .ok () → t' = t ∧ r.Owns m) t := by
  unfold ensureOwned
  by_cases hc : m.isControlledBy owner = true
  · simp only [hc, if_true]
    exact guarded_pure fun _ => ⟨rfl, (Resource.owns_iff howner m).2 hc⟩
  · simp only [hc]
    refine guarded_tell_bind trivial (guarded_tell_bind trivial ?_)
    exact guarded_ask_bind trivial fun _ => guarded_throw fun hok => by cases hok

/-- What is noted at the end was read or accepted before. -/
theorem careful_persist (h : Stage key r todo t) (hkey : Key.split? key = some (ns, name))
    (hdeclared : (k, output) ∈ r.declared) (hk : ∀ d ∈ todo, d.1 ≠ k) (hm : ¬ Misconfigured r k)
    (hbacked : Backed t ns r k output digest) :
    (persistStatus ns name (.record k output digest)).Guarded (Careful key)
      (fun _ t' => Stage key r todo t') t := by
  refine (guarded_persistStatus_of
    (fun t request (hinv : Stage key r todo t ∧ Backed t ns r k output digest) hsends => ?_)
    ⟨h, hbacked⟩).mono fun _ _ => And.left
  obtain ⟨h, hbacked⟩ := hinv
  cases request with
  | updateStatus w =>
    refine ⟨⟨ns, name, r, k, output, digest, ⟨hkey, h.shows, hdeclared, hsends⟩, hbacked,
      h.unfailed hm⟩, fun _ => ⟨h.append rfl (fun _ => id) fun d hd => ?_, hbacked.append _⟩⟩
    exact hsends.justRead (hk d hd)
  | getDeclaring | now | tell =>
    exact ⟨trivial, fun _ => ⟨(h.silent rfl).2 _, hbacked.append _⟩⟩
  | lookup | get | create | update | readVault | record | enqueue => exact hsends.elim

/-- The last step over one output. -/
theorem careful_note (h : Stage key r todo t) (hkey : Key.split? key = some (ns, name))
    (hdeclared : (k, output) ∈ r.declared) (hk : ∀ d ∈ todo, d.1 ≠ k) (hm : ¬ Misconfigured r k)
    (hbacked : Backed t ns r k output digest) {current : Bool} {m : Signal} {event : Event} :
    (do
      let _ ← persistStatus ns name (.record k output digest)
      if current then tell m else ask (.record event) : Pass Unit).Guarded (Careful key)
      (Passed key r todo) t := by
  refine Guarded.bind ((careful_persist h hkey hdeclared hk hm hbacked).mono ?_)
  rintro (e | outcome) t₁ h₁
  · exact fun hok => by cases hok
  · cases current with
    | true => exact ⟨trivial, fun _ _ => (h₁.silent rfl).2 _⟩
    | false => exact ⟨trivial, fun _ _ => (h₁.silent rfl).2 _⟩

theorem careful_sync {g : Handler} {owner : Kube.OwnerReference}
    (h : Stage key r ((k, output) :: todo) t) (hsel : Handler.select r = .ok g)
    (howner : r.ownerReference? = some owner) (hkey : Key.split? key = some (ns, name)) :
    (Drift.sync r key ns name owner g k output).Guarded (Careful key) (Passed key r todo) t := by
  obtain ⟨past, hall, -⟩ := h.turn
  have hdeclared : (k, output) ∈ r.declared := hall ▸ by simp
  have hk : ∀ d ∈ todo, d.1 ≠ k := by
    have hkinds := r.declared_kinds
    rw [hall, List.map_append, List.nodup_append] at hkinds
    rintro d hd rfl
    exact (List.nodup_cons.1 hkinds.2.1).1 (List.mem_map.2 ⟨d, hd, rfl⟩)
  unfold Drift.sync
  refine Guarded.bind ((careful_follow h hsel).mono ?_)
  rintro (e | wanted) t₁ hfollowed
  · exact fun hok => by cases hok
  · obtain ⟨h₁, hm⟩ := hfollowed wanted rfl
    have hspared := h₁.spared (k, output) List.mem_cons_self
    refine guarded_ask_bind hspared fun answer => ?_
    cases answer with
    | error e =>
      dsimp only
      split
      · exact guarded_throw fun hok => by cases hok
      · exact guarded_ask_bind trivial fun _ => guarded_throw fun hok => by cases hok
    | ok object =>
      refine Guarded.bind ((careful_ensureOwned howner _ _).mono ?_)
      rintro (e | ⟨⟩) t₂ hres
      · exact fun hok => by cases hok
      · obtain ⟨rfl, howns⟩ := hres rfl
        have h₂ : Stage key r todo (t₁ ++ [⟨.get k ns output, .ok object⟩]) := h₁.get howns
        have hgets : Gets (t₁ ++ [⟨.get k ns output, .ok object⟩]) k ns output object :=
          List.mem_append_right _ (List.mem_singleton.2 rfl)
        dsimp only
        split
        · exact h₂.tell_bind fun t₃ h₃ => guarded_pure fun _ => h₃
        · split
          · -- The content differs, so the object is written first.
            refine guarded_ask_bind (hspared.append trivial) fun updated => ?_
            cases updated with
            | error e => exact guarded_throw fun hok => by cases hok
            | ok stored =>
              have h₃ := h₂.append (e := ⟨.update k ns (OutputKind.replaceContent object wanted),
                .ok stored⟩) rfl (fun _ => id) fun _ _ => trivial
              have hbacked : Backed _ ns r k output (Digest.ofPayload wanted) :=
                ⟨OutputKind.replaceContent object wanted,
                  .inr ⟨object, wanted, stored, List.mem_append_left _ hgets, rfl,
                    List.mem_append_right _ (List.mem_singleton.2 rfl)⟩, by simpa using howns,
                  by simp⟩
              refine Guarded.bind (guarded_pure ?_)
              refine guarded_tell_bind trivial (guarded_tell_bind trivial ?_)
              exact careful_note ((((h₃.silent rfl).2 _).silent rfl).2 _) hkey hdeclared hk hm
                ((hbacked.append _).append _)
          · next hcurrent =>
            refine careful_note h₂ hkey hdeclared hk hm ⟨object, .inl hgets, howns, ?_⟩
            simpa using hcurrent

/-! ## Whole passes -/

theorem Stage.start (hkey : Key.split? key = some (ns, name)) :
    Stage key r r.declared [⟨.lookup ns name, some r⟩] where
  shows := ⟨ns, name, hkey, List.mem_singleton.2 rfl⟩
  only := by
    rintro r' ⟨ns', name', -, hm⟩
    cases List.mem_singleton.1 hm
    rfl
  sound := Transcript.always_nil.append fun _ => id
  turn := ⟨[], rfl, rfl⟩
  spared _ _ := Transcript.always_nil.append trivial

/-- Whatever is answered, a drift pass asks nothing that is not careful. -/
theorem careful_drift (key : String) :
    (drift key).Guarded (Careful key) (fun _ _ => True) [] := by
  rw [drift_eq]
  refine Guarded.bind (guarded_splitKey (fun parts hkey => ?_) fun e => trivial)
  obtain ⟨ns, name⟩ := parts
  refine guarded_ask_bind rfl fun found => ?_
  cases found with
  | none => exact ⟨trivial, fun _ => trivial⟩
  | some r =>
    dsimp only
    split
    · unfold Drift.over
      split
      · exact guarded_ask_bind trivial fun _ => guarded_throw trivial
      · next g hsel =>
        refine Guarded.bind (guarded_ownerOf (fun owner howner => ?_) fun e => trivial)
        refine guarded_forM (Stage key r) (fun d todo t h => ?_) (fun _ _ => trivial)
          (Stage.start hkey)
        refine (careful_sync h hsel howner hkey).mono ?_
        rintro (e | ⟨⟩) t' hres
        · trivial
        · exact hres rfl
    · exact guarded_pure trivial

/-! ## Outputs that failed -/

/-- Nothing is noted of an output that failed. -/
theorem Careful.spares (h : Careful key t req) (hf : t ≠ [] → Failed t key k) : Spares k t req := by
  cases req with
  | updateStatus w =>
    obtain ⟨ns, name, r, k', output, digest, hnotes, -, hnot⟩ := h
    obtain ⟨ns', name', -, hm⟩ := hnotes.shows
    refine hnotes.fresh.justRead fun hk => ?_
    obtain rfl : k = k' := hk
    exact hnot (hf (List.ne_nil_of_mem hm))
  | lookup | get | create | update | getDeclaring | readVault | record | enqueue | now | tell =>
    trivial

/-- When an output fails, nothing was noted of it. -/
theorem Careful.spared (h : Careful key t e.request) (hf : Fails key k t e) :
    Spared k (t ++ [e]) := by
  obtain ⟨req, answer⟩ := e
  cases req with
  | readVault =>
    obtain ⟨r, g, e, hshows, hturn, -⟩ := hf
    exact (h r k hshows hturn).append trivial
  | get k' =>
    cases answer with
    | error e =>
      obtain rfl : k' = k := hf
      exact Spared.append h trivial
    | ok copy =>
      obtain ⟨rfl, -⟩ := hf
      exact Spared.append h trivial
  | update k' =>
    cases answer with
    | error e =>
      obtain rfl : k' = k := hf
      exact Spared.append h trivial
    | ok stored => exact hf.elim
  | lookup | create | getDeclaring | updateStatus | record | enqueue | now | tell => exact hf.elim

/-- Where every question was careful, nothing was noted of an output that failed, wherever that
was found. -/
theorem spared_of_failed (hcareful : t.Always fun before e => Careful key before e.request)
    (hf : Failed t key k) : Spared k t := by
  rintro before e after rfl
  have hlaw := hcareful before e after rfl
  rcases hf with ⟨r, hshows, hm⟩ | ⟨before', e', after', ht, hfails⟩
  · exact hlaw.spares fun hne => .inl ⟨r,
      hshows.first (fun b ns name answer a hb => hcareful b _ a hb) hne, hm⟩
  · have hfailed : ∀ c, Failed (before' ++ [e'] ++ c) key k :=
      fun c => .inr ⟨before', e', c, by simp, hfails⟩
    rw [List.append_cons before' e' after'] at ht
    rcases List.append_eq_append_iff.1 ht with ⟨mid, hbefore, hmid⟩ | ⟨mid, rfl, -⟩
    · cases mid with
      | nil =>
        rw [List.append_nil] at hbefore
        have hnow := hfailed []
        rw [List.append_nil, hbefore] at hnow
        exact hlaw.spares fun _ => hnow
      | cons e'' mid =>
        obtain ⟨rfl, -⟩ := List.cons.inj hmid
        have hspared := (hcareful before' e' after' (by rw [ht]; simp)).spared hfails
        exact hspared before e mid hbefore
    · exact hlaw.spares fun _ => hfailed mid

end VaultProjection.Backing

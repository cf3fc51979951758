import VaultProjection.Proofs.Pass.Audit
import VaultProjection.Proofs.Projection.Pipeline

/-!
# Which reads a projection makes

What is wrong with a resource is found before the vault is read: the kind of object and the steps
when the handler is selected, a missing data key and a foreign format of a document when its recipe
is made. What is left reads the vault once, and what is wrong then lies in the answer.

Results:
1. `select_ok_iff`: for which resources a handler is found.
2. `recipe_prompt`: no handler finds out by a read what it could have known without it.
3. `reads_when_sound`: every projection that goes wrong without the vault reads nothing, every other
   one reads once, the object that the resource names as the kind that it says.
-/

namespace VaultProjection

/-! ## Errors that need no read -/

/-- What is missing in the resource for its kind of object. -/
def ProjectionError.isForeseen : ProjectionError → Bool
  | .missingDataKey .. | .documentFormat _ => true
  | _ => false

/-- The result is none of these errors. -/
def Late {α : Type} (result : Except ProjectionError α) : Prop :=
  ∀ e, result = .error e → e.isForeseen = false

section

variable {α β : Type} {x : Except ProjectionError α}

theorem late_ok (a : α) : Late (.ok a : Except ProjectionError α) := by
  rintro e ⟨⟩

theorem late_error {e : ProjectionError} (he : e.isForeseen = false) :
    Late (.error e : Except ProjectionError α) := by
  rintro e' ⟨⟩
  exact he

theorem Late.bind {f : α → Except ProjectionError β} (hx : Late x) (hf : ∀ a, Late (f a)) :
    Late (x >>= f) := by
  cases x with
  | error e => exact late_error (hx e rfl)
  | ok a => exact hf a

theorem Late.map {f : α → β} (hx : Late x) : Late (x.map f) := by
  cases x with
  | error e => exact late_error (hx e rfl)
  | ok a => exact late_ok (f a)

theorem late_mapError {ε : Type} {x : Except ε α} {f : ε → ProjectionError}
    (hf : ∀ e, (f e).isForeseen = false) : Late (x.mapError f) := by
  cases x with
  | error e => exact late_error (hf e)
  | ok a => exact late_ok a

end

/-! Each step that is made of the object that was read. -/

theorem late_asText (object : String) (value : Bytes) : Late (asText object value) := by
  unfold asText
  split
  · exact late_ok _
  · exact late_error rfl

theorem late_tlsData (withoutKey text : String) : Late (tlsData withoutKey text) := by
  refine Late.bind (late_mapError fun _ => rfl) fun bundle => ?_
  cases bundle.privateKey with
  | none => exact late_error rfl
  | some key => exact late_ok _

theorem late_transformed (p : Pipeline) (raw : Vault.RawObject) :
    Late (Handler.transformed p raw) := late_mapError fun _ => rfl

theorem late_bundleText (raw : Vault.RawObject) : Late (Handler.bundleText raw) := by
  unfold Handler.bundleText
  split
  · split
    · exact late_error rfl
    · exact late_ok _
  · exact late_ok _

/-! ## Recipes -/

namespace Recipe

variable {α : Type} {kind : Vault.ObjectKind}

/-- The recipe ends at once with an error that needs no read, or reads an object of the kind and
then ends with no such error. -/
def Prompt (kind : Vault.ObjectKind) : Recipe α → Prop
  | .given result => ∃ e, result = .error e ∧ e.isForeseen = true
  | .read k finish => k = kind ∧ ∀ raw, Late (finish raw)

theorem prompt_underKey (output : OutputKind) (key : Option String)
    {finish : Vault.RawObject → Except ProjectionError α} (hf : ∀ raw, Late (finish raw)) :
    (underKey output kind key finish).Prompt kind := by
  cases key with
  | none => exact ⟨_, rfl, rfl⟩
  | some key => exact ⟨rfl, fun raw => (hf raw).map⟩

end Recipe

namespace Handler

/-- The kind of objects that the handler reads. -/
def kind : Handler → Vault.ObjectKind
  | .secret _ => .secret
  | .certificate => .certificate
  | .key => .key
  | .multiKey => .multiKeySecret

theorem prompt_documentRecipe {α : Type} (r : Resource) (value : String → α) :
    (documentRecipe r value).Prompt .multiKeySecret := by
  unfold documentRecipe
  split
  · exact ⟨_, rfl, rfl⟩
  · next format _ =>
    refine ⟨rfl, fun raw => ?_⟩
    dsimp only
    split
    · exact late_ok _
    · exact late_error rfl

theorem prompt_secretData (h : Handler) (r : Resource) : (h.secretData r).Prompt h.kind := by
  cases h with
  | secret p =>
    simp only [secretData]
    split
    · exact ⟨rfl, fun raw => (late_transformed p raw).bind fun v =>
        (late_asText _ v).bind fun text => late_tlsData _ text⟩
    · split
      · exact ⟨rfl, fun raw => (late_transformed p raw).map⟩
      · exact Recipe.prompt_underKey _ _ (late_transformed p)
  | certificate =>
    simp only [secretData]
    split
    · exact ⟨rfl, fun raw => (late_bundleText raw).bind fun text => late_tlsData _ text⟩
    · exact Recipe.prompt_underKey _ _ fun raw => (late_bundleText raw).map
  | key => exact Recipe.prompt_underKey _ _ fun raw => late_ok _
  | multiKey => exact prompt_documentRecipe r Bytes.ofText

theorem prompt_configMapData (h : Handler) (r : Resource) : (h.configMapData r).Prompt h.kind := by
  cases h with
  | secret p => exact Recipe.prompt_underKey _ _ fun raw =>
      (late_transformed p raw).bind fun v => late_asText _ v
  | certificate =>
    refine Recipe.prompt_underKey _ _ fun raw => (late_bundleText raw).bind fun text => ?_
    exact Late.bind (late_mapError fun _ => rfl) fun bundle => late_ok _
  | key => exact Recipe.prompt_underKey _ _ fun raw => late_ok _
  | multiKey => exact prompt_documentRecipe r id

theorem recipe_prompt (h : Handler) (r : Resource) (k : OutputKind) :
    (h.recipe r k).Prompt h.kind := by
  cases k with
  | secret => exact prompt_secretData h r
  | configMap => exact prompt_configMapData h r

end Handler

/-! ## Selecting a handler -/

theorem Vault.ObjectKind.ofName?_eq_some {s : String} {kind : ObjectKind} :
    ofName? s = some kind ↔ kind.name = Text.lowered (Text.trimmed s) := by
  constructor
  · intro h
    simpa using List.find?_some h
  · intro h
    cases kind <;> simp [ofName?, all, ← h, name]

theorem Transform.ofName?_eq_some {s : String} {t : Transform} :
    ofName? s = some t ↔ t.name = Text.lowered (Text.trimmed s) := by
  constructor
  · intro h
    simpa using List.find?_some h
  · intro h
    cases t <;> simp [ofName?, all, ← h, name]

namespace Handler

variable {r : Resource} {h : Handler}

/-- The handler that is selected is the one for the kind of object. -/
theorem kind_of_select (hs : select r = .ok h) :
    Vault.ObjectKind.ofName? r.spec.vault.object.type = some h.kind := by
  unfold select at hs
  split at hs
  · cases hs
  · next hkind =>
    split at hs
    · cases hs
      exact hkind
    · cases hs
  all_goals
    next hkind =>
      cases hs
      exact hkind

/-- A handler is found if the kind is known and, for a plain secret, every step is. -/
theorem select_ok_iff : (∃ h, select r = .ok h) ↔
    ∃ kind : Vault.ObjectKind, kind.name = Text.lowered (Text.trimmed r.spec.vault.object.type) ∧
      (kind = .secret → ∀ s ∈ r.spec.output.transform,
        ∃ t : Transform, t.name = Text.lowered (Text.trimmed s)) := by
  simp only [← Vault.ObjectKind.ofName?_eq_some, ← Transform.ofName?_eq_some,
    ← Pipeline.ofNames_ok_iff]
  unfold select
  cases Vault.ObjectKind.ofName? r.spec.vault.object.type with
  | none => simp
  | some kind =>
    cases kind with
    | secret => cases Pipeline.ofNames r.spec.output.transform <;> simp
    | certificate | key | multiKeySecret => simp

end Handler

/-! ## Reads of a run -/

/-- The reads of the vault in a transcript, the first one first. -/
def Transcript.reads (t : Transcript) : List (VaultRef × Vault.ObjectKind) :=
  t.filterMap fun e => match e.request with
    | .readVault v kind => some (v, kind)
    | _ => none

namespace Pass

variable {α : Type} {r : Resource} {kind : Vault.ObjectKind}

/-- Without a read the projection failed for what is missing in the resource; with one it read the
object that the resource names, and did not fail for that. -/
def Projected (r : Resource) (kind : Vault.ObjectKind) (result : Except PassError α)
    (t : Transcript) : Prop :=
  (t.reads = [] ∧ ∃ e, result = .error (.projection e) ∧ e.isForeseen = true) ∨
    (t.reads = [(r.spec.vault, kind)] ∧
      ∀ e, result = .error (.projection e) → e.isForeseen = false)

theorem guarded_failProjection {e : ProjectionError} {t : Transcript}
    {post : Except PassError α → Transcript → Prop}
    (hpost : ∀ event, post (.error (.projection e)) (t ++ [⟨.record event, ()⟩])) :
    (Drift.failProjection r e : Pass α).Guarded (fun _ _ => True) post t :=
  guarded_ask_bind trivial fun () => guarded_throw (hpost _)

theorem projected_follow {recipe : Recipe α} (h : recipe.Prompt kind) :
    (Drift.follow r recipe).Guarded (fun _ _ => True) (Projected r kind) [] := by
  cases recipe with
  | given result =>
    obtain ⟨e, rfl, he⟩ := h
    exact guarded_failProjection fun _ => .inl ⟨rfl, e, rfl, he⟩
  | read k finish =>
    obtain ⟨rfl, hlate⟩ := h
    refine guarded_ask_bind trivial fun answer => ?_
    cases answer with
    | error e =>
      refine guarded_failProjection fun _ => .inr ⟨rfl, ?_⟩
      rintro e' ⟨⟩
      rfl
    | ok raw =>
      dsimp only
      cases hfinish : finish raw with
      | ok a => exact guarded_pure (.inr ⟨rfl, by rintro e ⟨⟩⟩)
      | error e =>
        refine guarded_failProjection fun _ => .inr ⟨rfl, ?_⟩
        rintro e' ⟨⟩
        exact hlate raw e hfinish

/-- A failed projection ends the pass, and reads nothing. -/
theorem unread_failProjection (e : ProjectionError) :
    (Drift.failProjection r e : Pass α).Guarded (fun _ _ => True)
      (fun result t => t.reads = [] ∧ result = .error (.projection e)) [] :=
  guarded_failProjection fun _ => ⟨rfl, rfl⟩

theorem over_unselected {e : ProjectionError} (he : Handler.select r = .error e)
    (key ns name : String) : Drift.over r key ns name = Drift.failProjection r e := by
  simp only [Drift.over, he]

/-- What a pass guarantees holds of its result and of its transcript. -/
theorem Guarded.exec {σ : Type} {p : Pass α} {ok : Transcript → Request → Prop}
    {post : Except PassError α → Transcript → Prop} (hp : p.Guarded ok post [])
    (serve : (q : Request) → σ → q.Answer × σ) (s : σ) :
    post (exec serve p s).1 (p.run.transcript serve s) := Program.Guarded.run hp serve s

/-! ## Main result -/

/-- A handler is found, without the vault, exactly if the kind of object is known and, for a plain
secret, every step is; a pass over a resource for which none is found reads nothing. Whatever the
vault and all others answer, the data of an output is made with at most one read, that of the object
that the resource names, as the kind that it says. It is made without one exactly if it fails for a
missing data key or for the content type of a document. -/
theorem reads_when_sound (r : Resource) :
    ((∃ h, Handler.select r = .ok h) ↔ ∃ kind : Vault.ObjectKind,
      kind.name = Text.lowered (Text.trimmed r.spec.vault.object.type) ∧
        (kind = .secret → ∀ s ∈ r.spec.output.transform,
          ∃ t : Transform, t.name = Text.lowered (Text.trimmed s))) ∧
    (∀ e, Handler.select r = .error e → ∀ (key ns name : String) {σ : Type}
      (serve : (q : Request) → σ → q.Answer × σ) (s : σ),
        ((Drift.over r key ns name).run.transcript serve s).reads = [] ∧
        (exec serve (Drift.over r key ns name) s).1 = .error (.projection e)) ∧
    ∀ h, Handler.select r = .ok h →
      Vault.ObjectKind.ofName? r.spec.vault.object.type = some h.kind ∧
      ∀ (k : OutputKind) {σ : Type} (serve : (q : Request) → σ → q.Answer × σ) (s : σ),
        Projected r h.kind (exec serve (Drift.follow r (h.recipe r k)) s).1
          ((Drift.follow r (h.recipe r k)).run.transcript serve s) := by
  refine ⟨Handler.select_ok_iff, fun e he key ns name σ serve s => ?_, fun h hs => ?_⟩
  · rw [over_unselected he]
    exact Guarded.exec (unread_failProjection e) serve s
  · refine ⟨Handler.kind_of_select hs, fun k σ serve s => ?_⟩
    exact Guarded.exec (projected_follow (Handler.recipe_prompt h r k)) serve s

/-- The Secret of a plain secret reads it; a ConfigMap cannot be made without a data key; a chest is
nothing that a vault keeps. -/
theorem reads_when_sound_login :
    let serve := sampleServe sampleSecret (.ok Watch.app)
    let chest := { Watch.app with spec.vault.object.type := "chest" }
    let login := Drift.follow Watch.app ((Handler.secret []).secretData Watch.app)
    let config := Drift.follow Watch.app ((Handler.secret []).configMapData Watch.app)
    Handler.select Watch.app = .ok (.secret []) ∧
      Handler.select chest = .error (.unknownObjectKind "chest") ∧
      Projected Watch.app .secret (exec serve login ()).1 (login.run.transcript serve ()) ∧
      (login.run.transcript serve ()).reads = [(Watch.app.spec.vault, .secret)] ∧
      Projected Watch.app .secret (exec serve config ()).1 (config.run.transcript serve ()) ∧
      (config.run.transcript serve ()).reads = [] ∧
      ((Drift.over chest "prod/app" "prod" "app").run.transcript serve ()).reads = [] := by
  intro serve chest login config
  have hsecret : Vault.ObjectKind.ofName? Watch.app.spec.vault.object.type = some .secret := by
    decide +kernel
  have hunknown : Vault.ObjectKind.ofName? chest.spec.vault.object.type = none := by decide +kernel
  have hlogin : Handler.select Watch.app = .ok (.secret []) := by
    rw [Handler.select, hsecret]
    rfl
  have hchest : Handler.select chest = .error (.unknownObjectKind "chest") := by
    rw [Handler.select, hunknown]
  have hreads : (login.run.transcript serve ()).reads = [(Watch.app.spec.vault, .secret)] := by
    decide +kernel
  have hnone : (config.run.transcript serve ()).reads = [] := by decide +kernel
  have hprojected := ((reads_when_sound Watch.app).2.2 _ hlogin).2
  have hunread := (reads_when_sound chest).2.1 _ hchest "prod/app" "prod" "app" serve ()
  exact ⟨hlogin, hchest, hprojected .secret serve (), hreads, hprojected .configMap serve (), hnone,
    hunread.1⟩

end Pass

end VaultProjection

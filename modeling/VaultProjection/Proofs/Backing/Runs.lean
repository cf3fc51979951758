import VaultProjection.Proofs.Backing.Law
import VaultProjection.Proofs.Pass.Pool
import Mathlib.Logic.Relation

/-!
# A status never runs ahead of its output

Passes of both queues side by side, over an API server that others write to as well. A read is
answered with what is stored, or fails. A write that is accepted stores what it was given, completed
as the API server likes (`Keeps`), and one that fails may have been carried out all the same.
Between any two steps others may change, delete or create any objects.

Results:
1. `Inv.step`: what a pass was answered about an output, the API server held since the pass started.
2. `status_backed`: when a drift pass notes an output, the API server held it in this pass, owned by
   the resource and with this content; of an output that failed nothing is noted.
-/

namespace VaultProjection.Backing

open Convergence (Keeps Objects)
open Pass

/-! ## Steps -/

/-- Every object is stored under its name. -/
def Named (objects : Objects) : Prop :=
  ∀ k ns name o, objects k ns name = some o → (OutputKind.metadata o).name = some name

/-- The object was stored, completed in what an API server does not keep as it is given. -/
def Writes (objects : Objects) {k : OutputKind} (ns : String) (given stored : k.Object)
    (objects' : Objects) : Prop :=
  Keeps given stored ∧ ∃ name, (OutputKind.metadata given).name = some name ∧
    objects' = objects.put k ns name stored

/-- An answer that the API server may give, and what is stored then. A write that fails may have
been carried out. -/
def Serves (objects : Objects) : (r : Request) → r.Answer → Objects → Prop
  | .get k ns name, .ok o, objects' => objects k ns name = some o ∧ objects' = objects
  | .create _ ns o, .ok stored, objects' | .update _ ns o, .ok stored, objects' =>
    Writes objects ns o stored objects'
  | .create _ ns o, .error _, objects' | .update _ ns o, .error _, objects' =>
    objects' = objects ∨ ∃ stored, Writes objects ns o stored objects'
  | _, _, objects' => objects' = objects

/-- What is stored of the outputs, and the passes that were started. -/
structure State where
  objects : Objects
  pool : Pool

/-- A pass begins. -/
def State.start (s : State) (n : Nat) (id : QueueId) (key : String) : State :=
  { s with pool := s.pool.set n ⟨id, key, [], (Pass.ofQueue id key).run⟩ }

/-- A pass begins or gets an answer, or others write. -/
inductive Step : State → State → Prop where
  | start {s : State} {n : Nat} (free : s.pool n = none) (id : QueueId) (key : String) :
      Step s (s.start n id key)
  | ask {s : State} {n : Nat} {id : QueueId} {key : String} {past : Transcript} {r : Request}
      {next : r.Answer → Program (Except PassError Unit)}
      (asks : s.pool n = some ⟨id, key, past, .ask r next⟩) (answer : r.Answer) {objects' : Objects}
      (serves : Serves s.objects r answer objects') :
      Step s ⟨objects', s.pool.set n ⟨id, key, past ++ [⟨r, answer⟩], next answer⟩⟩
  | others {s : State} {objects' : Objects} (named : Named objects') : Step s ⟨objects', s.pool⟩

abbrev Run : State → State → Prop := Relation.ReflTransGen Step

/-- Between the two states there was one in which the API server held the object. -/
def Held (s₁ s : State) (k : OutputKind) (ns name : String) (o : k.Object) : Prop :=
  ∃ s', Run s₁ s' ∧ Run s' s ∧ s'.objects k ns name = some o

/-- The object is a copy that the pass read, or what an update of the pass was answered. -/
def Answered (t : Transcript) (k : OutputKind) (ns name : String) (o : k.Object) : Prop :=
  Gets t k ns name o ∨ ∃ given, (⟨.update k ns given, .ok o⟩ : Exchange) ∈ t

variable {s₀ s₁ s s' : State} {n : Nat} {key ns name : String} {r w : Resource} {k : OutputKind}
  {t : Transcript} {objects objects' : Objects}

/-! ## What is stored -/

theorem put_same (objects : Objects) (k : OutputKind) (ns name : String) (o : k.Object) :
    objects.put k ns name o k ns name = some o := by
  simp [Objects.put]

theorem Named.put (h : Named objects) {o : k.Object}
    (ho : (OutputKind.metadata o).name = some name) : Named (objects.put k ns name o) := by
  intro k' ns' name' o' ho'
  unfold Objects.put at ho'
  split at ho'
  · next hsame =>
    obtain ⟨rfl, rfl, rfl⟩ := hsame
    cases ho'
    exact ho
  · exact h k' ns' name' o' ho'

theorem Writes.named {given stored : k.Object} (h : Writes objects ns given stored objects')
    (hnamed : Named objects) : Named objects' := by
  obtain ⟨hkeeps, name, hname, rfl⟩ := h
  exact hnamed.put (hkeeps.name.trans hname)

theorem Serves.named {req : Request} {answer : req.Answer}
    (h : Serves objects req answer objects') (hnamed : Named objects) : Named objects' := by
  cases req with
  | get k ns name =>
    cases answer with
    | ok o => exact h.2 ▸ hnamed
    | error e => exact Eq.symm h ▸ hnamed
  | create k ns o | update k ns o =>
    cases answer with
    | ok stored => exact Writes.named h hnamed
    | error e =>
      rcases h with rfl | ⟨stored, h⟩
      · exact hnamed
      · exact h.named hnamed
  | lookup | getDeclaring | updateStatus | readVault | record | enqueue | now | tell =>
    exact Eq.symm h ▸ hnamed

/-! ## What a pass was answered -/

/-- What a pass was answered about outputs was true at some point since `s₁`. -/
structure Seen (s₁ s : State) (t : Transcript) : Prop where
  read : ∀ {k ns name o}, Gets t k ns name o →
    (OutputKind.metadata o).name = some name ∧ Held s₁ s k ns name o
  wrote : ∀ {k ns given o}, (⟨.update k ns given, .ok o⟩ : Exchange) ∈ t →
    Keeps given o ∧ ∃ name, (OutputKind.metadata given).name = some name ∧ Held s₁ s k ns name o

theorem Held.step {o : k.Object} (h : Held s₁ s k ns name o) (hstep : Step s s') :
    Held s₁ s' k ns name o := by
  obtain ⟨s₂, hbefore, hafter, ho⟩ := h
  exact ⟨s₂, hbefore, hafter.tail hstep, ho⟩

theorem Seen.step (h : Seen s₁ s t) (hstep : Step s s') : Seen s₁ s' t where
  read hgets := ⟨(h.read hgets).1, (h.read hgets).2.step hstep⟩
  wrote hm := by
    obtain ⟨hkeeps, name, hname, hheld⟩ := h.wrote hm
    exact ⟨hkeeps, name, hname, hheld.step hstep⟩

theorem Seen.ask (h : Seen s₁ s t) (hrun : Run s₁ s) (hnamed : Named s.objects)
    (hstep : Step s s') {req : Request} {answer : req.Answer}
    (hserves : Serves s.objects req answer s'.objects) : Seen s₁ s' (t ++ [⟨req, answer⟩]) where
  read {k ns name o} hgets := by
    rcases List.mem_append.1 hgets with hm | hm
    · exact (h.step hstep).read hm
    · cases List.mem_singleton.1 hm
      exact ⟨hnamed k ns name o hserves.1, s, hrun, .single hstep, hserves.1⟩
  wrote {k ns given o} hm := by
    rcases List.mem_append.1 hm with hm | hm
    · exact (h.step hstep).wrote hm
    · cases List.mem_singleton.1 hm
      obtain ⟨hkeeps, name, hname, hobjects⟩ := hserves
      refine ⟨hkeeps, name, hname, s', hrun.tail hstep, .refl, ?_⟩
      rw [hobjects, put_same]

/-- What the law of the pass calls stored was held by the API server, but for what it does not keep
as it is given. -/
theorem Seen.held (h : Seen s₁ s t) {o : k.Object} (hstored : Stored t k ns name o) :
    ∃ o', Keeps o o' ∧ Answered t k ns name o' ∧ Held s₁ s k ns name o' := by
  rcases hstored with hgets | ⟨copy, data, stored, hgets, rfl, hm⟩
  · exact ⟨o, ⟨rfl, rfl, rfl⟩, .inl hgets, (h.read hgets).2⟩
  · obtain ⟨hkeeps, name', hname', hheld⟩ := h.wrote hm
    obtain rfl : name = name' := by simpa [(h.read hgets).1] using hname'
    exact ⟨stored, hkeeps, .inr ⟨_, hm⟩, hheld⟩

/-! ## Runs -/

/-- The pass is under way with the answers that it got, and these were true. -/
structure Inv (s₁ s : State) (n : Nat) (key : String) : Prop where
  named : Named s.objects
  flight : ∃ past rest, s.pool n = some ⟨.drift, key, past, rest⟩ ∧
    (drift key).run.Reach past rest ∧ Seen s₁ s past

theorem Inv.start (hnamed : Named s₀.objects) :
    Inv (s₀.start n .drift key) (s₀.start n .drift key) n key where
  named := hnamed
  flight := ⟨[], _, s₀.pool.set_same n _, .refl, ⟨nofun, nofun⟩⟩

theorem Inv.step (h : Inv s₁ s n key) (hrun : Run s₁ s) (hstep : Step s s') :
    Inv s₁ s' n key := by
  obtain ⟨past, rest, hn, hreach, hseen⟩ := h.flight
  have hkept : s'.pool n = s.pool n → Named s'.objects → Inv s₁ s' n key := fun hsame hnamed =>
    ⟨hnamed, past, rest, hsame.trans hn, hreach, hseen.step hstep⟩
  cases hstep with
  | @start m free id key' =>
    refine hkept (Pool.set_other _ ?_ _) h.named
    rintro rfl
    rw [hn] at free
    cases free
  | others named => exact hkept rfl named
  | @ask m id key' past' req next asks answer objects' serves =>
    by_cases hm : n = m
    · subst hm
      rw [hn] at asks
      cases asks
      exact ⟨serves.named h.named, _, _, Pool.set_same .., hreach.step answer,
        hseen.ask hrun h.named (.ask hn answer serves) serves⟩
    · exact hkept (Pool.set_other _ hm _) (serves.named h.named)

theorem Run.inv (hnamed : Named s₀.objects) (hrun : Run (s₀.start n .drift key) s) :
    Inv (s₀.start n .drift key) s n key := by
  induction hrun with
  | refl => exact .start hnamed
  | tail before hstep ih => exact ih.step before hstep

/-! ## What is noted -/

/-- Who owns an object is told by its references alone. -/
theorem Owns.of_keeps {o o' : k.Object} (hkeeps : Keeps o o')
    (h : r.Owns (OutputKind.metadata o)) : r.Owns (OutputKind.metadata o') := by
  unfold Resource.Owns
  rwa [hkeeps.owners]

/-- Two copies of a resource own the same. -/
theorem Owns.of_same {m : Kube.ObjectMeta} (hname : w.metadata.name = r.metadata.name)
    (huid : w.metadata.uid = r.metadata.uid) (h : r.Owns m) : w.Owns m := by
  unfold Resource.Owns
  rwa [hname, huid]

/-- Whatever passes run, whatever fails and whatever others write: when a drift pass notes the name
and digest of an output, the API server held such an object since the pass began, as the copy that
the pass read or as what its update was answered, and the resource that the pass found owns it. So
does the resource that gets the note, unless it was made anew under the same name meanwhile. And
nothing is noted of an output that failed in this pass, neither before nor after. -/
theorem status_backed {f : Flight} (hnamed : Named s₀.objects)
    (hrun : Run (s₀.start n .drift key) s) (hf : s.pool n = some f) :
    (∀ w next, f.rest = .ask (.updateStatus w) next →
      ∃ ns name r k output digest o, Notes f.past key ns name w r k output digest ∧
        Answered f.past k ns output o ∧ Held (s₀.start n .drift key) s k ns output o ∧
        r.Owns (OutputKind.metadata o) ∧
        (w.metadata.name = r.metadata.name → w.metadata.uid = r.metadata.uid →
          w.Owns (OutputKind.metadata o)) ∧
        Digest.ofPayload (OutputKind.content o) = digest) ∧
    ∀ k, Failed f.past key k → Spared k f.past ∧
      ∀ req next, f.rest = .ask req next → Spares k f.past req := by
  obtain ⟨-, past, rest, hn, hreach, hseen⟩ := Run.inv hnamed hrun
  obtain rfl : f = ⟨.drift, key, past, rest⟩ := Option.some.inj (hf.symm.trans hn)
  have hguard := careful_drift key
  have hcareful : ∀ req next, rest = .ask req next → Careful key past req := by
    rintro req next rfl
    exact (Program.Guarded.reach hguard hreach).1
  refine ⟨fun w next hnext => ?_, fun k hfailed => ⟨?_, fun req next hnext => ?_⟩⟩
  · obtain ⟨ns, name, r, k, output, digest, hnotes, ⟨o, hstored, howns, hdigest⟩, -⟩ :=
      hcareful _ next hnext
    obtain ⟨o', hkeeps, hanswered, hheld⟩ := hseen.held hstored
    have howns' := Owns.of_keeps hkeeps howns
    exact ⟨ns, name, r, k, output, digest, o', hnotes, hanswered, hheld, howns',
      fun hname huid => Owns.of_same hname huid howns', by rw [hkeeps.content, hdigest]⟩
  · exact spared_of_failed (Program.Guarded.always hguard hreach) hfailed
  · exact (hcareful req next hnext).spares fun _ => hfailed

/-! ## An instance -/

section

variable {α : Type}

/-- What a program asks in some steps with these answers, and what is left of it then. -/
def advance (answers : (r : Request) → r.Answer) : Nat → Program α → Transcript × Program α
  | 0, p => ([], p)
  | _ + 1, .done result => ([], .done result)
  | m + 1, .ask r next =>
    let ahead := advance answers m (next (answers r))
    (⟨r, answers r⟩ :: ahead.1, ahead.2)

/-- Where the answers are true and nothing is written, a pass takes such steps. -/
theorem run_advance {answers : (r : Request) → r.Answer}
    (hserves : ∀ r, Serves objects r (answers r) objects) (pool : Pool) (n : Nat) (id : QueueId)
    (key : String) (m : Nat) (t : Transcript) (p : Program (Except PassError Unit)) :
    Run ⟨objects, pool.set n ⟨id, key, t, p⟩⟩
      ⟨objects, pool.set n ⟨id, key, t ++ (advance answers m p).1, (advance answers m p).2⟩⟩ := by
  induction m generalizing t p with
  | zero =>
    rw [advance, List.append_nil]
  | succ m ih =>
    cases p with
    | done result => rw [advance, List.append_nil]
    | ask r next =>
      have hstep := Step.ask (s := ⟨objects, pool.set n ⟨id, key, t, .ask r next⟩⟩)
        (pool.set_same n _) (answers r) (hserves r)
      rw [Pool.set_set] at hstep
      have hrest := ih (t ++ [⟨r, answers r⟩]) (next (answers r))
      rw [List.append_assoc] at hrest
      exact .head hstep hrest

/-- The program is about to note something of the Secret. -/
def isNoting (output : String) : Program α → Bool
  | .ask (.updateStatus w) _ => (w.status.bind (·.outputName .secret)) == some output
  | _ => false

theorem exists_of_isNoting {output : String} {p : Program α} (h : isNoting output p = true) :
    ∃ w next, p = .ask (.updateStatus w) next ∧
      w.status.bind (·.outputName .secret) = some output := by
  unfold isNoting at h
  split at h
  · next w next => exact ⟨w, next, rfl, by simpa using h⟩
  · cases h

end

/-- The Secret of the resource, with what the vault holds. -/
def filled : Kube.Secret :=
  ⟨{ Kube.ObjectMeta.empty with
      name := some "login", ns := some "prod", ownerReferences := some [Watch.appOwner] },
    some [("password", Bytes.ofText "hunter2")], none, none, some defaultSecretType⟩

/-- It is stored, and no pass is under way. -/
def filledState : State where
  objects k ns name :=
    match k with
    | .secret => if ns = "prod" ∧ name = "login" then some filled else none
    | .configMap => none
  pool _ := none

/-- Reads are answered with what is stored, and no output can be written. -/
def filledAnswers : (r : Request) → r.Answer
  | .lookup .. => some Watch.app
  | .get k ns name =>
    match filledState.objects k ns name with
    | some o => .ok o
    | none => .error (.notFound ⟨k.kind, ns, name⟩)
  | .create .. | .update .. => .error .connection
  | .getDeclaring .. => .ok Watch.app
  | .updateStatus r => .ok r
  | .readVault .. => .ok ⟨"hunter2", none⟩
  | .now => "2024-01-01T00:00:00Z"
  | .record _ | .enqueue .. | .tell _ => ()

theorem filledState_named : Named filledState.objects := by
  intro k ns name o ho
  cases k with
  | configMap => cases ho
  | secret =>
    obtain ⟨⟨-, rfl⟩, ho₁⟩ := Option.ite_none_right_eq_some.1 ho
    exact Option.some.inj ho₁ ▸ rfl

theorem filledAnswers_serve (r : Request) :
    Serves filledState.objects r (filledAnswers r) filledState.objects := by
  cases r with
  | get k ns name =>
    cases ho : filledState.objects k ns name with
    | some o => simp [filledAnswers, ho, Serves]
    | none => simp [filledAnswers, ho, Serves]
  | create | update => exact .inl rfl
  | lookup | getDeclaring | updateStatus | readVault | record | enqueue | now | tell => rfl

theorem misconfigured_app : Misconfigured Watch.app .configMap := by
  intro g hg
  cases hg
  exact ⟨_, rfl⟩

/-- The pass of the resource comes to note the Secret, which the API server holds, and leaves alone
what the status says of a ConfigMap. -/
theorem status_backed_login : ∃ s f w next,
    Run (filledState.start 0 .drift "prod/app") s ∧ s.pool 0 = some f ∧
    f.rest = .ask (.updateStatus w) next ∧
    w.status.bind (·.outputName .secret) = some "login" ∧
    (∃ ns name r k output digest o, Notes f.past "prod/app" ns name w r k output digest ∧
      Held (filledState.start 0 .drift "prod/app") s k ns output o ∧
      r.Owns (OutputKind.metadata o) ∧ Digest.ofPayload (OutputKind.content o) = digest) ∧
    Spares .configMap f.past (.updateStatus w) := by
  have hrun := run_advance filledAnswers_serve filledState.pool 0 .drift "prod/app" 5 []
    (drift "prod/app").run
  have hnoting : isNoting "login" (advance filledAnswers 5 (drift "prod/app").run).2 = true := by
    decide +kernel
  have hshows : Shows (advance filledAnswers 5 (drift "prod/app").run).1 "prod/app"
      Watch.app := by
    have hkey : Key.split? "prod/app" = some ("prod", "app") := by decide
    obtain ⟨next', hlook⟩ : ∃ next', (drift "prod/app").run = .ask (.lookup "prod" "app") next' :=
      ⟨_, by rw [drift_eq]; simp only [splitKey, hkey]; rfl⟩
    rw [hlook]
    exact ⟨"prod", "app", hkey, List.mem_cons_self⟩
  rw [List.nil_append] at hrun
  generalize advance filledAnswers 5 (drift "prod/app").run = ahead at hrun hnoting hshows
  obtain ⟨w, next, hrest, hw⟩ := exists_of_isNoting hnoting
  have hpass := filledState.pool.set_same 0 ⟨.drift, "prod/app", ahead.1, ahead.2⟩
  obtain ⟨hnotes, hfailed⟩ := status_backed filledState_named hrun hpass
  obtain ⟨ns, name, r, k, output, digest, o, hnote, -, hheld, howns, -, hdigest⟩ :=
    hnotes w next hrest
  refine ⟨_, _, w, next, hrun, hpass, hrest, hw,
    ⟨ns, name, r, k, output, digest, o, hnote, hheld, howns, hdigest⟩, ?_⟩
  exact (hfailed .configMap (.inl ⟨_, hshows, misconfigured_app⟩)).2 _ next hrest

end VaultProjection.Backing

import VaultProjection.Proofs.Pass.Ownership
import VaultProjection.Proofs.Watch.Shelf

/-!
# Passes side by side

Any number of passes over any keys, which take their steps in any order. What a pass is answered may
come from any cluster, with other writers, failures and the other passes in between, so every answer
is allowed at every step.

Results:
1. `Reached.flight`: every pass under way is one that its queue started, with the answers it got.
2. `ownership_safety`: whatever happens, only owned objects are written, and a pass that finds an
   object of somebody else leaves it alone, says so and fails.
-/

namespace VaultProjection

/-- A pass over a key: what it has asked, and what is still to come. -/
structure Flight where
  queue : QueueId
  key : String
  past : Transcript
  rest : Program (Except PassError Unit)

/-- The passes that were started, by number. -/
abbrev Pool := Nat → Option Flight

namespace Pool

def set (pool : Pool) (n : Nat) (f : Flight) : Pool := fun m => if m = n then some f else pool m

@[simp] theorem set_same (pool : Pool) (n : Nat) (f : Flight) : pool.set n f n = some f :=
  if_pos rfl

theorem set_other (pool : Pool) {n m : Nat} (h : m ≠ n) (f : Flight) : pool.set n f m = pool m :=
  if_neg h

@[simp] theorem set_set (pool : Pool) (n : Nat) (f g : Flight) :
    (pool.set n f).set n g = pool.set n g := by
  funext m
  unfold set
  split <;> rfl

/-- Any pass may start, and any pass that goes on may get any answer to its next question: what it
is answered may come from any cluster, with any other writers and failures in between. -/
inductive Reached : Pool → Prop where
  | empty : Reached fun _ => none
  | start {pool : Pool} (before : Reached pool) (n : Nat) (free : pool n = none) (id : QueueId)
      (key : String) : Reached (pool.set n ⟨id, key, [], (Pass.ofQueue id key).run⟩)
  | ask {pool : Pool} (before : Reached pool) {n : Nat} {id : QueueId} {key : String}
      {past : Transcript} {r : Request} {next : r.Answer → Program (Except PassError Unit)}
      (asks : pool n = some ⟨id, key, past, .ask r next⟩) (answer : r.Answer) :
      Reached (pool.set n ⟨id, key, past ++ [⟨r, answer⟩], next answer⟩)

variable {pool : Pool} {n : Nat} {f : Flight}

theorem Reached.flight (h : pool.Reached) (hf : pool n = some f) :
    (Pass.ofQueue f.queue f.key).run.Reach f.past f.rest := by
  induction h generalizing n f with
  | empty => cases hf
  | start before m free id key ih =>
    unfold set at hf
    split at hf
    · cases hf
      exact .refl
    · exact ih hf
  | ask before asks answer ih =>
    unfold set at hf
    split at hf
    · cases hf
      exact (ih asks).step answer
    · exact ih hf

open Pass in
/-- Whatever passes run in whatever order: what a pass writes is a copy that it read before, of an
object that its resource owns, with its metadata, its type and its flag as they were, other content,
and nothing else that it held. A pass that gets a copy of an object of somebody else does nothing
about its kind, neither to the object nor to the group of the status, and in any surroundings it
ends with the event and the error that say so. -/
theorem ownership_safety (h : pool.Reached) (hf : pool n = some f) :
    (∀ before k ns object answer after, f.past = before ++ ⟨.update k ns object, answer⟩ :: after →
      ∃ r name copy data, Shows before f.key r ∧ Gets before k ns name copy ∧
        r.Owns (OutputKind.metadata copy) ∧ object = OutputKind.replaceContent copy data ∧
        OutputKind.Refills copy data object) ∧
    ∀ r k copy, Foreign f.past f.key r k copy → Untouched k f.past ∧
      ∀ (σ : Type) (serve : (r : Request) → σ → r.Answer × σ) (s : σ),
        (f.rest.run serve s).1 = .error (.notOwned
          ⟨k.kind, (OutputKind.metadata copy).ns.getD "", (OutputKind.metadata copy).name.getD ""⟩
          (r.metadata.name.getD "")) ∧
        ∃ action, (⟨.record ⟨r.reference, .warning, Event.resourceExists, action,
          "Resource " ++ (OutputKind.metadata copy).name.getD "" ++
            " already exists and is not managed by AzureKeyVaultSecret"⟩, ()⟩ : Exchange) ∈
          f.past ++ f.rest.transcript serve s := by
  have hreach := h.flight hf
  have hguard := lawful_ofQueue f.queue f.key
  have hlaw : ∀ before e after, f.past = before ++ e :: after →
      Lawful f.key before e.request := fun before e after ht =>
    Program.Guarded.asked hguard hreach ht
  refine ⟨fun before k ns object answer after ht => ?_,
    fun r k copy hforeign => ⟨untouched_of_foreign hlaw hforeign, fun σ serve s => ?_⟩⟩
  · obtain ⟨-, r, name, copy, data, hshows, hgets, howns, hobject⟩ := hlaw before _ after ht
    exact ⟨r, name, copy, data, hshows, hgets, howns, hobject, OutputKind.refills_iff.2 hobject⟩
  · exact (Program.Guarded.reach hguard hreach).run serve s r k copy hforeign.append

/-! ## A pass that writes beside one that does not -/

/-- A Secret of the resource, with more in it than the resource asks for. -/
def mine : Kube.Secret :=
  ⟨{ Kube.ObjectMeta.empty with
      name := some "login", ns := some "prod", labels := some [("team", "web")]
      ownerReferences := some [Watch.appOwner] },
    some [("note", []), ("password", Bytes.ofText "hunter1")], some false,
    some [("user", "admin")], some "Opaque"⟩

def refilled : Kube.Secret :=
  { mine with data := some [("password", Bytes.ofText "hunter2")], stringData := none }

/-- The drift pass has written it again. -/
def refilledPast : Transcript :=
  [⟨.lookup "prod" "app", some Watch.app⟩,
    ⟨.readVault Watch.app.spec.vault .secret, .ok ⟨"hunter2", none⟩⟩,
    ⟨.get .secret "prod" "login", .ok mine⟩,
    ⟨.update .secret "prod" refilled, .ok refilled⟩]

/-- The drift pass can come to that point. -/
theorem reach_refilled : ∃ p, (Pass.drift "prod/app").run.Reach refilledPast p := by
  have hkey : Key.split? "prod/app" = some ("prod", "app") := by decide
  have hdiffers : (Digest.ofPayload (@OutputKind.content .secret mine) ==
      @Digest.ofPayload .secret [("password", Bytes.ofText "hunter2")]) = false := by
    decide +kernel
  obtain ⟨next, hread, next', hget, next'', hupdate⟩ :
      ∃ next, (Pass.Drift.after "prod/app" "prod" "app" (some Watch.app)).run =
          .ask (.readVault Watch.app.spec.vault .secret) next ∧
        ∃ next', next (.ok ⟨"hunter2", none⟩) = .ask (.get .secret "prod" "login") next' ∧
        ∃ next'', next' (.ok mine) = .ask (.update .secret "prod" refilled) next'' := by
    refine ⟨_, rfl, _, rfl, ?_⟩
    -- What is asked next depends on the digests, which are not computed here again.
    dsimp only [Program.bind, Function.comp, ExceptT.bindCont]
    simp only [hdiffers, Bool.and_false, Bool.false_eq_true, if_false]
    exact ⟨_, rfl⟩
  have hlook := (Program.Reach.refl (p := .ask (.lookup "prod" "app") fun found =>
    (Pass.Drift.after "prod/app" "prod" "app" found).run)).step (some Watch.app)
  rw [← Pass.drift_run hkey, hread] at hlook
  have hknows := hlook.step (.ok ⟨"hunter2", none⟩)
  rw [hget] at hknows
  have hgets := hknows.step (.ok mine)
  rw [hupdate] at hgets
  exact ⟨_, hgets.step (.ok refilled)⟩

/-- The Secret of a resource that had the same name before. -/
def taken : Kube.Secret :=
  ⟨{ Kube.ObjectMeta.empty with
      name := some "login", ns := some "prod"
      ownerReferences := some [{ Watch.appOwner with uid := "u0" }] },
    none, none, none, none⟩

/-- The structural pass of the resource has read that Secret. -/
def takenPast : Transcript :=
  [⟨.lookup "prod" "app", some Watch.app⟩, ⟨.get .secret "prod" "login", .ok taken⟩]

theorem foreign_taken : Pass.Foreign takenPast "prod/app" Watch.app .secret taken := by
  refine ⟨⟨"prod", "app", by decide, List.mem_cons_self⟩,
    ⟨"prod", "login", List.mem_cons_of_mem _ List.mem_cons_self⟩, ?_⟩
  rintro ⟨ref, hm, -, -, -, huid⟩
  obtain rfl := List.mem_singleton.1 hm
  exact absurd huid (by decide)

/-- The structural pass can come to that point. -/
theorem reach_taken : ∃ p, (Pass.structural "prod/app").run.Reach takenPast p := by
  have hkey : Key.split? "prod/app" = some ("prod", "app") := by decide
  obtain ⟨next, hget⟩ : ∃ next, (Pass.Structural.after "prod/app" "prod" (some Watch.app)).run =
      .ask (.get .secret "prod" "login") next := ⟨_, rfl⟩
  have hlook := (Program.Reach.refl (p := .ask (.lookup "prod" "app") fun found =>
    (Pass.Structural.after "prod/app" "prod" found).run)).step (some Watch.app)
  rw [← Pass.structural_run hkey, hget] at hlook
  exact ⟨_, hlook.step (.ok taken)⟩

/-- Every way that a pass can go is open to it beside those that are under way. -/
theorem Reached.of_reach {key : String} {t : Transcript} {p : Program (Except PassError Unit)}
    (h : pool.Reached) (free : pool n = none) (id : QueueId)
    (hreach : (Pass.ofQueue id key).run.Reach t p) :
    Reached (pool.set n ⟨id, key, t, p⟩) := by
  induction hreach with
  | refl => exact h.start n free id key
  | step before answer ih => simpa only [set_set] using ih.ask (set_same ..) answer

/-- One pass has written the Secret of the resource and kept its label, another one has found a
Secret of somebody else in its place. -/
theorem ownership_safety_taken :
    ∃ pool drift structural, Reached pool ∧ pool 0 = some drift ∧ pool 1 = some structural ∧
      (∃ before answer, drift.past = before ++ [⟨.update .secret "prod" refilled, answer⟩] ∧
        ∃ (r : Resource) (name : String) (copy : Kube.Secret) (data : Entries Bytes),
          Pass.Gets before .secret "prod" name copy ∧
          r.Owns copy.metadata ∧ @OutputKind.Refills .secret copy data refilled) ∧
      Pass.Untouched .secret structural.past ∧
      ∀ (σ : Type) (serve : (r : Request) → σ → r.Answer × σ) (s : σ),
        (structural.rest.run serve s).1 = .error (.notOwned ⟨.secret, "prod", "login"⟩ "app") := by
  obtain ⟨p, hrefilled⟩ := reach_refilled
  obtain ⟨p', htaken⟩ := reach_taken
  have hdrift := Reached.empty.of_reach (n := 0) rfl .drift hrefilled
  have hpool := hdrift.of_reach (n := 1) rfl .structural htaken
  obtain ⟨r, name, copy, data, -, hgets, howns, -, hrefills⟩ :=
    (ownership_safety hpool (n := 0) rfl).1 [_, _, _] .secret "prod" refilled (.ok refilled) [] rfl
  obtain ⟨huntouched, hend⟩ :=
    (ownership_safety hpool (n := 1) rfl).2 Watch.app .secret taken foreign_taken
  exact ⟨_, _, _, hpool, rfl, rfl, ⟨_, _, rfl, r, name, copy, data, hgets, howns, hrefills⟩,
    huntouched, fun σ serve s => (hend σ serve s).1⟩

end Pool

end VaultProjection

import VaultProjection.Proofs.Status.Attempts
import VaultProjection.Proofs.Status.Patch
import VaultProjection.Proofs.Watch.Shelf

/-!
# Writers of one status do not undo each other's changes

Any number of calls change the status of one resource, and others write the resource too, all of it
in any order. The server takes a status only over the version that it was read from, and gives what
it stores a version that it never gave before. It keeps the members of a status, also those that no
controller knows.

The state also records all writes that were accepted, the latest first, with what they found and
left.

Results:
1. `Inv.step`: what every step preserves; a copy that was read is what is stored if its version is.
2. `Run.written`: an attempt between whose steps nobody else writes makes its change.
3. `groups_kept`: an accepted write sets the members of its own group and no others, the stored
   status is what the latest writes of each member left, and a call wrote as often as its outcome
   says.
-/

namespace VaultProjection

open Cluster (ClusterError)

/-- What a patch of a status says. -/
theorem Cluster.get_statusPatch (version : String) (status : Option Status) :
    (((statusPatch version status).get "metadata").get "resourceVersion").str? = some version ∧
      (statusPatch version status).get "status" = .ofOption Status.toJson status := by
  constructor <;>
    simp [statusPatch, Json.get, Json.ofMembers, Entries.ofList, Entries.get?_insert, Json.str?]

/-- A patch of a status carries the version of the copy and its whole status. -/
theorem Cluster.updateStatus_body {r : Resource} {call : Cluster.Call Resource} {q : Web.Request}
    (hcall : Cluster.updateStatus r = .ok call) (hq : call.request = some q) :
    ∃ version, r.metadata.resourceVersion = some version ∧
      (((q.body.getD .null).get "metadata").get "resourceVersion").str? = some version ∧
      (q.body.getD .null).get "status" = .ofOption Status.toJson r.status := by
  obtain ⟨version, hversion, hbody⟩ := Cluster.updateStatus_patch hcall hq
  rw [hbody]
  exact ⟨version, hversion, Cluster.get_statusPatch version r.status⟩

/-- The copy of the resource that was read. -/
def Exchange.copy? : Exchange → Option Resource
  | ⟨.getDeclaring _ _, .ok fresh⟩ => some fresh
  | _ => none

namespace Groups

/-! ## The server -/

/-- A resource as the server keeps it. -/
structure Kept where
  version : String
  metadata : Kube.ObjectMeta
  spec : Spec
  /-- The members of the status, if there is one. -/
  status : Option (Entries Json)

namespace Kept

def statusJson (k : Kept) : Json := .ofOption .obj k.status

/-- The copy that a reader gets; a status may be one that readers do not understand. -/
def copy? (k : Kept) (ns name : String) : Option Resource :=
  let m := { k.metadata with ns := some ns, name := some name, resourceVersion := some k.version }
  match k.status with
  | none => some ⟨m, k.spec, none⟩
  | some ms => (Status.ofJson? (.obj ms)).map fun s => ⟨m, k.spec, some s⟩

/-- What is kept after a patch of the status, which must be made for the version that is kept. -/
def patched? (k : Kept) (body : Json) (version : String) : Option Kept :=
  if ((body.get "metadata").get "resourceVersion").str? = some k.version then
    some { k with version, status := (k.statusJson.merged (body.get "status")).obj? }
  else none

end Kept

/-- The stored status; `null` if there is none, or no resource. -/
def statusOf (kept : Option Kept) : Json := (kept.map (·.statusJson)).getD .null

/-! ## Writers -/

/-- A call that changes the status, under way or ended. -/
structure Call (ns name : String) where
  update : StatusUpdate
  past : Transcript
  rest : Program (Except ClusterError Pass.StatusOutcome)
  reached : Program.Reach (Pass.persist ns name update) past rest

namespace Call

variable {ns name : String}

def start (ns name : String) (update : StatusUpdate) : Call ns name :=
  ⟨update, [], Pass.persist ns name update, .refl⟩

/-- After an answer. -/
def answered (c : Call ns name) {r : Request} {next : r.Answer → Program _}
    (h : c.rest = .ask r next) (answer : r.Answer) : Call ns name :=
  ⟨c.update, c.past ++ [⟨r, answer⟩], next answer, .step (h ▸ c.reached) answer⟩

/-- The time that the call was told just now. -/
def time (c : Call ns name) : String :=
  match c.past.getLast? with
  | some ⟨.now, now⟩ => now
  | _ => ""

end Call

/-- The call that wrote, with its change. -/
structure Author where
  call : Nat
  update : StatusUpdate
  time : String

/-- An accepted write, of a call or of somebody else. -/
structure Entry where
  author : Option Author
  before : Json
  after : Json

/-- What a write sets a member to, if it concerns the member. Others write the whole status. -/
def Entry.sets? (e : Entry) (member : String) : Option Json :=
  match e.author with
  | some a => a.update.sets? a.time member
  | none => some (e.after.get member)

/-! ## Steps -/

structure State (ns name : String) where
  kept : Option Kept
  /-- All versions that were given. -/
  used : List String
  calls : List (Call ns name)
  /-- The accepted writes, the latest first. -/
  log : List Entry

variable {ns name : String}

namespace State

def start (ns name : String) (kept : Option Kept) : State ns name :=
  ⟨kept, (kept.map (·.version)).toList, [], []⟩

/-- The server stores something else. -/
def stores (s : State ns name) (author : Option Author) (kept : Option Kept) : State ns name where
  kept
  used := (kept.map (·.version)).toList ++ s.used
  calls := s.calls
  log := ⟨author, statusOf s.kept, statusOf kept⟩ :: s.log

/-- How the server may answer a call. A read shows what is stored, and a status that is sent over
another version is not taken. Everything may fail, and then nothing has changed: the server takes a
write or refuses it, and an error is its refusal. If a write could be carried out and its answer be
lost, as `Backing.Serves` and `Pass.Effect` allow, no call could tell how often it wrote. -/
def Serves (s : State ns name) (i : Nat) (c : Call ns name) :
    (r : Request) → r.Answer → State ns name → Prop
  | .getDeclaring _ _, .ok fresh, s' =>
    s' = s ∧ ∃ k, s.kept = some k ∧ k.copy? ns name = some fresh
  | .updateStatus r, .ok _, s' => ∃ call q k k',
    Cluster.updateStatus r = .ok call ∧ call.object = ⟨.declaring, ns, name⟩ ∧
      call.request = some q ∧ s.kept = some k ∧
      k.patched? (q.body.getD .null) k'.version = some k' ∧ k'.version ∉ s.used ∧
      s' = s.stores (some ⟨i, c.update, c.time⟩) (some k')
  | _, _, s' => s' = s

end State

inductive Step (s : State ns name) : State ns name → Prop where
  /-- Somebody wants the status changed. -/
  | start (u : StatusUpdate) : Step s { s with calls := s.calls ++ [.start ns name u] }
  /-- A call gets the answer that it waits for. -/
  | answer {s' : State ns name} {i : Nat} {c : Call ns name} {r : Request}
      {next : r.Answer → Program _} (answer : r.Answer) (hc : s.calls[i]? = some c)
      (hr : c.rest = .ask r next) (hs : s.Serves i c r answer s') :
      Step s { s' with calls := s.calls.set i (c.answered hr answer) }
  /-- Others write the resource, create it or delete it. -/
  | others (kept : Option Kept) (fresh : ∀ k ∈ kept, k.version ∉ s.used) :
      Step s (s.stores none kept)

/-- Any number of steps. -/
inductive Run (s : State ns name) : State ns name → Prop where
  | refl : Run s s
  | step {s' s'' : State ns name} (run : Run s s') (next : Step s' s'') : Run s s''

/-! ## What holds in every state -/

/-- The writes lead from one status to another, each from what the one before it left. -/
def Linked (first : Json) : List Entry → Json → Prop
  | [], j => j = first
  | e :: older, j => j = e.after ∧ Linked first older e.before

/-- The write set the members that it concerns and left all others as it found them. -/
def Entry.Keeps (e : Entry) : Prop :=
  ∀ member, e.after.get member = (e.sets? member).getD (e.before.get member)

def Entry.isBy (e : Entry) (i : Nat) : Bool := e.author.any (·.call == i)

/-- Nothing else than a copy that was read has its version. -/
def State.Knows (s : State ns name) (t : Transcript) : Prop :=
  ∀ e ∈ t, ∀ fresh, e.copy? = some fresh →
    ∃ version, fresh.metadata.resourceVersion = some version ∧ version ∈ s.used ∧
      ∀ k ∈ s.kept, k.version = version → k.copy? ns name = some fresh

structure Inv (first : Json) (s : State ns name) : Prop where
  used : ∀ k ∈ s.kept, k.version ∈ s.used
  linked : Linked first s.log (statusOf s.kept)
  keeps : ∀ e ∈ s.log, e.Keeps
  knows : ∀ (i : Nat) (c : Call ns name), s.calls[i]? = some c → s.Knows c.past
  count : ∀ (i : Nat) (c : Call ns name), s.calls[i]? = some c →
    s.log.countP (·.isBy i) = c.past.accepted
  authors : ∀ e ∈ s.log, ∀ a ∈ e.author, ∃ c, s.calls[a.call]? = some c ∧ a.update = c.update ∧
    (⟨.now, a.time⟩ : Exchange) ∈ c.past

variable {first : Json} {s s' : State ns name} {t : Transcript} {k k' : Kept} {fresh : Resource}

theorem Inv.start (kept : Option Kept) : Inv (statusOf kept) (.start ns name kept) where
  used k hk := by
    have hkept : kept = some k := hk
    simp [State.start, hkept]
  linked := rfl
  keeps e he := by simp [State.start] at he
  knows i c hc := by simp [State.start] at hc
  count i c hc := by simp [State.start] at hc
  authors e he := by simp [State.start] at he

/-! ## Copies -/

theorem Kept.copy?_metadata (h : k.copy? ns name = some fresh) :
    fresh.metadata = { k.metadata with
      ns := some ns, name := some name, resourceVersion := some k.version } := by
  unfold copy? at h
  split at h
  · cases h
    rfl
  · obtain ⟨s, -, rfl⟩ := Option.map_eq_some_iff.1 h
    rfl

/-- A copy notes what the stored members hold. -/
theorem Kept.get_of_copy? (h : k.copy? ns name = some fresh) :
    ∀ p ∈ (fresh.status.getD .empty).texts, k.statusJson.get p.1 = .ofText? p.2 := by
  unfold copy? at h
  unfold statusJson
  split at h
  · next hnone =>
    cases h
    rw [hnone]
    simp [Status.texts, Status.empty, Json.ofOption, Json.get, Json.ofText?]
  · next ms hms =>
    obtain ⟨s, hs, rfl⟩ := Option.map_eq_some_iff.1 h
    rw [hms]
    exact Status.get_of_ofJson? hs

theorem State.Knows.append (h : s.Knows t) {e : Exchange}
    (he : ∀ fresh, e.copy? = some fresh →
      ∃ k, s.kept = some k ∧ k.version ∈ s.used ∧ k.copy? ns name = some fresh) :
    s.Knows (t ++ [e]) := by
  intro e' hm fresh hfresh
  rcases List.mem_append.1 hm with hm | hm
  · exact h e' hm fresh hfresh
  · rw [List.mem_singleton.1 hm] at hfresh
    obtain ⟨k, hk, hused, hcopy⟩ := he fresh hfresh
    refine ⟨k.version, by rw [Kept.copy?_metadata hcopy], hused, fun k' hk' _ => ?_⟩
    rw [hk] at hk'
    cases hk'
    exact hcopy

/-- What is stored anew has a version that no copy has. -/
theorem State.Knows.stores (h : s.Knows t) {kept : Option Kept} {author : Option Author}
    (hnew : ∀ k ∈ kept, k.version ∉ s.used) : (s.stores author kept).Knows t := by
  intro e hm fresh hfresh
  obtain ⟨version, hversion, hused, -⟩ := h e hm fresh hfresh
  refine ⟨version, hversion, List.mem_append_right _ hused, fun k hk he => ?_⟩
  exact absurd (he ▸ hused) (hnew k hk)

/-- A patch that a call made is made from the stored status. -/
theorem State.Knows.patched (h : s.Knows t) {u : StatusUpdate} {r : Resource} {version : String}
    {call : Cluster.Call Resource} {q : Web.Request} (hfresh : Pass.Fresh ns name u t r)
    (hk : s.kept = some k) (hcall : Cluster.updateStatus r = .ok call)
    (hq : call.request = some q) (hpatch : k.patched? (q.body.getD .null) version = some k') :
    ∃ now : String, t.getLast? = some ⟨.now, now⟩ ∧ k'.version = version ∧
      ∀ member, k'.statusJson.get member =
        (u.sets? now member).getD (k.statusJson.get member) := by
  obtain ⟨before, fresh, now, rfl, rfl⟩ := hfresh
  obtain ⟨sent, hsent, hbody, hstatus⟩ := Cluster.updateStatus_body hcall hq
  obtain ⟨read, hread, -, hcopy⟩ := h ⟨.getDeclaring ns name, .ok fresh⟩ (by simp) fresh rfl
  unfold Kept.patched? at hpatch
  split at hpatch
  · next hversion =>
    -- The patch was taken, so what is stored has the version of the copy, and thus is the copy.
    have hcurrent : k.copy? ns name = some fresh := by
      refine hcopy k hk ?_
      rw [hbody, hsent.symm.trans hread] at hversion
      exact (Option.some.inj hversion).symm
    refine ⟨now, by simp, ?_⟩
    cases hpatch
    refine ⟨rfl, fun member => ?_⟩
    have hobj : ∀ j : Json, ∀ s : Status, Json.ofOption .obj (j.merged s.toJson).obj? =
        j.merged s.toJson := fun j s => by rw [Status.toJson_eq, Json.merged]; rfl
    rw [← StatusUpdate.get_merged (Kept.get_of_copy? hcurrent)]
    simp only [Kept.statusJson, hstatus]
    exact congrArg (·.get member) (hobj _ _)
  · cases hpatch

/-! ## Steps -/

theorem Call.time_of_last {c : Call ns name} {now : String}
    (h : c.past.getLast? = some ⟨.now, now⟩) :
    c.time = now ∧ (⟨.now, c.time⟩ : Exchange) ∈ c.past := by
  have htime : c.time = now := by
    unfold time
    rw [h]
  rw [htime]
  exact ⟨rfl, List.mem_of_getLast? h⟩

/-- A write of somebody else concerns every member. -/
theorem Entry.keeps_of_others (before after : Json) : Entry.Keeps ⟨none, before, after⟩ :=
  fun _ => rfl

theorem getElem?_append_one {α : Type} {l : List α} {a b : α} {i : Nat}
    (h : (l ++ [a])[i]? = some b) : l[i]? = some b ∨ i = l.length ∧ b = a := by
  rw [List.getElem?_append] at h
  split at h
  · exact .inl h
  · obtain ⟨hi, rfl⟩ := List.getElem?_eq_some_iff.1 h
    rw [List.length_singleton] at hi
    exact .inr ⟨by omega, by simp⟩

theorem getElem?_set_one {α : Type} {l : List α} {a b : α} {i j : Nat}
    (h : (l.set i a)[j]? = some b) : j = i ∧ b = a ∨ j ≠ i ∧ l[j]? = some b := by
  rw [List.getElem?_set] at h
  split at h
  · next hij =>
    split at h
    · exact .inl ⟨hij.symm, (Option.some.inj h).symm⟩
    · cases h
  · next hij => exact .inr ⟨Ne.symm hij, h⟩

/-- The author of a write is found among the calls also after an answer. -/
theorem author_answered {i j : Nat} {c : Call ns name} {r : Request}
    {next : r.Answer → Program (Except ClusterError Pass.StatusOutcome)} {answer : r.Answer}
    (hc : s.calls[i]? = some c) (hr : c.rest = .ask r next) {u : StatusUpdate} {e : Exchange}
    (h : ∃ c', s.calls[j]? = some c' ∧ u = c'.update ∧ e ∈ c'.past) :
    ∃ c', (s.calls.set i (c.answered hr answer))[j]? = some c' ∧ u = c'.update ∧ e ∈ c'.past := by
  obtain ⟨c', hc', hu, he⟩ := h
  by_cases hij : i = j
  · subst hij
    obtain rfl : c = c' := Option.some.inj (hc.symm.trans hc')
    have hlt := (List.getElem?_eq_some_iff.1 hc).1
    exact ⟨c.answered hr answer, by simp [hlt], hu, List.mem_append_left _ he⟩
  · exact ⟨c', by rwa [List.getElem?_set_ne hij], hu, he⟩

/-- A call that starts has done nothing. -/
theorem Inv.starts (h : Inv first s) (u : StatusUpdate) :
    Inv first { s with calls := s.calls ++ [.start ns name u] } where
  used := h.used
  linked := h.linked
  keeps := h.keeps
  knows i c hc := by
    rcases getElem?_append_one hc with hc | ⟨-, rfl⟩
    · exact h.knows i c hc
    · exact fun _ hm => absurd hm List.not_mem_nil
  count i c hc := by
    rcases getElem?_append_one hc with hc | ⟨rfl, rfl⟩
    · exact h.count i c hc
    · refine List.countP_eq_zero.2 fun e he hby => ?_
      obtain ⟨a, ha, hcall⟩ : ∃ a, e.author = some a ∧ a.call = s.calls.length := by
        cases ha : e.author with
        | none => simp [Entry.isBy, ha] at hby
        | some a => exact ⟨a, rfl, by simpa [Entry.isBy, ha] using hby⟩
      obtain ⟨c, hc, -⟩ := h.authors e he a ha
      have hlt := (List.getElem?_eq_some_iff.1 hc).1
      omega
  authors e he a ha := by
    obtain ⟨c, hc, hu, htime⟩ := h.authors e he a ha
    exact ⟨c, List.getElem?_append_left (List.getElem?_eq_some_iff.1 hc).1 ▸ hc, hu, htime⟩

/-- What the server has become, and how the call that it answered has gone on. -/
theorem Inv.answer {s₁ : State ns name} {i : Nat} {c : Call ns name} {r : Request}
    {next : r.Answer → Program (Except ClusterError Pass.StatusOutcome)} {answer : r.Answer}
    (hcalls : s₁.calls = s.calls) (hc : s.calls[i]? = some c) (hr : c.rest = .ask r next)
    (used : ∀ k ∈ s₁.kept, k.version ∈ s₁.used) (linked : Linked first s₁.log (statusOf s₁.kept))
    (keeps : ∀ e ∈ s₁.log, e.Keeps)
    (knows : ∀ (j : Nat) (c' : Call ns name), s.calls[j]? = some c' → s₁.Knows c'.past)
    (knowsNext : s₁.Knows (c.past ++ [⟨r, answer⟩]))
    (count : ∀ (j : Nat) (c' : Call ns name), j ≠ i → s.calls[j]? = some c' →
      s₁.log.countP (·.isBy j) = c'.past.accepted)
    (countNext : s₁.log.countP (·.isBy i) = Transcript.accepted (c.past ++ [⟨r, answer⟩]))
    (authors : ∀ e ∈ s₁.log, ∀ a ∈ e.author, ∃ c', s.calls[a.call]? = some c' ∧
      a.update = c'.update ∧ (⟨.now, a.time⟩ : Exchange) ∈ c'.past) :
    Inv first { s₁ with calls := s₁.calls.set i (c.answered hr answer) } where
  used := used
  linked := linked
  keeps := keeps
  knows j c' hc' := by
    rw [hcalls] at hc'
    rcases getElem?_set_one hc' with ⟨-, rfl⟩ | ⟨-, hc'⟩
    · exact knowsNext
    · exact knows j c' hc'
  count j c' hc' := by
    rw [hcalls] at hc'
    rcases getElem?_set_one hc' with ⟨rfl, rfl⟩ | ⟨hne, hc'⟩
    · exact countNext
    · exact count j c' hne hc'
  authors e he a ha := by
    rw [hcalls]
    exact author_answered hc hr (authors e he a ha)

/-- An answer that accepts no write changes nothing at the server. -/
theorem Inv.answered (h : Inv first s) {i : Nat} {c : Call ns name} {r : Request}
    {next : r.Answer → Program (Except ClusterError Pass.StatusOutcome)} {answer : r.Answer}
    (hc : s.calls[i]? = some c) (hr : c.rest = .ask r next)
    (hno : (⟨r, answer⟩ : Exchange).isAccepted = false)
    (hread : ∀ fresh, (⟨r, answer⟩ : Exchange).copy? = some fresh →
      ∃ k, s.kept = some k ∧ k.copy? ns name = some fresh) :
    Inv first { s with calls := s.calls.set i (c.answered hr answer) } := by
  refine Inv.answer rfl hc hr h.used h.linked h.keeps h.knows ?_ (fun j c' _ => h.count j c') ?_
    h.authors
  · refine (h.knows i c hc).append fun fresh he => ?_
    obtain ⟨k, hk, hcopy⟩ := hread fresh he
    exact ⟨k, hk, h.used k hk, hcopy⟩
  · rw [Transcript.accepted_append, hno, h.count i c hc]
    rfl

/-- A write that is accepted was made from the stored status. -/
theorem Inv.accepted (h : Inv first s) {i : Nat} {c : Call ns name} {r : Resource}
    {next : (Request.updateStatus r).Answer → Program (Except ClusterError Pass.StatusOutcome)}
    {call : Cluster.Call Resource} {q : Web.Request} (hc : s.calls[i]? = some c)
    (hr : c.rest = .ask (.updateStatus r) next) (hcall : Cluster.updateStatus r = .ok call)
    (hq : call.request = some q) (hk : s.kept = some k)
    (hpatch : k.patched? (q.body.getD .null) k'.version = some k') (hnew : k'.version ∉ s.used)
    (stored : Resource) :
    Inv first { s.stores (some ⟨i, c.update, c.time⟩) (some k') with
      calls := s.calls.set i (c.answered hr (.ok stored)) } := by
  have hasks := Pass.persist_asked (hr ▸ c.reached)
  obtain ⟨now, hlast, -, hget⟩ := (h.knows i c hc).patched hasks.2.2.1 hk hcall hq hpatch
  obtain ⟨htime, htold⟩ := Call.time_of_last hlast
  have hbefore : statusOf s.kept = k.statusJson := by
    rw [hk]
    rfl
  have hfresh : ∀ k₁ ∈ some k', k₁.version ∉ s.used := fun k₁ hk₁ => Option.some.inj hk₁ ▸ hnew
  let s₁ := s.stores (some ⟨i, c.update, c.time⟩) (some k')
  have hcalls : s₁.calls = s.calls := rfl
  refine Inv.answer hcalls hc hr ?_ ⟨rfl, h.linked⟩ ?_
    (fun j c' hc' => (h.knows j c' hc').stores hfresh) ?_ ?_ ?_ ?_
  · intro k₁ hk₁
    have hkept : k' = k₁ := Option.some.inj hk₁
    rw [← hkept]
    exact List.mem_append_left _ (List.mem_singleton.2 rfl)
  · intro e he
    rcases List.mem_cons.1 he with rfl | he
    · intro member
      rw [hbefore]
      exact htime ▸ hget member
    · exact h.keeps e he
  · exact ((h.knows i c hc).stores hfresh).append fun _ he => nomatch he
  · intro j c' hne hc'
    have hby : Entry.isBy ⟨some ⟨i, c.update, c.time⟩, statusOf s.kept, statusOf (some k')⟩ j =
        false := by simpa [Entry.isBy] using Ne.symm hne
    show List.countP _ (_ :: s.log) = _
    rw [List.countP_cons_of_neg (by rw [hby]; nofun)]
    exact h.count j c' hc'
  · have hby : Entry.isBy ⟨some ⟨i, c.update, c.time⟩, statusOf s.kept, statusOf (some k')⟩ i =
        true := by simp [Entry.isBy]
    calc List.countP (·.isBy i) (_ :: s.log)
        = c.past.accepted + 1 := by
          rw [List.countP_cons, if_pos hby, h.count i c hc]
      _ = Transcript.accepted (c.past ++ [(⟨.updateStatus r, .ok stored⟩ : Exchange)]) :=
          (Transcript.accepted_append c.past ⟨.updateStatus r, .ok stored⟩).symm
  · intro e he a ha
    rcases List.mem_cons.1 he with rfl | he
    · cases ha
      exact ⟨c, hc, rfl, htold⟩
    · exact h.authors e he a ha

/-- Others write whatever they like, with a new version. -/
theorem Inv.others (h : Inv first s) (kept : Option Kept) (hnew : ∀ k ∈ kept, k.version ∉ s.used) :
    Inv first (s.stores none kept) where
  used k hk := by
    have hkept : kept = some k := hk
    simp [State.stores, hkept]
  linked := ⟨rfl, h.linked⟩
  keeps e he := by
    rcases List.mem_cons.1 he with rfl | he
    · exact Entry.keeps_of_others _ _
    · exact h.keeps e he
  knows i c hc := (h.knows i c hc).stores hnew
  count i c hc := by
    show List.countP _ (_ :: s.log) = _
    rw [List.countP_cons_of_neg (by simp [Entry.isBy])]
    exact h.count i c hc
  authors e he a ha := by
    rcases List.mem_cons.1 he with rfl | he
    · cases ha
    · exact h.authors e he a ha

/-- Every step preserves it. -/
theorem Inv.step (h : Inv first s) (hs : Step s s') : Inv first s' := by
  cases hs with
  | start u => exact h.starts u
  | @answer s' i c r next answer hc hr hs =>
    cases r with
    | getDeclaring ns' name' =>
      cases answer with
      | ok fresh =>
        obtain ⟨rfl, k, hk, hcopy⟩ := hs
        exact h.answered hc hr rfl fun _ he => ⟨k, hk, hcopy.trans he⟩
      | error e =>
        obtain rfl : s' = s := hs
        exact h.answered hc hr rfl fun _ he => nomatch he
    | updateStatus r =>
      cases answer with
      | ok stored =>
        obtain ⟨call, q, k, k', hcall, -, hq, hk, hpatch, hnew, rfl⟩ := hs
        exact h.accepted hc hr hcall hq hk hpatch hnew stored
      | error e =>
        obtain rfl : s' = s := hs
        exact h.answered hc hr rfl fun _ he => nomatch he
    | lookup | get | create | update | readVault | record | enqueue | now | tell =>
      obtain rfl : s' = s := hs
      exact h.answered hc hr rfl fun _ he => nomatch he
  | others kept hnew => exact h.others kept hnew

/-- Every run preserves it. -/
theorem Run.inv (hrun : Run s s') (h : Inv first s) : Inv first s' := by
  induction hrun with
  | refl => exact h
  | step run next ih => exact ih.step next

/-! ## An attempt that nobody disturbs -/

/-- The call has gone on. -/
def State.after (s : State ns name) (i : Nat) (c : Call ns name) : State ns name :=
  { s with calls := s.calls.set i c }

theorem State.getElem?_after {i : Nat} {c : Call ns name} (hc : s.calls[i]? = some c)
    (c' : Call ns name) : (s.after i c').calls[i]? = some c' := by
  obtain ⟨hlt, -⟩ := List.getElem?_eq_some_iff.1 hc
  simp [after, hlt]

theorem State.after_after (s : State ns name) (i : Nat) (c c' : Call ns name) :
    (s.after i c).after i c' = s.after i c' := by
  simp [after]

/-- An attempt asks for the resource and the time, sends the change and says that it is made. -/
theorem persistFrom_written (ns name : String) {u : StatusUpdate} {now : String}
    (hchange : (fresh.status.getD .empty).sameGroups
      (u.apply (fresh.status.getD .empty) now) = false) (n more : Nat) (stored : Resource) :
    ∃ reads, Pass.persistFrom ns name u n more = .ask (.getDeclaring ns name) reads ∧
      ∃ tells, reads (.ok fresh) = .ask .now tells ∧
      ∃ sends, tells now = .ask (.updateStatus
        { fresh with status := some (u.apply (fresh.status.getD .empty) now) }) sends ∧
      ∃ said ends, sends (.ok stored) = .ask (.tell said) ends ∧
        ends () = .done (.ok .written) := by
  cases more
  all_goals
    refine ⟨_, rfl, _, rfl, ?_⟩
    dsimp only [Program.bind, Function.comp]
    simp only [hchange, Bool.false_eq_true, if_false]
    exact ⟨_, rfl, _, _, rfl, rfl⟩

/-- What is kept when a status was sent over it. -/
def Kept.patched (k : Kept) (version : String) (status : Status) : Kept :=
  { k with version, status := (k.statusJson.merged status.toJson).obj? }

theorem Kept.patched?_statusPatch (k : Kept) (version : String) (status : Status) :
    k.patched? (Cluster.statusPatch k.version (some status)) version =
      some (k.patched version status) := by
  obtain ⟨hversion, hstatus⟩ := Cluster.get_statusPatch k.version (some status)
  rw [patched?, if_pos hversion, hstatus]
  rfl

/-- If nobody else writes while a call is at an attempt, the call makes its change. -/
theorem Run.written {s₀ : State ns name} (hrun : Run s₀ s) (now version : String) {i : Nat}
    {c : Call ns name} {n more : Nat} (hc : s.calls[i]? = some c)
    (hrest : c.rest = Pass.persistFrom ns name c.update n more)
    (hk : s.kept = some k) (hcopy : k.copy? ns name = some fresh)
    (hchange : (fresh.status.getD .empty).sameGroups
      (c.update.apply (fresh.status.getD .empty) now) = false)
    (haddress : (Cluster.objectTarget? ⟨.declaring, ns, name⟩ "/status?"
      [("fieldManager", controllerName)]).isSome = true) (hnew : version ∉ s.used) :
    ∃ c' : Call ns name, c.past <+: c'.past ∧ c'.rest = .done (.ok .written) ∧
      Run s₀ (State.after (s.stores (some ⟨i, c.update, now⟩)
        (some (k.patched version (c.update.apply (fresh.status.getD .empty) now)))) i c') := by
  have hmetadata := Kept.copy?_metadata hcopy
  let desired := c.update.apply (fresh.status.getD .empty) now
  let sent : Resource := { fresh with status := some desired }
  obtain ⟨reads, hreads, tells, htells, sends, hsends, said, ends, hends, hdone⟩ :=
    persistFrom_written ns name hchange n more sent
  obtain ⟨target, htarget⟩ := Option.isSome_iff_exists.1 haddress
  obtain ⟨call, hcall, hobject, hrequest⟩ := Cluster.updateStatus_ok (r := sent)
    (congrArg (·.name) hmetadata) (congrArg (·.ns) hmetadata)
    (congrArg (·.resourceVersion) hmetadata)
  rw [htarget, Option.map_some] at hrequest
  let c₁ := c.answered (r := .getDeclaring ns name) (hrest.trans hreads) (.ok fresh)
  let c₂ := c₁.answered (r := .now) htells now
  let c₃ := c₂.answered (r := .updateStatus sent) hsends (.ok sent)
  let c₄ := c₃.answered (r := .tell said) hends ()
  let s₃ := s.stores (some ⟨i, c.update, now⟩) (some (k.patched version desired))
  have htime : c₂.time = now := (Call.time_of_last (by simp [c₂, Call.answered])).1
  have hread : Step s (s.after i c₁) := .answer (r := .getDeclaring ns name) (.ok fresh) hc _
    ⟨rfl, k, hk, hcopy⟩
  have htold : Step (s.after i c₁) (s.after i c₂) := by
    rw [← s.after_after i c₁ c₂]
    exact .answer (r := .now) now (s.getElem?_after hc c₁) htells rfl
  have hsent : Step (s.after i c₂) (s₃.after i c₃) := by
    rw [← s₃.after_after i c₂ c₃]
    refine .answer (r := .updateStatus sent) (.ok sent) (s.getElem?_after hc c₂) hsends ?_
    exact ⟨call, _, k, k.patched version desired, hcall, hobject, hrequest, hk,
      k.patched?_statusPatch version desired, hnew, by rw [htime]; rfl⟩
  have hsaid : Step (s₃.after i c₃) (s₃.after i c₄) := by
    rw [← s₃.after_after i c₃ c₄]
    exact .answer (r := .tell said) () (s₃.getElem?_after hc c₃) hends rfl
  refine ⟨c₄, ?_, hdone, (((hrun.step hread).step htold).step hsent).step hsaid⟩
  simp only [c₄, c₃, c₂, c₁, Call.answered, List.append_assoc]
  exact List.prefix_append ..

/-! ## Result -/

/-- What is stored is what the latest write of each member left. -/
theorem Linked.get {log : List Entry} {j : Json} (h : Linked first log j)
    (hkeeps : ∀ e ∈ log, e.Keeps) (member : String) :
    j.get member = (log.findSome? (·.sets? member)).getD (first.get member) := by
  induction log generalizing j with
  | nil =>
    obtain rfl : j = first := h
    rfl
  | cons e older ih =>
    obtain ⟨rfl, holder⟩ := h
    rw [List.findSome?_cons, hkeeps e List.mem_cons_self member]
    cases he : e.sets? member with
    | some j => rfl
    | none => exact ih holder fun e' he' => hkeeps e' (List.mem_cons_of_mem _ he')

/-- Whoever writes, and in whatever order: every accepted write sets the members of its own group,
and the time if it notes an output, and leaves all others as they were; so every member holds what
the latest write that concerns it set. A call wrote once if it says so, and not at all if it ended
otherwise. It writes no more often than it has attempts, again only after a conflict, and always
what it read just before. -/
theorem groups_kept {kept : Option Kept} (hrun : Run (.start ns name kept) s) :
    Linked (statusOf kept) s.log (statusOf s.kept) ∧
      (∀ e ∈ s.log, ∀ member, e.after.get member = (e.sets? member).getD (e.before.get member)) ∧
      (∀ member, (statusOf s.kept).get member =
        (s.log.findSome? (·.sets? member)).getD ((statusOf kept).get member)) ∧
      (∀ e ∈ s.log, ∀ a ∈ e.author, ∃ c, s.calls[a.call]? = some c ∧ a.update = c.update ∧
        (⟨.now, a.time⟩ : Exchange) ∈ c.past) ∧
      ∀ (i : Nat) (c : Call ns name), s.calls[i]? = some c →
        (∀ result, c.rest = .done result →
          (result = .ok .written → s.log.countP (·.isBy i) = 1) ∧
            (result ≠ .ok .written → s.log.countP (·.isBy i) = 0)) ∧
        c.past.writes ≤ Pass.statusAttempts ∧
        c.past.length ≤ Pass.attemptLength * Pass.statusAttempts ∧
        ∀ before r written after, c.past = before ++ ⟨.updateStatus r, written⟩ :: after →
          before.Lost ∧ Pass.Fresh ns name c.update before r := by
  have h := hrun.inv (.start kept)
  refine ⟨h.linked, h.keeps, h.linked.get h.keeps, h.authors, fun i c hc => ⟨?_, ?_, ?_, ?_⟩⟩
  · intro result hresult
    rw [h.count i c hc]
    exact (Pass.persist_ended (hresult ▸ c.reached)).2.2
  · exact (Pass.persist_bounded c.reached).2
  · exact (Pass.persist_bounded c.reached).1
  · intro before r written after hpast
    exact (Pass.persist_write c.reached hpast).symm

/-! ## Two calls and a third writer -/

/-- The resource, with a status that also notes something that readers do not know. -/
def keptNoting (version note : String) : Kept :=
  ⟨version, .empty, Watch.app.spec, some [("configMapHash", .str "c0ffee"), ("note", .str note)]⟩

/-- A call that removes the hash of the ConfigMap. -/
def forgetting : Call "prod" "app" := .start "prod" "app" (.invalidate .configMap)

/-- A call that notes the Secret. -/
def noting : Call "prod" "app" := .start "prod" "app" (.record .secret "login" ⟨"beef"⟩)

/-- What the first call sends at first, and why it is refused. -/
def sentTooLate : Exchange :=
  ⟨.updateStatus ⟨{ Kube.ObjectMeta.empty with
      ns := some "prod", name := some "app", resourceVersion := some "1" },
    Watch.app.spec, some .empty⟩,
    .error (.conflict ⟨.declaring, "prod", "app"⟩ "the object has been modified")⟩

/-- Somebody else writes between the read and the write of the first call, so its attempt is
lost. -/
theorem run_lost : ∃ c : Call "prod" "app", sentTooLate ∈ c.past ∧
    c.update = .invalidate .configMap ∧
    c.rest = Pass.persistFrom "prod" "app" (.invalidate .configMap) 2 3 ∧
    Run (.start "prod" "app" (some (keptNoting "1" "old")))
      ⟨some (keptNoting "2" "new"), ["2", "1"], [c, noting],
        [⟨none, (keptNoting "1" "old").statusJson, (keptNoting "2" "new").statusJson⟩]⟩ := by
  have hstart := (Run.refl (s := .start "prod" "app" (some (keptNoting "1" "old")))).step
    (.start (.invalidate .configMap)) |>.step (.start (.record .secret "login" ⟨"beef"⟩))
  have hread := hstart.step (.answer (i := 0) (c := forgetting) (r := .getDeclaring "prod" "app")
    (.ok _) rfl rfl ⟨rfl, keptNoting "1" "old", rfl, rfl⟩)
  have hothers := hread.step (.others (some (keptNoting "2" "new")) (by decide))
  have htold := hothers.step (.answer (i := 0) (r := .now) "12:00" rfl rfl rfl)
  have hrefused := htold.step (.answer (i := 0) (r := sentTooLate.request) sentTooLate.answer
    rfl rfl rfl)
  have hcounted := hrefused.step (.answer (i := 0) (r := .tell _) () rfl rfl rfl)
  have hagain := hcounted.step (.answer (i := 0) (r := .tell _) () rfl rfl rfl)
  exact ⟨_, by simp [Call.answered], rfl, rfl, hagain⟩

/-- The second call makes its change before the first one tries again. In the end both changes are
there, each made once, and so is what the third writer wrote. -/
theorem groups_kept_conflict : ∃ (s : State "prod" "app") (c : Call "prod" "app"),
    Run (.start "prod" "app" (some (keptNoting "1" "old"))) s ∧
    s.calls[0]? = some c ∧ sentTooLate ∈ c.past ∧
    s.log.countP (·.isBy 0) = 1 ∧ s.log.countP (·.isBy 1) = 1 ∧
    (statusOf s.kept).get "configMapHash" = .null ∧
    (statusOf s.kept).get "secretHash" = .str "beef" ∧
    (statusOf s.kept).get "note" = .str "new" := by
  obtain ⟨c, hlate, hupdate, hrest, hlost⟩ := run_lost
  obtain ⟨c₁, -, hdone₁, hnoted⟩ := hlost.written "12:01" "3" (i := 1) (c := noting)
    rfl rfl rfl rfl rfl Cluster.statusTarget_app (show "3" ∉ ["2", "1"] by decide)
  obtain ⟨c₀, hpast, hdone₀, hrun⟩ := hnoted.written "12:02" "4" (i := 0) (c := c)
    rfl (hupdate ▸ hrest) rfl rfl (by rw [hupdate]; rfl) Cluster.statusTarget_app
    (show "4" ∉ ["3", "2", "1"] by decide)
  obtain ⟨-, -, hget, -, hcalls⟩ := groups_kept hrun
  refine ⟨_, c₀, hrun, rfl, hpast.subset hlate, ?_, ?_, ?_, ?_, ?_⟩
  · exact ((hcalls 0 c₀ rfl).1 _ hdone₀).1 rfl
  · exact ((hcalls 1 c₁ rfl).1 _ hdone₁).1 rfl
  all_goals
    rw [hget, hupdate]
    rfl

end Groups

end VaultProjection

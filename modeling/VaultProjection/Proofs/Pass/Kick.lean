import VaultProjection.Proofs.Pass.Outputs
import VaultProjection.Proofs.Status.Attempts
import VaultProjection.Proofs.Watch.Shelf

/-!
# When a new output is filled at once

A structural pass that creates an output first clears what the status notes of it, and then sends
the key to the queue that fills it. If the status cannot be written, the pass fails in between. The
passes that try again find the output there, so none of them sends the key for it.

Results:
1. `course_structural`: what a whole pass does, creation by creation.
2. `Course.sent_iff`: the key is sent exactly if writing the status did not fail for some creation.
3. `kick_iff`: a pass that succeeds has sent the key after each of its creations; over failed
   passes and those that try again, it was sent exactly if the status was written for that creation
   or for a later one.
-/

namespace VaultProjection

/-! ## Whole transcripts -/

namespace Program

variable {α β : Type} {p : Program α} {f : α → Program β} {t t' x x' : Transcript} {a a' : α}
  {b : β}

/-- The program asks these questions, gets these answers and ends with this result. -/
inductive Ends : Program α → Transcript → α → Prop where
  | done (a : α) : Ends (.done a) [] a
  | ask {r : Request} {next : r.Answer → Program α} (answer : r.Answer) {t : Transcript} {a : α}
      (after : Ends (next answer) t a) : Ends (.ask r next) (⟨r, answer⟩ :: t) a

theorem Ends.of_bind (h : (p >>= f).Ends t b) :
    ∃ t₁ t₂ a, t = t₁ ++ t₂ ∧ p.Ends t₁ a ∧ (f a).Ends t₂ b := by
  induction p generalizing t with
  | done a => exact ⟨[], t, a, rfl, .done a, h⟩
  | ask r next ih =>
    cases h with
    | ask answer after =>
      obtain ⟨t₁, t₂, a, rfl, hp, hf⟩ := ih answer after
      exact ⟨⟨r, answer⟩ :: t₁, t₂, a, rfl, .ask answer hp, hf⟩

/-- The answers decide where a program ends. -/
theorem Ends.unique (h : p.Ends t a) (h' : p.Ends t' a') (hx : t ++ x = t' ++ x') :
    t = t' ∧ a = a' := by
  induction h generalizing t' with
  | done a =>
    cases h' with
    | done => exact ⟨rfl, rfl⟩
  | @ask r next answer t a after ih =>
    cases h' with
    | ask answer' after' =>
      obtain ⟨he, hx'⟩ := List.cons.inj hx
      cases he
      obtain ⟨rfl, rfl⟩ := ih after' hx'
      exact ⟨rfl, rfl⟩

theorem Reach.of_ask {r : Request} {next : r.Answer → Program α} {p' : Program α}
    {answer : r.Answer} (h : Reach (next answer) t p') :
    Reach (.ask r next) (⟨r, answer⟩ :: t) p' := by
  induction h with
  | refl => exact .step .refl answer
  | step before answer' ih => exact .step ih answer'

theorem Ends.reach (h : p.Ends t a) : Reach p t (.done a) := by
  induction h with
  | done a => exact .refl
  | ask answer after ih => exact ih.of_ask

end Program

namespace Exchange

/-- An output was created. -/
def isCreation : Exchange → Bool
  | ⟨.create .., .ok _⟩ => true
  | _ => false

/-- A key was sent to a queue. -/
def isEnqueue : Exchange → Bool
  | ⟨.enqueue .., _⟩ => true
  | _ => false

/-- No output was created and no key was sent. -/
def Quiet (e : Exchange) : Prop := e.isCreation = false ∧ e.isEnqueue = false

end Exchange

namespace Pass

variable {α β : Type} {key : String} {k : OutputKind} {t t' : Transcript} {lossy : Prop}

/-- The same for a pass, which may end with an error. -/
def Ends (p : Pass α) (t : Transcript) (res : Except PassError α) : Prop := p.run.Ends t res

theorem Ends.of_bind {p : Pass α} {f : α → Pass β} {res : Except PassError β}
    (h : Pass.Ends (p >>= f) t res) :
    (∃ t₁ t₂ a, t = t₁ ++ t₂ ∧ p.Ends t₁ (.ok a) ∧ Pass.Ends (f a) t₂ res) ∨
      ∃ e, res = .error e ∧ p.Ends t (.error e) := by
  obtain ⟨t₁, t₂, (e | a), rfl, hp, hf⟩ := Program.Ends.of_bind h
  · cases hf
    rw [List.append_nil]
    exact .inr ⟨e, rfl, hp⟩
  · exact .inl ⟨t₁, t₂, a, rfl, hp, hf⟩

theorem Ends.of_ask_bind {r : Request} {f : r.Answer → Pass α} {res : Except PassError α}
    (h : Pass.Ends (ask r >>= f) t res) :
    ∃ answer t', t = ⟨r, answer⟩ :: t' ∧ Pass.Ends (f answer) t' res := by
  cases h with
  | ask answer after => exact ⟨answer, _, rfl, after⟩

theorem Ends.of_pure {a : α} {res : Except PassError α} (h : Pass.Ends (pure a) t res) :
    t = [] ∧ res = .ok a := by
  cases h
  exact ⟨rfl, rfl⟩

theorem Ends.of_throw {e : PassError} {res : Except PassError α}
    (h : Pass.Ends (throw e : Pass α) t res) : t = [] ∧ res = .error e := by
  cases h
  exact ⟨rfl, rfl⟩

/-! ## Accounts of passes -/

/-- A way to tell what happens in passes, and whether something is left out. -/
structure Account (tells : Prop → Transcript → Prop) : Prop where
  nil : ∀ {lossy}, tells lossy []
  append : ∀ {lossy t t'}, tells False t → tells lossy t' → tells lossy (t ++ t')
  mono : ∀ {lossy lossy' t}, (lossy → lossy') → tells lossy t → tells lossy' t

/-- The steps of the pass leave something out only if it fails. -/
def Told (tells : Prop → Transcript → Prop) (p : Pass α) : Prop :=
  ∀ t res, p.Ends t res → tells (∀ a, res ≠ .ok a) t

namespace Account

variable {tells : Prop → Transcript → Prop}

/-- A step that succeeded left nothing out, whatever comes of those after it. -/
theorem bind (account : Account tells) {p : Pass α} {f : α → Pass β} (hp : Told tells p)
    (hf : ∀ a, Told tells (f a)) : Told tells (p >>= f) := by
  intro t res h
  obtain ⟨t₁, t₂, a, rfl, hp', hf'⟩ | ⟨e, rfl, hp'⟩ := h.of_bind
  · exact account.append (account.mono (fun hne => absurd rfl (hne a)) (hp t₁ _ hp'))
      (hf a t₂ res hf')
  · exact account.mono (fun _ => nofun) (hp t _ hp')

theorem forM (account : Account tells) {γ : Type} {xs : List γ} {f : γ → Pass Unit}
    (hf : ∀ x, Told tells (f x)) : Told tells (xs.forM f) := by
  induction xs with
  | nil =>
    intro t res h
    obtain ⟨rfl, -⟩ := Ends.of_pure h
    exact account.nil
  | cons x xs ih => exact account.bind (hf x) fun _ => ih

theorem ownerOf (account : Account tells) (r : Resource) : Told tells (Pass.ownerOf r) := by
  intro t res h
  unfold Pass.ownerOf at h
  split at h <;> cases h <;> exact account.nil

end Account

/-! ## Creation by creation -/

/-- Right behind a creation of this kind, but for two reports, stands a write of its status that did
not fail. -/
def Noted (key : String) (k : OutputKind) (after : Transcript) : Prop :=
  ∃ m m' noted rest ns name outcome, Key.split? key = some (ns, name) ∧
    after = ⟨.tell m, ()⟩ :: ⟨.tell m', ()⟩ :: noted ++ rest ∧
    (persist ns name (.invalidate k)).Ends noted (.ok outcome)

/-- What happens in passes over a key. If they are `lossy`, the status may not be written after a
creation, and then the key is not sent. -/
inductive Course (key : String) (lossy : Prop) : Transcript → Prop where
  | nil : Course key lossy []
  | quiet {e : Exchange} {rest : Transcript} (quiet : e.Quiet) (more : Course key lossy rest) :
      Course key lossy (e :: rest)
  | kicked {k : OutputKind} {at' : String} {object stored : k.Object} {m m' : Signal}
      {noted rest : Transcript} {ns name : String} {outcome : StatusOutcome}
      (hkey : Key.split? key = some (ns, name))
      (hnoted : (persist ns name (.invalidate k)).Ends noted (.ok outcome))
      (more : Course key lossy rest) :
      Course key lossy (⟨.create k at' object, .ok stored⟩ :: ⟨.tell m, ()⟩ :: ⟨.tell m', ()⟩ ::
        (noted ++ ⟨.enqueue .drift key, ()⟩ :: rest))
  | dropped {k : OutputKind} {at' : String} {object stored : k.Object} {m m' : Signal}
      {noted rest : Transcript} {ns name : String} {e : Cluster.ClusterError} (hlossy : lossy)
      (hkey : Key.split? key = some (ns, name))
      (hnoted : (persist ns name (.invalidate k)).Ends noted (.error e))
      (more : Course key lossy rest) :
      Course key lossy (⟨.create k at' object, .ok stored⟩ :: ⟨.tell m, ()⟩ :: ⟨.tell m', ()⟩ ::
        (noted ++ rest))

theorem Course.append (h : Course key lossy t) (h' : Course key lossy t') :
    Course key lossy (t ++ t') := by
  induction h with
  | nil => exact h'
  | quiet hq _ ih => exact .quiet hq ih
  | kicked hkey hnoted _ ih =>
    simp only [List.cons_append, List.append_assoc]
    exact .kicked hkey hnoted ih
  | dropped hlossy hkey hnoted _ ih =>
    simp only [List.cons_append, List.append_assoc]
    exact .dropped hlossy hkey hnoted ih

theorem Course.mono {lossy' : Prop} (himp : lossy → lossy') (h : Course key lossy t) :
    Course key lossy' t := by
  induction h with
  | nil => exact .nil
  | quiet hq _ ih => exact .quiet hq ih
  | kicked hkey hnoted _ ih => exact .kicked hkey hnoted ih
  | dropped hlossy hkey hnoted _ ih => exact .dropped (himp hlossy) hkey hnoted ih

/-- Writing a status asks for nothing but the resource and the time, and says what it does. -/
theorem persist_all {P : Exchange → Prop} {ns name : String} {u : StatusUpdate}
    {result : Except Cluster.ClusterError StatusOutcome}
    (hread : ∀ ns name answer, P ⟨.getDeclaring ns name, answer⟩)
    (hwrite : ∀ r answer, P ⟨.updateStatus r, answer⟩) (hnow : ∀ answer, P ⟨.now, answer⟩)
    (htell : ∀ m answer, P ⟨.tell m, answer⟩) (h : (persist ns name u).Ends t result) :
    ∀ e ∈ t, P e := by
  intro e he
  obtain ⟨before, after, rfl⟩ := List.append_of_mem he
  have hasks := (guarded_persist ns name u).asked h.reach rfl
  obtain ⟨r, answer⟩ := e
  cases r with
  | getDeclaring => exact hread _ _ answer
  | updateStatus => exact hwrite _ answer
  | now => exact hnow answer
  | tell => exact htell _ answer
  | lookup | get | create | update | readVault | record | enqueue => exact hasks.2.2.elim

/-- Writing a status creates nothing and sends no key. -/
theorem persist_quiet {ns name : String} {u : StatusUpdate}
    {result : Except Cluster.ClusterError StatusOutcome}
    (h : (persist ns name u).Ends t result) : ∀ e ∈ t, e.Quiet :=
  persist_all (fun _ _ _ => ⟨rfl, rfl⟩) (fun _ _ => ⟨rfl, rfl⟩) (fun _ => ⟨rfl, rfl⟩)
    (fun _ _ => ⟨rfl, rfl⟩) h

theorem quiet_of_error {k : OutputKind} {ns : String} {object : k.Object}
    {e : Cluster.ClusterError} : (⟨.create k ns object, .error e⟩ : Exchange).Quiet := ⟨rfl, rfl⟩

theorem Course.of_quiet (h : ∀ e ∈ t, e.Quiet) : Course key lossy t := by
  induction t with
  | nil => exact .nil
  | cons e t ih =>
    exact .quiet (h e List.mem_cons_self) (ih fun e' he' => h e' (List.mem_cons_of_mem _ he'))

/-! ## A whole pass -/

theorem Ends.of_lift {p : Program α} {res : Except PassError α}
    (h : Pass.Ends (ExceptT.lift p : Pass α) t res) : ∃ a, res = .ok a ∧ p.Ends t a := by
  have hbind : (p >>= fun a => Program.done (Except.ok a)).Ends t res := h
  obtain ⟨t₁, t₂, a, rfl, hp, hdone⟩ := hbind.of_bind
  cases hdone
  rw [List.append_nil]
  exact ⟨a, rfl, hp⟩

theorem Ends.of_persistStatus {ns name : String} {u : StatusUpdate}
    {res : Except PassError StatusOutcome} (h : (persistStatus ns name u).Ends t res) :
    ∃ result, (persist ns name u).Ends t result ∧
      res = match result with
        | .ok outcome => .ok outcome
        | .error e => .error (.cluster e) := by
  unfold persistStatus at h
  obtain ⟨t₁, t₂, result, rfl, hlift, hcluster⟩ | ⟨e, -, hlift⟩ := h.of_bind
  · obtain ⟨_, he, hp⟩ := hlift.of_lift
    cases he
    refine ⟨result, ?_⟩
    cases result with
    | ok outcome =>
      obtain ⟨rfl, hres⟩ := Ends.of_pure hcluster
      rw [List.append_nil]
      exact ⟨hp, hres⟩
    | error e =>
      obtain ⟨rfl, hres⟩ := Ends.of_throw hcluster
      rw [List.append_nil]
      exact ⟨hp, hres⟩
  · obtain ⟨_, he, -⟩ := hlift.of_lift
    cases he

theorem Ends.of_splitKey_bind {f : String × String → Pass α} {res : Except PassError α}
    {parts : String × String} (hkey : Key.split? key = some parts)
    (h : Pass.Ends (splitKey key >>= f) t res) : Pass.Ends (f parts) t res := by
  have hsplit : splitKey key = pure parts := by
    unfold splitKey
    rw [hkey]
  rw [hsplit] at h
  exact h

/-- The check of the owner asks nothing, but it may say that the name of the output is taken. -/
theorem ensureOwned_all {P : Exchange → Prop} {r : Resource} {owner : Kube.OwnerReference}
    {m : Kube.ObjectMeta} {action : String} {res : Except PassError Unit}
    (htell : ∀ m answer, P ⟨.tell m, answer⟩)
    (hrecord : ∀ event answer, event.reason = Event.resourceExists → P ⟨.record event, answer⟩)
    (h : Pass.Ends (ensureOwned r owner k m action) t res) : ∀ e ∈ t, P e := by
  unfold ensureOwned at h
  split at h
  · obtain ⟨rfl, -⟩ := h.of_pure
    simp
  · obtain ⟨a₁, t₁, rfl, h₁⟩ := h.of_ask_bind
    obtain ⟨a₂, t₂, rfl, h₂⟩ := h₁.of_ask_bind
    obtain ⟨a₃, t₃, rfl, h₃⟩ := h₂.of_ask_bind
    obtain ⟨rfl, -⟩ := h₃.of_throw
    simp only [List.forall_mem_cons, List.not_mem_nil, false_implies, implies_true, and_true]
    exact ⟨htell _ a₁, htell _ a₂, hrecord _ a₃ rfl⟩

theorem quiet_ensureOwned {r : Resource} {owner : Kube.OwnerReference} {m : Kube.ObjectMeta}
    {action : String} {res : Except PassError Unit}
    (h : Pass.Ends (ensureOwned r owner k m action) t res) : ∀ e ∈ t, e.Quiet :=
  ensureOwned_all (fun _ _ => ⟨rfl, rfl⟩) (fun _ _ _ => ⟨rfl, rfl⟩) h

/-- Making sure of one output. -/
theorem course_ensure {r : Resource} {ns : String} {owner : Kube.OwnerReference} {name : String}
    {name' : String} (hkey : Key.split? key = some (ns, name')) :
    Told (Course key) (Structural.ensure r key ns owner k name) := by
  intro t res h
  unfold Structural.ensure at h
  obtain ⟨got, t₁, rfl, h₁⟩ := h.of_ask_bind
  refine .quiet ⟨rfl, rfl⟩ ?_
  cases got with
  | ok object => exact .of_quiet (quiet_ensureOwned h₁)
  | error e =>
    dsimp only at h₁
    split at h₁
    · obtain ⟨_, _, _, -, hthrow, -⟩ | ⟨_, -, hthrow⟩ := h₁.of_bind
      · cases hthrow
      · obtain ⟨rfl, -⟩ := hthrow.of_throw
        exact .nil
    · obtain ⟨created, t₂, rfl, h₂⟩ := h₁.of_ask_bind
      cases created with
      | error e =>
        obtain ⟨_, _, _, -, hthrow, -⟩ | ⟨_, -, hthrow⟩ := h₂.of_bind
        · cases hthrow
        · obtain ⟨rfl, -⟩ := hthrow.of_throw
          exact .quiet quiet_of_error .nil
      | ok stored =>
        obtain ⟨⟨⟩, t₃, rfl, h₃⟩ := Ends.of_ask_bind (r := .tell _) h₂
        obtain ⟨⟨⟩, t₄, rfl, h₄⟩ := h₃.of_ask_bind
        obtain ⟨noted, t₅, outcome, rfl, hnoted, h₅⟩ | ⟨e, rfl, hnoted⟩ :=
          (Ends.of_splitKey_bind hkey h₄).of_bind
        · obtain ⟨(e | outcome'), hpersist, hres⟩ := hnoted.of_persistStatus
          · cases hres
          · obtain ⟨⟨⟩, t₆, rfl, h₆⟩ := h₅.of_ask_bind
            exact .kicked hkey hpersist (.of_quiet (quiet_ensureOwned h₆))
        · obtain ⟨(e' | outcome), hpersist, hres⟩ := hnoted.of_persistStatus
          -- The pass ends here with the error of the status, and the key was not sent.
          · rw [← List.append_nil t₄]
            exact .dropped nofun hkey hpersist .nil
          · cases hres

theorem Course.account : Account (Course key) where
  nil := .nil
  append h h' := (h.mono False.elim).append h'
  mono := .mono

theorem course_ask {r : Request} (hr : ∀ answer, (⟨r, answer⟩ : Exchange).Quiet) :
    Told (Course key) (ask r) := by
  intro t res h
  cases h with
  | ask answer after =>
    cases after
    exact .quiet (hr answer) .nil

/-- A whole pass; if it succeeds, none of its creations is dropped. -/
theorem course_structural {res : Except PassError Unit} (h : (structural key).Ends t res) :
    Course key (∀ a, res ≠ .ok a) t := by
  cases hkey : Key.split? key with
  | none =>
    have hthrow : splitKey key = throw (.invalidKey key) := by
      unfold splitKey
      rw [hkey]
    unfold structural at h
    rw [hthrow] at h
    cases h
    exact .nil
  | some parts =>
    obtain ⟨ns, name⟩ := parts
    unfold Pass.Ends at h
    rw [structural_run hkey] at h
    cases h with
    | @ask _ _ found t _ after =>
      refine .quiet ⟨rfl, rfl⟩ ?_
      change Pass.Ends (Structural.after key ns found) t res at after
      unfold Structural.after at after
      split at after
      · exact course_ask (fun _ => ⟨rfl, rfl⟩) _ _ after
      · next r =>
        split at after
        · exact course_ask (fun _ => ⟨rfl, rfl⟩) _ _ after
        · exact Course.account.bind (Course.account.ownerOf r) (fun owner =>
            Course.account.bind (Course.account.forM fun d => course_ensure hkey)
              fun _ => course_ask fun _ => ⟨rfl, rfl⟩) _ _ after

/-! ## Kicks -/

/-- An exchange of a sort is not found among exchanges of other sorts. -/
theorem split_of_none {p : Exchange → Bool} {x rest before after : Transcript} {e : Exchange}
    (hx : ∀ e ∈ x, p e = false) (he : p e = true)
    (h : x ++ rest = before ++ e :: after) : ∃ before', rest = before' ++ e :: after := by
  induction x generalizing before with
  | nil => exact ⟨before, h⟩
  | cons e' x ih =>
    cases before with
    | nil =>
      obtain ⟨rfl, -⟩ := List.cons.inj h
      rw [hx _ List.mem_cons_self] at he
      cases he
    | cons e'' before =>
      exact ih (fun e he => hx e (List.mem_cons_of_mem _ he)) (List.cons.inj h).2

/-- Behind an exchange of a sort no other one is found before the exchanges of its own are over. -/
theorem split_of_first {p : Exchange → Bool} {x rest before after : Transcript} {e e' : Exchange}
    (hx : ∀ e ∈ x, p e = false) (he : p e = true)
    (h : e' :: (x ++ rest) = before ++ e :: after) :
    (before = [] ∧ e' = e ∧ x ++ rest = after) ∨ ∃ before', rest = before' ++ e :: after := by
  cases before with
  | nil =>
    obtain ⟨rfl, rfl⟩ := List.cons.inj h
    exact .inl ⟨rfl, rfl, rfl⟩
  | cons e'' before => exact .inr (split_of_none hx he (List.cons.inj h).2)

theorem mem_append_of_quiet {x rest : Transcript} (hx : ∀ e ∈ x, e.isEnqueue = false) :
    (⟨.enqueue .drift key, ()⟩ : Exchange) ∈ x ++ rest ↔
      (⟨.enqueue .drift key, ()⟩ : Exchange) ∈ rest := by
  refine List.mem_append.trans (or_iff_right fun hm => ?_)
  cases hx _ hm

/-- What stands between a creation and the sending of its key. -/
theorem quiet_noting {m m' : Signal} {noted : Transcript} (h : ∀ e ∈ noted, e.Quiet) :
    ∀ e ∈ (⟨.tell m, ()⟩ :: ⟨.tell m', ()⟩ :: noted : Transcript), e.Quiet := by
  intro e he
  rcases List.mem_cons.1 he with rfl | he
  · exact ⟨rfl, rfl⟩
  · rcases List.mem_cons.1 he with rfl | he
    · exact ⟨rfl, rfl⟩
    · exact h e he

/-- The status was not written for a creation if writing it failed. -/
theorem not_noted_of_error {m m' : Signal} {noted rest : Transcript} {ns name : String}
    {e : Cluster.ClusterError} (hkey : Key.split? key = some (ns, name))
    (h : (persist ns name (.invalidate k)).Ends noted (.error e)) :
    ¬ Noted key k (⟨.tell m, ()⟩ :: ⟨.tell m', ()⟩ :: (noted ++ rest)) := by
  rintro ⟨_, _, noted', rest', ns', name', outcome, hkey', hafter, hnoted⟩
  cases hkey.symm.trans hkey'
  simp only [List.cons_append, List.cons.injEq] at hafter
  obtain ⟨-, he⟩ := h.unique hnoted hafter.2.2
  cases he

/-- The key is sent in a course exactly if the status was written for one of its creations. -/
theorem Course.sent_iff (h : Course key lossy t) :
    (⟨.enqueue .drift key, ()⟩ : Exchange) ∈ t ↔
      ∃ before k ns object stored after, t = before ++ ⟨.create k ns object, .ok stored⟩ :: after ∧
        Noted key k after := by
  induction h with
  | nil => simp
  | @quiet e rest hq _ ih =>
    rw [← List.singleton_append, mem_append_of_quiet (by simpa using hq.2), ih]
    constructor
    · rintro ⟨before, k, ns, object, stored, after, rfl, hnoted⟩
      exact ⟨e :: before, k, ns, object, stored, after, rfl, hnoted⟩
    · rintro ⟨before, k, ns, object, stored, after, ht, hnoted⟩
      obtain ⟨before', rfl⟩ := split_of_none (p := Exchange.isCreation) (x := [e])
        (by simpa using hq.1) rfl ht
      exact ⟨before', k, ns, object, stored, after, rfl, hnoted⟩
  | @kicked k at' object stored m m' noted rest ns name outcome hkey hnoted _ _ =>
    refine iff_of_true (by simp) ⟨[], k, at', object, stored, _, rfl, ?_⟩
    exact ⟨m, m', noted, _, ns, name, outcome, hkey, rfl, hnoted⟩
  | @dropped k at' object stored m m' noted rest ns name e hlossy hkey hnoted _ ih =>
    have hquiet : ∀ e ∈ (⟨.tell m, ()⟩ :: ⟨.tell m', ()⟩ :: noted : Transcript), e.Quiet :=
      quiet_noting (persist_quiet hnoted)
    have hblock : ∀ e ∈ (⟨.create k at' object, .ok stored⟩ :: ⟨.tell m, ()⟩ :: ⟨.tell m', ()⟩ ::
        noted : Transcript), e.isEnqueue = false :=
      List.forall_mem_cons.2 ⟨rfl, fun e he => (hquiet e he).2⟩
    refine (mem_append_of_quiet hblock).trans (ih.trans ⟨?_, ?_⟩)
    · rintro ⟨before, k', ns', object', stored', after, rfl, hnoted'⟩
      exact ⟨⟨.create k at' object, .ok stored⟩ :: ⟨.tell m, ()⟩ :: ⟨.tell m', ()⟩ ::
        (noted ++ before), k', ns', object', stored', after, by simp, hnoted'⟩
    · rintro ⟨before, k', ns', object', stored', after, ht, hnoted'⟩
      rcases split_of_first (fun e he => (hquiet e he).1) rfl ht with
        ⟨-, he, rfl⟩ | ⟨before', rfl⟩
      · cases he
        exact absurd hnoted' (not_noted_of_error hkey hnoted)
      · exact ⟨before', k', ns', object', stored', after, rfl, hnoted'⟩

/-- A creation starts a course of its own. -/
theorem Course.of_creation (h : Course key lossy t) {before after : Transcript} {k : OutputKind}
    {ns : String} {object stored : k.Object}
    (ht : t = before ++ ⟨.create k ns object, .ok stored⟩ :: after) :
    Course key lossy (⟨.create k ns object, .ok stored⟩ :: after) := by
  induction h generalizing before with
  | nil => simp at ht
  | @quiet e rest hq _ ih =>
    obtain ⟨before', hrest⟩ := split_of_none (p := Exchange.isCreation) (x := [e])
      (by simpa using hq.1) rfl ht
    exact ih hrest
  | @kicked k' at' object' stored' m m' noted rest ns' name outcome hkey hnoted more ih =>
    have hquiet : ∀ e ∈ (⟨.tell m, ()⟩ :: ⟨.tell m', ()⟩ :: noted : Transcript), e.Quiet :=
      quiet_noting (persist_quiet hnoted)
    rcases split_of_first (fun e he => (hquiet e he).1) rfl ht with
      ⟨-, he, rfl⟩ | ⟨before', hrest⟩
    · rw [← he]
      exact .kicked hkey hnoted more
    · obtain ⟨before'', hrest'⟩ := split_of_none (p := Exchange.isCreation)
        (x := [⟨.enqueue .drift key, ()⟩]) (List.forall_mem_singleton.2 rfl) rfl hrest
      exact ih hrest'
  | @dropped k' at' object' stored' m m' noted rest ns' name e hlossy hkey hnoted more ih =>
    have hquiet : ∀ e ∈ (⟨.tell m, ()⟩ :: ⟨.tell m', ()⟩ :: noted : Transcript), e.Quiet :=
      quiet_noting (persist_quiet hnoted)
    rcases split_of_first (fun e he => (hquiet e he).1) rfl ht with
      ⟨-, he, rfl⟩ | ⟨before', hrest⟩
    · rw [← he]
      exact .dropped hlossy hkey hnoted more
    · exact ih hrest

/-- If no creation is dropped, the key is sent after each. -/
theorem Course.kick_of_not_lossy (hlossy : ¬ lossy) {k : OutputKind} {ns : String}
    {object stored : k.Object} {after : Transcript}
    (h : Course key lossy (⟨.create k ns object, .ok stored⟩ :: after)) :
    (⟨.enqueue .drift key, ()⟩ : Exchange) ∈ after := by
  cases h with
  | quiet hq => cases hq.1
  | kicked => simp
  | dropped hlossy' => exact absurd hlossy' hlossy

/-- Passes over a key that fail, up to the first one that succeeds. -/
inductive Series (key : String) : Transcript → Prop where
  | last {t : Transcript} (h : (structural key).Ends t (.ok ())) : Series key t
  | failed {t rest : Transcript} {e : PassError} (h : (structural key).Ends t (.error e))
      (more : Series key rest) : Series key (t ++ rest)

theorem Series.course (h : Series key t) : Course key True t := by
  induction h with
  | last h => exact (course_structural h).mono fun _ => trivial
  | failed h _ ih => exact ((course_structural h).mono fun _ => trivial).append ih

/-- A pass that creates an output and succeeds has sent the key after it. If it fails, then by the
time that a pass succeeds the key has been sent after the creation exactly if the status was written
for it, or for an output that was created later. -/
theorem kick_iff (key : String) :
    (∀ t before k ns object stored after, (structural key).Ends t (.ok ()) →
      t = before ++ ⟨.create k ns object, .ok stored⟩ :: after →
      (⟨.enqueue .drift key, ()⟩ : Exchange) ∈ after) ∧
    (∀ t before k ns object stored after, Series key t →
      t = before ++ ⟨.create k ns object, .ok stored⟩ :: after →
      ((⟨.enqueue .drift key, ()⟩ : Exchange) ∈ after ↔
        ∃ between k' ns' object' stored' after',
          ⟨.create k ns object, .ok stored⟩ :: after =
            between ++ ⟨.create k' ns' object', .ok stored'⟩ :: after' ∧
          Noted key k' after')) := by
  constructor
  · intro t before k ns object stored after hends ht
    have hcourse := (course_structural hends).of_creation ht
    exact hcourse.kick_of_not_lossy fun hne => hne () rfl
  · intro t before k ns object stored after hseries ht
    have hcourse := hseries.course.of_creation ht
    have hkick := hcourse.sent_iff
    rw [← List.singleton_append, mem_append_of_quiet (List.forall_mem_singleton.2 rfl)] at hkick
    exact hkick

/-- The Secret before it is filled. -/
def sampleSecret : Kube.Secret :=
  Structural.fresh Watch.app (Structural.outputMeta "prod" "login" Watch.appOwner) .secret

/-- The Secret is created, and then the API server cannot be reached. -/
def sampleLost : Transcript :=
  [⟨.tell (.count .outputsCreated "Secret"), ()⟩,
    ⟨.tell (.say .info .outputPass "Created output Secret"
      [.text "key" "prod/app", .text "secret" "login"]), ()⟩,
    ⟨.getDeclaring "prod" "app", .error .connection⟩]

/-- The pass that tries again finds the Secret. -/
def sampleAgain : Transcript :=
  [⟨.lookup "prod" "app", some Watch.app⟩,
    ⟨.get .secret "prod" "login", .ok sampleSecret⟩,
    ⟨.record ⟨Watch.app.reference, .normal, Event.synced, Event.reconcileOutput,
      "AzureKeyVaultSecret synced successfully"⟩, ()⟩]

/-- The first pass fails after the creation, the second one succeeds, and the key is not sent. -/
theorem kick_iff_lost : ∃ before,
    Series "prod/app"
      (before ++ ⟨.create .secret "prod" sampleSecret, .ok sampleSecret⟩ :: sampleLost ++
        sampleAgain) ∧
    (⟨.enqueue .drift "prod/app", ()⟩ : Exchange) ∉ sampleLost ++ sampleAgain ∧
    ¬ Noted "prod/app" .secret (sampleLost ++ sampleAgain) := by
  have hkey : Key.split? "prod/app" = some ("prod", "app") := by decide
  let before : Transcript := [⟨.lookup "prod" "app", some Watch.app⟩,
    ⟨.get .secret "prod" "login", .error (.notFound ⟨.secret, "prod", "login"⟩)⟩]
  have hfailed : (structural "prod/app").Ends
      (before ++ ⟨.create .secret "prod" sampleSecret, .ok sampleSecret⟩ :: sampleLost)
      (.error (.cluster .connection)) := by
    unfold Pass.Ends
    rw [structural_run hkey]
    exact .ask _ (.ask _ (.ask _ (.ask _ (.ask _ (.ask _ (.done _))))))
  have hagain : (structural "prod/app").Ends sampleAgain (.ok ()) := by
    unfold Pass.Ends
    rw [structural_run hkey]
    exact .ask _ (.ask _ (.ask _ (.done _)))
  have hseries := Series.failed hfailed (.last hagain)
  have hnone : (⟨.enqueue .drift "prod/app", ()⟩ : Exchange) ∉ sampleLost ++ sampleAgain := by
    have hquiet : ∀ e ∈ sampleLost ++ sampleAgain, e.isEnqueue = false := by
      simp [sampleLost, sampleAgain, Exchange.isEnqueue]
    exact fun hm => Bool.noConfusion (hquiet _ hm)
  refine ⟨before, hseries, hnone, fun hnoted => hnone ?_⟩
  have hsent := (kick_iff "prod/app").2 _ before .secret "prod" sampleSecret sampleSecret
    (sampleLost ++ sampleAgain) hseries (by simp)
  exact hsent.2 ⟨[], .secret, "prod", sampleSecret, sampleSecret, _, rfl, hnoted⟩

end Pass

end VaultProjection

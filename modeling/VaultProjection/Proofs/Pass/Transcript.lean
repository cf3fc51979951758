import VaultProjection.Proofs.Pass.Run

/-!
# What a pass asks, whatever is answered

A transcript lists the questions of a pass with their answers, the first one first. `Guarded` says
of a program that it never asks what its transcript so far does not allow, and that its result fits
the whole transcript, for every answer to every question: nothing is assumed of other writers,
failures or other passes. The rules follow the `do` block of a pass; `Guarded.reach` and
`Guarded.run` carry what is proved by them over to passes under way and to passes that have ended.
-/

namespace VaultProjection

/-- A question and its answer. -/
structure Exchange where
  request : Request
  answer : request.Answer

abbrev Transcript := List Exchange

namespace Transcript

variable {P : Transcript → Exchange → Prop} {t : Transcript} {e : Exchange}

/-- Every exchange fits what came before it. -/
def Always (P : Transcript → Exchange → Prop) (t : Transcript) : Prop :=
  ∀ before e after, t = before ++ e :: after → P before e

theorem always_nil : Always P [] := by
  intro before e after ht
  simp at ht

theorem Always.append (h : Always P t) (he : P t e) : Always P (t ++ [e]) := by
  intro before e' after ht
  rcases List.eq_nil_or_concat after with rfl | ⟨after', e'', rfl⟩
  · obtain ⟨rfl, hee⟩ := List.append_inj' ht rfl
    obtain rfl : e = e' := by simpa using hee
    exact he
  · have ht' : t ++ [e] = (before ++ e' :: after') ++ [e''] := by simpa using ht
    exact h before e' after' (List.append_inj' ht' rfl).1

end Transcript

namespace Program

variable {α β σ : Type} {ok : Transcript → Request → Prop} {post : α → Transcript → Prop}
  {p p' : Program α} {h t : Transcript}

/-- Whatever is answered, every question is allowed after what came before it, and the result fits
everything that came before. -/
def Guarded (ok : Transcript → Request → Prop) (post : α → Transcript → Prop) :
    Program α → Transcript → Prop
  | .done a, h => post a h
  | .ask r next, h => ok h r ∧ ∀ answer, (next answer).Guarded ok post (h ++ [⟨r, answer⟩])

/-- The program may have come to `p'` by these exchanges. -/
inductive Reach (p : Program α) : Transcript → Program α → Prop where
  | refl : Reach p [] p
  | step {t : Transcript} {r : Request} {next : r.Answer → Program α}
      (before : Reach p t (.ask r next)) (answer : r.Answer) :
      Reach p (t ++ [⟨r, answer⟩]) (next answer)

theorem Reach.eq_of_nil (hr : Reach p [] p') : p' = p := by
  generalize ht : ([] : Transcript) = t at hr
  cases hr with
  | refl => rfl
  | step => simp at ht

/-- The exchanges of a run. -/
def transcript (serve : (r : Request) → σ → r.Answer × σ) : Program α → σ → Transcript
  | .done _, _ => []
  | .ask r next, s =>
    ⟨r, (serve r s).1⟩ :: (next (serve r s).1).transcript serve (serve r s).2

/-! ## Rules -/

theorem Guarded.mono {ok' : Transcript → Request → Prop} {post' : α → Transcript → Prop}
    (hok : ∀ h r, ok h r → ok' h r) (hpost : ∀ a h, post a h → post' a h)
    (hp : p.Guarded ok post h) : p.Guarded ok' post' h := by
  induction p generalizing h with
  | done a => exact hpost a h hp
  | ask r next ih => exact ⟨hok h r hp.1, fun answer => ih answer (hp.2 answer)⟩

theorem Guarded.bind {f : α → Program β} {post : β → Transcript → Prop}
    (hp : p.Guarded ok (fun a h => (f a).Guarded ok post h) h) :
    (p >>= f).Guarded ok post h := by
  induction p generalizing h with
  | done a => exact hp
  | ask r next ih => exact ⟨hp.1, fun answer => ih answer (hp.2 answer)⟩

theorem guarded_question_bind {r : Request} {f : r.Answer → Program α} (hok : ok h r)
    (hf : ∀ answer, (f answer).Guarded ok post (h ++ [⟨r, answer⟩])) :
    (question r >>= f).Guarded ok post h := ⟨hok, hf⟩

/-! ## What they give -/

theorem Guarded.reach (hp : p.Guarded ok post h) (hr : Reach p t p') :
    p'.Guarded ok post (h ++ t) := by
  induction hr with
  | refl => rwa [List.append_nil]
  | step before answer ih =>
    rw [← List.append_assoc]
    exact ih.2 answer

/-- Every question on the way was allowed. -/
theorem Guarded.always (hp : p.Guarded ok post []) (hr : Reach p t p') :
    Transcript.Always (fun before e => ok before e.request) t := by
  induction hr with
  | refl => exact Transcript.always_nil
  | step before answer ih => exact ih.append (hp.reach before).1

theorem Guarded.asked (hp : p.Guarded ok post []) (hr : Reach p t p') {pre rest : Transcript}
    {e : Exchange} (ht : t = pre ++ e :: rest) : ok pre e.request :=
  hp.always hr pre e rest ht

/-- What a program asks on its own it asks as a part of another, after anything that came before;
there it keeps what each of its questions keeps. -/
theorem Guarded.within {ok' : Transcript → Request → Prop} {inv : Transcript → Prop}
    (before : Transcript) (hp : p.Guarded ok post h)
    (hstep : ∀ h r, inv (before ++ h) → ok h r →
      ok' (before ++ h) r ∧ ∀ answer, inv (before ++ h ++ [⟨r, answer⟩]))
    (hinv : inv (before ++ h)) : p.Guarded ok' (fun _ => inv) (before ++ h) := by
  induction p generalizing h with
  | done a => exact hinv
  | ask r next ih =>
    obtain ⟨hok, hnext⟩ := hstep h r hinv hp.1
    refine ⟨hok, fun answer => ?_⟩
    rw [List.append_assoc]
    exact ih answer (hp.2 answer) (by rw [← List.append_assoc]; exact hnext answer)

theorem Guarded.run (hp : p.Guarded ok post h) (serve : (r : Request) → σ → r.Answer × σ) (s : σ) :
    post (p.run serve s).1 (h ++ p.transcript serve s) := by
  induction p generalizing h s with
  | done a =>
    rw [transcript, List.append_nil]
    exact hp
  | ask r next ih =>
    have hnext := ih _ (hp.2 (serve r s).1) (serve r s).2
    rwa [List.append_assoc] at hnext

end Program

/-! ## Passes -/

namespace Pass

variable {α β : Type} {ok : Transcript → Request → Prop}
  {post : Except PassError α → Transcript → Prop} {h : Transcript}

/-- The same for a pass, which may end with an error. -/
def Guarded (ok : Transcript → Request → Prop) (post : Except PassError α → Transcript → Prop)
    (p : Pass α) (h : Transcript) : Prop := p.run.Guarded ok post h

theorem guarded_pure {a : α} (ha : post (.ok a) h) : (pure a : Pass α).Guarded ok post h := ha

theorem guarded_throw {e : PassError} (he : post (.error e) h) :
    (throw e : Pass α).Guarded ok post h := he

theorem Guarded.mono {p : Pass α} {post' : Except PassError α → Transcript → Prop}
    (hpost : ∀ a h, post a h → post' a h) (hp : p.Guarded ok post h) : p.Guarded ok post' h :=
  Program.Guarded.mono (fun _ _ => id) hpost hp

theorem Guarded.bind {p : Pass α} {f : α → Pass β} {post : Except PassError β → Transcript → Prop}
    (hp : p.Guarded ok (fun res h =>
      match res with
      | .ok a => (f a).Guarded ok post h
      | .error e => post (.error e) h) h) : (p >>= f).Guarded ok post h := by
  refine Program.Guarded.bind (Program.Guarded.mono (fun _ _ => id) ?_ hp)
  rintro (e | a) h hres
  · exact hres
  · exact hres

theorem guarded_ask_bind {r : Request} {f : r.Answer → Pass α} (hok : ok h r)
    (hf : ∀ answer, (f answer).Guarded ok post (h ++ [⟨r, answer⟩])) :
    (ask r >>= f).Guarded ok post h := ⟨hok, hf⟩

theorem guarded_tell_bind {m : Signal} {f : Unit → Pass α} (hok : ok h (.tell m))
    (hf : (f ()).Guarded ok post (h ++ [⟨.tell m, ()⟩])) : (tell m >>= f).Guarded ok post h :=
  ⟨hok, fun () => hf⟩

theorem guarded_splitKey {key : String}
    {post : Except PassError (String × String) → Transcript → Prop}
    (hok : ∀ parts, Key.split? key = some parts → post (.ok parts) h)
    (herror : ∀ e, post (.error e) h) : (splitKey key).Guarded ok post h := by
  unfold splitKey
  split
  · next parts hkey => exact guarded_pure (hok parts hkey)
  · exact guarded_throw (herror _)

theorem guarded_ownerOf {r : Resource}
    {post : Except PassError Kube.OwnerReference → Transcript → Prop}
    (hok : ∀ owner, r.ownerReference? = some owner → post (.ok owner) h)
    (herror : ∀ e, post (.error e) h) : (ownerOf r).Guarded ok post h := by
  unfold ownerOf
  split
  · next owner howner => exact guarded_pure (hok owner howner)
  · exact guarded_throw (herror _)

theorem guarded_lift {p : Program α} (hp : p.Guarded ok (fun a h => post (.ok a) h) h) :
    (ExceptT.lift p : Pass α).Guarded ok post h := by
  show Program.Guarded ok post (p >>= fun a => Program.done (Except.ok a)) h
  exact Program.Guarded.bind hp

theorem guarded_forM {γ : Type} {f : γ → Pass Unit}
    {post : Except PassError Unit → Transcript → Prop} {xs : List γ}
    (inv : List γ → Transcript → Prop)
    (hstep : ∀ x xs h, inv (x :: xs) h → (f x).Guarded ok (fun res h =>
      match res with
      | .ok () => inv xs h
      | .error e => post (.error e) h) h)
    (hend : ∀ h, inv [] h → post (.ok ()) h) (hinv : inv xs h) :
    (xs.forM f).Guarded ok post h := by
  induction xs generalizing h with
  | nil => exact guarded_pure (hend h hinv)
  | cons x xs ih =>
    refine Guarded.bind (Guarded.mono ?_ (hstep x xs h hinv))
    rintro (e | ⟨⟩) h hres
    · exact hres
    · exact ih hres

end Pass

end VaultProjection

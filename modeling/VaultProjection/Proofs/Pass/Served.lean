import VaultProjection.Proofs.Pass.Transcript

/-!
# What a pass does when it is served

`Does` follows a pass in surroundings that answer its questions: every question is an allowed one,
and the result fits the state in which the surroundings are left. Unlike `Guarded`, which holds
whatever is answered, it may use what is known of the surroundings. The rules follow the `do` block
of a pass; `Does.exec` and `Does.asked` say what they give of the whole run.
-/

namespace VaultProjection

variable {σ α β : Type} {serve : (r : Request) → σ → r.Answer × σ} {allowed : Request → Prop}
  {s : σ}

namespace Program

variable {post : α → σ → Prop} {p : Program α}

/-- The questions are allowed, and the result fits what the surroundings have become. -/
def Does (serve : (r : Request) → σ → r.Answer × σ) (allowed : Request → Prop)
    (post : α → σ → Prop) : Program α → σ → Prop
  | .done a, s => post a s
  | .ask r next, s => allowed r ∧ (next (serve r s).1).Does serve allowed post (serve r s).2

theorem Does.mono {post' : α → σ → Prop} (hpost : ∀ a s, post a s → post' a s)
    (hp : p.Does serve allowed post s) : p.Does serve allowed post' s := by
  induction p generalizing s with
  | done a => exact hpost a s hp
  | ask r next ih => exact ⟨hp.1, ih _ hp.2⟩

theorem Does.bind {f : α → Program β} {post : β → σ → Prop}
    (hp : p.Does serve allowed (fun a s => (f a).Does serve allowed post s) s) :
    (p >>= f).Does serve allowed post s := by
  induction p generalizing s with
  | done a => exact hp
  | ask r next ih => exact ⟨hp.1, ih _ hp.2⟩

theorem does_question_bind {r : Request} {f : r.Answer → Program α} (hr : allowed r)
    (hf : (f (serve r s).1).Does serve allowed post (serve r s).2) :
    (question r >>= f).Does serve allowed post s := ⟨hr, hf⟩

/-- It does not matter which time it is. -/
theorem does_now_bind {f : String → Program α} (hnow : allowed .now)
    (hf : ∀ now, (f now).Does serve allowed post (serve .now s).2) :
    (question .now >>= f).Does serve allowed post s := ⟨hnow, hf _⟩

theorem Does.run (hp : p.Does serve allowed post s) : post (p.run serve s).1 (p.run serve s).2 := by
  induction p generalizing s with
  | done a => exact hp
  | ask r next ih => exact ih _ hp.2

theorem Does.asked (hp : p.Does serve allowed post s) :
    ∀ e ∈ p.transcript serve s, allowed e.request := by
  induction p generalizing s with
  | done a => exact fun e he => absurd he List.not_mem_nil
  | ask r next ih =>
    intro e he
    rcases List.mem_cons.1 he with rfl | he
    · exact hp.1
    · exact ih _ hp.2 e he

end Program

namespace Pass

variable {post : Except PassError α → σ → Prop} {p : Pass α}

/-- The same for a pass, which may end with an error. -/
def Does (serve : (r : Request) → σ → r.Answer × σ) (allowed : Request → Prop)
    (post : Except PassError α → σ → Prop) (p : Pass α) (s : σ) : Prop :=
  p.run.Does serve allowed post s

theorem Does.exec (hp : p.Does serve allowed post s) :
    post (exec serve p s).1 (exec serve p s).2 := Program.Does.run hp

theorem Does.of_exec {res : Except PassError α} {s' : σ} (hp : p.Does serve allowed post s)
    (h : Pass.exec serve p s = (res, s')) : post res s' := by
  have hpost := hp.exec
  rwa [h] at hpost

theorem Does.asked (hp : p.Does serve allowed post s) :
    ∀ e ∈ p.run.transcript serve s, allowed e.request := Program.Does.asked hp

theorem does_pure {a : α} (ha : post (.ok a) s) : Does serve allowed post (pure a) s := ha

theorem does_throw {e : PassError} (he : post (.error e) s) :
    Does serve allowed post (throw e) s := he

theorem Does.mono {post' : Except PassError α → σ → Prop} (hpost : ∀ a s, post a s → post' a s)
    (hp : p.Does serve allowed post s) : p.Does serve allowed post' s :=
  Program.Does.mono hpost hp

theorem Does.bind {f : α → Pass β} {post : Except PassError β → σ → Prop}
    (hp : p.Does serve allowed (fun res s =>
      match res with
      | .ok a => (f a).Does serve allowed post s
      | .error e => post (.error e) s) s) : Does serve allowed post (p >>= f) s := by
  refine Program.Does.bind (Program.Does.mono ?_ hp)
  rintro (e | a) s hres
  · exact hres
  · exact hres

theorem does_ask_bind {r : Request} {f : r.Answer → Pass α} (hr : allowed r)
    (hf : (f (serve r s).1).Does serve allowed post (serve r s).2) :
    Does serve allowed post (ask r >>= f) s := ⟨hr, hf⟩

theorem does_tell {post : Except PassError Unit → σ → Prop} {m : Signal} (hm : allowed (.tell m))
    (hp : post (.ok ()) (serve (.tell m) s).2) : (tell m).Does serve allowed post s := ⟨hm, hp⟩

theorem does_tell_bind {m : Signal} {f : Unit → Pass α} (hm : allowed (.tell m))
    (hf : (f ()).Does serve allowed post (serve (.tell m) s).2) :
    Does serve allowed post (tell m >>= f) s := ⟨hm, hf⟩

theorem does_record {post : Except PassError Unit → σ → Prop} {object : Kube.ObjectReference}
    {severity : Severity} {reason action message : String}
    (he : allowed (.record ⟨object, severity, reason, action, message⟩))
    (hp : post (.ok ()) (serve (.record ⟨object, severity, reason, action, message⟩) s).2) :
    (record object severity reason action message).Does serve allowed post s := ⟨he, hp⟩

theorem does_lift {p : Program α} (hp : p.Does serve allowed (fun a s => post (.ok a) s) s) :
    Does serve allowed post (ExceptT.lift p) s := by
  show Program.Does serve allowed post (p >>= fun a => Program.done (Except.ok a)) s
  exact Program.Does.bind hp

-- A pass is followed by the rules alone, and never evaluated.
attribute [irreducible] Does

end Pass

end VaultProjection

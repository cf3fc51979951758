import VaultProjection.Pass.Drift

/-!
# Running a pass in given surroundings

`exec` runs a pass in surroundings that answer its questions one after the other. The rules take a
pass apart along its `do` block, so that a run is followed question by question.
-/

namespace VaultProjection

variable {σ α β : Type} {serve : (r : Request) → σ → r.Answer × σ} {s : σ}

namespace Program

instance : LawfulMonad Program := LawfulMonad.mk' Program
  (fun p => by
    induction p with
    | done a => rfl
    | ask r next ih => exact congrArg (Program.ask r) (funext ih))
  (fun _ _ => rfl)
  (fun p f g => by
    induction p with
    | done a => rfl
    | ask r next ih => exact congrArg (Program.ask r) (funext ih))

@[simp] theorem run_question_bind (r : Request) (f : r.Answer → Program β) :
    (question r >>= f).run serve s = (f (serve r s).1).run serve (serve r s).2 := rfl

theorem run_bind_of_run {p : Program α} {a : α} {s' : σ} (h : p.run serve s = (a, s'))
    (f : α → Program β) : (p >>= f).run serve s = (f a).run serve s' := by
  have hb : (p >>= f).run serve s = (f (p.run serve s).1).run serve (p.run serve s).2 :=
    run_bind serve p f s
  rw [hb, h]

end Program

namespace Pass

/-- How a pass ends, and what it leaves behind. -/
def exec (serve : (r : Request) → σ → r.Answer × σ) (p : Pass α) (s : σ) :
    Except PassError α × σ :=
  p.run.run serve s

@[simp] theorem exec_pure (a : α) : exec serve (pure a) s = (.ok a, s) := rfl

@[simp] theorem exec_ask_bind (r : Request) (f : r.Answer → Pass β) :
    exec serve (ask r >>= f) s = exec serve (f (serve r s).1) (serve r s).2 := rfl

@[simp] theorem exec_tell_bind (m : Signal) (f : Unit → Pass β) :
    exec serve (tell m >>= f) s = exec serve (f ()) (serve (.tell m) s).2 := rfl

@[simp] theorem exec_enqueue_bind (id : QueueId) (key : String) (f : Unit → Pass β) :
    exec serve ((do ask (.enqueue id key) : Pass Unit) >>= f) s =
      exec serve (f ()) (serve (.enqueue id key) s).2 := rfl

@[simp] theorem exec_lift (p : Program α) :
    exec serve (ExceptT.lift p : Pass α) s = (.ok (p.run serve s).1, (p.run serve s).2) := by
  exact Program.run_bind serve p _ s

theorem exec_bind (p : Pass α) (f : α → Pass β) :
    exec serve (p >>= f) s =
      match exec serve p s with
      | (.ok a, s') => exec serve (f a) s'
      | (.error e, s') => (.error e, s') := by
  have h : exec serve (p >>= f) s =
      (ExceptT.bindCont (fun a => (f a)) (p.run.run serve s).1).run serve (p.run.run serve s).2 :=
    Program.run_bind serve p.run _ s
  rw [h]
  simp only [exec]
  split
  · next h => rw [h]; rfl
  · next h => rw [h]; rfl

theorem exec_bind_ok {p : Pass α} {a : α} {s' : σ} (h : exec serve p s = (.ok a, s'))
    (f : α → Pass β) : exec serve (p >>= f) s = exec serve (f a) s' := by
  rw [exec_bind, h]

theorem exec_bind_error {p : Pass α} {e : PassError} {s' : σ}
    (h : exec serve p s = (.error e, s')) (f : α → Pass β) :
    exec serve (p >>= f) s = (.error e, s') := by
  rw [exec_bind, h]

theorem exec_ownerOf {r : Resource} {owner : Kube.OwnerReference}
    (h : r.ownerReference? = some owner) : exec serve (ownerOf r) s = (.ok owner, s) := by
  simp [ownerOf, h]

theorem exec_splitKey {key ns name : String} (h : Key.split? key = some (ns, name)) :
    exec serve (splitKey key) s = (.ok (ns, name), s) := by
  simp [splitKey, h]

end Pass

end VaultProjection

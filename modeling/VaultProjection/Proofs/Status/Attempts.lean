import VaultProjection.Pass.Status
import VaultProjection.Proofs.Pass.Transcript

/-!
# The attempts to write a status

A change of a status is written in attempts. Whatever is answered, each of them sends a copy that it
read itself, with the change, and it is made only if all writes before it lost against others.

Results:
1. `guarded_persist`: every question is one that `Asks` allows, and the outcome fits what was
   accepted.
2. `guarded_persistStatus_of`: in a pass, what each of these questions keeps is kept.
3. `persist_ended`, `persist_asked`, `persist_bounded`, `persist_write`: the same about calls under
   way.
-/

namespace VaultProjection

/-! ## Changes of a status -/

namespace StatusUpdate

/-- The kind of output whose group of the status a change is about. -/
def kind : StatusUpdate → OutputKind
  | .record k _ _ | .invalidate k => k

/-- A change leaves the group of the other kind alone. -/
theorem apply_other {u : StatusUpdate} {k : OutputKind} (h : k ≠ u.kind) (s : Status)
    (now : String) : (u.apply s now).outputName k = s.outputName k ∧
      (u.apply s now).outputHash k = s.outputHash k := by
  rcases u with ⟨k', name, d⟩ | k' <;> cases k' <;> cases k <;>
    simp_all [kind, apply, Status.outputName, Status.outputHash]

end StatusUpdate

/-! ## Writes of a status -/

namespace Exchange

/-- A status was sent. -/
def isStatusWrite : Exchange → Bool
  | ⟨.updateStatus _, _⟩ => true
  | _ => false

/-- A status was sent and is now the stored one. -/
def isAccepted : Exchange → Bool
  | ⟨.updateStatus _, .ok _⟩ => true
  | _ => false

/-- A status was sent, and another writer was faster. -/
def isConflict : Exchange → Bool
  | ⟨.updateStatus _, .error e⟩ => e.isConflict
  | _ => false

theorem not_isAccepted_of_isConflict {e : Exchange} (h : e.isConflict = true) :
    e.isAccepted = false := by
  unfold isConflict at h
  split at h
  · rfl
  · cases h

theorem isStatusWrite_of_isAccepted {e : Exchange} (h : e.isAccepted = true) :
    e.isStatusWrite = true := by
  unfold isAccepted at h
  split at h
  · rfl
  · cases h

end Exchange

namespace Transcript

/-- How often a status was sent. -/
def writes (t : Transcript) : Nat := t.countP (·.isStatusWrite)

/-- How often a status was sent and accepted. -/
def accepted (t : Transcript) : Nat := t.countP (·.isAccepted)

/-- All writes lost against others. -/
def Lost (t : Transcript) : Prop := ∀ e ∈ t, e.isStatusWrite = true → e.isConflict = true

theorem Lost.accepted {t : Transcript} (h : t.Lost) : t.accepted = 0 := by
  refine List.countP_eq_zero.2 fun e he haccepted => ?_
  have hconflict := h e he (Exchange.isStatusWrite_of_isAccepted haccepted)
  rw [Exchange.not_isAccepted_of_isConflict hconflict] at haccepted
  cases haccepted

theorem Lost.append {t : Transcript} (h : t.Lost) {e : Exchange}
    (he : e.isStatusWrite = true → e.isConflict = true) : Transcript.Lost (t ++ [e]) := by
  intro e' he'
  rcases List.mem_append.1 he' with hm | hm
  · exact h e' hm
  · rwa [List.mem_singleton.1 hm]

theorem lost_nil : Transcript.Lost [] := fun _ he => absurd he List.not_mem_nil

theorem writes_append (t : Transcript) (e : Exchange) :
    Transcript.writes (t ++ [e]) = t.writes + if e.isStatusWrite then 1 else 0 := by
  simp [writes, List.countP_append, List.countP_cons]

theorem accepted_append (t : Transcript) (e : Exchange) :
    Transcript.accepted (t ++ [e]) = t.accepted + if e.isAccepted then 1 else 0 := by
  simp [accepted, List.countP_append, List.countP_cons]

end Transcript

namespace Pass

variable {ns name : String} {u : StatusUpdate} {t : Transcript}

/-! ## What is asked -/

/-- What is sent is the copy that was read just now, with the change at the time that was told. -/
def Fresh (ns name : String) (u : StatusUpdate) (t : Transcript) (r : Resource) : Prop :=
  ∃ (before : Transcript) (fresh : Resource) (now : String),
    t = before ++ [⟨.getDeclaring ns name, .ok fresh⟩, ⟨.now, now⟩] ∧
    r = { fresh with status := some (u.apply (fresh.status.getD .empty) now) }

/-- The most exchanges that an attempt has. -/
def attemptLength : Nat := 5

/-- A status is sent only after all earlier writes lost, and not too often; nothing but the resource
and the time is asked for. -/
def Asks (ns name : String) (u : StatusUpdate) (t : Transcript) (request : Request) : Prop :=
  t.length < attemptLength * statusAttempts ∧ t.writes ≤ statusAttempts ∧
    match request with
    | .updateStatus r => Fresh ns name u t r ∧ t.Lost ∧ t.writes < statusAttempts
    | .getDeclaring ns' name' => ns' = ns ∧ name' = name
    | .now | .tell _ => True
    | _ => False

/-- One write was accepted if the outcome says so, and none otherwise. -/
def Reports (result : Except Cluster.ClusterError StatusOutcome) (t : Transcript) : Prop :=
  t.length ≤ attemptLength * statusAttempts ∧ t.writes ≤ statusAttempts ∧
    (result = .ok .written → t.accepted = 1) ∧ (result ≠ .ok .written → t.accepted = 0)

/-- `n` attempts were made and lost, and the next one has come so far. -/
structure LostAttempts (n step : Nat) (t : Transcript) : Prop where
  lost : t.Lost
  writes : t.writes = n
  length : t.length ≤ attemptLength * n + step

variable {n step : Nat}

/-- What is no write counts as a step. -/
theorem LostAttempts.append (h : LostAttempts n step t) {e : Exchange}
    (he : e.isStatusWrite = false) : LostAttempts n (step + 1) (t ++ [e]) where
  lost := h.lost.append (by simp [he])
  writes := by simp [Transcript.writes_append, he, h.writes]
  length := by
    have hlength := h.length
    rw [List.length_append, List.length_singleton]
    omega

theorem LostAttempts.room (h : LostAttempts n step t) (hn : n < statusAttempts)
    (hstep : step < attemptLength) :
    t.length < attemptLength * statusAttempts ∧ t.writes ≤ statusAttempts := by
  have hlength := h.length
  have hwrites := h.writes
  unfold attemptLength statusAttempts at *
  omega

/-- A call that wrote nothing may end at any step. -/
theorem LostAttempts.reports (h : LostAttempts n step t) (hn : n < statusAttempts)
    (hstep : step < attemptLength) {result : Except Cluster.ClusterError StatusOutcome}
    (hr : result ≠ .ok .written) : Reports result t :=
  ⟨Nat.le_of_lt (h.room hn hstep).1, (h.room hn hstep).2, fun he => absurd he hr,
    fun _ => h.lost.accepted⟩

/-- A write was sent in the attempt after `n` lost ones. -/
theorem LostAttempts.sent (h : LostAttempts n 2 t) {r : Resource}
    (written : Except Cluster.ClusterError Resource) :
    Transcript.writes (t ++ [⟨.updateStatus r, written⟩]) = n + 1 ∧
      Transcript.accepted (t ++ [⟨.updateStatus r, written⟩]) = (if written.isOk then 1 else 0) ∧
      (t ++ [(⟨.updateStatus r, written⟩ : Exchange)]).length ≤ attemptLength * n + 3 := by
  refine ⟨?_, ?_, ?_⟩
  · rw [Transcript.writes_append, h.writes]
    rfl
  · rw [Transcript.accepted_append, h.lost.accepted]
    cases written <;> rfl
  · have hlength := h.length
    rw [List.length_append, List.length_singleton]
    omega

/-- The second half of an attempt: the status is sent. -/
def send (ns name : String) (u : StatusUpdate) (r : Resource) : Program Attempt := do
  match ← Program.question (.updateStatus r) with
  | .ok _ =>
    Program.question (.tell (.say .debug .status "Status updated"
      [.text "namespace" ns, .text "name" name, .text "update" u.debugText]))
    return .finished (.ok .written)
  | .error e =>
    if e.isNotFound then return .finished (.ok .gone)
    if !e.isConflict then return .finished (.error e)
    Program.question (.tell (.count .statusConflicts ""))
    return .lost e

theorem attempt_eq (ns name : String) (u : StatusUpdate) : attempt ns name u = (do
    match ← Program.question (.getDeclaring ns name) with
    | .error e => return .finished (if e.isNotFound then .ok .gone else .error e)
    | .ok fresh =>
      let current := fresh.status.getD .empty
      let desired := u.apply current (← Program.question .now)
      if current.sameGroups desired then return .finished (.ok .unchanged)
      send ns name u { fresh with status := some desired }) := by
  unfold attempt
  refine bind_congr fun answer => ?_
  cases answer with
  | error e => rfl
  | ok fresh =>
    refine bind_congr fun now => ?_
    dsimp only
    split
    · rfl
    · unfold send
      refine bind_congr fun answer => ?_
      cases answer <;> rfl

/-- After `n` lost ones, an attempt ends the call, or it loses like all before it. -/
def Attempted (n : Nat) : Attempt → Transcript → Prop
  | .finished result, t => Reports result t
  | .lost _, t => t.Lost ∧ t.writes = n + 1 ∧ t.length < attemptLength * (n + 1)

theorem send_asks {r : Resource} (h : LostAttempts n 2 t) (hn : n < statusAttempts)
    (hfresh : Fresh ns name u t r) :
    (send ns name u r).Guarded (Asks ns name u) (Attempted n) t := by
  have hbound : attemptLength * (n + 1) ≤ attemptLength * statusAttempts :=
    Nat.mul_le_mul_left _ hn
  have hnext : attemptLength * n + 5 = attemptLength * (n + 1) := rfl
  obtain ⟨hroom, hless⟩ := h.room hn (by decide)
  unfold send
  refine Program.guarded_question_bind ⟨hroom, hless, hfresh, h.lost, h.writes ▸ hn⟩
    fun written => ?_
  obtain ⟨hwrites, haccepted, hlength⟩ := h.sent (r := r) written
  cases written with
  | ok stored =>
    refine ⟨⟨by omega, hwrites ▸ hn, trivial⟩, fun _ => ⟨?_, ?_, ?_, by simp⟩⟩
    · rw [List.length_append, List.length_singleton]
      omega
    · rw [Transcript.writes_append, hwrites]
      exact hn
    · intro _
      rw [Transcript.accepted_append, haccepted]
      rfl
  | error e =>
    have hreports : ∀ result, result ≠ .ok .written → Reports result _ := fun result hr =>
      ⟨by omega, hwrites ▸ hn, fun he => absurd he hr, fun _ => haccepted⟩
    dsimp only
    split
    · exact hreports _ (by simp)
    · split
      · exact hreports _ (by simp)
      · next hconflict =>
        -- Only here the attempt is lost: the one write since the last attempt was a conflict.
        have hlost := h.lost.append (e := ⟨.updateStatus r, .error e⟩)
          fun _ => by simpa [Exchange.isConflict] using hconflict
        refine ⟨⟨by omega, hwrites ▸ hn, trivial⟩, fun _ => ⟨hlost.append nofun, ?_, ?_⟩⟩
        · rw [Transcript.writes_append, hwrites]
          rfl
        · rw [List.length_append, List.length_singleton]
          omega

theorem attempt_asks (h : LostAttempts n 0 t) (hn : n < statusAttempts) :
    (attempt ns name u).Guarded (Asks ns name u) (Attempted n) t := by
  rw [attempt_eq]
  obtain ⟨hroom, hless⟩ := h.room hn (by decide)
  refine Program.guarded_question_bind ⟨hroom, hless, rfl, rfl⟩ fun answer => ?_
  have h₁ := h.append (e := ⟨.getDeclaring ns name, answer⟩) rfl
  cases answer with
  | error e =>
    refine h₁.reports hn (by decide) ?_
    split <;> simp
  | ok fresh =>
    obtain ⟨hroom₁, hless₁⟩ := h₁.room hn (by decide)
    refine Program.guarded_question_bind ⟨hroom₁, hless₁, trivial⟩ fun now => ?_
    have h₂ := h₁.append (e := ⟨.now, now⟩) rfl
    dsimp only
    split
    · exact h₂.reports hn (by decide) (by simp)
    · exact send_asks h₂ hn ⟨t, fresh, now, by simp, rfl⟩

/-- After `n` lost attempts there are `more + 1` to come. -/
theorem persistFrom_asks (number more : Nat) (h : LostAttempts n 0 t)
    (hn : n + more + 1 = statusAttempts) :
    (persistFrom ns name u number more).Guarded (Asks ns name u) Reports t := by
  induction more generalizing n number t with
  | zero =>
    refine Program.Guarded.bind ((attempt_asks h (by omega)).mono (fun _ _ => id) ?_)
    rintro (result | e) t' h'
    · exact h'
    · obtain ⟨hlost, hwrites, hlength⟩ := h'
      have hbound : attemptLength * (n + 1) ≤ attemptLength * statusAttempts :=
        Nat.mul_le_mul_left _ (by omega)
      refine ⟨by omega, ?_, by simp, fun _ => hlost.accepted⟩
      rw [hwrites]
      omega
  | succ more ih =>
    refine Program.Guarded.bind ((attempt_asks h (by omega)).mono (fun _ _ => id) ?_)
    rintro (result | e) t' h'
    · exact h'
    · obtain ⟨hlost, hwrites, hlength⟩ := h'
      have hbound : attemptLength * (n + 1) ≤ attemptLength * statusAttempts :=
        Nat.mul_le_mul_left _ (by omega)
      refine Program.guarded_question_bind ⟨by omega, hwrites ▸ by omega, trivial⟩ fun answer => ?_
      have hnext : LostAttempts (n + 1) 0 (t' ++ [⟨.tell _, answer⟩]) := by
        refine ⟨hlost.append nofun, ?_, ?_⟩
        · rw [Transcript.writes_append, hwrites]
          rfl
        · rw [List.length_append, List.length_singleton]
          omega
      exact ih (number + 1) hnext (by omega)

/-! ## Calls under way -/

/-- Whatever is answered, every question is allowed and the outcome tells what was accepted. -/
theorem guarded_persist (ns name : String) (u : StatusUpdate) :
    (persist ns name u).Guarded (Asks ns name u) Reports [] :=
  persistFrom_asks 1 (statusAttempts - 1) ⟨Transcript.lost_nil, rfl, Nat.zero_le _⟩ rfl

/-- What the attempts ask, after what came before the call as well. -/
def Sends (ns name : String) (u : StatusUpdate) (t : Transcript) : Request → Prop
  | .updateStatus r => Fresh ns name u t r
  | .getDeclaring ns' name' => ns' = ns ∧ name' = name
  | .now | .tell _ => True
  | .lookup .. | .get .. | .create .. | .update .. | .readVault .. | .record _ | .enqueue .. =>
    False

theorem Asks.sends {request : Request} (h : Asks ns name u t request) (before : Transcript) :
    Sends ns name u (before ++ t) request := by
  obtain ⟨-, -, hasks⟩ := h
  cases request with
  | updateStatus r =>
    obtain ⟨⟨pre, fresh, now, rfl, hr⟩, -⟩ := hasks
    exact ⟨before ++ pre, fresh, now, (List.append_assoc ..).symm, hr⟩
  | getDeclaring | now | tell => exact hasks
  | lookup | get | create | update | readVault | record | enqueue => exact hasks.elim

/-- A step of a pass that writes a status keeps what each of its questions keeps. -/
theorem guarded_persistStatus_of {ok : Transcript → Request → Prop} {inv : Transcript → Prop}
    (hstep : ∀ t request, inv t → Sends ns name u t request →
      ok t request ∧ ∀ answer, inv (t ++ [⟨request, answer⟩]))
    (h : inv t) : (persistStatus ns name u).Guarded ok (fun _ => inv) t := by
  have hpersist : (persist ns name u).Guarded ok (fun _ => inv) t := by
    have hwithin := (guarded_persist ns name u).within t
      (fun own request hinv hasks => hstep _ request hinv (hasks.sends t)) (by simpa using h)
    rwa [List.append_nil] at hwithin
  refine Guarded.bind (guarded_lift (hpersist.mono (fun _ _ => id) ?_))
  rintro (e | outcome) t' h' <;> exact h'

theorem persist_ended {result : Except Cluster.ClusterError StatusOutcome}
    (hr : Program.Reach (persist ns name u) t (.done result)) : Reports result t := by
  have hreports := (guarded_persist ns name u).reach hr
  rwa [List.nil_append] at hreports

theorem persist_asked {request : Request}
    {next : request.Answer → Program (Except Cluster.ClusterError StatusOutcome)}
    (hr : Program.Reach (persist ns name u) t (.ask request next)) : Asks ns name u t request := by
  have hasks := ((guarded_persist ns name u).reach hr).1
  rwa [List.nil_append] at hasks

/-- A call comes to an end, after so many writes at most. -/
theorem persist_bounded {p : Program (Except Cluster.ClusterError StatusOutcome)}
    (hr : Program.Reach (persist ns name u) t p) :
    t.length ≤ attemptLength * statusAttempts ∧ t.writes ≤ statusAttempts := by
  cases p with
  | done result => exact ⟨(persist_ended hr).1, (persist_ended hr).2.1⟩
  | ask request next => exact ⟨Nat.le_of_lt (persist_asked hr).1, (persist_asked hr).2.1⟩

/-- Every write was sent right after a read, and after others only if those lost. -/
theorem persist_write {p : Program (Except Cluster.ClusterError StatusOutcome)}
    (hr : Program.Reach (persist ns name u) t p) {before after : Transcript} {r : Resource}
    {written : Except Cluster.ClusterError Resource}
    (ht : t = before ++ ⟨.updateStatus r, written⟩ :: after) :
    Fresh ns name u before r ∧ before.Lost := by
  obtain ⟨-, -, hfresh, hlost, -⟩ := (guarded_persist ns name u).asked hr ht
  exact ⟨hfresh, hlost⟩

end Pass

end VaultProjection

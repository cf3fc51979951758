import Mathlib
import VaultProjection.Proofs.Pass.Kick

/-!
# The events about rewritten outputs

A drift pass that rewrites an output says so in an event on the resource, but only after the status
is written. If that fails, the pass ends in between. The pass that tries again finds the content as
it should be, so it has nothing to rewrite and says nothing.

Results:
1. `trail_drift`: what a whole pass does, rewrite by rewrite.
2. `Trail.counts`: a pass has one event for each rewrite, but none for a rewrite at which it was cut
   short.
3. `audit_iff`: passes over a key, up to one that succeeds, have as many events as rewrites exactly
   if none of them was cut short.
-/

namespace VaultProjection

namespace Exchange

/-- The content of an output of the kind was rewritten. -/
def isRewrite (k : OutputKind) : Exchange → Bool
  | ⟨.update k' .., .ok _⟩ => k' = k
  | _ => false

/-- An event on the object says that an output of the kind was rewritten. -/
def isNotice (k : OutputKind) (on : Kube.ObjectReference) : Exchange → Bool
  | ⟨.record event, _⟩ => event.reason = Pass.Drift.updatedReason k ∧ event.object = on
  | _ => false

/-- Neither a rewrite nor an event about one. -/
def Plain (e : Exchange) : Prop := ∀ k, e.isRewrite k = false ∧ ∀ on, e.isNotice k on = false

@[simp] theorem isRewrite_update (k : OutputKind) {k' : OutputKind} {ns : String}
    {object stored : k'.Object} :
    (⟨.update k' ns object, .ok stored⟩ : Exchange).isRewrite k = decide (k' = k) := rfl

theorem plain_record {event : Event} {answer : Request.Answer (.record event)}
    (h : ∀ k, event.reason ≠ Pass.Drift.updatedReason k) :
    (⟨.record event, answer⟩ : Exchange).Plain :=
  fun k => ⟨rfl, fun _ => decide_eq_false fun hboth => h k hboth.1⟩

end Exchange

namespace Transcript

/-- The resource that the pass found in the cache. -/
def found? : Transcript → Option Resource
  | ⟨.lookup .., found⟩ :: _ => found
  | _ => none

/-- How many times the content of an output of the kind was rewritten. -/
def rewrites (k : OutputKind) (t : Transcript) : Nat := t.countP (·.isRewrite k)

/-- How many events on the object say so. -/
def noticesOn (k : OutputKind) (on : Kube.ObjectReference) (t : Transcript) : Nat :=
  t.countP (·.isNotice k on)

/-- How many events on the resource of the pass say so. -/
def notices (k : OutputKind) (t : Transcript) : Nat :=
  (t.found?.map fun r => t.noticesOn k r.reference).getD 0

end Transcript

namespace Pass

open Transcript (rewrites noticesOn notices)

variable {α β : Type} {key : String} {k : OutputKind} {on : Kube.ObjectReference}
  {t t' x : Transcript} {cut : Prop}

/-! ## Rewrite by rewrite -/

/-- What happens in a pass whose events are on this object. If it is `cut`, it may end because the
status cannot be written after a rewrite, and then there is no event about it. -/
inductive Trail (key : String) (on : Kube.ObjectReference) (cut : Prop) : Transcript → Prop where
  | nil : Trail key on cut []
  | plain {e : Exchange} {rest : Transcript} (plain : e.Plain) (more : Trail key on cut rest) :
      Trail key on cut (e :: rest)
  | noticed {k : OutputKind} {at' : String} {object stored : k.Object} {m m' : Signal}
      {noted rest : Transcript} {ns name output : String} {digest : Digest k}
      {outcome : StatusOutcome} {event : Event} (hkey : Key.split? key = some (ns, name))
      (hnoted : (persist ns name (.record k output digest)).Ends noted (.ok outcome))
      (hreason : event.reason = Drift.updatedReason k) (hobject : event.object = on)
      (more : Trail key on cut rest) :
      Trail key on cut (⟨.update k at' object, .ok stored⟩ :: ⟨.tell m, ()⟩ :: ⟨.tell m', ()⟩ ::
        (noted ++ ⟨.record event, ()⟩ :: rest))
  | broken {k : OutputKind} {at' : String} {object stored : k.Object} {m m' : Signal}
      {noted : Transcript} {ns name output : String} {digest : Digest k}
      {e : Cluster.ClusterError} (hcut : cut) (hkey : Key.split? key = some (ns, name))
      (hnoted : (persist ns name (.record k output digest)).Ends noted (.error e)) :
      Trail key on cut (⟨.update k at' object, .ok stored⟩ :: ⟨.tell m, ()⟩ :: ⟨.tell m', ()⟩ ::
        noted)

theorem Trail.append (h : Trail key on False t) (h' : Trail key on cut t') :
    Trail key on cut (t ++ t') := by
  induction h with
  | nil => exact h'
  | plain hp _ ih => exact .plain hp ih
  | noticed hkey hnoted hreason hobject _ ih =>
    simp only [List.cons_append, List.append_assoc]
    exact .noticed hkey hnoted hreason hobject ih
  | broken hcut => exact hcut.elim

theorem Trail.mono {cut' : Prop} (himp : cut → cut') (h : Trail key on cut t) :
    Trail key on cut' t := by
  induction h with
  | nil => exact .nil
  | plain hp _ ih => exact .plain hp ih
  | noticed hkey hnoted hreason hobject _ ih => exact .noticed hkey hnoted hreason hobject ih
  | broken hcut hkey hnoted => exact .broken (himp hcut) hkey hnoted

theorem Trail.account : Account (Trail key on) where
  nil := .nil
  append := .append
  mono := .mono

theorem Trail.of_plain (h : ∀ e ∈ t, e.Plain) : Trail key on cut t := by
  induction t with
  | nil => exact .nil
  | cons e t ih =>
    exact .plain (h e List.mem_cons_self) (ih fun e' he' => h e' (List.mem_cons_of_mem _ he'))

theorem plain_persist {ns name : String} {u : StatusUpdate}
    {result : Except Cluster.ClusterError StatusOutcome}
    (h : (persist ns name u).Ends t result) : ∀ e ∈ t, e.Plain :=
  persist_all (fun _ _ _ _ => ⟨rfl, fun _ => rfl⟩) (fun _ _ _ => ⟨rfl, fun _ => rfl⟩)
    (fun _ _ => ⟨rfl, fun _ => rfl⟩) (fun _ _ _ => ⟨rfl, fun _ => rfl⟩) h

theorem plain_ensureOwned {r : Resource} {owner : Kube.OwnerReference} {m : Kube.ObjectMeta}
    {action : String} {res : Except PassError Unit}
    (h : Pass.Ends (ensureOwned r owner k m action) t res) : ∀ e ∈ t, e.Plain := by
  refine ensureOwned_all (fun _ _ _ => ⟨rfl, fun _ => rfl⟩) (fun event _ hreason => ?_) h
  refine Exchange.plain_record fun k hk => ?_
  rw [hreason] at hk
  cases k <;> exact absurd hk (by decide)

/-! ## A whole pass -/

theorem trail_ask {r : Request} (hr : ∀ answer, (⟨r, answer⟩ : Exchange).Plain) :
    Told (Trail key on) (ask r) := by
  intro t res h
  cases h with
  | ask answer after =>
    cases after
    exact .plain (hr answer) .nil

theorem trail_ask_bind {r : Request} {f : r.Answer → Pass α}
    (hr : ∀ answer, (⟨r, answer⟩ : Exchange).Plain)
    (hf : ∀ answer, Told (Trail key on) (f answer)) :
    Told (Trail key on) (ask r >>= f) := by
  intro t res h
  obtain ⟨answer, t', rfl, h'⟩ := h.of_ask_bind
  exact .plain (hr answer) (hf answer t' res h')

theorem trail_pure (a : α) : Told (Trail key on) (pure a : Pass α) := by
  intro t res h
  obtain ⟨rfl, -⟩ := h.of_pure
  exact .nil

theorem trail_throw (e : PassError) : Told (Trail key on) (throw e : Pass α) := by
  intro t res h
  obtain ⟨rfl, -⟩ := h.of_throw
  exact .nil

theorem trail_failProjection (r : Resource) (e : ProjectionError) :
    Told (Trail key on) (Drift.failProjection r e : Pass α) := by
  refine trail_ask_bind (fun _ => Exchange.plain_record fun k hk => ?_) fun _ => trail_throw _
  dsimp only at hk
  split at hk <;> cases k <;> exact absurd hk (by decide)

theorem trail_follow (r : Resource) (recipe : Recipe α) :
    Told (Trail key on) (Drift.follow r recipe) := by
  unfold Drift.follow
  split
  · exact trail_pure _
  · exact trail_failProjection r _
  · refine trail_ask_bind (fun _ _ => ⟨rfl, fun _ => rfl⟩) fun answer => ?_
    cases answer with
    | error e => exact trail_failProjection r _
    | ok raw =>
      dsimp only
      split
      · exact trail_pure _
      · exact trail_failProjection r _

theorem trail_say {level : Level} {name text : String} {more : List Field} :
    Told (Trail key on) (Drift.say level k key name text more) :=
  trail_ask fun _ _ => ⟨rfl, fun _ => rfl⟩

theorem trail_persistStatus {ns name : String} {u : StatusUpdate} :
    Told (Trail key on) (persistStatus ns name u) := by
  intro t res h
  obtain ⟨result, hpersist, -⟩ := h.of_persistStatus
  exact .of_plain (plain_persist hpersist)

/-- An output is rewritten, its status is written, and an event says so. -/
theorem trail_rewrite {ns name at' output message : String} {object : k.Object} {m m' : Signal}
    {digest : Digest k} (hkey : Key.split? key = some (ns, name)) (r : Resource) :
    Told (Trail key r.reference) (do
      let _ ← ofCluster (← ask (.update k at' object))
      tell m
      tell m'
      let _ ← persistStatus ns name (.record k output digest)
      record r.reference .normal (Drift.updatedReason k) Event.syncVault message) := by
  intro t res h
  obtain ⟨answer, t₁, rfl, h₁⟩ := h.of_ask_bind
  cases answer with
  | error e =>
    have hthrow : Pass.Ends (throw (.cluster e) : Pass Unit) t₁ res := h₁
    obtain ⟨rfl, -⟩ := hthrow.of_throw
    exact .plain (fun _ => ⟨rfl, fun _ => rfl⟩) .nil
  | ok stored =>
    obtain ⟨⟨⟩, t₂, rfl, h₂⟩ := Ends.of_ask_bind (r := .tell m) h₁
    obtain ⟨⟨⟩, t₃, rfl, h₃⟩ := h₂.of_ask_bind
    obtain ⟨noted, t₄, outcome, rfl, hnoted, h₄⟩ | ⟨e, rfl, hnoted⟩ := h₃.of_bind
    · obtain ⟨(e | outcome'), hpersist, hres⟩ := hnoted.of_persistStatus
      · cases hres
      · cases h₄ with
        | ask answer after =>
          cases after
          exact .noticed hkey hpersist rfl rfl .nil
    · obtain ⟨(e' | outcome), hpersist, hres⟩ := hnoted.of_persistStatus
      -- The pass ends here with the error of the status, and nothing was said.
      · exact .broken nofun hkey hpersist
      · cases hres

theorem trail_sync {r : Resource} {ns name output : String} {owner : Kube.OwnerReference}
    {h : Handler} (hkey : Key.split? key = some (ns, name)) :
    Told (Trail key r.reference) (Drift.sync r key ns name owner h k output) := by
  unfold Drift.sync
  refine Trail.account.bind (trail_follow r _) fun wanted => ?_
  refine trail_ask_bind (fun _ _ => ⟨rfl, fun _ => rfl⟩) fun got => ?_
  cases got with
  | error e =>
    have hmissing : Told (Trail key r.reference) (do
        ask (.enqueue .structural key)
        throw (.outputMissing ⟨k.kind, ns, output⟩) : Pass Unit) :=
      trail_ask_bind (fun _ _ => ⟨rfl, fun _ => rfl⟩) fun _ => trail_throw _
    dsimp only
    split
    · exact Trail.account.bind (trail_throw _) fun _ => hmissing
    · exact hmissing
  | ok object =>
    refine Trail.account.bind (fun t res h => .of_plain (plain_ensureOwned h)) fun _ => ?_
    cases hcurrent : Digest.ofPayload (OutputKind.content object) == Digest.ofPayload wanted with
    | true =>
      simp only [Bool.and_true, Bool.not_true, Bool.false_eq_true, if_true, if_false]
      split
      · exact Trail.account.bind trail_say fun _ => trail_pure _
      · exact Trail.account.bind trail_persistStatus fun _ => trail_say
    | false =>
      simp only [Bool.and_false, Bool.not_false, Bool.false_eq_true, if_true, if_false]
      exact trail_rewrite hkey r

theorem trail_over {r : Resource} {ns name : String} (hkey : Key.split? key = some (ns, name)) :
    Told (Trail key r.reference) (Drift.over r key ns name) := by
  unfold Drift.over
  split
  · exact trail_failProjection r _
  · exact Trail.account.bind (Trail.account.ownerOf r) fun owner =>
      Trail.account.forM fun d => trail_sync hkey

/-- A whole pass finds a resource on which its events are, or it does nothing. -/
theorem trail_drift {res : Except PassError Unit} (h : (drift key).Ends t res) :
    (∃ r, t.found? = some r ∧ Trail key r.reference (∀ a, res ≠ .ok a) t) ∨
      t.found? = none ∧ ∀ e ∈ t, e.Plain := by
  rw [drift_eq] at h
  cases hkey : Key.split? key with
  | none =>
    have hsplit : splitKey key = throw (.invalidKey key) := by
      unfold splitKey
      rw [hkey]
    rw [hsplit] at h
    cases h
    exact .inr ⟨rfl, by simp⟩
  | some parts =>
    obtain ⟨ns, name⟩ := parts
    obtain ⟨found, t', rfl, h'⟩ := (h.of_splitKey_bind hkey).of_ask_bind
    have hlookup : (⟨.lookup ns name, found⟩ : Exchange).Plain := fun _ => ⟨rfl, fun _ => rfl⟩
    cases found with
    | none =>
      have htell : (tell _).Ends t' res := h'
      cases htell with
      | ask answer after =>
        cases after
        exact .inr ⟨rfl, List.forall_mem_cons.2 ⟨hlookup,
          List.forall_mem_singleton.2 fun _ => ⟨rfl, fun _ => rfl⟩⟩⟩
    | some r =>
      refine .inl ⟨r, rfl, .plain hlookup ?_⟩
      by_cases hout : r.hasOutput = true
      · simp only [hout, if_true] at h'
        exact trail_over hkey _ _ h'
      · simp only [hout] at h'
        exact trail_pure _ _ _ h'

/-! ## Rewrites and events -/

/-- The pass was cut short at a rewrite of the kind: all that came after it, but for two reports,
was a write of its status that failed. -/
def CutShort (key : String) (k : OutputKind) (t : Transcript) : Prop :=
  ∃ before at' object stored m m' noted ns name output digest e,
    Key.split? key = some (ns, name) ∧
    t = before ++ ⟨.update k at' object, .ok stored⟩ :: ⟨.tell m, ()⟩ :: ⟨.tell m', ()⟩ :: noted ∧
    (persist ns name (.record k output digest)).Ends noted (.error e)

theorem CutShort.exists_rewrite (h : CutShort key k t) : ∃ e ∈ t, e.isRewrite k = true := by
  obtain ⟨before, at', object, stored, m, m', noted, ns, name, output, digest, e, -, rfl, -⟩ := h
  exact ⟨_, List.mem_append_right _ List.mem_cons_self, by simp⟩

theorem cutShort_append (hx : ∀ e ∈ x, e.isRewrite k = false) :
    CutShort key k (x ++ t) ↔ CutShort key k t := by
  constructor
  · rintro ⟨before, at', object, stored, m, m', noted, ns, name, output, digest, e, hkey, ht,
      hnoted⟩
    obtain ⟨before', rfl⟩ := split_of_none hx (by simp) ht
    exact ⟨before', at', object, stored, m, m', noted, ns, name, output, digest, e, hkey, rfl,
      hnoted⟩
  · rintro ⟨before, at', object, stored, m, m', noted, ns, name, output, digest, e, hkey, rfl,
      hnoted⟩
    exact ⟨x ++ before, at', object, stored, m, m', noted, ns, name, output, digest, e, hkey,
      by simp, hnoted⟩

theorem counts_append (k : OutputKind) (on : Kube.ObjectReference) (t : Transcript)
    (hx : ∀ e ∈ x, e.Plain) :
    rewrites k (x ++ t) = rewrites k t ∧ noticesOn k on (x ++ t) = noticesOn k on t := by
  have hrewrites : x.countP (·.isRewrite k) = 0 :=
    List.countP_eq_zero.2 fun e he => by simp [(hx e he k).1]
  have hnotices : x.countP (·.isNotice k on) = 0 :=
    List.countP_eq_zero.2 fun e he => by simp [(hx e he k).2 on]
  simp [rewrites, noticesOn, List.countP_append, hrewrites, hnotices]

/-- What stands between a rewrite and its event. -/
theorem plain_noting (m m' : Signal) {noted : Transcript} (h : ∀ e ∈ noted, e.Plain) :
    ∀ e ∈ (⟨.tell m, ()⟩ :: ⟨.tell m', ()⟩ :: noted : Transcript), e.Plain :=
  List.forall_mem_cons.2 ⟨fun _ => ⟨rfl, fun _ => rfl⟩,
    List.forall_mem_cons.2 ⟨fun _ => ⟨rfl, fun _ => rfl⟩, h⟩⟩

theorem updatedReason_inj {k k' : OutputKind} :
    Drift.updatedReason k = Drift.updatedReason k' ↔ k = k' := by
  cases k <;> cases k' <;> decide

theorem counts_update {k' : OutputKind} (at' : String) (object stored : k'.Object)
    (k : OutputKind) (on : Kube.ObjectReference) (t : Transcript) :
    rewrites k (⟨.update k' at' object, .ok stored⟩ :: t) =
        rewrites k t + (if k' = k then 1 else 0) ∧
      noticesOn k on (⟨.update k' at' object, .ok stored⟩ :: t) = noticesOn k on t := by
  simp [rewrites, noticesOn, List.countP_cons, Exchange.isRewrite, Exchange.isNotice]

theorem counts_record {k' : OutputKind} {event : Event}
    (hreason : event.reason = Drift.updatedReason k') (hobject : event.object = on) (k : OutputKind)
    (t : Transcript) : rewrites k (⟨.record event, ()⟩ :: t) = rewrites k t ∧
      noticesOn k on (⟨.record event, ()⟩ :: t) =
        noticesOn k on t + (if k' = k then 1 else 0) := by
  simp [rewrites, noticesOn, List.countP_cons, Exchange.isRewrite, Exchange.isNotice, hreason,
    hobject, updatedReason_inj]

/-- A pass is not cut short at a rewrite that has its event. -/
theorem cutShort_noticed {k' : OutputKind} {at' : String} {object stored : k'.Object}
    {m m' : Signal} {noted rest : Transcript} {event : Event} (hplain : ∀ e ∈ noted, e.Plain)
    (hreason : event.reason = Drift.updatedReason k') :
    CutShort key k (⟨.update k' at' object, .ok stored⟩ :: ⟨.tell m, ()⟩ :: ⟨.tell m', ()⟩ ::
      (noted ++ ⟨.record event, ()⟩ :: rest)) ↔ CutShort key k rest := by
  constructor
  · rintro ⟨before, at'', object', stored', m₁, m₂, noted', ns, name, output, digest, e, hkey, ht,
      hnoted'⟩
    have hx : ∀ e ∈ (⟨.tell m, ()⟩ :: ⟨.tell m', ()⟩ :: noted ++ [⟨.record event, ()⟩] :
        Transcript), e.isRewrite k = false := by
      intro e he
      rcases List.mem_append.1 he with he | he
      · exact (plain_noting _ _ hplain e he k).1
      · rw [List.mem_singleton.1 he]
        rfl
    have hrewrite : (⟨.update k at'' object', .ok stored'⟩ : Exchange).isRewrite k = true := by simp
    rw [← List.singleton_append (l := rest), ← List.append_assoc] at ht
    rcases split_of_first hx hrewrite ht with ⟨-, -, hafter⟩ | ⟨before', rfl⟩
    · -- The event would stand among the exchanges that write a status.
      have hm : (⟨.record event, ()⟩ : Exchange) ∈ noted' := by
        simp only [List.cons_append, List.cons.injEq, List.append_assoc] at hafter
        rw [← hafter.2.2]
        simp
      have hno := (plain_persist hnoted' _ hm k').2 event.object
      simp [Exchange.isNotice, hreason] at hno
    · exact ⟨before', at'', object', stored', m₁, m₂, noted', ns, name, output, digest, e, hkey,
        rfl, hnoted'⟩
  · rintro ⟨before, at'', object', stored', m₁, m₂, noted', ns, name, output, digest, e, hkey, rfl,
      hnoted'⟩
    exact ⟨⟨.update k' at' object, .ok stored⟩ :: ⟨.tell m, ()⟩ :: ⟨.tell m', ()⟩ ::
      (noted ++ ⟨.record event, ()⟩ :: before), at'', object', stored', m₁, m₂, noted', ns, name,
      output, digest, e, hkey, by simp, hnoted'⟩

/-- The events of a pass: one for each rewrite, but none for a rewrite at which it was cut short. -/
theorem Trail.counts (h : Trail key on cut t) (k : OutputKind) :
    (CutShort key k t → cut ∧ rewrites k t = noticesOn k on t + 1) ∧
      (¬ CutShort key k t → rewrites k t = noticesOn k on t) := by
  induction h with
  | nil => exact ⟨fun hcut => by simpa using hcut.exists_rewrite, fun _ => rfl⟩
  | @plain e rest hplain _ ih =>
    have hone : ∀ e' ∈ [e], e'.Plain := List.forall_mem_singleton.2 hplain
    have hcut : CutShort key k ([e] ++ rest) ↔ CutShort key k rest :=
      cutShort_append fun e' he' => (hone e' he' k).1
    obtain ⟨hrewrites, hnotices⟩ := counts_append k on rest hone
    rw [← List.singleton_append, hcut, hrewrites, hnotices]
    exact ih
  | @noticed k' at' object stored m m' noted rest ns name output digest outcome event hkey hnoted
      hreason hobject _ ih =>
    have hplain := plain_persist hnoted
    obtain ⟨hupdate, hupdate'⟩ := counts_update at' object stored k on
      (⟨.tell m, ()⟩ :: ⟨.tell m', ()⟩ :: (noted ++ ⟨.record event, ()⟩ :: rest))
    obtain ⟨hnoting, hnoting'⟩ := counts_append k on (⟨.record event, ()⟩ :: rest)
      (plain_noting m m' hplain)
    obtain ⟨hrecord, hrecord'⟩ := counts_record hreason hobject k rest
    rw [cutShort_noticed hplain hreason, hupdate, hupdate']
    simp only [List.cons_append] at hnoting hnoting'
    rw [hnoting, hnoting', hrecord, hrecord']
    refine ⟨fun hcut => ⟨(ih.1 hcut).1, ?_⟩, fun hcut => ?_⟩
    · rw [(ih.1 hcut).2]
      omega
    · rw [ih.2 hcut]
  | @broken k' at' object stored m m' noted ns name output digest e hcut hkey hnoted =>
    have hplain := plain_noting m m' (plain_persist hnoted)
    obtain ⟨hupdate, hupdate'⟩ := counts_update at' object stored k on
      (⟨.tell m, ()⟩ :: ⟨.tell m', ()⟩ :: noted)
    obtain ⟨hnoting, hnoting'⟩ := counts_append k on [] hplain
    rw [List.append_nil] at hnoting hnoting'
    rw [hupdate, hupdate', hnoting, hnoting']
    by_cases hk : k' = k
    · subst hk
      have hshort : CutShort key k' (⟨.update k' at' object, .ok stored⟩ :: ⟨.tell m, ()⟩ ::
          ⟨.tell m', ()⟩ :: noted) :=
        ⟨[], at', object, stored, m, m', noted, ns, name, output, digest, e, hkey, rfl, hnoted⟩
      exact ⟨fun _ => ⟨hcut, by simp [rewrites, noticesOn]⟩, fun hno => absurd hshort hno⟩
    · refine ⟨fun hshort => ?_, fun _ => by simp [hk, rewrites, noticesOn]⟩
      obtain ⟨e', he', hrewrite⟩ := hshort.exists_rewrite
      rcases List.mem_cons.1 he' with rfl | he'
      · simp [Exchange.isRewrite, hk] at hrewrite
      · rw [(hplain e' he' k).1] at hrewrite
        cases hrewrite

theorem counts_drift {res : Except PassError Unit} (h : (drift key).Ends t res) (k : OutputKind) :
    (CutShort key k t → (∃ e, res = .error e) ∧ rewrites k t = notices k t + 1) ∧
      (¬ CutShort key k t → rewrites k t = notices k t) := by
  rcases trail_drift h with ⟨r, hfound, htrail⟩ | ⟨hnone, hplain⟩
  · have hnotices : notices k t = noticesOn k r.reference t := by simp [notices, hfound]
    obtain ⟨hcut, hwhole⟩ := htrail.counts k
    rw [hnotices]
    refine ⟨fun hshort => ⟨?_, (hcut hshort).2⟩, hwhole⟩
    cases res with
    | error e => exact ⟨e, rfl⟩
    | ok a => exact absurd rfl ((hcut hshort).1 a)
  · refine ⟨fun hshort => ?_, fun _ => ?_⟩
    · obtain ⟨e, he, hrewrite⟩ := hshort.exists_rewrite
      rw [(hplain e he k).1] at hrewrite
      cases hrewrite
    · have hrewrites : rewrites k t = 0 :=
        List.countP_eq_zero.2 fun e he => by simp [(hplain e he k).1]
      simp [hrewrites, notices, hnone]

/-! ## Passes that are retried -/

/-- What a pass asks where its questions are answered is a way that it can go. -/
theorem ends_transcript {σ : Type} (serve : (r : Request) → σ → r.Answer × σ) (p : Pass α) (s : σ) :
    p.Ends (p.run.transcript serve s) (exec serve p s).1 := by
  unfold Pass.Ends exec
  induction p.run generalizing s with
  | done a => exact .done a
  | ask r next ih => exact .ask _ (ih _ _)

/-- Passes over a key that failed, and one that tried again after them and succeeded. -/
def Retries (key : String) (ts : List Transcript) : Prop :=
  ∃ failed last, ts = failed ++ [last] ∧ (∀ t ∈ failed, ∃ e, (drift key).Ends t (.error e)) ∧
    (drift key).Ends last (.ok ())

theorem Retries.ends {ts : List Transcript} (h : Retries key ts) :
    ∀ t ∈ ts, ∃ res, (drift key).Ends t res := by
  obtain ⟨failed, last, rfl, hfailed, hlast⟩ := h
  intro t ht
  rcases List.mem_append.1 ht with ht | ht
  · obtain ⟨e, he⟩ := hfailed t ht
    exact ⟨_, he⟩
  · exact ⟨_, List.mem_singleton.1 ht ▸ hlast⟩

/-- A pass has one event about each rewrite of an output of the kind, unless it was cut short at one
of them; then it fails, and that one has no event. Passes over a key that are retried until one
succeeds have as many events as rewrites exactly if none of them was cut short. -/
theorem audit_iff (key : String) (k : OutputKind) :
    (∀ t res, (drift key).Ends t res →
      (CutShort key k t → (∃ e, res = .error e) ∧ rewrites k t = notices k t + 1) ∧
        (¬ CutShort key k t → rewrites k t = notices k t)) ∧
    ∀ ts, Retries key ts → ((ts.map (rewrites k)).sum = (ts.map (notices k)).sum ↔
      ∀ t ∈ ts, ¬ CutShort key k t) := by
  refine ⟨fun t res h => counts_drift h k, fun ts hts => ?_⟩
  have hle : ∀ t ∈ ts, notices k t ≤ rewrites k t := by
    intro t ht
    obtain ⟨res, hres⟩ := hts.ends t ht
    obtain ⟨hcut, hwhole⟩ := counts_drift hres k
    by_cases hshort : CutShort key k t
    · rw [(hcut hshort).2]
      exact Nat.le_succ _
    · exact (hwhole hshort).ge
  constructor
  · intro hsums t ht hshort
    obtain ⟨res, hres⟩ := hts.ends t ht
    have hless : notices k t < rewrites k t := by
      rw [((counts_drift hres k).1 hshort).2]
      exact Nat.lt_succ_self _
    exact absurd hsums (List.sum_lt_sum _ _ hle ⟨t, ht, hless⟩).ne'
  · intro hnone
    refine congrArg List.sum (List.map_congr_left fun t ht => ?_)
    obtain ⟨res, hres⟩ := hts.ends t ht
    exact (counts_drift hres k).2 (hnone t ht)

/-! ## A status that cannot be written -/

/-- Surroundings that answer with this Secret, and with this resource when it is read afresh. -/
def sampleServe (secret : Kube.Secret) (fresh : Except Cluster.ClusterError Resource) (r : Request)
    (s : Unit) : r.Answer × Unit :=
  match r with
  | .lookup .. => (some Watch.app, s)
  | .get .secret .. => (.ok secret, s)
  | .get .configMap .. => (.error .connection, s)
  | .create _ _ object | .update _ _ object => (.ok object, s)
  | .getDeclaring .. => (fresh, s)
  | .updateStatus r => (.ok r, s)
  | .readVault .. => (.ok ⟨"s3cret", none⟩, s)
  | .now => ("2024-01-01T00:00:00Z", s)
  | .record _ | .enqueue .. | .tell _ => ((), s)

/-- The Secret is rewritten, and then the API server cannot be reached. -/
def sampleCut : Transcript :=
  (drift "prod/app").run.transcript (sampleServe sampleSecret (.error .connection)) ()

/-- The Secret with the value that the vault holds. -/
def sampleFilled : Kube.Secret :=
  { sampleSecret with data := some [("password", Bytes.ofText "s3cret")] }

/-- The pass that tries again finds the content as it should be. -/
def sampleRetry : Transcript :=
  (drift "prod/app").run.transcript (sampleServe sampleFilled (.ok Watch.app)) ()

theorem retries_sample : Retries "prod/app" [sampleCut, sampleRetry] := by
  have hcut := ends_transcript (sampleServe sampleSecret (.error .connection)) (drift "prod/app") ()
  have hretry := ends_transcript (sampleServe sampleFilled (.ok Watch.app))
    (drift "prod/app") ()
  have hfails :
      (exec (sampleServe sampleSecret (.error .connection)) (drift "prod/app") ()).1.isOk =
        false := by decide +kernel
  have hworks :
      (exec (sampleServe sampleFilled (.ok Watch.app)) (drift "prod/app") ()).1.isOk =
        true := by decide +kernel
  refine ⟨[sampleCut], sampleRetry, rfl, List.forall_mem_singleton.2 ?_, ?_⟩
  · revert hcut hfails
    cases (exec (sampleServe sampleSecret (.error .connection)) (drift "prod/app") ()).1 with
    | error e => exact fun hcut _ => ⟨e, hcut⟩
    | ok => nofun
  · revert hretry hworks
    cases (exec (sampleServe sampleFilled (.ok Watch.app)) (drift "prod/app") ()).1 with
    | error e => nofun
    | ok => exact fun hretry _ => hretry

/-- The Secret is rewritten once, and no event says so. -/
theorem audit_iff_cut : Retries "prod/app" [sampleCut, sampleRetry] ∧
    ([sampleCut, sampleRetry].map (rewrites .secret)).sum = 1 ∧
    ([sampleCut, sampleRetry].map (notices .secret)).sum = 0 ∧
    ∃ t ∈ [sampleCut, sampleRetry], CutShort "prod/app" .secret t := by
  have hrewrites : ([sampleCut, sampleRetry].map (rewrites .secret)).sum = 1 := by decide +kernel
  have hnotices : ([sampleCut, sampleRetry].map (notices .secret)).sum = 0 := by decide +kernel
  refine ⟨retries_sample, hrewrites, hnotices, Classical.byContradiction fun hnone => ?_⟩
  have hsums := ((audit_iff "prod/app" .secret).2 _ retries_sample).2 fun t ht hshort =>
    hnone ⟨t, ht, hshort⟩
  rw [hrewrites, hnotices] at hsums
  cases hsums

end Pass

end VaultProjection

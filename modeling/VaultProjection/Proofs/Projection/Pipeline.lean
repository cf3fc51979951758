import VaultProjection.Projection.Transform
import VaultProjection.Proofs.Text.Base64

/-!
# Pipelines of steps

A pipeline is run step by step, so one that is cut in two is run as its parts, the second on what
the first gives. Writing base64 and reading it leaves every value as it is: no blank is written, so
none is cut off. The other way round only the blanks around the value are lost.

Results:
1. `ofNames_append`, `apply_append`: names and steps in a row.
2. `apply_written`, `encode_of_apply`: what the two base64 steps do to each other.
3. `steps_compose_and_cancel`: pipelines compose, and the two base64 steps cancel.
-/

namespace VaultProjection

/-! ## Blanks -/

namespace Bytes

theorem trim_eq_self {b : Bytes} (h : ∀ x ∈ b, isBlank x = false) : b.trim = b := by
  have hkeep : ∀ c : Bytes, (∀ x ∈ c, x ∈ b) → c.dropWhile isBlank = c := by
    intro c hc
    cases c with
    | nil => rfl
    | cons x c => exact List.dropWhile_cons_of_neg (by simp [h x (hc x List.mem_cons_self)])
  rw [trim, hkeep b fun _ => id, hkeep b.reverse fun x => List.mem_reverse.1, List.reverse_reverse]

end Bytes

/-- What is written in base64 holds no blank. -/
theorem Base64.trim_encode (v : Bytes) : (encode v).trim = encode v := by
  obtain ⟨digits, pads, hsigns, hgrouped⟩ := encode_grouped v
  refine Bytes.trim_eq_self fun x hx => ?_
  rw [hsigns] at hx
  rcases List.mem_append.1 hx with hx | hx
  · obtain ⟨v, hv⟩ := Option.isSome_iff_exists.1 (hgrouped.value x hx)
    obtain ⟨hlt, rfl⟩ := digit_of_value? hv
    have hall : ∀ v : Fin 64, Bytes.isBlank (digit v) = false := by decide
    exact hall ⟨v, hlt⟩
  · rw [List.eq_of_mem_replicate hx]
    rfl

/-! ## The two base64 steps -/

namespace Transform

/-- What was written is read back. -/
theorem apply_written (v : Bytes) : base64Decode.apply (Base64.encode v) = .ok v := by
  rw [apply, Base64.trim_encode, Base64.decode_encode]

/-- What was read is written again without the blanks around it. -/
theorem encode_of_apply {v w : Bytes} (h : base64Decode.apply v = .ok w) :
    Base64.encode w = v.trim := Base64.encode_of_decode h

end Transform

/-! ## Steps in a row -/

namespace Pipeline

variable {ns ms : List String} {p q : Pipeline} {v w : Bytes}

theorem ofNames_cons (s : String) (ns : List String) : ofNames (s :: ns) =
    match Transform.ofName? s with
    | none => .error s
    | some t => (ofNames ns).map (t :: ·) := by
  rw [ofNames, List.mapM_cons]
  cases Transform.ofName? s with
  | none => rfl
  | some t =>
    show (do let p ← ofNames ns; .ok (t :: p)) = (ofNames ns).map (t :: ·)
    cases ofNames ns <;> rfl

/-- Names make a pipeline if each of them is that of a step. -/
theorem ofNames_ok_iff : (∃ p, ofNames ns = .ok p) ↔
    ∀ s ∈ ns, ∃ t, Transform.ofName? s = some t := by
  induction ns with
  | nil => exact ⟨by simp, fun _ => ⟨[], rfl⟩⟩
  | cons s ns ih =>
    rw [List.forall_mem_cons, ← ih, ofNames_cons]
    cases Transform.ofName? s with
    | none => simp
    | some t => cases ofNames ns <;> simp [Except.map]

theorem ofNames_append (ns ms : List String) : ofNames (ns ++ ms) = (do
    let p ← ofNames ns
    let q ← ofNames ms
    .ok (p ++ q)) := List.mapM_append

theorem ofNames_append_ok {r : Pipeline} : ofNames (ns ++ ms) = .ok r ↔
    ∃ p q, ofNames ns = .ok p ∧ ofNames ms = .ok q ∧ r = p ++ q := by
  rw [ofNames_append]
  cases ofNames ns <;> cases ofNames ms <;> simp [bind, Except.bind, eq_comm]

theorem ofNames_append_error {s : String} : ofNames (ns ++ ms) = .error s ↔
    ofNames ns = .error s ∨ ∃ p, ofNames ns = .ok p ∧ ofNames ms = .error s := by
  rw [ofNames_append]
  cases ofNames ns <;> cases ofNames ms <;> simp [bind, Except.bind]

theorem apply_append (p q : Pipeline) (v : Bytes) : (p ++ q).apply v = (do
    let w ← p.apply v
    q.apply w) := List.foldlM_append

/-- Writing and reading in a row leave every value as it is, so they may be put in anywhere. -/
theorem apply_insert (p q : Pipeline) (v : Bytes) :
    (p ++ .base64Encode :: .base64Decode :: q).apply v = (p ++ q).apply v := by
  rw [apply_append, apply_append p q]
  refine bind_congr fun w => ?_
  show ((Transform.base64Decode.apply (Base64.encode w)).mapError _ >>= q.apply) = q.apply w
  rw [Transform.apply_written]
  rfl

/-! ## Main result -/

/-- The steps of two lists of names, one behind the other, do what the first does and then the
second on its result, and end with the failure of the first. Where names of the two base64 steps are
put in next to each other, writing before reading, a list does what it did, for every value, or is
refused for the same name. A value that can be read as base64 is written again without the blanks
around it, so two values that are read as the same bytes differ in these blanks alone. -/
theorem steps_compose_and_cancel :
    (∀ ns ms p q, ofNames ns = .ok p → ofNames ms = .ok q → ofNames (ns ++ ms) = .ok (p ++ q) ∧
      ∀ v, (p ++ q).apply v = match p.apply v with
        | .ok w => q.apply w
        | .error e => .error e) ∧
    (∀ ns ms a b, Transform.ofName? a = some .base64Encode →
      Transform.ofName? b = some .base64Decode →
        (∀ q, ofNames (ns ++ ms) = .ok q →
          ∃ p, ofNames (ns ++ a :: b :: ms) = .ok p ∧ ∀ v, p.apply v = q.apply v) ∧
        ∀ s, ofNames (ns ++ ms) = .error s → ofNames (ns ++ a :: b :: ms) = .error s) ∧
    (∀ v w, Transform.base64Decode.apply v = .ok w →
      Pipeline.apply [.base64Decode, .base64Encode] v = .ok v.trim) ∧
    ∀ v v' w, Transform.base64Decode.apply v = .ok w → Transform.base64Decode.apply v' = .ok w →
      v.trim = v'.trim := by
  refine ⟨fun ns ms p q hp hq => ?_, fun ns ms a b ha hb => ?_, fun v w h => ?_,
    fun v v' w h h' => ?_⟩
  · refine ⟨ofNames_append_ok.2 ⟨p, q, hp, hq, rfl⟩, fun v => ?_⟩
    rw [apply_append]
    cases p.apply v <;> rfl
  · have hpair : ofNames (a :: b :: ms) =
        (ofNames ms).map (.base64Encode :: .base64Decode :: ·) := by
      rw [ofNames_cons, ha, ofNames_cons, hb]
      cases ofNames ms <;> rfl
    refine ⟨fun r hr => ?_, fun s hs => ?_⟩
    · obtain ⟨p, q, hp, hq, rfl⟩ := ofNames_append_ok.1 hr
      exact ⟨_, ofNames_append_ok.2 ⟨p, _, hp, by rw [hpair, hq]; rfl, rfl⟩, apply_insert p q⟩
    · refine ofNames_append_error.2 ((ofNames_append_error.1 hs).imp_right ?_)
      rintro ⟨p, hp, hms⟩
      exact ⟨p, hp, by rw [hpair, hms]; rfl⟩
  · show ((Transform.base64Decode.apply v).mapError _ >>= _) = _
    rw [h]
    exact congrArg Except.ok (Transform.encode_of_apply h)
  · rw [← Transform.encode_of_apply h, Transform.encode_of_apply h']

/-- Names are taken in any case and with blanks around them, and a value with blanks around it is
read as `hi`. -/
theorem steps_compose_and_cancel_hi : ofNames [" Trim"] = .ok [.trim] ∧
    ofNames ["BASE64decode\n"] = .ok [.base64Decode] ∧
    ofNames [" Trim", "BASE64decode\n"] = .ok [.trim, .base64Decode] ∧
    Transform.base64Decode.apply [32, 97, 71, 107, 61, 10] = .ok [104, 105] ∧
    Pipeline.apply [.base64Decode, .base64Encode] [32, 97, 71, 107, 61, 10] =
      .ok [97, 71, 107, 61] := by
  obtain ⟨hcompose, -, hcancel, -⟩ := steps_compose_and_cancel
  have htrim : ofNames [" Trim"] = .ok [.trim] := rfl
  have hread : ofNames ["BASE64decode\n"] = .ok [.base64Decode] := rfl
  have hhi : Transform.base64Decode.apply [32, 97, 71, 107, 61, 10] = .ok [104, 105] := rfl
  exact ⟨htrim, hread, (hcompose _ _ _ _ htrim hread).1, hhi, hcancel _ _ hhi⟩

end Pipeline

end VaultProjection

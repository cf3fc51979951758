import VaultProjection.Proofs.Text.Strict

/-!
# Base64 by the strict and by the loose reading

Base64 is digits and then padding to whole groups of four; blanks may stand anywhere in the body of
a PEM section, and the padding may be left out. The loose reading takes all of that. The strict one
takes a part of it, as it wants the padding and no bits behind the last byte.

Results:
1. `isValid_of_decode`: what can be read strictly is base64.
2. `isLoose_of_isValid`: what is base64 can be read loosely.
-/

namespace VaultProjection.Base64

/-! ## Signs -/

def IsDigit (b : UInt8) : Prop := (value? b).isSome = true

instance : DecidablePred IsDigit := fun b => inferInstanceAs (Decidable ((value? b).isSome = true))

theorem IsDigit.ne_pad {x : UInt8} (h : IsDigit x) : x ≠ pad := by
  rintro rfl
  cases h

theorem isDigit_digit {v : Nat} (h : v < 64) : IsDigit (digit v) := by
  rw [IsDigit, value?_digit h]
  rfl

/-! ## Digits and padding -/

/-- Digits and then padding, two signs of it at most, in whole groups of four. The last group may go
without padding if its digits hold a byte. -/
structure Grouped (digits : Bytes) (pads : Nat) : Prop where
  value : ∀ x ∈ digits, IsDigit x
  few : pads ≤ 2
  whole : (digits.length + pads) % 4 = 0 ∨ pads = 0 ∧ digits.length % 4 ≠ 1

/-- Blanks aside, the bytes are digits in groups. -/
def IsValid (b : Bytes) : Prop :=
  ∃ digits pads, b.filter (!isFiller ·) = digits ++ List.replicate pads pad ∧ Grouped digits pads

theorem IsValid.sign {b : Bytes} (h : IsValid b) {x : UInt8} (hx : x ∈ b) :
    isFiller x = true ∨ x = pad ∨ IsDigit x := by
  obtain ⟨digits, pads, hsigns, hgrouped⟩ := h
  cases hf : isFiller x with
  | true => exact .inl rfl
  | false =>
    have hsign : x ∈ b.filter (!isFiller ·) := List.mem_filter.2 ⟨hx, by rw [hf]; rfl⟩
    rw [hsigns] at hsign
    rcases List.mem_append.1 hsign with hdigit | hpad
    · exact .inr (.inr (hgrouped.value x hdigit))
    · exact .inr (.inl (List.eq_of_mem_replicate hpad))

theorem isDigit_cut {g : Bytes} : ∀ x ∈ (cut g).map digit, IsDigit x := by
  intro x hx
  obtain ⟨v, hv, rfl⟩ := List.mem_map.1 hx
  exact isDigit_digit (cut_lt v hv)

/-- What is written is digits and padding in whole groups. -/
theorem encode_grouped (v : Bytes) :
    ∃ digits pads, encode v = digits ++ List.replicate pads pad ∧ Grouped digits pads := by
  match v with
  | [] => exact ⟨[], 0, rfl, by simp, by omega, .inl rfl⟩
  | [a] => exact ⟨_, 2, encode_one a, isDigit_cut, by omega, .inl (by simp [cut])⟩
  | [a, b] => exact ⟨_, 1, encode_two a b, isDigit_cut, by omega, .inl (by simp [cut])⟩
  | a :: b :: c :: rest =>
    obtain ⟨digits, pads, hrest, hgrouped⟩ := encode_grouped rest
    refine ⟨(cut [a, b, c]).map digit ++ digits, pads, ?_, fun x hx => ?_, hgrouped.few, ?_⟩
    · rw [encode_three, hrest, signs, List.append_assoc, List.append_assoc]
      rfl
    · exact (List.mem_append.1 hx).elim (isDigit_cut x) (hgrouped.value x)
    · have hwhole := hgrouped.whole
      simp only [List.length_append, List.length_map, cut, List.length_cons, List.length_nil]
      omega

/-- What can be read strictly, blanks aside, is base64. -/
theorem isValid_of_decode {b bytes : Bytes} (h : decode (b.filter (!isFiller ·)) = .ok bytes) :
    IsValid b := by
  obtain ⟨digits, pads, hsigns, hgrouped⟩ := encode_grouped bytes
  exact ⟨digits, pads, (encode_of_decode h).symm.trans hsigns, hgrouped⟩

/-! ## The loose reading -/

theorem isPadded_append {digits : Bytes} (hdigits : ∀ x ∈ digits, IsDigit x) {pads : Nat}
    (hpads : pads ≤ 2) : isPadded (digits ++ List.replicate pads pad) = true := by
  have hdrop : (digits ++ List.replicate pads pad).dropWhile (· != pad) =
      List.replicate pads pad := by
    rw [List.dropWhile_append_of_pos fun x hx => by simpa using (hdigits x hx).ne_pad]
    cases pads with
    | zero => rfl
    | succ n => rw [List.replicate_succ, List.dropWhile_cons_of_neg (by simp)]
  rw [isPadded, hdrop]
  simp [hpads]

theorem pad_not_mem {digits : Bytes} (h : ∀ x ∈ digits, IsDigit x) : pad ∉ digits :=
  fun hpad => (h pad hpad).ne_pad rfl

theorem isLastGroup_digits {digits : Bytes} (h : ∀ x ∈ digits, IsDigit x)
    (hlen : digits.length = 2 ∨ digits.length = 3) : isLastGroup digits = true := by
  rcases hlen with hlen | hlen <;> simp [isLastGroup, hlen, pad_not_mem h]

theorem Grouped.drop {digits : Bytes} {pads : Nat} (h : Grouped digits pads)
    (hlong : 8 ≤ digits.length) : Grouped (digits.drop 8) pads where
  value x hx := h.value x (List.mem_of_mem_drop hx)
  few := h.few
  whole := by
    have hwhole := h.whole
    rw [List.length_drop]
    omega

theorem isLooseFrom_grouped {digits : Bytes} {pads : Nat} (h : Grouped digits pads) :
    isLooseFrom (digits ++ List.replicate pads pad) = true := by
  generalize hsigns : digits ++ List.replicate pads pad = signs
  have hpadded : isPadded signs = true := hsigns ▸ isPadded_append h.value h.few
  have hlen : signs.length = digits.length + pads := by
    rw [← hsigns, List.length_append, List.length_replicate]
  have hbare : pads = 0 → digits = signs := by
    rintro rfl
    rw [← hsigns, List.replicate_zero, List.append_nil]
  have hfew := h.few
  have hwhole := h.whole
  fun_induction isLooseFrom signs generalizing digits with
  | case1 a b c d e f g i rest ih =>
    rw [Bool.and_eq_true]
    cases rest with
    | nil => exact ⟨hpadded, rfl⟩
    | cons j rest =>
      -- Padding stands in the last group, which these eight signs come before.
      have hlong : 8 ≤ digits.length := by
        simp only [List.length_cons] at hlen
        omega
      have hfirst : ∀ x ∈ digits.take 8, IsDigit x := fun x hx =>
        h.value x (List.mem_of_mem_take hx)
      have hrest := h.drop hlong
      have hdrop : digits.drop 8 ++ List.replicate pads pad = j :: rest := by
        rw [← List.drop_append_of_le_length hlong, hsigns]
        rfl
      refine ⟨?_, ih hrest hdrop ?_ ?_ ?_ hrest.whole⟩
      · have htake : digits.take 8 = [a, b, c, d, e, f, g, i] := by
          rw [← List.take_append_of_le_length hlong, hsigns]
          rfl
        rw [← htake, ← List.append_nil (digits.take 8)]
        exact isPadded_append hfirst (Nat.zero_le 2)
      · rw [← hdrop]
        exact isPadded_append hrest.value hrest.few
      · rw [← hdrop, List.length_append, List.length_replicate]
      · rintro rfl
        rw [← hdrop, List.replicate_zero, List.append_nil]
  | case2 a b c d e rest hshort =>
    simp only [List.length_cons] at hlen
    have hfewer : rest.length < 3 := by
      match rest, hshort with
      | [], _ | [_], _ | [_, _], _ => simp
      | f :: g :: i :: rest, hshort => exact (hshort f g i rest rfl).elim
    -- Such a group is not whole, so it goes without padding.
    have hdigits := hbare (by omega)
    have hvalue := hdigits ▸ h.value
    have hfirst : pad ∉ [a, b, c, d] :=
      pad_not_mem fun x hx => hvalue x (List.mem_append_left (e :: rest) hx)
    rw [Bool.and_eq_true]
    refine ⟨by simpa using hfirst, isLastGroup_digits (fun x hx => ?_) ?_⟩
    · exact hvalue x (List.mem_append_right [a, b, c, d] hx)
    · rw [List.length_cons]
      omega
  | case3 rest _ hshort =>
    have hfewer : rest.length < 5 := by
      match rest, hshort with
      | [], _ | [_], _ | [_, _], _ | [_, _, _], _ | [_, _, _, _], _ => simp
      | a :: b :: c :: d :: e :: rest, hshort => exact (hshort a b c d e rest rfl).elim
    by_cases hbroken : rest.length = 2 ∨ rest.length = 3
    · have hdigits := hbare (by omega)
      exact isLastGroup_digits (hdigits ▸ h.value) hbroken
    · have hwhole : rest.length = 0 ∨ rest.length = 4 := by omega
      rcases hwhole with h | h <;> simp [isLastGroup, h, hpadded]

theorem isLoose_of_isValid {b : Bytes} (h : IsValid b) : isLoose b = true := by
  obtain ⟨digits, pads, hsigns, hgrouped⟩ := h
  rw [isLoose, hsigns, Bool.and_eq_true]
  refine ⟨List.all_eq_true.2 fun x hx => ?_, isLooseFrom_grouped hgrouped⟩
  rw [Bool.or_eq_true, beq_iff_eq]
  rcases List.mem_append.1 hx with hx | hx
  · exact .inr (hgrouped.value x hx)
  · exact .inl (List.eq_of_mem_replicate hx)

end VaultProjection.Base64

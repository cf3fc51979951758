import Mathlib.Data.List.Infix
import Mathlib.Data.List.TakeWhile
import VaultProjection.Text.Basic

/-!
# Search and trimming

A text is found from its first occurrence on, and blanks are cut off only behind the last character
that is none. In a text that is put together of several parts something may stand across a seam; it
does not where a part lies between that it cannot overlap.
-/

namespace VaultProjection.Text

variable {m cs : List Char}

theorem from?_of_prefix (hm : m ≠ []) (h : m <+: cs) : from? m cs = some cs := by
  cases cs with
  | nil => exact absurd (List.prefix_nil.1 h) hm
  | cons c cs => rw [from?, if_pos (List.isPrefixOf_iff_prefix.2 h)]

/-- What is nowhere in a text is not found. -/
theorem from?_eq_none (h : ¬ m <:+: cs) : from? m cs = none := by
  induction cs with
  | nil =>
    rw [from?, if_neg]
    intro hm
    exact h (List.isEmpty_iff.1 hm ▸ List.infix_rfl)
  | cons c cs ih =>
    rw [from?, if_neg]
    · exact ih fun hcs => h (hcs.trans (List.suffix_cons c cs).isInfix)
    · exact fun hp => h (List.isPrefixOf_iff_prefix.1 hp).isInfix

theorem isSome_from?_iff : (from? m cs).isSome = true ↔ m <:+: cs := by
  induction cs with
  | nil => simp [from?]
  | cons c cs ih =>
    rw [from?, List.infix_cons_iff, ← List.isPrefixOf_iff_prefix, ← ih]
    split
    · next hp => simp [hp]
    · next hp => simp [hp]

theorem mentions_iff {text marker : String} :
    mentions text marker = true ↔ marker.toList <:+: text.toList := isSome_from?_iff

/-! ## Seams -/

/-- What stands in two parts one after the other stands in one of them, or it begins in the first
and ends in the second. -/
theorem infix_append_cases {a b : List Char} (h : m <:+: a ++ b) :
    m <:+: a ∨ m <:+: b ∨ ∃ p q, m = p ++ q ∧ p ≠ [] ∧ q ≠ [] ∧ p <:+ a ∧ q <+: b := by
  obtain ⟨s, t, hst⟩ := h
  rcases List.append_eq_append_iff.1 hst with ⟨rest, rfl, -⟩ | ⟨q, hsm, rfl⟩
  · exact .inl ⟨s, rest, rfl⟩
  rcases List.append_eq_append_iff.1 hsm with ⟨p, rfl, rfl⟩ | ⟨rest, -, rfl⟩
  · rcases List.eq_nil_or_concat p with rfl | ⟨p', c, rfl⟩
    · exact .inr (.inl (List.prefix_append q t).isInfix)
    · cases q with
      | nil => exact .inl ⟨s, [], by simp⟩
      | cons d q =>
        exact .inr (.inr ⟨_, _, rfl, by simp, by simp, List.suffix_append s _,
          List.prefix_append _ t⟩)
  · exact .inr (.inl ⟨rest, t, rfl⟩)

/-- Nothing that is spelled `m` overlaps `sep`, wherever this stands. -/
def Divides (sep m : List Char) : Prop :=
  ¬ m <:+: sep ∧ (∀ p ∈ m.inits, p ≠ [] → ¬ p <:+ sep) ∧
    ∀ q ∈ m.tails, q ≠ [] → ¬ q <+: sep ∧ ¬ sep <+: q

instance (sep m : List Char) : Decidable (Divides sep m) :=
  inferInstanceAs (Decidable (_ ∧ _))

theorem Divides.infix_iff {sep a b : List Char} (h : Divides sep m) :
    m <:+: a ++ sep ++ b ↔ m <:+: a ∨ m <:+: b := by
  obtain ⟨hsep, hinits, htails⟩ := h
  constructor
  · intro hm
    rw [List.append_assoc] at hm
    rcases infix_append_cases hm with ha | hbehind | ⟨p, q, rfl, -, hq, -, hqb⟩
    · exact .inl ha
    · rcases infix_append_cases hbehind with hm | hb | ⟨p, q, rfl, hp, -, hpsep, -⟩
      · exact absurd hm hsep
      · exact .inr hb
      · exact absurd hpsep (hinits p ((List.mem_inits ..).2 (List.prefix_append p q)) hp)
    · -- What begins in `a` and goes on behind it meets the beginning of `sep`.
      obtain ⟨hnot, hnot'⟩ := htails q ((List.mem_tails ..).2 (List.suffix_append p q)) hq
      rcases List.prefix_or_prefix_of_prefix hqb (List.prefix_append sep b) with hmeets | hmeets
      · exact absurd hmeets hnot
      · exact absurd hmeets hnot'
  · rintro (ha | hb)
    · exact ha.trans (by rw [List.append_assoc]; exact (List.prefix_append a _).isInfix)
    · exact hb.trans (List.suffix_append _ b).isInfix

/-! ## Trimming -/

/-- Blanks are cut off only behind the last character that is none. -/
theorem trimEnd_append {a b : List Char} {c : Char} (hc : c ∈ b) (hblank : isBlank c = false) :
    trimEnd (a ++ b) = a ++ trimEnd b := by
  have hne : (b.reverse.dropWhile isBlank).isEmpty = false := by
    cases hdrop : b.reverse.dropWhile isBlank with
    | cons x xs => rfl
    | nil =>
      have hall := List.dropWhile_eq_nil_iff.1 hdrop c (List.mem_reverse.2 hc)
      rw [hblank] at hall
      cases hall
  rw [trimEnd, dropEnd, List.reverse_append, List.dropWhile_append, hne]
  simp [trimEnd, dropEnd]

/-- What ends in a character that is no blank is all that is left in front of blanks. -/
theorem trimEnd_append_cons {a b : List Char} {c : Char} (hblank : isBlank c = false)
    (hb : ∀ x ∈ b, isBlank x = true) : trimEnd (a ++ c :: b) = a ++ [c] := by
  rw [trimEnd, dropEnd, List.reverse_append, List.reverse_cons, List.append_assoc,
    List.dropWhile_append_of_pos fun x hx => hb x (List.mem_reverse.1 hx), List.singleton_append,
    List.dropWhile_cons_of_neg (by rw [hblank]; exact Bool.false_ne_true), List.reverse_cons,
    List.reverse_reverse]

end VaultProjection.Text

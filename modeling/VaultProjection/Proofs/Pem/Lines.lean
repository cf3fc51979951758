import VaultProjection.Proofs.Pem.Segments

/-!
# Lines of a text and of its parts

A text is the lines that it is made of, one behind the other, and a text that is cut where a line
ends has the lines of both parts. So what remains behind some lines has the lines that remain.
-/

namespace VaultProjection.Pem

/-! ## One character more -/

theorem lines_cons_of_isLineEnd {c : Char} (h : isLineEnd c = true) (cs : List Char) :
    lines (c :: cs) = ⟨[], [c]⟩ :: lines cs := by
  rw [lines.eq_def]
  exact if_pos h

/-- Any other character stands in front of the first line. -/
theorem lines_cons {c : Char} (h : isLineEnd c = false) (cs : List Char) :
    lines (c :: cs) = match lines cs with
      | [] => [⟨[c], []⟩]
      | l :: ls => { l with text := c :: l.text } :: ls := by
  rw [lines.eq_def]
  simp only [h, Bool.false_eq_true, if_false]
  cases cs with
  | nil => rfl
  | cons d cs => cases lines (d :: cs) <;> rfl

theorem lines_eq_nil_iff {cs : List Char} : lines cs = [] ↔ cs = [] := by
  cases cs with
  | nil => exact ⟨fun _ => rfl, fun _ => rfl⟩
  | cons c cs =>
    refine ⟨fun h => ?_, by nofun⟩
    cases hc : isLineEnd c with
    | true =>
      rw [lines_cons_of_isLineEnd hc] at h
      cases h
    | false =>
      rw [lines_cons hc] at h
      split at h <;> cases h

/-! ## Parts -/

theorem flat_append (a b : List Line) : flat (a ++ b) = flat a ++ flat b := List.flatMap_append

theorem flat_lines (cs : List Char) : flat (lines cs) = cs := by
  induction cs with
  | nil => rfl
  | cons c cs ih =>
    cases hc : isLineEnd c with
    | true =>
      rw [lines_cons_of_isLineEnd hc]
      exact congrArg (c :: ·) ih
    | false =>
      rw [lines_cons hc]
      split
      · next hnil =>
        rw [lines_eq_nil_iff.1 hnil]
        rfl
      · next l ls hl =>
        rw [hl] at ih
        exact congrArg (c :: ·) ih

/-- A text that is cut behind the end of a line has the lines of both parts. -/
theorem lines_append {c : Char} (h : isLineEnd c = true) (a b : List Char) :
    lines (a ++ c :: b) = lines (a ++ [c]) ++ lines b := by
  induction a with
  | nil =>
    rw [List.nil_append, List.nil_append, lines_cons_of_isLineEnd h, lines_cons_of_isLineEnd h]
    rfl
  | cons x a ih =>
    rw [List.cons_append, List.cons_append]
    cases hx : isLineEnd x with
    | true => rw [lines_cons_of_isLineEnd hx, lines_cons_of_isLineEnd hx, ih, List.cons_append]
    | false =>
      rw [lines_cons hx, lines_cons hx, ih]
      cases hl : lines (a ++ [c]) with
      | nil => exact absurd (lines_eq_nil_iff.1 hl) (by simp)
      | cons l ls => rfl

/-- No line ends in the text. -/
def Unbroken (text : List Char) : Prop := ∀ c ∈ text, isLineEnd c = false

instance (text : List Char) : Decidable (Unbroken text) := List.decidableBAll _ _

/-- Characters that end no line are one line, with the end of a line that follows them. -/
theorem lines_unbroken {text : List Char} (h : Unbroken text) (hne : text ≠ []) :
    lines text = [⟨text, []⟩] := by
  induction text with
  | nil => exact absurd rfl hne
  | cons c text ih =>
    rw [Unbroken, List.forall_mem_cons] at h
    rw [lines_cons h.1]
    cases text with
    | nil => rfl
    | cons d text => rw [ih h.2 (List.cons_ne_nil d text)]

theorem lines_unbroken_cons {text : List Char} (h : Unbroken text) {c : Char}
    (hc : isLineEnd c = true) (rest : List Char) :
    lines (text ++ c :: rest) = ⟨text, [c]⟩ :: lines rest := by
  induction text with
  | nil => exact lines_cons_of_isLineEnd hc rest
  | cons d text ih =>
    rw [Unbroken, List.forall_mem_cons] at h
    rw [List.cons_append, lines_cons h.1, ih h.2]

/-- What remains behind some lines of a text has the lines that remain. -/
theorem lines_flat {ls : List Line} {cs : List Char} (h : ls <:+ lines cs) :
    lines (flat ls) = ls := by
  induction cs with
  | nil =>
    rw [List.suffix_nil.1 h]
    rfl
  | cons c cs ih =>
    have htail : ∀ l rest, lines (c :: cs) = l :: rest → rest <:+ lines cs := by
      intro l rest hl
      cases hc : isLineEnd c with
      | true =>
        rw [lines_cons_of_isLineEnd hc] at hl
        cases hl
        exact List.suffix_rfl
      | false =>
        rw [lines_cons hc] at hl
        split at hl
        · cases hl
          exact List.nil_suffix
        · next hrest =>
          cases hl
          rw [hrest]
          exact List.suffix_cons ..
    cases hl : lines (c :: cs) with
    | nil => exact absurd (lines_eq_nil_iff.1 hl) (by nofun)
    | cons l rest =>
      rw [hl] at h
      rcases List.suffix_cons_iff.1 h with rfl | h
      · rw [← hl, flat_lines]
      · exact ih (h.trans (htail l rest hl))

end VaultProjection.Pem

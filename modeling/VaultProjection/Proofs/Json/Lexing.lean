import Mathlib.Tactic.SplitIfs
import VaultProjection.Json.Read

/-!
# How JSON text spells its tokens

A grammar for the tokens of JSON text, with blanks in any number between them, and the proof that
the token machine reads exactly what the grammar allows.

Results:
1. `tokensFrom_of_spells`: what is spelled is read, token by token.
2. `step_sound`: each step of the machine keeps to what the grammar allows.
3. `tokens_eq_some_iff`: a text has these tokens exactly if it spells them.
-/

namespace VaultProjection.Json

/-! ## The grammar -/

/-- Digits in base sixteen and the number that they spell. -/
inductive Hex : List Char → Nat → Prop where
  | nil : Hex [] 0
  | digit {ds : List Char} {c : Char} {v x : Nat} :
    Hex ds v → hexValue? c = some x → Hex (ds ++ [c]) (v * 16 + x)

/-- What may stand between the quotes of a text, and what it comes to. -/
inductive Inside : List Char → Draft → Prop where
  | empty : Inside [] .empty
  | plain {w : List Char} {d : Draft} {c : Char} :
    Inside w d → c ≠ '"' → c ≠ '\\' → 32 ≤ c.toNat → Inside (w ++ [c]) (d.push c)
  | short {w : List Char} {d : Draft} {c e : Char} :
    Inside w d → simpleEscape? c = some e → Inside (w ++ ['\\', c]) (d.escaped.push e)
  | code {w ds : List Char} {d : Draft} {v : Nat} :
    Inside w d → Hex ds v → ds.length = 4 → Inside (w ++ '\\' :: 'u' :: ds) (d.escaped.pushUnit v)

inductive Word : List Char → Raw → Prop where
  | yes : Word ['t', 'r', 'u', 'e'] (.bool true)
  | no : Word ['f', 'a', 'l', 's', 'e'] (.bool false)
  | null : Word ['n', 'u', 'l', 'l'] .null

/-- The characters of a token that shows its own end. -/
inductive Lexeme : List Char → Token → Prop where
  | openArray : Lexeme ['['] .openArray
  | closeArray : Lexeme [']'] .closeArray
  | openObject : Lexeme ['\x7b'] .openObject
  | closeObject : Lexeme ['\x7d'] .closeObject
  | comma : Lexeme [','] .comma
  | colon : Lexeme [':'] .colon
  | text {w : List Char} {d : Draft} : Inside w d → Lexeme ('"' :: w ++ ['"']) (.text d.finish)
  | word {w : List Char} {r : Raw} : Word w r → Lexeme w (.scalar r)

/-- The characters of a number, whole or cut off. -/
structure Digits (w : List Char) : Prop where
  starts : ∃ c rest, w = c :: rest ∧ (c = '-' || isDigit c) = true
  chars : ∀ c ∈ w, isNumberChar c = true

/-- The text ends here or goes on with what can be no part of a number. -/
def Ended (cs : List Char) : Prop := ∀ c ∈ cs.head?, isNumberChar c = false

/-- The characters spell the tokens, with any blanks before, between and behind them. -/
inductive Spells : List Char → List Token → Prop where
  | nil : Spells [] []
  | blank {c : Char} {cs : List Char} {ts : List Token} :
    isSpace c = true → Spells cs ts → Spells (c :: cs) ts
  | lexeme {w cs : List Char} {t : Token} {ts : List Token} :
    Lexeme w t → Spells cs ts → Spells (w ++ cs) (t :: ts)
  /-- A number goes as far as it can. -/
  | number {w cs : List Char} {t : NumberText} {ts : List Token} :
    Digits w → NumberText.ofChars w = some t → Ended cs → Spells cs ts →
      Spells (w ++ cs) (.scalar (.number t.value?) :: ts)

/-! ## What is spelled is read -/

section

variable {s s' : Scan} {c : Char} {w ds cs rest done : List Char} {acc ts : List Token} {t : Token}
  {d : Draft} {v : Nat} {r : Raw}

theorem tokensFrom_step (h : s.step c = some (s', ts)) :
    tokensFrom s acc (c :: rest) = tokensFrom s' (ts.reverse ++ acc) rest := by
  simp only [tokensFrom, h]

theorem tokensFrom_shift (h : s.step c = some (s', [])) :
    tokensFrom s acc (c :: rest) = tokensFrom s' acc rest := tokensFrom_step h

theorem tokensFrom_quote : tokensFrom (.text d) acc ('"' :: rest) =
    tokensFrom .between (.text d.finish :: acc) rest := by
  have hstep : (Scan.text d).step '"' = some (.between, [.text d.finish]) := rfl
  exact tokensFrom_step hstep

theorem tokensFrom_hex (h : Hex ds v) {missing : Nat} (hlen : ds.length + missing = 4)
    (hpos : 0 < missing) :
    tokensFrom (.hex d 0 4) acc (ds ++ rest) = tokensFrom (.hex d v missing) acc rest := by
  induction h generalizing missing rest with
  | nil =>
    obtain rfl : missing = 4 := by simpa using hlen
    rfl
  | digit _ hc ih =>
    rw [List.length_append, List.length_singleton] at hlen
    rw [List.append_assoc, ih (show _ + (missing + 1) = 4 by omega) (Nat.succ_pos _)]
    refine tokensFrom_shift ?_
    simp only [Scan.step, hc, show ¬ missing + 1 ≤ 1 by omega, if_false, Nat.add_sub_cancel]

theorem tokensFrom_code (h : Hex ds v) (hlen : ds.length = 4) :
    tokensFrom (.hex d 0 4) acc (ds ++ rest) = tokensFrom (.text (d.pushUnit v)) acc rest := by
  cases h with
  | nil => cases hlen
  | digit h hc =>
    rw [List.length_append, List.length_singleton] at hlen
    rw [List.append_assoc, tokensFrom_hex h hlen Nat.one_pos]
    refine tokensFrom_shift ?_
    simp only [Scan.step, hc, Nat.le_refl, if_true]

theorem tokensFrom_inside (h : Inside w d) :
    tokensFrom (.text .empty) acc (w ++ rest) = tokensFrom (.text d) acc rest := by
  induction h generalizing rest with
  | empty => rfl
  | plain _ hquote hslash hlow ih =>
    rw [List.append_assoc, ih]
    refine tokensFrom_shift ?_
    simp only [Scan.step, hquote, hslash, Nat.not_lt.2 hlow, if_false]
  | @short _ _ c _ _ he ih =>
    have hu : c ≠ 'u' := by
      rintro rfl
      cases he
    rw [List.append_assoc, ih]
    refine (tokensFrom_shift rfl).trans (tokensFrom_shift ?_)
    simp only [Scan.step, hu, he, if_false, Option.map_some]
  | code _ hv hlen ih =>
    rw [List.append_assoc, ih]
    exact ((tokensFrom_shift rfl).trans (tokensFrom_shift rfl)).trans (tokensFrom_code hv hlen)

theorem tokensFrom_lexeme (h : Lexeme w t) :
    tokensFrom .between acc (w ++ cs) = tokensFrom .between (t :: acc) cs := by
  cases h with
  | text h =>
    rw [List.cons_append, List.cons_append, List.append_assoc]
    exact (tokensFrom_shift rfl).trans ((tokensFrom_inside h).trans tokensFrom_quote)
  | word h => cases h <;> rfl
  | _ => rfl

/-! ### Numbers -/

theorem start_digits (h : (c = '-' || isDigit c) = true) :
    Scan.start c = some (.number [c], []) := by
  have hne : ∀ x, (x = '-' || isDigit x) = false → c ≠ x := by
    rintro x hx rfl
    rw [h] at hx
    cases hx
  have hspace : isSpace c = false := by
    simp [isSpace, hne ' ' rfl, hne '\n' rfl, hne '\t' rfl, hne '\r' rfl]
  simp [Scan.start, hspace, h, hne '[' rfl, hne ']' rfl, hne '\x7b' rfl, hne '\x7d' rfl,
    hne ',' rfl, hne ':' rfl, hne '"' rfl]

theorem tokensFrom_digits (h : ∀ c ∈ w, isNumberChar c = true) :
    tokensFrom (.number done) acc (w ++ cs) = tokensFrom (.number (w.reverse ++ done)) acc cs := by
  induction w generalizing done with
  | nil => rfl
  | cons c w ih =>
    obtain ⟨hc, hw⟩ := List.forall_mem_cons.1 h
    have hstep : (Scan.number done).step c = some (.number (c :: done), []) := by
      simp only [Scan.step, hc, if_true]
    rw [List.cons_append, tokensFrom_step hstep]
    exact (ih hw).trans (by rw [List.reverse_cons, List.append_assoc]; rfl)

/-- A number is complete when it cannot go on; what comes next is read as between tokens. -/
theorem tokensFrom_ended (ht : numberToken? done = some t) (hend : Ended cs) :
    tokensFrom (.number done) acc cs = tokensFrom .between (t :: acc) cs := by
  cases cs with
  | nil => simp [tokensFrom, Scan.finish, ht]
  | cons c rest =>
    have hc : isNumberChar c = false := hend c rfl
    have hstep : (Scan.number done).step c =
        (Scan.start c).map fun p => (p.1, t :: p.2) := by
      simp only [Scan.step, hc, ht, Bool.false_eq_true, if_false, Option.bind_eq_bind,
        Option.bind_some]
      cases Scan.start c <;> rfl
    have hbetween : Scan.between.step c = Scan.start c := rfl
    simp only [tokensFrom, hstep, hbetween]
    cases Scan.start c with
    | none => rfl
    | some p => simp

theorem tokensFrom_number {t : NumberText} (hw : Digits w) (ht : NumberText.ofChars w = some t)
    (hend : Ended cs) : tokensFrom .between acc (w ++ cs) =
      tokensFrom .between (.scalar (.number t.value?) :: acc) cs := by
  obtain ⟨c, rest, rfl, hc⟩ := hw.starts
  have hrest : ∀ c ∈ rest, isNumberChar c = true := fun x hx =>
    hw.chars x (List.mem_cons_of_mem c hx)
  have htoken : numberToken? (rest.reverse ++ [c]) = some (.scalar (.number t.value?)) := by
    simp [numberToken?, ht]
  calc tokensFrom .between acc (c :: rest ++ cs)
      = tokensFrom (.number [c]) acc (rest ++ cs) :=
        tokensFrom_shift (start_digits hc)
    _ = tokensFrom (.number (rest.reverse ++ [c])) acc cs := tokensFrom_digits hrest
    _ = _ := tokensFrom_ended htoken hend

theorem tokensFrom_of_spells (h : Spells cs ts) :
    tokensFrom .between acc cs = some (acc.reverse ++ ts) := by
  induction h generalizing acc with
  | nil => rfl
  | blank hc _ ih =>
    refine (tokensFrom_shift ?_).trans ih
    simp only [Scan.step, Scan.start, hc, if_true]
  | lexeme hw _ ih => simp [tokensFrom_lexeme hw, ih]
  | number hw ht hend _ ih => simp [tokensFrom_number hw ht hend, ih]

/-! ## What is read is spelled -/

/-- What the machine has read of a token that is not complete. -/
def Open : Scan → List Char → Prop
  | .between, w => w = []
  | .text d, w => ∃ v, w = '"' :: v ∧ Inside v d
  | .escape d, w => ∃ v d₀, w = '"' :: v ++ ['\\'] ∧ d = d₀.escaped ∧ Inside v d₀
  | .hex d n missing, w => ∃ v d₀ ds, w = '"' :: v ++ '\\' :: 'u' :: ds ∧ d = d₀.escaped ∧
      Inside v d₀ ∧ Hex ds n ∧ ds.length + missing = 4 ∧ 0 < missing
  | .number done, w => w = done.reverse ∧ Digits w
  | .word missing r, w => missing ≠ [] ∧ Word (w ++ missing) r

/-- The characters spell the tokens, and then `w` of the next one. -/
def SpellsUpTo (cs : List Char) (ts : List Token) (w : List Char) : Prop :=
  ∀ rest more, Spells (w ++ rest) more → Spells (cs ++ rest) (ts ++ more)

/-- One branch after the other. -/
theorem of_ite {α : Type} {p q : Prop} [Decidable p] {a b x : α} (h : (if p then a else b) = x)
    (hpos : p → a = x → q) (hneg : ¬ p → b = x → q) : q := by
  by_cases hp : p
  · exact hpos hp (by rwa [if_pos hp] at h)
  · exact hneg hp (by rwa [if_neg hp] at h)

theorem start_sound (h : Scan.start c = some (s, ts)) : ∃ w, Open s w ∧ SpellsUpTo [c] ts w := by
  have hmark : ∀ {t}, Lexeme [c] t → SpellsUpTo [c] [t] [] := fun ht rest more h => .lexeme ht h
  have hsame : SpellsUpTo [c] [] [c] := fun rest more h => h
  unfold Scan.start at h
  -- The branches are taken one at a time: a split would open all that follow each of them.
  refine of_ite h (fun hspace h => ?_) fun _ h => ?_
  · cases h
    exact ⟨[], rfl, fun rest more h => .blank hspace h⟩
  iterate 6
    refine of_ite h (fun hc h => ?_) fun _ h => ?_
    · cases h
      subst hc
      exact ⟨[], rfl, hmark (by constructor)⟩
  refine of_ite h (fun hc h => ?_) fun _ h => ?_
  · cases h
    exact ⟨[c], ⟨[], by rw [hc], .empty⟩, hsame⟩
  refine of_ite h (fun hdigit h => ?_) fun _ h => ?_
  · cases h
    refine ⟨[c], ⟨rfl, ⟨c, [], rfl, hdigit⟩, List.forall_mem_singleton.2 ?_⟩, hsame⟩
    rcases Bool.or_eq_true_iff.1 hdigit with hc | hc <;> simp [isNumberChar, hc]
  iterate 3
    refine of_ite h (fun hc h => ?_) fun _ h => ?_
    · cases h
      subst hc
      exact ⟨_, ⟨nofun, by constructor⟩, hsame⟩
  cases h

theorem SpellsUpTo.of_eq {w' : List Char} (h : w' = w ++ [c]) : SpellsUpTo (w ++ [c]) [] w' := by
  subst h
  exact fun rest more h => h

/-- A step goes on with the token or completes it. -/
theorem step_sound (ho : Open s w) (h : s.step c = some (s', ts)) :
    ∃ w', Open s' w' ∧ SpellsUpTo (w ++ [c]) ts w' := by
  cases s with
  | between =>
    obtain rfl := ho
    exact start_sound h
  | text d =>
    obtain ⟨v, rfl, hv⟩ := ho
    simp only [Scan.step] at h
    split_ifs at h with hquote hslash hlow <;> cases h
    · subst hquote
      exact ⟨[], rfl, fun rest more h => .lexeme (.text hv) h⟩
    · subst hslash
      exact ⟨_, ⟨v, d, rfl, rfl, hv⟩, .of_eq rfl⟩
    · exact ⟨_, ⟨v ++ [c], rfl, hv.plain hquote hslash (Nat.not_lt.1 hlow)⟩, .of_eq rfl⟩
  | escape d =>
    obtain ⟨v, d₀, rfl, rfl, hv⟩ := ho
    simp only [Scan.step] at h
    split_ifs at h with hu
    · cases h
      subst hu
      exact ⟨_, ⟨v, d₀, [], rfl, rfl, hv, .nil, rfl, by omega⟩, .of_eq (by simp)⟩
    · obtain ⟨e, he, heq⟩ := Option.map_eq_some_iff.1 h
      cases heq
      exact ⟨_, ⟨_, rfl, hv.short he⟩, .of_eq (by simp)⟩
  | hex d n missing =>
    obtain ⟨v, d₀, ds, rfl, rfl, hv, hn, hlen, hpos⟩ := ho
    simp only [Scan.step] at h
    split at h
    · cases h
    · next x hx =>
      have hlen' : (ds ++ [c]).length = ds.length + 1 := by simp
      split_ifs at h with hlast <;> cases h
      · exact ⟨_, ⟨_, rfl, hv.code (hn.digit hx) (by omega)⟩, .of_eq (by simp)⟩
      · exact ⟨_, ⟨v, d₀, _, rfl, rfl, hv, hn.digit hx, by omega, by omega⟩, .of_eq (by simp)⟩
  | number done =>
    obtain ⟨rfl, hw⟩ := ho
    obtain ⟨first, rest, hfirst, hstart⟩ := hw.starts
    simp only [Scan.step] at h
    split_ifs at h with hc
    · cases h
      refine ⟨done.reverse ++ [c], ⟨by simp, ⟨first, rest ++ [c], by simp [hfirst], hstart⟩, ?_⟩,
        .of_eq rfl⟩
      exact List.forall_mem_append.2 ⟨hw.chars, List.forall_mem_singleton.2 hc⟩
    · obtain ⟨t, ht, h⟩ := Option.bind_eq_some_iff.1 h
      obtain ⟨⟨s₁, ts₁⟩, hs₁, heq⟩ := Option.bind_eq_some_iff.1 h
      cases heq
      obtain ⟨text, htext, rfl⟩ := Option.map_eq_some_iff.1 ht
      -- The character that ends the number is the first of what comes next.
      obtain ⟨w', ho', hspells⟩ := start_sound hs₁
      refine ⟨w', ho', fun rest more h => ?_⟩
      rw [List.append_assoc]
      refine .number hw htext ?_ (hspells rest more h)
      rintro x ⟨⟩
      exact Bool.eq_false_iff.2 hc
  | word missing r =>
    obtain ⟨hne, hw⟩ := ho
    cases missing with
    | nil => exact absurd rfl hne
    | cons x missing =>
      simp only [Scan.step] at h
      split_ifs at h with hc hend <;> cases h
      · obtain rfl : c = x := Decidable.not_not.1 hc
        obtain rfl := List.isEmpty_iff.1 hend
        exact ⟨[], rfl, fun rest more h => .lexeme (.word hw) h⟩
      · obtain rfl : c = x := Decidable.not_not.1 hc
        refine ⟨w ++ [c], ⟨fun h => hend (List.isEmpty_iff.2 h), ?_⟩, .of_eq rfl⟩
        rwa [List.append_assoc]

theorem finish_sound (ho : Open s w) (h : s.finish = some ts) : Spells w ts := by
  cases s with
  | between =>
    cases h
    exact ho ▸ .nil
  | number done =>
    obtain ⟨rfl, hw⟩ := ho
    obtain ⟨t, ht, rfl⟩ := Option.map_eq_some_iff.1 h
    obtain ⟨text, htext, rfl⟩ := Option.map_eq_some_iff.1 ht
    have hspells : Spells (done.reverse ++ []) _ := .number hw htext nofun .nil
    rwa [List.append_nil] at hspells
  | _ => cases h

theorem spells_of_tokensFrom {out : List Token} (ho : Open s w)
    (h : tokensFrom s acc cs = some out) : ∃ ts, out = acc.reverse ++ ts ∧ Spells (w ++ cs) ts := by
  induction cs generalizing s w acc with
  | nil =>
    obtain ⟨ts, hts, rfl⟩ := Option.map_eq_some_iff.1 h
    exact ⟨ts, rfl, by simpa using finish_sound ho hts⟩
  | cons c rest ih =>
    cases hstep : s.step c with
    | none => simp [tokensFrom, hstep] at h
    | some p =>
      obtain ⟨s', ts⟩ := p
      rw [tokensFrom_step hstep] at h
      obtain ⟨w', ho', hspells⟩ := step_sound ho hstep
      obtain ⟨more, rfl, hmore⟩ := ih ho' h
      refine ⟨ts ++ more, by simp, ?_⟩
      simpa using hspells rest more hmore

end

/-! ## Main result -/

/-- A text has these tokens exactly if it spells them, with blanks wherever they may stand. -/
theorem tokens_eq_some_iff {cs : List Char} {ts : List Token} :
    tokens cs = some ts ↔ Spells cs ts := by
  constructor
  · intro h
    obtain ⟨ts', rfl, hts⟩ := spells_of_tokensFrom (s := .between) (w := []) rfl h
    exact hts
  · exact tokensFrom_of_spells

end VaultProjection.Json

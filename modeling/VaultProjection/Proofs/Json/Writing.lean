import Mathlib.Data.List.TakeDrop
import Mathlib.Data.List.TakeWhile
import VaultProjection.Json.Write
import VaultProjection.Proofs.Json.Reading
import VaultProjection.Proofs.Json.Values

/-!
# What is written is read back

An exact value is written as text that spells a document with the same value, so all of it comes
back.

Results:
1. `exists_inside`: a quoted text spells what was quoted.
2. `exists_number`: an integer of 64 bits is written as a number of this value.
3. `read?_compact`: the compact text of an exact value is read as that value.
-/

namespace VaultProjection.Json

/-! ## Texts -/

/-- The draft holds these characters and waits for no half of a pair. -/
def Draft.Holds (d : Draft) (cs : List Char) : Prop := d.chars = some cs.reverse ∧ d.high = none

namespace Draft

variable {d : Draft} {cs : List Char} {c : Char}

theorem Holds.push (h : d.Holds cs) (c : Char) : (d.push c).Holds (cs ++ [c]) := by
  obtain ⟨hchars, hhigh⟩ := h
  simp [Draft.push, Holds, hchars, hhigh]

theorem Holds.escaped (h : d.Holds cs) : d.escaped.Holds cs := h

/-- The code of a control character stands for that character. -/
theorem Holds.pushUnit (h : d.Holds cs) (hc : c.toNat < 32) :
    (d.pushUnit c.toNat).Holds (cs ++ [c]) := by
  have hunit : d.pushUnit c.toNat = d.push (Char.ofNat c.toNat) := by
    simp only [Draft.pushUnit, h.2]
    rw [if_neg (by omega), if_neg (by omega)]
  rw [hunit, Char.ofNat_toNat]
  exact h.push c

theorem Holds.finish (h : d.Holds cs) : d.finish.value? = some (String.ofList cs) := by
  obtain ⟨hchars, hhigh⟩ := h
  simp [Draft.finish, hchars, hhigh]

end Draft

theorem hexValue?_digitChar {n : Nat} (h : n < 16) : hexValue? (Nat.digitChar n) = some n := by
  have hall : ∀ m : Fin 16, hexValue? (Nat.digitChar m) = some m.val := by decide
  exact hall ⟨n, h⟩

/-- A control character by its code. -/
theorem hex_code {c : Char} (hc : c.toNat < 32) :
    Hex ['0', '0', Nat.digitChar (c.toNat / 16), Nat.digitChar (c.toNat % 16)] c.toNat := by
  have hzero : Hex ([] ++ ['0'] ++ ['0']) ((0 * 16 + 0) * 16 + 0) :=
    .digit (.digit .nil rfl) rfl
  have hhigh := hexValue?_digitChar (show c.toNat / 16 < 16 by omega)
  have hlow := hexValue?_digitChar (show c.toNat % 16 < 16 by omega)
  have hcode := (hzero.digit hhigh).digit hlow
  rwa [show (0 * 16 + c.toNat / 16) * 16 + c.toNat % 16 = c.toNat by omega] at hcode

/-- How a character stands in a quoted text: behind a backslash, by its code, or as it is. -/
theorem escapedChar_cases (c : Char) :
    (∃ x, simpleEscape? x = some c ∧ escapedChar c = ['\\', x]) ∨
    (c.toNat < 32 ∧ escapedChar c =
      ['\\', 'u', '0', '0', Nat.digitChar (c.toNat / 16), Nat.digitChar (c.toNat % 16)]) ∨
    (c ≠ '"' ∧ c ≠ '\\' ∧ 32 ≤ c.toNat ∧ escapedChar c = [c]) := by
  unfold escapedChar
  by_cases hquote : c = '"'
  · exact .inl ⟨'"', by rw [hquote]; rfl, if_pos hquote⟩
  by_cases hslash : c = '\\'
  · exact .inl ⟨'\\', by rw [hslash]; rfl, by rw [if_neg hquote, if_pos hslash]⟩
  rw [if_neg hquote, if_neg hslash]
  by_cases hn : c = '\n'
  · exact .inl ⟨'n', hn ▸ rfl, if_pos hn⟩
  by_cases hr : c = '\r'
  · exact .inl ⟨'r', hr ▸ rfl, by rw [if_neg hn, if_pos hr]⟩
  rw [if_neg hn, if_neg hr]
  by_cases ht : c = '\t'
  · exact .inl ⟨'t', ht ▸ rfl, if_pos ht⟩
  by_cases hb : c = '\x08'
  · exact .inl ⟨'b', hb ▸ rfl, by rw [if_neg ht, if_pos hb]⟩
  rw [if_neg ht, if_neg hb]
  by_cases hf : c = '\x0c'
  · exact .inl ⟨'f', hf ▸ rfl, if_pos hf⟩
  rw [if_neg hf]
  by_cases hlow : c.toNat < 32
  · exact .inr (.inl ⟨hlow, if_pos hlow⟩)
  · exact .inr (.inr ⟨hquote, hslash, Nat.not_lt.1 hlow, if_neg hlow⟩)

theorem exists_escaped {w : List Char} {d : Draft} {cs : List Char} (h : Inside w d)
    (hd : d.Holds cs) (c : Char) :
    ∃ d', Inside (w ++ escapedChar c) d' ∧ d'.Holds (cs ++ [c]) := by
  rcases escapedChar_cases c with ⟨x, hx, heq⟩ | ⟨hlow, heq⟩ | ⟨hquote, hslash, hhigh, heq⟩
  all_goals rw [heq]
  · exact ⟨_, h.short hx, hd.escaped.push c⟩
  · exact ⟨_, h.code (hex_code hlow) rfl, hd.escaped.pushUnit hlow⟩
  · exact ⟨_, h.plain hquote hslash hhigh, hd.push c⟩

/-- A quoted text spells what was quoted. -/
theorem exists_inside (cs : List Char) : ∃ d, Inside (cs.flatMap escapedChar) d ∧ d.Holds cs := by
  suffices h : ∀ (w done : List Char) (d : Draft), Inside w d → d.Holds done →
      ∃ d', Inside (w ++ cs.flatMap escapedChar) d' ∧ d'.Holds (done ++ cs) from
    h [] [] .empty .empty ⟨rfl, rfl⟩
  induction cs with
  | nil => exact fun w done d hw hd => ⟨d, by simpa using hw, by simpa using hd⟩
  | cons c cs ih =>
    intro w done d hw hd
    obtain ⟨d', hw', hd'⟩ := exists_escaped hw hd c
    obtain ⟨d'', hw'', hd''⟩ := ih _ _ _ hw' hd'
    exact ⟨d'', by simpa using hw'', by simpa using hd''⟩

theorem quoted_eq (s : String) (tail : List Char) :
    quoted s tail = '"' :: s.toList.flatMap escapedChar ++ ['"'] ++ tail := by
  have hfold : ∀ cs : List Char, cs.foldr (fun c t => escapedChar c ++ t) ('"' :: tail) =
      cs.flatMap escapedChar ++ '"' :: tail := by
    intro cs
    induction cs with
    | nil => rfl
    | cons c cs ih => simp [ih]
  simp [quoted, hfold]

theorem exists_quoted (s : String) : ∃ t : RawText, t.value? = some s ∧
    ∀ tail ts, Spells tail ts → Spells (quoted s tail) (.text t :: ts) := by
  obtain ⟨d, hw, hd⟩ := exists_inside s.toList
  refine ⟨d.finish, by simpa using hd.finish, fun tail ts h => ?_⟩
  rw [quoted_eq]
  exact .lexeme (.text hw) h

/-! ## Integers -/

theorem isDigit_of_mem {n : Nat} {c : Char} (h : c ∈ Nat.toDigits 10 n) : isDigit c = true := by
  have hdigit := Nat.isDigit_of_mem_toDigits (by decide) (by decide) h
  simpa [isDigit, Char.isDigit, Char.le_def] using hdigit

/-- Only zero itself is written with a zero in front. -/
theorem head_toDigits {n : Nat} (h : 0 < n) : (Nat.toDigits 10 n).head? ≠ some '0' := by
  induction n using Nat.strongRecOn with
  | ind n ih =>
    rw [Nat.toDigits_eq_if (by decide)]
    split
    · next hlt =>
      have hall : ∀ m : Fin 10, 0 < m.val → [Nat.digitChar m].head? ≠ some '0' := by decide
      exact hall ⟨n, hlt⟩ h
    · next hge =>
      have hnext := ih (n / 10) (by omega) (by omega)
      rwa [List.head?_append_of_ne_nil _ Nat.toDigits_ne_nil]

theorem alone_of_zero {n : Nat} {rest : List Char} (h : Nat.toDigits 10 n = '0' :: rest) :
    rest = [] := by
  rcases Nat.eq_zero_or_pos n with rfl | hpos
  · exact (List.cons.inj h).2.symm
  · exact absurd (by rw [h]; rfl) (head_toDigits hpos)

theorem le_ofDigitChars (ds : List Char) (m : Nat) : m ≤ Nat.ofDigitChars 10 ds m := by
  induction ds generalizing m with
  | nil => exact Nat.le_refl m
  | cons c ds ih =>
    rw [Nat.ofDigitChars_cons]
    exact Nat.le_trans (by omega) (ih _)

/-- Digits whose number fits are all kept. -/
theorem ofWhole_go {ds : List Char} {m : Nat} (h : Nat.ofDigitChars 10 ds m ≤ maxUInt64) :
    Significand.ofWhole.go m 0 ds = ⟨Nat.ofDigitChars 10 ds m, 0⟩ := by
  induction ds generalizing m with
  | nil => rfl
  | cons c ds ih =>
    have hnext : m * 10 + digitValue c = 10 * m + (c.toNat - '0'.toNat) := by
      rw [Nat.mul_comm]
      rfl
    rw [Nat.ofDigitChars_cons] at h ⊢
    have hle := Nat.le_trans (le_ofDigitChars ds _) h
    rw [Significand.ofWhole.go, hnext, if_neg (by omega), ih h]

theorem ofWhole_toDigits {n : Nat} (h : n ≤ maxUInt64) :
    Significand.ofWhole (Nat.toDigits 10 n) = ⟨n, 0⟩ := by
  have hvalue : Nat.ofDigitChars 10 (Nat.toDigits 10 n) 0 = n := Nat.ofDigitChars_ten_toDigits
  have hfits : Nat.ofDigitChars 10 (Nat.toDigits 10 n) 0 ≤ maxUInt64 := by rwa [hvalue]
  have hgo := ofWhole_go hfits
  rwa [hvalue] at hgo

/-- The digits are more than one, and the first is a zero. -/
def leadsWithZero : List Char → Bool
  | '0' :: _ :: _ => true
  | _ => false

/-- Digits are the text of a whole number, with or without a minus in front. -/
theorem ofChars_digits {ds : List Char} (hd : ∀ c ∈ ds, isDigit c = true) (hne : ds ≠ [])
    (hlead : ∀ rest, ds = '0' :: rest → rest = []) :
    NumberText.ofChars ds = some ⟨false, ds, none, none⟩ ∧
      NumberText.ofChars ('-' :: ds) = some ⟨true, ds, none, none⟩ := by
  have hspan : ds.span isDigit = (ds, []) := by
    rw [List.span_eq_takeWhile_dropWhile, List.takeWhile_eq_self_iff.2 hd,
      List.dropWhile_eq_nil_iff.2 hd]
  have hempty : ds.isEmpty = false := List.isEmpty_eq_false_iff.2 hne
  have hzero : ¬ leadsWithZero ds = true := by
    unfold leadsWithZero
    split
    · cases hlead _ rfl
    · nofun
  constructor
  · unfold NumberText.ofChars
    split
    next negative cs hsplit =>
    split at hsplit
    · cases hd '-' List.mem_cons_self
    · cases hsplit
      simp only [hspan, hempty, Bool.false_or]
      exact if_neg hzero
  · simp only [NumberText.ofChars, hspan, hempty, Bool.false_or]
    exact if_neg hzero

theorem digits_of_isDigit {ds : List Char} (hd : ∀ c ∈ ds, isDigit c = true) (hne : ds ≠ []) :
    Digits ds ∧ Digits ('-' :: ds) := by
  have hchars : ∀ c ∈ ds, isNumberChar c = true := fun c hc => by simp [isNumberChar, hd c hc]
  obtain ⟨c, rest, rfl⟩ := List.exists_cons_of_ne_nil hne
  exact ⟨⟨⟨c, rest, rfl, by simp [hd c List.mem_cons_self]⟩, hchars⟩,
    ⟨⟨'-', _, rfl, rfl⟩, List.forall_mem_cons.2 ⟨rfl, hchars⟩⟩⟩

/-- An integer of 64 bits is written as a number of this value. -/
theorem exists_number {n : Int} (h : Fits n) : ∃ t, Digits (intChars n) ∧
    NumberText.ofChars (intChars n) = some t ∧ t.value? = some (.int n) := by
  obtain ⟨hlow, hhigh⟩ := h
  have hdigits : ∀ m, (∀ c ∈ Nat.toDigits 10 m, isDigit c = true) ∧ Nat.toDigits 10 m ≠ [] :=
    fun m => ⟨fun _ => isDigit_of_mem, Nat.toDigits_ne_nil⟩
  cases n with
  | ofNat m =>
    obtain ⟨hd, hne⟩ := hdigits m
    have hfits : m ≤ maxUInt64 := Int.ofNat_le.1 hhigh
    refine ⟨_, (digits_of_isDigit hd hne).1, (ofChars_digits hd hne fun _ => alone_of_zero).1, ?_⟩
    simp [NumberText.value?, ofWhole_toDigits hfits]
  | negSucc m =>
    obtain ⟨hd, hne⟩ := hdigits (m + 1)
    have hfits : m + 1 ≤ Nat.pow 2 63 := by omega
    have hmax : m + 1 ≤ maxUInt64 := Nat.le_trans hfits (by decide)
    refine ⟨_, (digits_of_isDigit hd hne).2, (ofChars_digits hd hne fun _ => alone_of_zero).2, ?_⟩
    simp only [NumberText.value?, ofWhole_toDigits hmax]
    simp [Nat.not_lt.2 hfits, Int.negSucc_eq]

/-! ## Values -/

/-- Written in front of a text, the value's tokens stand in front of its tokens. -/
def Prints (write : List Char → List Char) (ts : List Token) : Prop :=
  ∀ tail more, Spells tail more → Ended tail → Spells (write tail) (ts ++ more)

/-- Parts with a comma between each two, in front of a text. -/
def writeParts : List (List Char → List Char) → List Char → List Char
  | [], tail => tail
  | [part], tail => part tail
  | part :: parts, tail => part (',' :: writeParts parts tail)

theorem writeItems_eq (js : List Json) (tail : List Char) :
    writeItems js tail = writeParts (js.map write) tail := by
  induction js with
  | nil => rfl
  | cons j js ih =>
    cases js with
    | nil => rfl
    | cons j' js => simp only [writeItems, List.map_cons, writeParts, ih]

/-- A member in front of a text. -/
def writeMember (m : String × Json) (tail : List Char) : List Char :=
  quoted m.1 (':' :: write m.2 tail)

theorem writeMembers_eq (ms : List (String × Json)) (tail : List Char) :
    writeMembers ms tail = writeParts (ms.map writeMember) tail := by
  induction ms with
  | nil => rfl
  | cons m ms ih =>
    cases ms with
    | nil => rfl
    | cons m' ms => simp only [writeMembers, List.map_cons, writeParts, writeMember, ih]

theorem ended_cons {c : Char} (h : isNumberChar c = false) (cs : List Char) : Ended (c :: cs) := by
  rintro x ⟨⟩
  exact h

theorem prints_parts {writes : List (List Char → List Char)} {parts : List (List Token)}
    (h : List.Forall₂ Prints writes parts) : Prints (writeParts writes) (separated parts) := by
  induction h with
  | nil => exact fun tail more hs _ => hs
  | @cons write part writes parts hw hrest ih =>
    cases hrest with
    | nil => simpa [separated, writeParts] using hw
    | @cons write' part' writes parts _ _ =>
      intro tail more hs hend
      have hcomma : Spells (',' :: writeParts (write' :: writes) tail)
          (.comma :: (separated (part' :: parts) ++ more)) := .lexeme .comma (ih tail more hs hend)
      have hall := hw _ _ hcomma (ended_cons rfl _)
      simpa [separated, writeParts] using hall

/-- Brackets around the parts. -/
theorem prints_container {o c : Char} {first last : Token}
    {writes : List (List Char → List Char)} {parts : List (List Token)} (ho : Lexeme [o] first)
    (hc : Lexeme [c] last) (hend : isNumberChar c = false) (h : List.Forall₂ Prints writes parts) :
    Prints (fun tail => o :: writeParts writes (c :: tail))
      (first :: separated parts ++ [last]) := by
  intro tail more hs _
  have hlast : Spells (c :: tail) (last :: more) := .lexeme hc hs
  have hall := prints_parts h _ _ hlast (ended_cons hend _)
  rw [List.append_assoc]
  exact .lexeme ho hall

theorem prints_word {w : List Char} {r : Raw} (h : Word w r) : Prints (w ++ ·) [.scalar r] :=
  fun _ _ hs _ => .lexeme (.word h) hs

theorem prints_member {m : String × Json} {k : RawText} {d : Raw}
    (hk : ∀ tail ts, Spells tail ts → Spells (quoted m.1 tail) (.text k :: ts))
    (hd : Prints (write m.2) d.tokens) : Prints (writeMember m) (Raw.member (k, d)) :=
  fun tail more hs hend => hk _ _ (.lexeme .colon (hd tail more hs hend))

/-- The document has the value, and is what the value's text spells. -/
def Written (room : Nat) (j : Json) (d : Raw) : Prop :=
  d.value? room = some j ∧ Prints (write j) d.tokens

theorem exists_written {room : Nat} {j : Json} (h : j.Exact room) : ∃ d, Written room j d := by
  induction h with
  | null => exact ⟨.null, by simp [Raw.value?], prints_word .null⟩
  | bool _ b =>
    refine ⟨.bool b, by simp [Raw.value?], ?_⟩
    cases b
    · exact prints_word .no
    · exact prints_word .yes
  | @int room n hn =>
    obtain ⟨t, hdigits, ht, hvalue⟩ := exists_number hn
    exact ⟨.number t.value?, by rw [Raw.value?, hvalue],
      fun tail more hs hend => .number hdigits ht hend hs⟩
  | str _ s =>
    obtain ⟨t, ht, hprints⟩ := exists_quoted s
    exact ⟨.text t, by simp [Raw.value?, ht], fun tail more hs _ => hprints tail more hs⟩
  | @arr room js _ ih =>
    obtain ⟨rs, hrs⟩ := exists_forall₂ ih
    refine ⟨.items rs, Raw.value?_items.2 ⟨js, (hrs.imp fun _ _ h => h.1).flip, rfl⟩, ?_⟩
    have hparts : List.Forall₂ Prints (js.map write) (rs.map Raw.tokens) := by
      rw [List.forall₂_map_left_iff, List.forall₂_map_right_iff]
      exact hrs.imp fun _ _ h => h.2
    have hwrite : write (.arr js) = fun tail => '[' :: writeParts (js.map write) (']' :: tail) :=
      funext fun tail => by rw [write, writeItems_eq]
    rw [Raw.tokens_items, hwrite]
    exact prints_container .openArray .closeArray rfl hparts
  | @obj room ms hsorted _ ih =>
    have hmembers : ∀ m ∈ ms, ∃ n : RawText × Raw,
        Raw.Makes room n m ∧ Prints (writeMember m) (Raw.member n) := by
      intro m hm
      obtain ⟨k, hk, hquoted⟩ := exists_quoted m.1
      obtain ⟨d, hd, hprints⟩ := ih m hm
      exact ⟨(k, d), ⟨hk, hd⟩, prints_member hquoted hprints⟩
    obtain ⟨ns, hns⟩ := exists_forall₂ hmembers
    -- The members are in order already, so putting them in order changes nothing.
    have hself : Entries.ofList ms = ms :=
      (Entries.sorted_ofList ms).eq_of_perm hsorted (Entries.ofList_perm hsorted.nodup)
    refine ⟨.members ns,
      Raw.value?_members.2 ⟨ms, (hns.imp fun _ _ h => h.1).flip, by rw [hself]⟩, ?_⟩
    have hparts : List.Forall₂ Prints (ms.map writeMember) (ns.map Raw.member) := by
      rw [List.forall₂_map_left_iff, List.forall₂_map_right_iff]
      exact hns.imp fun _ _ h => h.2
    have hwrite : write (.obj ms) =
        fun tail => '\x7b' :: writeParts (ms.map writeMember) ('\x7d' :: tail) :=
      funext fun tail => by rw [write, writeMembers_eq]
    rw [Raw.tokens_members, hwrite]
    exact prints_container .openObject .closeObject rfl hparts

/-! ## Main result -/

/-- The compact text of an exact value is read as that value. -/
theorem read?_compact {j : Json} (h : j.Exact maxDepth) : Json.read? j.compact = some j := by
  obtain ⟨d, hd, hprints⟩ := exists_written h
  have hspells : Spells j.compact.toList d.tokens := by
    have hall := hprints [] [] .nil nofun
    rwa [List.append_nil, ← String.toList_ofList (l := write j [])] at hall
  rw [Json.read?, Raw.read?_eq_some_iff.2 hspells]
  exact hd

end VaultProjection.Json

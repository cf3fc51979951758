import Mathlib.Algebra.Group.Nat.Defs
import VaultProjection.Base64

/-!
# Base64 as it is written and as it is read

Writing cuts the bytes into groups of three and gives four signs for each; the strict reading takes
four signs at a time. A group of one or two bytes is filled up with zero bits, and padding stands
for the digits that are missing. Because reading wants the padding and refuses other bits in that
place, nothing but what is written can be read.

Results:
1. `decode_encode`: what is written is read back.
2. `encode_of_decode`: what can be read is what is written for it.
-/

namespace VaultProjection.Base64

theorem ok_of_bind {α β : Type} {x : Except Fault α} {f : α → Except Fault β} {r : β}
    (h : (x >>= f) = .ok r) : ∃ a, x = .ok a ∧ f a = .ok r := by
  cases x with
  | error fault => cases h
  | ok a => exact ⟨a, rfl, h⟩

/-! ## Digits -/

theorem value?_digit {v : Nat} (h : v < 64) : value? (digit v) = some v := by
  have hall : ∀ v : Fin 64, value? (digit v) = some v.val := by decide +kernel
  exact hall ⟨v, h⟩

theorem digit_of_value? {b : UInt8} {v : Nat} (h : value? b = some v) : v < 64 ∧ digit v = b := by
  have hall : ∀ n : Fin 256, ∀ v ∈ value? (UInt8.ofNat n), v < 64 ∧ digit v = UInt8.ofNat n := by
    decide +kernel
  have hb := hall ⟨b.toNat, b.toNat_lt⟩ v
  rw [UInt8.ofNat_toNat] at hb
  exact hb h

theorem valueAt_digit {v : Nat} (h : v < 64) (i : Nat) : valueAt (digit v) i = .ok v := by
  rw [valueAt, value?_digit h]

theorem digit_of_valueAt {b : UInt8} {i v : Nat} (h : valueAt b i = .ok v) :
    v < 64 ∧ digit v = b := by
  unfold valueAt at h
  split at h
  · next hv =>
    cases h
    exact digit_of_value? hv
  · cases h

theorem digit_ne_pad {v : Nat} (h : v < 64) : digit v ≠ pad := by
  intro hpad
  have hv := value?_digit h
  rw [hpad] at hv
  cases hv

/-! ## Groups of digits -/

/-- The signs of a group: digits with these values, and padding for those that are missing. -/
def signs (ds : List Nat) : Bytes := ds.map digit ++ List.replicate (4 - ds.length) pad

/-- The bits of a group, with zeros for the digits that are missing. -/
def bits (ds : List Nat) : Nat :=
  (ds ++ List.replicate (4 - ds.length) 0).foldl (fun n v => n <<< 6 ||| v) 0

/-- The bytes that a group of digits holds. -/
def join (ds : List Nat) : Bytes := groupBytes (bits ds) (ds.length - 1)

/-- Two to four digits, without bits behind the last byte. -/
structure Filled (ds : List Nat) : Prop where
  two_le : 2 ≤ ds.length
  le_four : ds.length ≤ 4
  digit : ∀ v ∈ ds, v < 64
  rest : bits ds % 256 ^ (4 - ds.length) = 0

/-- How many bytes there are in two to four digits, and which bits stand behind the last one. -/
theorem room {k : Nat} (h : 2 ≤ k) (h' : k ≤ 4) :
    k * 6 / 8 = k - 1 ∧ Nat.pow 2 (24 - 8 * (k - 1)) = 256 ^ (4 - k) := by
  obtain rfl | rfl | rfl : k = 2 ∨ k = 3 ∨ k = 4 := by omega
  all_goals decide

/-- The last group may hold digits and then padding. -/
theorem readTail_ok {offset i : Nat} {t t' : Tail} {b : Bytes}
    (h : readTail offset i t b = .ok t') : ∃ ds pads, b = ds.map digit ++ List.replicate pads pad ∧
      (∀ v ∈ ds, v < 64) ∧ (0 < t.pads → ds = []) ∧ t'.values = t.values ++ ds ∧
      t'.pads = t.pads + pads := by
  induction b generalizing i t with
  | nil =>
    cases h
    exact ⟨[], 0, rfl, by simp, fun _ => rfl, by simp, rfl⟩
  | cons x b ih =>
    rw [readTail] at h
    split at h
    · next hx =>
      split at h
      · cases h
      · obtain ⟨ds, pads, rfl, -, hnil, hvalues, hpads⟩ := ih h
        obtain rfl := hnil (Nat.succ_pos _)
        refine ⟨[], pads + 1, by rw [hx]; rfl, by simp, fun _ => rfl, hvalues, ?_⟩
        rw [hpads]
        dsimp only
        omega
    · split at h
      · cases h
      · next hpads =>
        obtain ⟨v, hv, h⟩ := ok_of_bind h
        obtain ⟨hlt, rfl⟩ := digit_of_valueAt hv
        obtain ⟨ds, pads, rfl, hds, -, hvalues, hpads'⟩ := ih h
        refine ⟨v :: ds, pads, rfl, List.forall_mem_cons.2 ⟨hlt, hds⟩,
          fun hp => absurd hp hpads, ?_, hpads'⟩
        rw [hvalues]
        simp

theorem readTail_pads (offset : Nat) {i : Nat} (hi : 2 ≤ i) (t : Tail) (pads : Nat) :
    ∃ t', readTail offset i t (List.replicate pads pad) = .ok t' ∧ t'.values = t.values ∧
      t'.pads = t.pads + pads := by
  induction pads generalizing i t with
  | zero => exact ⟨t, rfl, rfl, rfl⟩
  | succ pads ih =>
    obtain ⟨t', ht', hvalues, hpads⟩ := ih (Nat.le_succ_of_le hi)
      { t with pads := t.pads + 1, firstPad := if t.pads = 0 then i else t.firstPad }
    refine ⟨t', ?_, hvalues, by rw [hpads]; dsimp only; omega⟩
    rw [List.replicate_succ, readTail, if_pos rfl, if_neg (by omega), ht']

theorem readTail_digits (offset : Nat) {i : Nat} {t : Tail} {ds : List Nat} (hds : ∀ v ∈ ds, v < 64)
    (hpads : t.pads = 0) (hi : 2 ≤ i + ds.length) (pads : Nat) :
    ∃ t', readTail offset i t (ds.map digit ++ List.replicate pads pad) = .ok t' ∧
      t'.values = t.values ++ ds ∧ t'.pads = pads := by
  induction ds generalizing i t with
  | nil =>
    obtain ⟨t', ht', hvalues, hp⟩ := readTail_pads offset hi t pads
    exact ⟨t', ht', by rw [hvalues, List.append_nil], by omega⟩
  | cons v ds ih =>
    obtain ⟨hv, hds⟩ := List.forall_mem_cons.1 hds
    rw [List.length_cons] at hi
    obtain ⟨t', ht', hvalues, hp⟩ := ih (i := i + 1)
      (t := { t with values := t.values ++ [v], lastDigit := digit v }) hds hpads (by omega)
    refine ⟨t', ?_, by rw [hvalues]; simp, hp⟩
    rw [List.map_cons, List.cons_append, readTail, if_neg (digit_ne_pad hv),
      if_neg (by omega), valueAt_digit hv]
    exact ht'

/-- The last group can be read if it is the signs of digits without bits behind the last byte. -/
theorem finish_ok_iff {offset : Nat} {b bytes : Bytes} (hlen : b.length ≤ 4) :
    finish offset b = .ok bytes ↔ ∃ ds, Filled ds ∧ b = signs ds ∧ bytes = join ds := by
  constructor
  · intro h
    unfold finish at h
    obtain ⟨t, ht, hbytes⟩ := ok_of_bind h
    obtain ⟨ds, pads, rfl, hds, -, hvalues, hpads⟩ := readTail_ok ht
    simp only [List.nil_append, Nat.zero_add] at hvalues hpads
    rw [hvalues, hpads] at hbytes
    dsimp only at hbytes
    rw [List.length_append, List.length_map, List.length_replicate] at hlen
    split at hbytes
    · cases hbytes
    · split at hbytes
      · cases hbytes
      · split at hbytes
        · cases hbytes
        · next hmany hwhole hrest =>
          obtain rfl : pads = 4 - ds.length := by omega
          obtain ⟨hroom, hspare⟩ := room (k := ds.length) (by omega) (by omega)
          rw [hroom, hspare] at hrest
          rw [hroom] at hbytes
          exact ⟨ds, ⟨by omega, by omega, hds, Decidable.not_not.1 hrest⟩, rfl,
            (Except.ok.inj hbytes).symm⟩
  · rintro ⟨ds, hfilled, rfl, rfl⟩
    have htwo := hfilled.two_le
    have hfour := hfilled.le_four
    obtain ⟨t, ht, hvalues, hpads⟩ := readTail_digits offset (i := 0)
      (t := ⟨[], 0, 0, 0⟩) hfilled.digit rfl (by omega) (4 - ds.length)
    rw [List.nil_append] at hvalues
    rw [finish, signs, ht]
    simp only [bind, Except.bind, hvalues, hpads]
    obtain ⟨hroom, hspare⟩ := room htwo hfour
    rw [if_neg (by omega), if_neg (by omega), hroom, hspare]
    exact if_neg (Decidable.not_not.2 hfilled.rest)

/-! ## Groups of bytes -/

theorem shift_or {n v k : Nat} (h : v < 2 ^ k) : n <<< k ||| v = n * 2 ^ k + v := by
  rw [← Nat.shiftLeft_add_eq_or_of_lt h, Nat.shiftLeft_eq]

theorem bits_fill {x y z w : Nat} (hy : y < 64) (hz : z < 64) (hw : w < 64) :
    [x, y, z, w].foldl (fun n v => n <<< 6 ||| v) 0 = x * 262144 + y * 4096 + z * 64 + w := by
  simp only [List.foldl_cons, List.foldl_nil, Nat.zero_shiftLeft, Nat.zero_or]
  rw [shift_or (k := 6) hy, shift_or (k := 6) hz, shift_or (k := 6) hw]
  omega

theorem groupBytes_eq (n k : Nat) :
    groupBytes n k = [(n / 65536).toUInt8, (n / 256).toUInt8, n.toUInt8].take k := by
  simp [groupBytes, Nat.shiftRight_eq_div_pow]

/-- The digits of one to three bytes, the last one filled up with zero bits. -/
def cut : Bytes → List Nat
  | [a] => [a.toNat / 4, a.toNat % 4 * 16]
  | [a, b] => [a.toNat / 4, a.toNat % 4 * 16 + b.toNat / 16, b.toNat % 16 * 4]
  | [a, b, c] => [a.toNat / 4, a.toNat % 4 * 16 + b.toNat / 16, b.toNat % 16 * 4 + c.toNat / 64,
      c.toNat % 64]
  | _ => []

theorem toNat_toUInt8 (n : Nat) : n.toUInt8.toNat = n % 256 := UInt8.toNat_ofNat'

theorem toUInt8_eq {n : Nat} {a : UInt8} (h : n % 256 = a.toNat) : n.toUInt8 = a :=
  UInt8.toNat_inj.1 ((toNat_toUInt8 n).trans h)

theorem encode_one (a : UInt8) : encode [a] = signs (cut [a]) := by
  have ha := a.toNat_lt
  simp only [encode, Nat.shiftLeft_eq, Nat.shiftRight_eq_div_pow]
  have h1 : a.toNat * 2 ^ 4 / 2 ^ 6 = a.toNat / 4 := by omega
  have h2 : a.toNat * 2 ^ 4 % 64 = a.toNat % 4 * 16 := by omega
  rw [h1, h2]
  rfl

theorem encode_two (a b : UInt8) : encode [a, b] = signs (cut [a, b]) := by
  have ha := a.toNat_lt
  have hb := b.toNat_lt
  simp only [encode, shift_or hb]
  simp only [Nat.shiftLeft_eq, Nat.shiftRight_eq_div_pow]
  have h1 : (a.toNat * 2 ^ 8 + b.toNat) * 2 ^ 2 / 2 ^ 12 = a.toNat / 4 := by omega
  have h2 : (a.toNat * 2 ^ 8 + b.toNat) * 2 ^ 2 / 2 ^ 6 % 64 =
      a.toNat % 4 * 16 + b.toNat / 16 := by omega
  have h3 : (a.toNat * 2 ^ 8 + b.toNat) * 2 ^ 2 % 64 = b.toNat % 16 * 4 := by omega
  rw [h1, h2, h3]
  rfl

theorem encode_three (a b c : UInt8) (rest : Bytes) :
    encode (a :: b :: c :: rest) = signs (cut [a, b, c]) ++ encode rest := by
  have ha := a.toNat_lt
  have hb := b.toNat_lt
  have hc := c.toNat_lt
  have hn : a.toNat <<< 16 ||| b.toNat <<< 8 ||| c.toNat =
      (a.toNat * 2 ^ 8 + b.toNat) * 2 ^ 8 + c.toNat := by
    rw [show a.toNat <<< 16 = a.toNat <<< 8 <<< 8 from Nat.shiftLeft_add _ 8 8,
      ← Nat.shiftLeft_or_distrib, shift_or hb, shift_or hc]
  simp only [encode, hn, Nat.shiftRight_eq_div_pow]
  have h1 : ((a.toNat * 2 ^ 8 + b.toNat) * 2 ^ 8 + c.toNat) / 2 ^ 18 = a.toNat / 4 := by omega
  have h2 : ((a.toNat * 2 ^ 8 + b.toNat) * 2 ^ 8 + c.toNat) / 2 ^ 12 % 64 =
      a.toNat % 4 * 16 + b.toNat / 16 := by omega
  have h3 : ((a.toNat * 2 ^ 8 + b.toNat) * 2 ^ 8 + c.toNat) / 2 ^ 6 % 64 =
      b.toNat % 16 * 4 + c.toNat / 64 := by omega
  have h4 : ((a.toNat * 2 ^ 8 + b.toNat) * 2 ^ 8 + c.toNat) % 64 = c.toNat % 64 := by omega
  rw [h1, h2, h3, h4]
  rfl

theorem cut_lt {g : Bytes} : ∀ v ∈ cut g, v < 64 := by
  unfold cut
  split
  · next a =>
    have ha := a.toNat_lt
    simp only [List.forall_mem_cons]
    exact ⟨by omega, by omega, by simp⟩
  · next a b =>
    have ha := a.toNat_lt
    have hb := b.toNat_lt
    simp only [List.forall_mem_cons]
    exact ⟨by omega, by omega, by omega, by simp⟩
  · next a b c =>
    have ha := a.toNat_lt
    have hb := b.toNat_lt
    have hc := c.toNat_lt
    simp only [List.forall_mem_cons]
    exact ⟨by omega, by omega, by omega, by omega, by simp⟩
  · simp

/-- A group of bytes is cut into digits that hold it. -/
theorem cut_spec {g : Bytes} (hne : g ≠ []) (hlen : g.length ≤ 3) :
    Filled (cut g) ∧ join (cut g) = g := by
  have hlt := cut_lt (g := g)
  match g, hne, hlen, hlt with
  | [a], _, _, hlt =>
    have ha := a.toNat_lt
    have hn : bits (cut [a]) = a.toNat * 65536 :=
      (bits_fill (hlt _ (by simp [cut])) (by decide) (by decide)).trans (by omega)
    refine ⟨⟨by simp [cut], by simp [cut], hlt, ?_⟩, ?_⟩
    · rw [hn]
      exact Nat.mul_mod_left ..
    · rw [join, hn, groupBytes_eq, toUInt8_eq (a := a) (by omega)]
      rfl
  | [a, b], _, _, hlt =>
    have ha := a.toNat_lt
    have hb := b.toNat_lt
    have hn : bits (cut [a, b]) = (a.toNat * 256 + b.toNat) * 256 :=
      (bits_fill (hlt _ (by simp [cut])) (hlt _ (by simp [cut])) (by decide)).trans (by omega)
    refine ⟨⟨by simp [cut], by simp [cut], hlt, ?_⟩, ?_⟩
    · rw [hn]
      exact Nat.mul_mod_left ..
    · rw [join, hn, groupBytes_eq, toUInt8_eq (a := a) (by omega), toUInt8_eq (a := b) (by omega)]
      rfl
  | [a, b, c], _, _, hlt =>
    have ha := a.toNat_lt
    have hb := b.toNat_lt
    have hc := c.toNat_lt
    have hn : bits (cut [a, b, c]) = (a.toNat * 256 + b.toNat) * 256 + c.toNat :=
      (bits_fill (hlt _ (by simp [cut])) (hlt _ (by simp [cut])) (hlt _ (by simp [cut]))).trans
        (by omega)
    refine ⟨⟨by simp [cut], by simp [cut], hlt, Nat.mod_one _⟩, ?_⟩
    rw [join, hn, groupBytes_eq, toUInt8_eq (a := a) (by omega), toUInt8_eq (a := b) (by omega),
      toUInt8_eq (a := c) (by omega)]
    rfl

/-- Digits without bits behind the last byte are those into which their bytes are cut. -/
theorem cut_join {ds : List Nat} (h : Filled ds) :
    join ds ≠ [] ∧ (join ds).length ≤ 3 ∧ cut (join ds) = ds := by
  match ds, h with
  | [], h => exact absurd h.two_le (by simp)
  | [_], h => exact absurd h.two_le (by simp)
  | [x, y], h =>
    obtain ⟨hx, hy⟩ : x < 64 ∧ y < 64 := by simpa using h.digit
    have hn : bits [x, y] = x * 262144 + y * 4096 :=
      (bits_fill hy (by decide) (by decide)).trans (by omega)
    have hrest := h.rest
    rw [hn] at hrest
    have hrest : (x * 262144 + y * 4096) % 65536 = 0 := hrest
    rw [join, hn, groupBytes_eq]
    refine ⟨by simp, by simp, ?_⟩
    show cut [_] = _
    simp only [cut, toNat_toUInt8, List.cons.injEq, and_true]
    exact ⟨by omega, by omega⟩
  | [x, y, z], h =>
    obtain ⟨hx, hy, hz⟩ : x < 64 ∧ y < 64 ∧ z < 64 := by simpa using h.digit
    have hn : bits [x, y, z] = x * 262144 + y * 4096 + z * 64 :=
      (bits_fill hy hz (by decide)).trans (by omega)
    have hrest := h.rest
    rw [hn] at hrest
    have hrest : (x * 262144 + y * 4096 + z * 64) % 256 = 0 := hrest
    rw [join, hn, groupBytes_eq]
    refine ⟨by simp, by simp, ?_⟩
    show cut [_, _] = _
    simp only [cut, toNat_toUInt8, List.cons.injEq, and_true]
    exact ⟨by omega, by omega, by omega⟩
  | [x, y, z, w], h =>
    obtain ⟨hx, hy, hz, hw⟩ : x < 64 ∧ y < 64 ∧ z < 64 ∧ w < 64 := by simpa using h.digit
    have hn : bits [x, y, z, w] = x * 262144 + y * 4096 + z * 64 + w := bits_fill hy hz hw
    rw [join, hn, groupBytes_eq]
    refine ⟨by simp, by simp, ?_⟩
    show cut [_, _, _] = _
    simp only [cut, toNat_toUInt8, List.cons.injEq, and_true]
    exact ⟨by omega, by omega, by omega, by omega⟩
  | _ :: _ :: _ :: _ :: _ :: _, h => exact absurd h.le_four (by simp)

/-! ## Writing and reading -/

theorem bits_four {x y z w : Nat} :
    x <<< 18 ||| y <<< 12 ||| z <<< 6 ||| w = bits [x, y, z, w] := by
  have hn : bits [x, y, z, w] = (((x <<< 6 ||| y) <<< 6 ||| z) <<< 6 ||| w) := by
    simp [bits]
  rw [hn]
  simp only [Nat.shiftLeft_or_distrib, ← Nat.shiftLeft_add]

theorem filled_four {ds : List Nat} (hlt : ∀ v ∈ ds, v < 64) (hfour : ds.length = 4) :
    Filled ds where
  two_le := by omega
  le_four := by omega
  digit := hlt
  rest := by rw [hfour]; exact Nat.mod_one _

/-- Four digits in front of more signs are read as three bytes. -/
theorem decodeFrom_signs {ds : List Nat} (hlt : ∀ v ∈ ds, v < 64) (hfour : ds.length = 4)
    (offset : Nat) {rest more : Bytes} (hrest : rest ≠ [])
    (hmore : decodeFrom (offset + 4) rest = .ok more) :
    decodeFrom offset (signs ds ++ rest) = .ok (join ds ++ more) := by
  match ds, hfour, rest, hrest with
  | [x, y, z, w], _, e :: rest, _ =>
    obtain ⟨hx, hy, hz, hw⟩ : x < 64 ∧ y < 64 ∧ z < 64 ∧ w < 64 := by simpa using hlt
    show decodeFrom offset (digit x :: digit y :: digit z :: digit w :: e :: rest) = _
    rw [decodeFrom, valueAt_digit hx, valueAt_digit hy, valueAt_digit hz, valueAt_digit hw]
    simp only [bind, Except.bind, hmore, bits_four]
    rfl

/-- Four signs or fewer are the last group. -/
theorem decodeFrom_last {offset : Nat} {b : Bytes} (h : b.length ≤ 4) :
    decodeFrom offset b = finish offset b := by
  match b, h with
  | [], _ | [_], _ | [_, _], _ | [_, _, _], _ | [_, _, _, _], _ => simp [decodeFrom]

theorem encode_last {g : Bytes} (hne : g ≠ []) (hlen : g.length ≤ 3) :
    encode g = signs (cut g) := by
  match g, hne, hlen with
  | [a], _, _ => exact encode_one a
  | [a, b], _, _ => exact encode_two a b
  | [a, b, c], _, _ => exact (encode_three a b c []).trans (List.append_nil _)

theorem length_signs {ds : List Nat} (h : ds.length ≤ 4) : (signs ds).length = 4 := by
  simp only [signs, List.length_append, List.length_map, List.length_replicate]
  omega

theorem encode_ne_nil {v : Bytes} (hv : v ≠ []) : encode v ≠ [] := by
  match v, hv with
  | [_], _ | [_, _], _ | _ :: _ :: _ :: _, _ => simp [encode]

/-- The last group is read back. -/
theorem decodeFrom_cut {g : Bytes} (hne : g ≠ []) (hlen : g.length ≤ 3) (offset : Nat) :
    decodeFrom offset (signs (cut g)) = .ok g := by
  obtain ⟨hfilled, hjoin⟩ := cut_spec hne hlen
  have hfour : (signs (cut g)).length ≤ 4 := Nat.le_of_eq (length_signs hfilled.le_four)
  rw [decodeFrom_last hfour]
  exact (finish_ok_iff hfour).2 ⟨cut g, hfilled, rfl, hjoin.symm⟩

theorem decodeFrom_encode {v : Bytes} (hv : v ≠ []) (offset : Nat) :
    decodeFrom offset (encode v) = .ok v := by
  match v with
  | [] => exact absurd rfl hv
  | [a] => rw [encode_one]; exact decodeFrom_cut hv (by simp) offset
  | [a, b] => rw [encode_two]; exact decodeFrom_cut hv (by simp) offset
  | [a, b, c] => rw [encode_last hv (by simp)]; exact decodeFrom_cut hv (by simp) offset
  | a :: b :: c :: d :: rest =>
    have hmore := decodeFrom_encode (List.cons_ne_nil d rest) (offset + 4)
    obtain ⟨-, hjoin⟩ := cut_spec (List.cons_ne_nil a [b, c]) (by simp)
    have hlt : ∀ v ∈ cut [a, b, c], v < 64 := cut_lt
    have hread := decodeFrom_signs hlt rfl offset (encode_ne_nil (List.cons_ne_nil d rest)) hmore
    rw [encode_three, hread, hjoin]
    rfl

/-- What can be read group by group is what is written for it. -/
theorem encode_of_decodeFrom {offset : Nat} {b bytes : Bytes}
    (h : decodeFrom offset b = .ok bytes) : encode bytes = b := by
  fun_induction decodeFrom offset b generalizing bytes with
  | case1 offset a b c d e rest ih =>
    obtain ⟨x, hx, hbytes⟩ := ok_of_bind h
    obtain ⟨y, hy, hbytes⟩ := ok_of_bind hbytes
    obtain ⟨z, hz, hbytes⟩ := ok_of_bind hbytes
    obtain ⟨w, hw, hbytes⟩ := ok_of_bind hbytes
    obtain ⟨more, hmore, hbytes⟩ := ok_of_bind hbytes
    rw [bits_four] at hbytes
    obtain rfl : join [x, y, z, w] ++ more = bytes := Except.ok.inj hbytes
    obtain ⟨hxlt, rfl⟩ := digit_of_valueAt hx
    obtain ⟨hylt, rfl⟩ := digit_of_valueAt hy
    obtain ⟨hzlt, rfl⟩ := digit_of_valueAt hz
    obtain ⟨hwlt, rfl⟩ := digit_of_valueAt hw
    have hfilled : Filled [x, y, z, w] := filled_four (by simp [hxlt, hylt, hzlt, hwlt]) rfl
    show encode (_ :: _ :: _ :: more) = _
    rw [encode_three, ih hmore]
    exact congrArg (fun ds => signs ds ++ e :: rest) (cut_join hfilled).2.2
  | case2 offset b hshort =>
    have hlen : b.length ≤ 4 := by
      match b, hshort with
      | [], _ | [_], _ | [_, _], _ | [_, _, _], _ | [_, _, _, _], _ => simp
      | a :: b :: c :: d :: e :: rest, hshort => exact (hshort a b c d e rest rfl).elim
    obtain ⟨ds, hfilled, rfl, rfl⟩ := (finish_ok_iff hlen).1 h
    obtain ⟨hne, hthree, hcut⟩ := cut_join hfilled
    rw [encode_last hne hthree, hcut]

/-! ## Main results -/

theorem length_encode (v : Bytes) : (encode v).length % 4 = 0 := by
  match v with
  | [] => rfl
  | [_] | [_, _] => simp [encode]
  | a :: b :: c :: rest =>
    have hrest := length_encode rest
    have hfour : (signs (cut [a, b, c])).length = 4 := length_signs (by simp [cut])
    rw [encode_three, List.length_append, hfour]
    omega

/-- What is written is read back. -/
theorem decode_encode (v : Bytes) : decode (encode v) = .ok v := by
  by_cases hv : v = []
  · rw [hv]
    rfl
  · have hfew : ¬ (encode v).length % 4 = 1 := by rw [length_encode v]; decide
    rw [decode, if_neg (by simpa using encode_ne_nil hv), trailing?, if_neg hfew]
    exact decodeFrom_encode hv 0

/-- What can be read is what is written for it. -/
theorem encode_of_decode {b bytes : Bytes} (h : decode b = .ok bytes) : encode bytes = b := by
  unfold decode at h
  split at h
  · next hb =>
    cases h
    exact (List.isEmpty_iff.1 hb).symm
  · split at h
    · cases h
    · exact encode_of_decodeFrom h

end VaultProjection.Base64

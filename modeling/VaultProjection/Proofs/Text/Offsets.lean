import Mathlib.Logic.Function.Defs
import VaultProjection.Bytes

/-!
# Offsets in the bytes of a text

A text may be cut at an offset in its bytes where no character is cut. All bytes of a character with
more than one are at least 0x80, so a smaller byte is a whole character, and a text may be cut
behind it.

Results:
1. `Bytes.exists_split`: a byte below 0x80 in the bytes of a text is one of its characters.
2. `Text.slice?_of_append`: what lies between two parts of a text is cut out at their offsets.
-/

namespace VaultProjection

namespace Bytes

/-! ## Characters and their bytes -/

theorem ofText_injective : Function.Injective ofText := by
  intro s t h
  have hread := congrArg toText? h
  rwa [toText?_ofText, toText?_ofText, Option.some.injEq] at hread

def ofChars (cs : List Char) : Bytes := cs.flatMap String.utf8EncodeChar

theorem ofText_ofList (cs : List Char) : ofText (String.ofList cs) = ofChars cs := by
  rw [ofText, String.toUTF8_eq_toByteArray, String.toByteArray_ofList, List.utf8Encode]
  simp [ofChars]

theorem ofText_eq (s : String) : ofText s = ofChars s.toList := by
  rw [← ofText_ofList, String.ofList_toList]

theorem ofChars_append (a b : List Char) : ofChars (a ++ b) = ofChars a ++ ofChars b :=
  List.flatMap_append

theorem toText?_ofChars (cs : List Char) : toText? (ofChars cs) = some (String.ofList cs) := by
  rw [← ofText_ofList, toText?_ofText]

/-- Bytes that spell a text are those of its characters. -/
theorem eq_ofChars {b : Bytes} {s : String} (h : toText? b = some s) : b = ofChars s.toList := by
  rw [toText?, String.fromUTF8?] at h
  split at h
  · cases h
    rw [← ofText_eq, ofText, String.toUTF8_eq_toByteArray]
    rfl
  · cases h

theorem ofChars_injective : Function.Injective ofChars := by
  intro a b h
  rw [← ofText_ofList, ← ofText_ofList] at h
  exact String.ofList_injective (ofText_injective h)

theorem length_ofChars_pos {cs : List Char} (h : cs ≠ []) : 0 < (ofChars cs).length := by
  cases cs with
  | nil => exact absurd rfl h
  | cons c cs =>
    rw [ofChars, List.flatMap_cons, List.length_append]
    exact Nat.add_pos_left (List.length_pos_iff.2 String.utf8EncodeChar_ne_nil) _

/-- A byte below 0x80 is the whole of its character. -/
theorem eq_of_mem_utf8EncodeChar {c : Char} {b : UInt8} (h : b ∈ String.utf8EncodeChar c)
    (hb : b < 0x80) : String.utf8EncodeChar c = [b] ∧ c.toNat = b.toNat := by
  have hlt : b.toNat < 128 := UInt8.lt_iff_toNat_lt.1 hb
  by_cases hv : c.val.toNat ≤ 0x7f
  · have hone : String.utf8EncodeChar c = [UInt8.ofNat c.val.toNat] := if_pos hv
    rw [hone, List.mem_singleton] at h
    refine ⟨by rw [hone, h], ?_⟩
    rw [h, UInt8.toNat_ofNat']
    exact (Nat.mod_eq_of_lt (Nat.lt_of_le_of_lt hv (by decide))).symm
  · -- Of two bytes or more none is below 0x80.
    exfalso
    simp only [String.utf8EncodeChar, hv, if_false] at h
    split at h
    · simp only [List.mem_cons, List.not_mem_nil, or_false] at h
      rcases h with rfl | rfl <;> simp only [UInt8.toNat_ofNat'] at hlt <;> omega
    · split at h
      · simp only [List.mem_cons, List.not_mem_nil, or_false] at h
        rcases h with rfl | rfl | rfl <;> simp only [UInt8.toNat_ofNat'] at hlt <;> omega
      · simp only [List.mem_cons, List.not_mem_nil, or_false] at h
        rcases h with rfl | rfl | rfl | rfl <;> simp only [UInt8.toNat_ofNat'] at hlt <;> omega

/-- A byte below 0x80 in the bytes of a text is one of its characters. -/
theorem exists_split {cs : List Char} {front back : Bytes} {b : UInt8}
    (h : ofChars cs = front ++ b :: back) (hb : b < 0x80) :
    ∃ before c behind, cs = before ++ c :: behind ∧ c.toNat = b.toNat ∧
      ofChars before = front ∧ ofChars behind = back := by
  induction cs generalizing front with
  | nil => simp [ofChars] at h
  | cons c cs ih =>
    have hnext : ∀ {rest}, ofChars cs = rest ++ b :: back →
        front = String.utf8EncodeChar c ++ rest →
        ∃ before d behind, c :: cs = before ++ d :: behind ∧ d.toNat = b.toNat ∧
          ofChars before = front ∧ ofChars behind = back := by
      intro rest hrest hfront
      obtain ⟨before, d, behind, rfl, hd, rfl, hbehind⟩ := ih hrest
      exact ⟨c :: before, d, behind, rfl, hd, hfront.symm, hbehind⟩
    rw [ofChars, List.flatMap_cons] at h
    rcases List.append_eq_append_iff.1 h with ⟨rest, hfront, hrest⟩ | ⟨rest, hc, hrest⟩
    · exact hnext hrest hfront
    · cases rest with
      | nil => exact @hnext [] hrest.symm (by rw [hc, List.append_nil, List.append_nil])
      | cons d rest =>
        obtain ⟨rfl, hback⟩ := List.cons.inj hrest
        -- The byte belongs to the first character, so it is all of it.
        obtain ⟨hone, hnat⟩ := eq_of_mem_utf8EncodeChar (hc ▸ List.mem_append_right front
          List.mem_cons_self) hb
        rw [hone] at hc
        cases front with
        | nil =>
          cases hc
          exact ⟨[], c, cs, rfl, hnat, rfl, hback.symm⟩
        | cons e front => simp at hc

end Bytes

namespace Text

/-! ## Cutting at offsets -/

/-- The offset is the start or the end of the text or lies between two of its characters. -/
abbrev IsBoundary (text : String) (offset : Nat) : Prop := (⟨offset⟩ : String.Pos.Raw).IsValid text

/-- The characters between two offsets in bytes, if a text may be cut there. -/
def slice? (text : String) (start stop : Nat) : Option (List Char) :=
  if start ≤ stop ∧ IsBoundary text start ∧ IsBoundary text stop then
    (Bytes.toText? (((Bytes.ofText text).take stop).drop start)).map String.toList
  else none

theorem utf8ByteSize_eq (text : String) : text.utf8ByteSize = (Bytes.ofText text).length := by
  rw [Bytes.ofText, String.toUTF8_eq_toByteArray, Array.length_toList]
  rfl

/-- A text may be cut behind any of its parts. -/
theorem isBoundary_of_append {text : String} {before behind : List Char}
    (h : text.toList = before ++ behind) : IsBoundary text (Bytes.ofChars before).length := by
  refine String.Pos.Raw.isValid_iff_exists_append.2
    ⟨String.ofList before, String.ofList behind, ?_, ?_⟩
  · rw [← String.ofList_append, ← h, String.ofList_toList]
  · rw [← Bytes.ofText_ofList, ← utf8ByteSize_eq]
    rfl

theorem IsBoundary.le {text : String} {offset : Nat} (h : IsBoundary text offset) :
    offset ≤ text.utf8ByteSize := h.le_utf8ByteSize

/-- What lies between two parts of a text is cut out at their offsets. -/
theorem slice?_of_append {text : String} {before between behind : List Char}
    (h : text.toList = before ++ between ++ behind) :
    slice? text (Bytes.ofChars before).length (Bytes.ofChars (before ++ between)).length =
      some between := by
  have hle : (Bytes.ofChars before).length ≤ (Bytes.ofChars (before ++ between)).length := by
    rw [Bytes.ofChars_append, List.length_append]
    exact Nat.le_add_right ..
  have hbytes : ((Bytes.ofText text).take (Bytes.ofChars (before ++ between)).length).drop
      (Bytes.ofChars before).length = Bytes.ofChars between := by
    rw [Bytes.ofText_eq, h, Bytes.ofChars_append (before ++ between), List.take_left,
      Bytes.ofChars_append, List.drop_left]
  rw [slice?, if_pos ⟨hle, isBoundary_of_append (h.trans (List.append_assoc ..)),
    isBoundary_of_append h⟩, hbytes, Bytes.toText?_ofChars, Option.map_some, String.toList_ofList]

end Text

end VaultProjection

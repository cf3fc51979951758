/-!
Byte strings, their UTF-8 text, and the ASCII blanks that some values may carry around them. A text
with gaps reads as much of the bytes as is UTF-8.
-/

namespace VaultProjection

/-- A byte string. -/
abbrev Bytes := List UInt8

namespace Bytes

/-- The UTF-8 bytes of a text. -/
def ofText (s : String) : Bytes := s.toUTF8.data.toList

/-- The text that the bytes spell in UTF-8, if they do. -/
def toText? (b : Bytes) : Option String := String.fromUTF8? ⟨b.toArray⟩

theorem toText?_ofText (s : String) : toText? (ofText s) = some s := by
  have h : (⟨(ofText s).toArray⟩ : ByteArray) = s.toUTF8 := by simp [ofText]
  simp only [toText?, h, String.fromUTF8?, String.toUTF8_eq_toByteArray, dif_pos s.isValidUTF8]
  rfl

/-! ## Text with gaps -/

/-- The least and the greatest second byte behind a first one, and how many follow in all. -/
def tailOf (first : UInt8) : Option (UInt8 × UInt8 × Nat) :=
  if first < 0xC2 then none
  else if first < 0xE0 then some (0x80, 0xBF, 1)
  else if first = 0xE0 then some (0xA0, 0xBF, 2)
  else if first = 0xED then some (0x80, 0x9F, 2)
  else if first < 0xF0 then some (0x80, 0xBF, 2)
  else if first = 0xF0 then some (0x90, 0xBF, 3)
  else if first < 0xF4 then some (0x80, 0xBF, 3)
  else if first = 0xF4 then some (0x80, 0x8F, 3)
  else none

/-- The bytes behind a first byte that can belong to the same character. -/
def following (low high : UInt8) : Nat → Bytes → Bytes
  | 0, _ => []
  | _, [] => []
  | n + 1, b :: rest =>
    if low ≤ b ∧ b ≤ high then b :: following 0x80 0xBF n rest else []

/-- A character and the number of bytes behind its first one; a sequence that breaks off stands for
the replacement character. -/
def charAt (first : UInt8) (rest : Bytes) : Char × Nat :=
  if first < 0x80 then (Char.ofNat first.toNat, 0)
  else match tailOf first with
    | none => ('\uFFFD', 0)
    | some (low, high, n) =>
      let more := following low high n rest
      if more.length = n then
        let lead := first.toNat % Nat.pow 2 (6 - n)
        (Char.ofNat (more.foldl (fun v b => v * 64 + b.toNat % 64) lead), n)
      else ('\uFFFD', more.length)

/-- The characters of a text in UTF-8, with replacement characters for what is none. -/
def chars : Bytes → List Char
  | [] => []
  | b :: rest =>
    let (c, n) := charAt b rest
    c :: chars (rest.drop n)
termination_by b => b.length
decreasing_by simp only [List.length_drop, List.length_cons]; omega

/-- The text of the bytes; what is no UTF-8 in them becomes replacement characters. -/
def toTextLossy (b : Bytes) : String := String.ofList (chars b)

/-! ## Blanks and digits -/

/-- Space, tab, line feed, form feed and carriage return. -/
def isBlank (b : UInt8) : Bool := b == 32 || b == 9 || b == 10 || b == 12 || b == 13

/-- Without the blanks at both ends. -/
def trim (b : Bytes) : Bytes := ((b.dropWhile isBlank).reverse.dropWhile isBlank).reverse

/-- The lower-case hexadecimal digits of the bytes. -/
def toHex (b : Bytes) : String :=
  String.ofList (b.flatMap fun x =>
    [Nat.digitChar (x.toNat / 16), Nat.digitChar (x.toNat % 16)])

/-- The eight bytes of `n` modulo 2^64, most significant first. -/
def ofUInt64 (n : Nat) : Bytes :=
  [n >>> 56, n >>> 48, n >>> 40, n >>> 32, n >>> 24, n >>> 16, n >>> 8, n].map (·.toUInt8)

end Bytes

end VaultProjection

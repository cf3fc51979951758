import VaultProjection.Text.CombiningClass
import VaultProjection.Text.Decomposition
/-!
Composed texts: of all texts that are canonically equivalent, the one in which letters and marks are
single characters wherever that is possible. Characters are taken apart, marks brought into the
order of their classes, and then letters and marks are put together again.
-/

namespace VaultProjection.Text

/-! ## Taking apart -/

/-- The parts of a character that have none themselves, found in at most `steps` steps. -/
def partsOf (steps : Nat) (c : Char) : List Char :=
  match steps, hangulNumber? c, decomposition? c with
  | _, some n, _ => (hangulLetters n).map Char.ofNat
  | steps + 1, none, some d => d.parts.flatMap fun p => partsOf steps (Char.ofNat p)
  | _, _, _ => [c]

/-- No character has parts of parts more often than this. -/
def decompositionDepth : Nat := 4

/-! ## Order of marks -/

/-- Puts a character in front of a text; a mark moves behind marks of lower classes. -/
def insertMark (c : Char) : List Char → List Char
  | [] => [c]
  | d :: rest =>
    if combiningClass d ≠ 0 ∧ combiningClass d < combiningClass c then d :: insertMark c rest
    else c :: d :: rest

def decomposed (cs : List Char) : List Char :=
  (cs.flatMap (partsOf decompositionDepth)).foldr insertMark []

/-! ## Putting together -/

/-- A number for a pair of characters. -/
def pairCode (a b : Nat) : Nat := a * 0x110000 + b

/-- The characters that pairs compose to. -/
def compositions : CodeTable Nat :=
  let pair? (s : CodeSpan Decomposition) : Option (Nat × Nat) :=
    match s.value with
    | ⟨[a, b], true⟩ => some (pairCode a b, s.first)
    | _ => none
  let pairs := (decompositions.toList.filterMap pair?).mergeSort fun p q => p.1 ≤ q.1
  (pairs.map fun (code, c) => ⟨code, code, c⟩).toArray

/-- The syllable of two letters, or of a syllable without a last letter and a last letter. -/
def hangulSyllable? (a b : Nat) : Option Nat :=
  if 0x1100 ≤ a ∧ a < 0x1113 ∧ 0x1161 ≤ b ∧ b < 0x1176 then
    some (0xAC00 + ((a - 0x1100) * 21 + (b - 0x1161)) * 28)
  else if 0xAC00 ≤ a ∧ a ≤ 0xD7A3 ∧ (a - 0xAC00) % 28 = 0 ∧ 0x11A7 < b ∧ b < 0x11C3 then
    some (a + (b - 0x11A7))
  else none

def composition? (a b : Char) : Option Char :=
  let code := pairCode a.toNat b.toNat
  match hangulSyllable? a.toNat b.toNat with
  | some n => some (Char.ofNat n)
  | none => (compositions.search code 0 compositions.size).map fun s => Char.ofNat s.value

/-- A text that is being composed: what is finished, in reverse, then the last character of class
zero and the marks behind it that it did not take in, in reverse. -/
structure Composing where
  done : List Char
  base : Option Char
  marks : List Char

namespace Composing

def finish (t : Composing) : List Char := t.marks ++ t.base.toList ++ t.done

/-- A mark of the same or a higher class, or any mark before a letter, is in the way. -/
def isBlocked (t : Composing) (c : Char) : Bool :=
  t.marks.head?.any fun m => combiningClass c ≤ combiningClass m

def add (t : Composing) (c : Char) : Composing :=
  let composed := if t.isBlocked c then none else t.base.bind (composition? · c)
  match composed with
  | some d => { t with base := some d }
  | none =>
    if combiningClass c = 0 then ⟨t.finish, some c, []⟩ else { t with marks := c :: t.marks }

end Composing

def composed (cs : List Char) : List Char :=
  ((decomposed cs).foldl Composing.add ⟨[], none, []⟩).finish.reverse

end VaultProjection.Text

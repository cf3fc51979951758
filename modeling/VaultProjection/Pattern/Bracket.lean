import VaultProjection.Pattern.Escape
/-!
Sets in brackets: characters, ranges, escapes, names of sets of ASCII characters and further sets in
brackets, with operators between them.

| Operator | Stands for |
|---|---|
| `&&` | what is in both sets |
| `--` | what is in the first set only |
| `~~` | what is in one of the sets only |
-/

namespace VaultProjection.Pattern

/-- A set, and how deeply its parts are nested. -/
structure NestedSet where
  set : CharSet
  depth : Nat := 0
  deriving DecidableEq, Repr

/-- The depth of parts in a row: a single part is no row. -/
def rowDepth : List Nat → Nat
  | [] => 0
  | [d] => d
  | ds => ds.foldl Nat.max 0 + 1

inductive SetOp where
  | inter
  | diff
  | symmDiff
  deriving DecidableEq, Repr

namespace SetOp

/-- The operator that a text begins with. -/
def read? : List Char → Option (SetOp × List Char)
  | '&' :: '&' :: rest => some (inter, rest)
  | '-' :: '-' :: rest => some (diff, rest)
  | '~' :: '~' :: rest => some (symmDiff, rest)
  | _ => none

def apply (op : SetOp) (a b : CharSet) : CharSet :=
  match op with
  | inter => .inter a b
  | diff => .diff a b
  | symmDiff => .symmDiff a b

end SetOp

namespace NestedSet

/-! ## Items -/

def readItem? (f : Flags) : List Char → Option (Escape × List Char)
  | [] => none
  | '\\' :: rest => Escape.read? f rest
  | c :: rest => some (.literal c, rest)

/-- Characters beyond ASCII cannot be in a set that is confined to ASCII. -/
def range? (f : Flags) (first last : Char) : Option CharSet :=
  if first ≤ last ∧ (f.wide ∨ last.toNat < 0x80) then some (.range first last) else none

def ofEscape? (f : Flags) : Escape → Option CharSet
  | .literal c => range? f c c
  | .set s => some s
  | .look _ => none

/-- The sign behind a dash; where blanks say nothing, the first one of a comment is looked at. -/
def behindDash (f : Flags) (cs : List Char) : Option Char :=
  if f.verbose then
    match cs.dropWhile Text.isBlank with
    | '#' :: rest => (rest.dropWhile Text.isBlank).head?
    | rest => rest.head?
  else cs.head?

/-- An item, or a range of two items with a dash between them. -/
def readRange? (f : Flags) (cs : List Char) : Option (CharSet × List Char) := do
  let (first, rest) ← readItem? f cs
  match f.skip rest with
  | [] => none
  | '-' :: tail =>
    if behindDash f tail = some ']' ∨ behindDash f tail = some '-' then
      some (← ofEscape? f first, '-' :: tail)
    else
      match first, ← readItem? f (f.skip tail) with
      | .literal a, (.literal b, rest) => some (← range? f a b, rest)
      | _, _ => none
  | rest => some (← ofEscape? f first, rest)

/-- A name between colons and a bracket. -/
def readName? (cs : List Char) : Option (Bool × CharSet × List Char) := do
  let (negated, cs) ← match cs with
    | ':' :: '^' :: rest => some (true, rest)
    | ':' :: rest => some (false, rest)
    | _ => none
  let (name, rest) ← Text.cut? ':' cs
  match rest with
  | ']' :: rest => some (negated, ← CharSet.ascii? (String.ofList name), rest)
  | _ => none

/-! ## Brackets -/

/-- What has been read of a set in brackets: the operator that waits for its second set with the
first one, and the items since then. -/
structure Begun where
  negated : Bool
  pending : Option (SetOp × NestedSet) := none
  items : List NestedSet := []
  deriving Repr

namespace Begun

def add (b : Begun) (item : NestedSet) : Begun := { b with items := item :: b.items }

/-- The set up to here; an operator takes other cases of letters into both of its sets. -/
def joined (f : Flags) (b : Begun) : NestedSet :=
  let last : NestedSet := ⟨.unions (b.items.map (·.set)), rowDepth (b.items.map (·.depth))⟩
  match b.pending with
  | none => last
  | some (op, first) =>
    ⟨op.apply (f.fold first.set) (f.fold last.set), Nat.max first.depth last.depth + 1⟩

def operate (f : Flags) (b : Begun) (op : SetOp) : Begun :=
  { b with pending := some (op, b.joined f), items := [] }

def close? (f : Flags) (b : Begun) : Option NestedSet :=
  let whole := b.joined f
  (f.close? b.negated whole.set).map fun s => ⟨s, whole.depth + 1⟩

/-- What stands behind an opening bracket. -/
def afterOpening (f : Flags) (cs : List Char) : Begun × List Char :=
  match f.skip cs with
  | '^' :: rest => (⟨true, none, []⟩, rest)
  | cs => (⟨false, none, []⟩, cs)

end Begun

/-- Reads on up to the bracket that closes the set. At the start dashes are items, and so is a
closing bracket if there is nothing in front of it. -/
def read? (f : Flags) : (fuel : Nat) → (start : Bool) → Begun → List Char →
    Option (NestedSet × List Char)
  | 0, _, _, _ => none
  | fuel + 1, start, b, cs =>
    let cs := f.skip cs
    match start, cs with
    | _, [] => none
    | true, '-' :: rest => read? f fuel true (b.add ⟨.single '-', 0⟩) rest
    | true, c :: rest =>
      if c = ']' ∧ b.items.isEmpty then read? f fuel false (b.add ⟨.single ']', 0⟩) rest
      else read? f fuel false b (c :: rest)
    | false, ']' :: rest => (b.close? f).map (·, rest)
    | false, '[' :: rest =>
      match readName? rest with
      | some (negated, s, rest) => do
        read? f fuel false (b.add ⟨← f.close? negated s, 0⟩) rest
      | none => do
        let (inner, rest) := Begun.afterOpening f rest
        let (inner, rest) ← read? f fuel true inner rest
        read? f fuel false (b.add inner) rest
    | false, cs =>
      match SetOp.read? cs with
      | some (op, rest) => read? f fuel false (b.operate f op) rest
      | none => do
        let (s, rest) ← readRange? f cs
        read? f fuel false (b.add ⟨s, 0⟩) rest

end NestedSet

end VaultProjection.Pattern

import VaultProjection.Pattern.Bracket
/-!
Reading patterns. A text that does not follow the rules is no pattern:

| Signs | Stand for |
|---|---|
| `a|b` | one of two patterns |
| `a?`, `a*`, `a+` | a repetition; with a further `?` a lazy one |
| `(a)`, `(?:a)`, `(?<name>a)`, `(?P<name>a)` | a group; no two have the same name |
| `(?i)`, `(?i-s:a)` | flags for the rest of the group, or for a group of their own |
| `[a-z]`, `.` | a character of a set |
| `^`, `$` | a place |

Numbers of repetitions in braces are not read. A pattern whose parts are nested too deeply is none.
-/

namespace VaultProjection.Pattern

/-- An expression, how deeply its parts are nested, and the names of its groups. -/
structure Piece where
  expr : Expr
  depth : Nat := 0
  names : List String := []
  deriving DecidableEq, Repr

namespace Piece

/-! ## Putting pieces together -/

/-- Pieces in a row, the last one first; where flags are set there is an item without a piece. -/
def ofItems (items : List (Option Piece)) : Piece :=
  let pieces := items.reverse.filterMap id
  { expr := match pieces.reverse with
      | [] => .empty
      | last :: before => before.foldl (fun e p => .seq p.expr e) last.expr
    depth := rowDepth (items.map fun item => (item.map (·.depth)).getD 0)
    names := pieces.flatMap (·.names) }

/-- Alternatives, the last one first. -/
def ofAlternatives (last : Piece) (before : List Piece) : Piece :=
  { expr := before.foldl (fun e p => .alt p.expr e) last.expr
    depth := rowDepth ((last :: before).map (·.depth))
    names := (last :: before).flatMap (·.names) }

def deeper (p : Piece) : Piece := { p with depth := p.depth + 1 }

/-! ## Signs -/

/-- The expressions that signs of repetition make. -/
def repetition? (sign : Char) : Option (Expr → Bool → Expr) :=
  match sign with
  | '?' => some .opt
  | '*' => some .star
  | '+' => some .plus
  | _ => none

/-- A single character, set or place. -/
def readSign? (f : Flags) : List Char → Option (Expr × List Char)
  | [] => none
  | '.' :: rest => f.dot?.map (·, rest)
  | '^' :: rest => some (.look f.startLook, rest)
  | '$' :: rest => some (.look f.endLook, rest)
  | '\\' :: rest => do
    let (e, rest) ← Escape.read? f rest
    some (match e with
      | .literal c => f.literal c
      | .set s => .one s
      | .look l => .look l, rest)
  | c :: rest => some (f.literal c, rest)

/-! ## Groups -/

/-- How a group begins. -/
inductive Opening where
  | group (f : Flags) (names : List String)
  /-- Flags for the rest of the group around it. -/
  | flags (f : Flags)
  deriving DecidableEq, Repr

/-- The name of a group, up to the sign that ends it. -/
def readName? (cs : List Char) : Option (String × List Char) := do
  let (name, rest) ← Text.cut? '>' cs
  match name with
  | [] => none
  | c :: more =>
    if (c == '_' || Text.isAlphabetic c)
        && more.all fun c => "_.[]".toList.contains c || Text.isAlphanumeric c then
      some (String.ofList name, rest)
    else none

/-- Reads what stands behind an opening parenthesis. -/
def readOpening? (f : Flags) (cs : List Char) : Option (Opening × List Char) :=
  match f.skip cs with
  | '?' :: 'P' :: '<' :: rest => (readName? rest).map fun (name, rest) => (.group f [name], rest)
  | '?' :: '<' :: rest => (readName? rest).map fun (name, rest) => (.group f [name], rest)
  | '?' :: rest => (f.read? [] rest).map fun (f, close, rest) =>
    (if close = ')' then .flags f else .group f [], rest)
  | rest => some (.group f [], rest)

/-! ## Patterns -/

/-- Reads on up to the end of a group or of the text. `before` are the alternatives so far, and
`items` what has been read of the next one. -/
def read? : (fuel : Nat) → Flags → (before : List Piece) → (items : List (Option Piece)) →
    List Char → Option (Piece × List Char)
  | 0, _, _, _, _ => none
  | fuel + 1, f, before, items, cs =>
    match f.skip cs with
    | [] => some (ofAlternatives (ofItems items) before, [])
    | ')' :: rest => some (ofAlternatives (ofItems items) before, ')' :: rest)
    | '|' :: rest => read? fuel f (ofItems items :: before) [] rest
    | '(' :: rest => do
      match ← readOpening? f rest with
      | (.flags f, rest) => read? fuel f before (none :: items) rest
      | (.group g names, rest) =>
        match ← read? fuel g [] [] rest with
        | (p, ')' :: rest) =>
          read? fuel f before (some { p.deeper with names := names ++ p.names } :: items) rest
        | _ => none
    | '[' :: rest => do
      let (b, rest) := NestedSet.Begun.afterOpening f rest
      let (s, rest) ← NestedSet.read? f (2 * rest.length + 2) true b rest
      read? fuel f before (some { expr := .one s.set, depth := s.depth } :: items) rest
    | '\x7b' :: _ => none
    | c :: rest =>
      match repetition? c, items with
      | some repeated, some p :: items =>
        let lazySign := rest.head? == some '?'
        let p := { p.deeper with expr := repeated p.expr (f.isGreedy lazySign) }
        read? fuel f before (some p :: items) (if lazySign then rest.drop 1 else rest)
      | some _, _ => none
      | none, items => do
        let (e, rest) ← readSign? f (c :: rest)
        read? fuel f before (some { expr := e } :: items) rest

end Piece

/-- How deeply the parts of a pattern may be nested. -/
def maxDepth : Nat := 250

/-- The expression that a text stands for. -/
def Expr.read? (s : String) : Option Expr := do
  let cs := s.toList
  match ← Piece.read? cs.length.succ {} [] [] cs with
  | (p, []) => if p.depth ≤ maxDepth ∧ p.names.Nodup then some p.expr else none
  | _ => none

end VaultProjection.Pattern

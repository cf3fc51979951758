import VaultProjection.Pattern.CharSet
/-!
Patterns of texts: characters of sets, places in a text, sequences, alternatives and repetitions.
Of two ways to match, a pattern prefers one; alternatives and repetitions say which.
-/

namespace VaultProjection.Pattern

/-! ## Places -/

/-- A condition on what stands before and behind a place. -/
inductive Look where
  | textStart
  | textEnd
  /-- With `pairs`, a carriage return ends a line too, alone or before a line feed. -/
  | lineStart (pairs : Bool)
  | lineEnd (pairs : Bool)
  /-- One side belongs to a word and the other one does not. -/
  | wordEdge
  | noWordEdge
  | wordStart
  | wordEnd
  deriving DecidableEq, Repr

namespace Look

/-- Whether a character is there and belongs to a word of ASCII characters. -/
def inWord (c : Option Char) : Bool := c.any fun c => c.isAlphanum || c == '_'

/-- Whether the condition holds between two characters; at the ends of a text there is none. -/
def holds (before after : Option Char) : Look → Bool
  | textStart => before.isNone
  | textEnd => after.isNone
  | lineStart pairs => before.all fun c => c == '\n' || pairs && c == '\r' && after != some '\n'
  | lineEnd false => after.all (· == '\n')
  | lineEnd true => after.all fun c => c == '\r' || c == '\n' && before != some '\r'
  | wordEdge => inWord before != inWord after
  | noWordEdge => inWord before == inWord after
  | wordStart => !inWord before && inWord after
  | wordEnd => inWord before && !inWord after

end Look

/-! ## Expressions -/

inductive Expr where
  | empty
  | one (s : CharSet)
  | look (l : Look)
  | seq (a b : Expr)
  /-- One of two, with `a` preferred. -/
  | alt (a b : Expr)
  /-- Once or not at all; a greedy one prefers once. -/
  | opt (a : Expr) (greedy : Bool)
  /-- Once or more often; a greedy one prefers to go on. -/
  | plus (a : Expr) (greedy : Bool)
  /-- A repetition that has been gone through: again or not. -/
  | again (a : Expr) (greedy : Bool)
  deriving DecidableEq, Repr

namespace Expr

def size : Expr → Nat
  | empty | one _ | look _ => 1
  | seq a b | alt a b => a.size + b.size + 1
  | opt a _ | plus a _ | again a _ => a.size + 1

/-- Any number of times, none included. A round that reads nothing counts as a round, so that the
rounds come before the way around them. -/
def star (a : Expr) (greedy : Bool) : Expr := opt (plus a greedy) greedy

end Expr

end VaultProjection.Pattern

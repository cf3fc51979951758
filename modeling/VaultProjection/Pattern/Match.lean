import VaultProjection.Pattern.Basic
/-!
Matching: whether the match of a pattern that comes first in a text ends where the text ends. Of the
matches that begin at the same place the preferred one counts, and it alone; what would end later
by a way that is less preferred is not looked at.

All ways are followed at once, in the order of preference. A way is what is still to be read.
-/

namespace VaultProjection.Pattern

/-- Expressions to be matched one after the other. -/
abbrev Way := List Expr

/-- What an expression other than a set asks for before `rest`, the preferred way first. -/
def Expr.ways (before after : Option Char) (rest : Way) : Expr → List Way
  | empty => [rest]
  | one s => [.one s :: rest]
  | look l => if l.holds before after then [rest] else []
  | seq a b => [a :: b :: rest]
  | alt a b => [a :: rest, b :: rest]
  | opt a greedy => if greedy then [a :: rest, rest] else [rest, a :: rest]
  | plus a greedy => [a :: .again a greedy :: rest]
  | again a greedy =>
    if greedy then [a :: .again a greedy :: rest, rest] else [rest, a :: .again a greedy :: rest]

/-- Where the ways lead at a place of a text without reading on. -/
structure Front where
  /-- The ways that read a character next. -/
  waiting : List (CharSet × Way) := []
  /-- A match ends here; ways that are less preferred have been left out. -/
  isDone : Bool := false
  deriving DecidableEq, Repr

namespace Front

/-- Follows ways up to the next character; `seen` are those that have been followed. -/
def settle (before after : Option Char) : (fuel : Nat) → (todo seen : List Way) → Front
  | 0, _, _ => {}
  | _, [], _ => {}
  | _, [] :: _, _ => ⟨[], true⟩
  | fuel + 1, (e :: rest) :: todo, seen =>
    if seen.contains (e :: rest) then settle before after fuel todo seen
    else
      let seen := (e :: rest) :: seen
      match e with
      | .one s =>
        let f := settle before after fuel todo seen
        { f with waiting := (s, rest) :: f.waiting }
      | e => settle before after fuel (e.ways before after rest ++ todo) seen

/-- The ways that go on behind a character. -/
def step (f : Front) (c : Char) : List Way := (f.waiting.filter (·.1.contains c)).map (·.2)

end Front

namespace Expr

/-- Enough for all ways: each expression within a pattern is followed by one rest, or by two if it
is repeated, and each leads to two others at most. -/
def fuel (e : Expr) : Nat := 6 * e.size + 8

/-- Matches the rest of a text. `ways` are those that have begun before, and as long as no match is
done, `open` says that one may begin here. -/
def endsAfter (e : Expr) (before : Option Char) (ways : List Way) (isOpen : Bool) :
    List Char → Bool
  | [] => (Front.settle before none e.fuel (ways ++ if isOpen then [[e]] else []) []).isDone
  | c :: cs =>
    let f := Front.settle before (some c) e.fuel (ways ++ if isOpen then [[e]] else []) []
    e.endsAfter (some c) (f.step c) (isOpen && !f.isDone) cs

/-- The first match of the pattern in a text goes to its end. -/
def isMatch (e : Expr) (s : String) : Bool := e.endsAfter none [] true s.toList

end Expr

end VaultProjection.Pattern

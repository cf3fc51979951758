import VaultProjection.Pattern.Basic
/-!
Flags change what the signs of a pattern mean, from the place where they are set to the end of the
group around it.
-/

namespace VaultProjection.Pattern

structure Flags where
  ignoreCase : Bool := false
  /-- `^` and `$` stand for the ends of lines. -/
  multiLine : Bool := false
  /-- `.` stands for line feeds too. -/
  dotAll : Bool := false
  /-- Repetitions are greedy where they are not by default, and the other way around. -/
  swapGreed : Bool := false
  /-- Lines end at carriage returns too. -/
  pairs : Bool := false
  /-- Blanks, and comments behind a number sign, say nothing. -/
  verbose : Bool := false
  /-- Properties of characters are not confined to ASCII. -/
  wide : Bool := true
  deriving DecidableEq, Repr

namespace Flags

def set? (f : Flags) (letter : Char) (on : Bool) : Option Flags :=
  match letter with
  | 'i' => some { f with ignoreCase := on }
  | 'm' => some { f with multiLine := on }
  | 's' => some { f with dotAll := on }
  | 'U' => some { f with swapGreed := on }
  | 'R' => some { f with pairs := on }
  | 'x' => some { f with verbose := on }
  | 'u' => some { f with wide := on }
  | _ => none

/-- Reads letters up to the sign that ends them; those behind a dash are unset. No letter comes
twice, and there is one behind the dash. `seen` are the letters before, the last one first. -/
def read? (f : Flags) (seen : List Char) : List Char → Option (Flags × Char × List Char)
  | [] => none
  | c :: rest =>
    if c = ':' ∨ c = ')' then
      if seen.head? = some '-' ∨ (c = ')' ∧ seen.isEmpty) then none else some (f, c, rest)
    else if seen.contains c then none
    else if c = '-' then f.read? ('-' :: seen) rest
    else (f.set? c (!seen.contains '-')).bind fun f => f.read? (c :: seen) rest

/-! ## What they change -/

def skipComments : (inside : Bool) → List Char → List Char
  | _, [] => []
  | true, c :: rest => skipComments (c ≠ '\n') rest
  | false, c :: rest =>
    if Text.isBlank c then skipComments false rest
    else if c = '#' then skipComments true rest
    else c :: rest

/-- The text from the first sign on that says something. -/
def skip (f : Flags) (cs : List Char) : List Char := if f.verbose then skipComments false cs else cs

def fold (f : Flags) (s : CharSet) : CharSet := if f.ignoreCase then .folded f.wide s else s

/-- The characters of a set or all others. Those beyond ASCII must not be among the others where
sets are confined to ASCII. -/
def close? (f : Flags) (negated : Bool) (s : CharSet) : Option CharSet :=
  if !negated then some (f.fold s)
  else if f.wide then some (.compl (f.fold s))
  else none

def literal (f : Flags) (c : Char) : Expr := .one (f.fold (.single c))

/-- What a point stands for. -/
def dot? (f : Flags) : Option Expr :=
  if !f.wide then none
  else some (.one (if f.dotAll then .all
    else if f.pairs then .diff .all (.union (.single '\r') (.single '\n'))
    else .diff .all (.single '\n')))

def startLook (f : Flags) : Look := if f.multiLine then .lineStart f.pairs else .textStart

def endLook (f : Flags) : Look := if f.multiLine then .lineEnd f.pairs else .textEnd

/-- Whether a repetition is greedy, with a sign behind it that makes it lazy or without. -/
def isGreedy (f : Flags) (lazySign : Bool) : Bool := f.swapGreed == lazySign

end Flags

end VaultProjection.Pattern

import VaultProjection.Decimal.Numeral
import VaultProjection.Pattern.Flags
/-!
Escapes: what stands for a character, a set or a place behind a backslash.
-/

namespace VaultProjection.Pattern

inductive Escape where
  | literal (c : Char)
  | set (s : CharSet)
  | look (l : Look)
  deriving DecidableEq, Repr

namespace Escape

/-- As many digits in base 16 as are asked for. -/
def hexDigits? (f : Flags) : Nat → List Char → Option (List Char × List Char)
  | 0, cs => some ([], cs)
  | n + 1, cs =>
    match f.skip cs with
    | [] => none
    | c :: rest => (hexDigits? f n rest).map fun (ds, rest) => (c :: ds, rest)

/-- A character by its code point. Two digits stand for a byte, which is none beyond ASCII if sets
are confined to it. -/
def hex? (f : Flags) (digits : Nat) (cs : List Char) : Option (Escape × List Char) := do
  let (ds, rest) ← hexDigits? f digits cs
  let n ← Numeral.nat? 16 ds
  if ¬ n.isValidChar ∨ (digits = 2 ∧ 0x7F < n ∧ !f.wide) then none
  else some (.literal (Char.ofNat n), rest)

/-- A general category by its letter. -/
def category? (f : Flags) (negated : Bool) (cs : List Char) : Option (Escape × List Char) :=
  match f.skip cs with
  | [] => none
  | c :: rest => do
    if !f.wide then none
    else some (.set (← f.close? negated (← CharSet.category? c)), rest)

/-- Digits, blanks or the characters of words, or all others by a capital letter. -/
def property? (f : Flags) (letter : Char) : Option CharSet :=
  let s? := if f.wide then
      match letter.toLower with
      | 'd' => some (.categories [.digit])
      | 's' => some .blank
      | 'w' => some .word
      | _ => none
    else
      match letter.toLower with
      | 'd' => CharSet.ascii? "digit"
      | 's' => CharSet.ascii? "space"
      | 'w' => CharSet.ascii? "word"
      | _ => none
  if !letter.isUpper then s?
  else if f.wide then s?.map .compl
  else none

/-- Places in words are known for ASCII only. -/
def wordLook? (f : Flags) (l : Look) : Option Escape := if f.wide then none else some (.look l)

/-- A character that stands for itself behind a backslash. -/
def isSign (c : Char) : Bool := c.toNat < 0x80 && !c.isAlphanum && c != '<' && c != '>'

/-- What one sign stands for. -/
def ofSign? (f : Flags) (c : Char) : Option Escape :=
  if isSign c then some (.literal c)
  else match c with
    | 'a' => some (.literal '\x07')
    | 'f' => some (.literal '\x0C')
    | 't' => some (.literal '\t')
    | 'n' => some (.literal '\n')
    | 'r' => some (.literal '\r')
    | 'v' => some (.literal '\x0B')
    | 'A' => some (.look .textStart)
    | 'z' => some (.look .textEnd)
    | 'b' => wordLook? f .wordEdge
    | 'B' => wordLook? f .noWordEdge
    | '<' => wordLook? f .wordStart
    | '>' => wordLook? f .wordEnd
    | c => (property? f c).map .set

/-- Reads what stands behind the backslash. -/
def read? (f : Flags) : List Char → Option (Escape × List Char)
  | [] => none
  | c :: rest =>
    match c with
    | 'x' => hex? f 2 rest
    | 'u' => hex? f 4 rest
    | 'U' => hex? f 8 rest
    | 'p' => category? f false rest
    | 'P' => category? f true rest
    | c => (ofSign? f c).map (·, rest)

end Escape

end VaultProjection.Pattern

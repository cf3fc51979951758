/-!
Tables of what holds for characters. A table is written as a text of words between blanks, in the
order of code points: a code point in base 16 or two around a dash, and behind them what holds for
all of these. A character that no word covers has no entry.
-/

namespace VaultProjection.Text

/-- What holds for the characters from a first to a last one. -/
structure CodeSpan (α : Type) where
  first : Nat
  last : Nat
  value : α
  deriving Repr

/-- Spans in the order of their characters, none of which is in two of them. -/
abbrev CodeTable (α : Type) := Array (CodeSpan α)

namespace CodeTable

variable {α : Type}

/-! ## Reading -/

def isHexDigit (c : Char) : Bool := c.isDigit || ('A' ≤ c && c ≤ 'F')

def hexValue (c : Char) : Nat := if c.isDigit then c.toNat - 48 else c.toNat - 55

/-- A code point in base 16. -/
def code (cs : List Char) : Nat := cs.foldl (fun n c => n * 16 + hexValue c) 0

/-- The words of a text and the one that is begun, all of it in reverse. -/
def addChar (done : List (List Char)) (word : List Char) (c : Char) :
    List (List Char) × List Char :=
  if c ≠ ' ' ∧ c ≠ '\n' then (done, c :: word)
  else if word.isEmpty then (done, [])
  else (word.reverse :: done, [])

def words (s : String) : List (List Char) :=
  (s.push ' ' |>.toList.foldl (fun (done, word) c => addChar done word c) ([], [])).1.reverse

/-- The span of a word; `value` reads what stands behind its code points. -/
def span (value : List Char → α) (word : List Char) : CodeSpan α :=
  let first := word.takeWhile isHexDigit
  match word.drop first.length with
  | '-' :: rest =>
    let last := rest.takeWhile isHexDigit
    ⟨code first, code last, value (rest.drop last.length)⟩
  | rest => ⟨code first, code first, value rest⟩

def read (value : List Char → α) (s : String) : CodeTable α :=
  ((words s).map (span value)).toArray

/-! ## Looking up -/

/-- The span that holds a code point, among those from the `low`-th on and before the `high`-th. -/
def search (t : CodeTable α) (n low high : Nat) : Option (CodeSpan α) :=
  if low < high then
    let mid := (low + high) / 2
    match t[mid]? with
    | none => none
    | some s =>
      if n < s.first then search t n low mid
      else if s.last < n then search t n (mid + 1) high
      else some s
  else none
termination_by high - low
decreasing_by all_goals omega

def find? (t : CodeTable α) (c : Char) : Option (CodeSpan α) := t.search c.toNat 0 t.size

def value? (t : CodeTable α) (c : Char) : Option α := (t.find? c).map (·.value)

def contains (t : CodeTable α) (c : Char) : Bool := (t.find? c).isSome

end CodeTable

end VaultProjection.Text

import VaultProjection.Text.Basic
/-!
A place in a YAML text: what is left to read, and the line and column where it starts. Lines end at
a carriage return, a line feed, both in this order, or one of three further line separators.
-/

namespace VaultProjection.Yaml

/-! ## Characters -/

def isBlank (c : Char) : Bool := c == ' ' || c == '\t'

def isBreak (c : Char) : Bool :=
  c == '\r' || c == '\n' || c == '\u0085' || c == '\u2028' || c == '\u2029'

/-- A blank, a line end, or the end of the text. -/
def endsWord : Option Char → Bool
  | none => true
  | some c => isBlank c || isBreak c

/-- A line end or the end of the text. -/
def endsLine : Option Char → Bool
  | none => true
  | some c => isBreak c

/-- A character of names: of anchors, tag handles and directives. -/
def isNameChar (c : Char) : Bool := c.isAlphanum || c == '_' || c == '-'

/-- Characters that may occur in a document. -/
def isAllowed (c : Char) : Bool :=
  let n := c.toNat
  n == 9 || n == 10 || n == 13 || (0x20 ≤ n && n ≤ 0x7E) || n == 0x85 ||
    (0xA0 ≤ n && n ≤ 0xFFFD) || 0x10000 ≤ n

/-- The mark by which a text may say that it is Unicode. -/
def byteOrderMark : Char := '\uFEFF'

/-! ## Cursors -/

structure Cursor where
  rest : List Char
  /-- The number of bytes in front of it. -/
  index : Nat
  line : Nat
  column : Nat

namespace Cursor

def start (cs : List Char) : Cursor := ⟨cs, 0, 0, 0⟩

def peek (c : Cursor) : Option Char := c.rest.head?

def peekAt (c : Cursor) (k : Nat) : Option Char := c.rest[k]?

/-- Past characters of a line. -/
def skipMany (c : Cursor) (k : Nat) : Cursor :=
  ⟨c.rest.drop k, (c.rest.take k).foldl (fun i d => i + d.utf8Size) c.index, c.line, c.column + k⟩

def skip (c : Cursor) : Cursor := c.skipMany 1

/-- Past a line end. -/
def skipLine (c : Cursor) : Cursor :=
  match c.rest with
  | '\r' :: '\n' :: rest => ⟨rest, c.index + 2, c.line + 1, 0⟩
  | d :: rest => if isBreak d then ⟨rest, c.index + d.utf8Size, c.line + 1, 0⟩ else c
  | [] => c

/-- The line end that stands here, as it counts in a text. -/
def lineEnd (c : Cursor) : List Char :=
  match c.rest with
  | d :: _ => if d = '\u2028' ∨ d = '\u2029' then [d] else if isBreak d then ['\n'] else []
  | [] => []

/-- The characters here that satisfy `p`, and the cursor after them. -/
def takeWhile (p : Char → Bool) (c : Cursor) : List Char × Cursor :=
  let taken := c.rest.takeWhile p
  (taken, c.skipMany taken.length)

def skipBlanks (c : Cursor) : Cursor := (c.takeWhile isBlank).2

/-- Up to the end of the line. -/
def skipComment (c : Cursor) : Cursor :=
  if c.peek = some '#' then (c.takeWhile (!isBreak ·)).2 else c

/-- Three equal marks stand alone at the start of a line. -/
def atMarker (mark : Char) (c : Cursor) : Bool :=
  c.column == 0 && c.peekAt 0 == some mark && c.peekAt 1 == some mark && c.peekAt 2 == some mark &&
    endsWord (c.peekAt 3)

/-- A document starts or ends here. -/
def atDocumentMarker (c : Cursor) : Bool := c.atMarker '-' || c.atMarker '.'

end Cursor

end VaultProjection.Yaml

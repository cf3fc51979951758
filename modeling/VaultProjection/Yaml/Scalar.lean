import VaultProjection.Yaml.Cursor
/-!
The text of scalars: plain, in single or double quotes, and in literal or folded blocks. All but the
literal blocks fold line ends: one becomes a space, of several the first is dropped.

The reading functions count down a number that starts above the length of the rest of the text.
-/

namespace VaultProjection.Yaml

/-! ## Gaps between words -/

/-- Blanks and line ends between two words. -/
structure Gap where
  blanks : List Char
  first : List Char
  more : List Char
  /-- A line has ended. -/
  broken : Bool

namespace Gap

def none : Gap := ⟨[], [], [], false⟩

/-- What the gap counts for in the text. -/
def folded (g : Gap) : List Char :=
  if g.broken then
    if g.first.head? = some '\n' then (if g.more.isEmpty then [' '] else g.more)
    else g.first ++ g.more
  else g.blanks

/-- Reads blanks and line ends. In a plain scalar a tab must not stand where indentation is
expected, that is before the column `level` of a new line. -/
def read (level : Nat) : Nat → Gap → Cursor → Option (Gap × Cursor)
  | 0, _, _ => Option.none
  | n + 1, g, c =>
    match c.peek with
    | Option.none => some (g, c)
    | some d =>
      if isBlank d then
        if g.broken ∧ c.column < level ∧ d = '\t' then Option.none
        else if g.broken then read level n g c.skip
        else read level n { g with blanks := g.blanks ++ [d] } c.skip
      else if isBreak d then
        if g.broken then read level n { g with more := g.more ++ c.lineEnd } c.skipLine
        else read level n ⟨[], c.lineEnd, g.more, true⟩ c.skipLine
      else some (g, c)

end Gap

/-! ## Plain scalars -/

def isFlowSign (c : Char) : Bool := c == ',' || c == '[' || c == ']' || c == '{' || c == '}'

/-- The characters of a word. A colon ends it before a blank, a flow sign inside a flow collection,
where a colon must not stand before such a sign. -/
def plainWord (flow : Bool) : List Char → Option (List Char)
  | [] => some []
  | c :: rest =>
    if isBlank c || isBreak c then some []
    else if c = ':' ∧ flow ∧ (rest.head?.any fun d => isFlowSign d || d == '?') then none
    else if c = ':' ∧ endsWord rest.head? then some []
    else if flow ∧ isFlowSign c then some []
    else (plainWord flow rest).map (c :: ·)

/-- Words and gaps, until a comment, a document marker, a sign that ends the scalar or a line that
is not indented to `level`. Also tells whether the scalar ended behind a line end. -/
def plainFrom (flow : Bool) (level : Nat) :
    Nat → List Char → Gap → Cursor → Option (List Char × Bool × Cursor)
  | 0, _, _, _ => none
  | n + 1, text, gap, c =>
    if c.atDocumentMarker ∨ c.peek = some '#' then some (text, gap.broken, c)
    else do
      let word ← plainWord flow c.rest
      let c := c.skipMany word.length
      let (text, gap) := if word.isEmpty then (text, gap) else (text ++ gap.folded ++ word, .none)
      if c.peek.any fun d => isBlank d || isBreak d then
        let (gap, c) ← Gap.read level (c.rest.length + 1) gap c
        if !flow && c.column < level then some (text, gap.broken, c)
        else plainFrom flow level n text gap c
      else some (text, gap.broken, c)

def plain (flow : Bool) (level : Nat) (c : Cursor) : Option (List Char × Bool × Cursor) :=
  plainFrom flow level (c.rest.length + 1) [] .none c

/-! ## Quoted scalars -/

def hexValue? (c : Char) : Option Nat :=
  if c.isDigit then some (c.toNat - 48)
  else if 'a' ≤ c ∧ c ≤ 'f' then some (c.toNat - 87)
  else if 'A' ≤ c ∧ c ≤ 'F' then some (c.toNat - 55)
  else none

/-- The character of a code point given by hexadecimal digits. -/
def codePoint? (digits : List Char) : Option Char := do
  let n := (← digits.mapM hexValue?).foldl (fun n d => n * 16 + d) 0
  if n.isValidChar then some (Char.ofNat n) else none

/-- The character of an escape without its backslash, and the number of signs it takes. -/
def escape? : List Char → Option (Char × Nat)
  | [] => none
  | c :: rest =>
    let coded (k : Nat) : Option (Char × Nat) :=
      if rest.length < k then none else (codePoint? (rest.take k)).map (·, k + 1)
    match c with
    | '0' => some ('\x00', 1)
    | 'a' => some ('\x07', 1)
    | 'b' => some ('\x08', 1)
    | 't' | '\t' => some ('\t', 1)
    | 'n' => some ('\n', 1)
    | 'v' => some ('\x0b', 1)
    | 'f' => some ('\x0c', 1)
    | 'r' => some ('\r', 1)
    | 'e' => some ('\x1b', 1)
    | ' ' => some (' ', 1)
    | '"' => some ('"', 1)
    | '/' => some ('/', 1)
    | '\\' => some ('\\', 1)
    | 'N' => some ('\u0085', 1)
    | '_' => some ('\u00A0', 1)
    | 'L' => some ('\u2028', 1)
    | 'P' => some ('\u2029', 1)
    | 'x' => coded 2
    | 'u' => coded 4
    | 'U' => coded 8
    | _ => none

/-- The characters up to a gap or the closing quote; a line end behind a backslash opens a gap that
counts for nothing. -/
def quotedWord (quote : Char) : Nat → List Char → Cursor → Option (List Char × Gap × Cursor)
  | 0, _, _ => none
  | n + 1, text, c =>
    match c.rest with
    | [] => some (text, .none, c)
    | d :: rest =>
      if isBlank d || isBreak d then some (text, .none, c)
      else if d = quote then
        if quote = '\'' ∧ rest.head? = some '\'' then
          quotedWord quote n (text ++ ['\'']) (c.skipMany 2)
        else some (text, .none, c)
      else if d = '\\' ∧ quote = '"' then
        if rest.head?.any isBreak then some (text, ⟨[], [], [], true⟩, c.skip.skipLine)
        else do
          let (e, k) ← escape? rest
          quotedWord quote n (text ++ [e]) (c.skipMany (k + 1))
      else quotedWord quote n (text ++ [d]) c.skip

/-- The text up to the closing quote. -/
def quotedFrom (quote : Char) : Nat → List Char → Cursor → Option (List Char × Cursor)
  | 0, _, _ => none
  | n + 1, text, c =>
    if c.atDocumentMarker ∨ c.peek.isNone then none
    else do
      let (text, gap, c) ← quotedWord quote (c.rest.length + 1) text c
      if c.peek = some quote then some (text, c.skip)
      else do
        let (gap, c) ← Gap.read 0 (c.rest.length + 1) gap c
        quotedFrom quote n (text ++ gap.folded) c

/-- A scalar from its opening quote on. -/
def quoted (quote : Char) (c : Cursor) : Option (List Char × Cursor) :=
  quotedFrom quote (c.rest.length + 1) [] c.skip

/-! ## Block scalars -/

/-- What becomes of the line ends after the last line. -/
inductive Chomping where
  | strip
  | clip
  | keep
  deriving DecidableEq

/-- The signs behind the one that opens a block, in either order. -/
def blockHeader (c : Cursor) : Option (Chomping × Nat × Cursor) :=
  let chomping? : Option Char → Option Chomping
    | some '+' => some .keep
    | some '-' => some .strip
    | _ => none
  let digit? (d : Option Char) : Option Nat :=
    d.bind fun d => if d.isDigit then some (d.toNat - 48) else none
  match chomping? c.peek with
  | some ch =>
    match digit? c.skip.peek with
    | some 0 => none
    | some k => some (ch, k, c.skipMany 2)
    | none => some (ch, 0, c.skip)
  | none =>
    match digit? c.peek with
    | some 0 => none
    | some k =>
      match chomping? c.skip.peek with
      | some ch => some (ch, k, c.skipMany 2)
      | none => some (.clip, k, c.skip)
    | none => some (.clip, 0, c)

/-- Indentation and empty lines. The indentation of a block whose `indent` is not known yet is the
widest one seen, and at least `least`. -/
def blockBreaks (least : Nat) :
    Nat → Nat → Nat → List Char → Cursor → Option (Nat × List Char × Cursor)
  | 0, _, _, _, _ => none
  | n + 1, indent, widest, breaks, c =>
    let spaces := (c.rest.takeWhile (· = ' ')).length
    let spaces := if indent = 0 then spaces else Nat.min spaces (indent - c.column)
    let c := c.skipMany spaces
    let widest := Nat.max widest c.column
    if (indent = 0 ∨ c.column < indent) ∧ c.peek = some '\t' then none
    else if c.peek.any isBreak then
      blockBreaks least n indent widest (breaks ++ c.lineEnd) c.skipLine
    else some (if indent = 0 then Nat.max widest (Nat.max least 1) else indent, breaks, c)

/-- The lines of a block, each indented to `indent`. -/
def blockLines (folds : Bool) (chomping : Chomping) (indent : Nat) :
    Nat → List Char → List Char → List Char → Bool → Cursor → Option (List Char × Cursor)
  | 0, _, _, _, _, _ => none
  | n + 1, text, lineEnd, breaks, wasBlank, c =>
    if c.column = indent ∧ c.peek.isSome then do
      let blank := c.peek.any isBlank
      let joint :=
        if folds ∧ lineEnd.head? = some '\n' ∧ !wasBlank ∧ !blank then
          (if breaks.isEmpty then [' '] else [])
        else lineEnd
      let (line, c) := c.takeWhile (!isBreak ·)
      let text := text ++ joint ++ breaks ++ line
      let lineEnd := c.lineEnd
      let c := c.skipLine
      let (_, breaks, c) ← blockBreaks 0 (c.rest.length + 1) indent 0 [] c
      blockLines folds chomping indent n text lineEnd breaks blank c
    else match chomping with
      | .strip => some (text, c)
      | .clip => some (text ++ lineEnd, c)
      | .keep => some (text ++ lineEnd ++ breaks, c)

/-- A block scalar from the sign that opens it; `level` is the column that its lines must reach at
least. -/
def block (level : Nat) (c : Cursor) : Option (List Char × Cursor) := do
  let folds := c.peek == some '>'
  let (chomping, increment, c) ← blockHeader c.skip
  let c := c.skipBlanks.skipComment
  if !endsLine c.peek then none
  let c := c.skipLine
  let indent := if increment = 0 then 0 else level - 1 + increment
  let (indent, breaks, c) ← blockBreaks level (c.rest.length + 1) indent 0 [] c
  blockLines folds chomping indent (c.rest.length + 1) [] [] breaks false c

end VaultProjection.Yaml

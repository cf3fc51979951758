import VaultProjection.Bytes
import VaultProjection.Yaml.Scalar
/-!
The tokens of a YAML text. Indentation becomes tokens that open and close block collections; a key
without a sign of its own is found when the colon behind it is met, and its tokens are then put in
front of it.
-/

namespace VaultProjection.Yaml

inductive Token where
  | version (major minor : Nat)
  | tagHandle (handle : String) (lead : Bytes)
  | documentStart
  | documentEnd
  | blockSeqStart
  | blockMapStart
  | blockEnd
  | flowSeqStart
  | flowSeqEnd
  | flowMapStart
  | flowMapEnd
  | blockEntry
  | flowEntry
  | key
  | value
  | alias (name : String)
  | anchor (name : String)
  | tag (handle : String) (suffix : Bytes)
  | scalar (text : String) (plain : Bool)
  deriving DecidableEq, Repr

/-- A place where a key may have started. -/
structure PendingKey where
  /-- Nothing but a key may stand there. -/
  required : Bool
  /-- The number of tokens before it. -/
  position : Nat
  index : Nat
  line : Nat
  column : Nat

/-- A scanner within a text. -/
structure Scanner where
  cursor : Cursor
  tokens : Array Token
  /-- The column of the innermost block collection plus one, zero outside of all. -/
  level : Nat
  /-- The levels of the collections around it, the innermost first. -/
  levels : List Nat
  /-- A possible key for the block and for each open flow collection, the innermost first. -/
  keys : List (Option PendingKey)
  /-- A key may start here. -/
  keyAllowed : Bool

namespace Scanner

def start (cs : List Char) : Scanner := ⟨.start cs, #[], 0, [], [none], true⟩

/-- Inside a flow collection. -/
def inFlow (s : Scanner) : Bool := 1 < s.keys.length

def push (s : Scanner) (t : Token) : Scanner := { s with tokens := s.tokens.push t }

/-- The token of a sign of `k` characters. -/
def sign (s : Scanner) (k : Nat) (t : Token) : Scanner :=
  { s with cursor := s.cursor.skipMany k, tokens := s.tokens.push t }

/-! ## Possible keys -/

def setKey (s : Scanner) (k : Option PendingKey) : Scanner := { s with keys := k :: s.keys.tail }

/-- No key starts at the innermost place; one that is required must not be given up. -/
def dropKey (s : Scanner) : Option Scanner :=
  match s.keys.head?.join with
  | some k => if k.required then none else some (s.setKey none)
  | none => some (s.setKey none)

/-- A key may start at the cursor. -/
def saveKey (s : Scanner) : Option Scanner :=
  if s.keyAllowed then do
    let s ← s.dropKey
    let c := s.cursor
    some (s.setKey (some
      ⟨!s.inFlow && s.level == c.column + 1, s.tokens.size, c.index, c.line, c.column⟩))
  else some s

/-- Keys end on their line and have at most 1024 bytes. -/
def dropStaleKeys (s : Scanner) : Option Scanner := do
  let keys ← s.keys.mapM fun k => match k with
    | none => some none
    | some k =>
      if k.line < s.cursor.line ∨ k.index + 1024 < s.cursor.index then
        if k.required then none else some none
      else some (some k)
  some { s with keys }

/-! ## Indentation -/

/-- Opens a block collection at a column that is further in than the innermost one. -/
def indentTo (s : Scanner) (column position : Nat) (t : Token) : Scanner :=
  if s.inFlow ∨ column < s.level then s
  else { s with
    levels := s.level :: s.levels
    level := column + 1
    tokens := s.tokens.insertIdxIfInBounds position t }

/-- Closes the block collections that are further in than `level`. -/
def closeTo (level : Nat) (s : Scanner) : Scanner :=
  if s.inFlow then s
  else
    let closed := (s.level :: s.levels).takeWhile (level < ·)
    let left := (s.level :: s.levels).drop closed.length
    { s with
      level := left.headD 0
      levels := left.tail
      tokens := s.tokens ++ (closed.map fun _ => Token.blockEnd).toArray }

/-! ## Blanks and directives -/

/-- Past blanks, comments and line ends; a new line of a block may start with a key. Tabs do not
count as blanks where a key may start. A byte order mark that starts a line takes up a column. -/
def skipSpace : Nat → Scanner → Scanner
  | 0, s => s
  | n + 1, s =>
    let c := if s.cursor.column = 0 ∧ s.cursor.peek = some byteOrderMark then s.cursor.skip
      else s.cursor
    let tabs := s.inFlow || !s.keyAllowed
    let c := (c.takeWhile fun d => d == ' ' || tabs && d == '\t').2.skipComment
    if c.peek.any isBreak then
      skipSpace n { s with cursor := c.skipLine, keyAllowed := s.keyAllowed || !s.inFlow }
    else { s with cursor := c }

/-- A number of at most nine digits. -/
def number? (c : Cursor) : Option (Nat × Cursor) :=
  let (ds, c) := c.takeWhile Char.isDigit
  if ds.isEmpty ∨ 9 < ds.length then none
  else some (ds.foldl (fun n d => n * 10 + (d.toNat - 48)) 0, c)

/-- A byte that a tag spells by two hexadecimal digits. -/
def escapedByte? : List Char → Option UInt8
  | '%' :: a :: b :: _ => do some ((← hexValue? a) * 16 + (← hexValue? b)).toUInt8
  | _ => none

def isTagChar (c : Char) : Bool := isNameChar c || ";/?:@&=+$.!~*'()".contains c

/-- The bytes of a tag; escaped ones must have the outer shape of UTF-8. -/
def tagBytes (listSigns : Bool) : Nat → Bytes → Cursor → Option (Bytes × Cursor)
  | 0, _, _ => none
  | n + 1, bytes, c =>
    match c.rest with
    | '%' :: _ => do
      let first ← escapedByte? c.rest
      let more := if first < 0x80 then 0 else if first < 0xC0 then 4 else if first < 0xE0 then 1
        else if first < 0xF0 then 2 else if first < 0xF8 then 3 else 4
      if more = 4 then none
      else
        let group ← (List.range (more + 1)).mapM fun i => escapedByte? (c.rest.drop (3 * i))
        if group.tail.all fun b => 0x80 ≤ b && b < 0xC0 then
          tagBytes listSigns n (bytes ++ group) (c.skipMany (3 * (more + 1)))
        else none
    | d :: _ =>
      if isTagChar d || listSigns && (d == ',' || d == '[' || d == ']') then
        tagBytes listSigns n (bytes ++ [d.toNat.toUInt8]) c.skip
      else some (bytes, c)
    | [] => some (bytes, c)

/-- A tag goes no further than a zero byte in it. -/
def upToZero (b : Bytes) : Bytes := b.takeWhile (· ≠ 0)

/-- Exclamation marks around a name; the second one may be missing outside of directives. -/
def tagHandle (directive : Bool) (c : Cursor) : Option (List Char × Cursor) :=
  if c.peek = some '!' then
    let (name, c) := c.skip.takeWhile isNameChar
    if c.peek = some '!' then some ('!' :: name ++ ['!'], c.skip)
    else if directive ∧ !name.isEmpty then none
    else some ('!' :: name, c)
  else none

/-- The line of a directive: its token, and nothing but a comment behind it. -/
def directive (c : Cursor) : Option (Token × Cursor) := do
  let (name, c) := c.skip.takeWhile isNameChar
  if name.isEmpty ∨ !endsWord c.peek then none
  let c := c.skipBlanks
  let (t, c) ← match String.ofList name with
    | "YAML" => do
      let (major, c) ← number? c
      if c.peek ≠ some '.' then none
      let (minor, c) ← number? c.skip
      some (Token.version major minor, c)
    | "TAG" => do
      let (handle, c) ← tagHandle true c
      if !c.peek.any isBlank then none
      let c := c.skipBlanks
      let (lead, c) ← tagBytes true (c.rest.length + 1) [] c
      if lead.isEmpty ∨ !endsWord c.peek then none
      some (Token.tagHandle (String.ofList handle) (upToZero lead), c)
    | _ => none
  let c := c.skipBlanks.skipComment
  if endsLine c.peek then some (t, c.skipLine) else none

/-! ## Names and tags -/

/-- The name of an anchor or alias, behind its sign. -/
def anchorName (c : Cursor) : Option (String × Cursor) :=
  let (name, c) := c.skip.takeWhile isNameChar
  if name.isEmpty then none
  else if endsWord c.peek || c.peek.any fun d => "?:,]\x7d%@\x60".contains d then
    some (String.ofList name, c)
  else none

def tag (inFlow : Bool) (c : Cursor) : Option (Token × Cursor) := do
  let (t, c) ←
    if c.peekAt 1 = some '<' then do
      let c := c.skipMany 2
      let (suffix, c) ← tagBytes true (c.rest.length + 1) [] c
      if suffix.isEmpty ∨ c.peek ≠ some '>' then none
      some (Token.tag "" (upToZero suffix), c.skip)
    else do
      let (handle, c) ← tagHandle false c
      let (more, c) ← tagBytes false (c.rest.length + 1) [] c
      if 1 < handle.length ∧ handle.getLast? = some '!' then
        if more.isEmpty then none
        some (Token.tag (String.ofList handle) (upToZero more), c)
      else
        let suffix := upToZero (Bytes.ofText (String.ofList handle.tail) ++ more)
        some (if suffix.isEmpty then Token.tag "" (Bytes.ofText "!") else Token.tag "!" suffix, c)
  if endsWord c.peek ∨ inFlow ∧ c.peek = some ',' then some (t, c) else none

/-! ## Tokens -/

/-- The end of all blocks, in front of a directive or a document marker. -/
def closeAll (s : Scanner) : Option Scanner := do
  let s ← (s.closeTo 0).dropKey
  some { s with keyAllowed := false }

def openFlow (s : Scanner) (t : Token) : Option Scanner := do
  let s ← s.saveKey
  some ({ s with keys := none :: s.keys, keyAllowed := true }.sign 1 t)

def closeFlow (s : Scanner) (t : Token) : Option Scanner := do
  let s ← s.dropKey
  some ({ s with keys := if s.inFlow then s.keys.tail else s.keys, keyAllowed := false }.sign 1 t)

def fetchBlockEntry (s : Scanner) : Option Scanner := do
  if !s.inFlow && !s.keyAllowed then none
  let s ← (s.indentTo s.cursor.column s.tokens.size .blockSeqStart).dropKey
  some ({ s with keyAllowed := true }.sign 1 .blockEntry)

def fetchKey (s : Scanner) : Option Scanner := do
  if !s.inFlow && !s.keyAllowed then none
  let s ← (s.indentTo s.cursor.column s.tokens.size .blockMapStart).dropKey
  some ({ s with keyAllowed := !s.inFlow }.sign 1 .key)

def fetchValue (s : Scanner) : Option Scanner :=
  match s.keys.head?.join with
  | some k =>
    let s := { s with tokens := s.tokens.insertIdxIfInBounds k.position .key }
    let s := (s.indentTo k.column k.position .blockMapStart).setKey none
    some ({ s with keyAllowed := false }.sign 1 .value)
  | none =>
    if !s.inFlow && !s.keyAllowed then none
    else
      let s := s.indentTo s.cursor.column s.tokens.size .blockMapStart
      some ({ s with keyAllowed := !s.inFlow }.sign 1 .value)

/-- A token that may be a key or stand in front of one. -/
def fetchNode (s : Scanner) (read : Cursor → Option (Token × Cursor)) : Option Scanner := do
  let s ← s.saveKey
  let (t, c) ← read s.cursor
  some ({ s with cursor := c, keyAllowed := false }.push t)

def fetchBlock (s : Scanner) : Option Scanner := do
  let s ← s.dropKey
  let (text, c) ← block s.level s.cursor
  some ({ s with cursor := c, keyAllowed := true }.push (.scalar (String.ofList text) false))

def fetchPlain (s : Scanner) : Option Scanner := do
  let s ← s.saveKey
  let (text, broken, c) ← plain s.inFlow s.level s.cursor
  some ({ s with cursor := c, keyAllowed := broken }.push (.scalar (String.ofList text) true))

/-- Signs that cannot start a plain scalar. -/
def startsPlain (s : Scanner) (d : Char) : Bool :=
  let next := s.cursor.peekAt 1
  if d = '-' then !next.any isBlank
  else if d = '?' ∨ d = ':' then !s.inFlow && !endsWord next
  else !isBlank d && !",[]\x7b\x7d#&*!|>'\"%@\x60".contains d

/-- The token that starts at the cursor. -/
def fetch (s : Scanner) (d : Char) : Option Scanner :=
  let next := s.cursor.peekAt 1
  if s.cursor.column = 0 ∧ d = '%' then do
    let s ← s.closeAll
    let (t, c) ← directive s.cursor
    some ({ s with cursor := c }.push t)
  else if s.cursor.atMarker '-' then s.closeAll.map (·.sign 3 .documentStart)
  else if s.cursor.atMarker '.' then s.closeAll.map (·.sign 3 .documentEnd)
  else if d = '[' then s.openFlow .flowSeqStart
  else if d = '{' then s.openFlow .flowMapStart
  else if d = ']' then s.closeFlow .flowSeqEnd
  else if d = '}' then s.closeFlow .flowMapEnd
  else if d = ',' then s.dropKey.map fun s => { s with keyAllowed := true }.sign 1 .flowEntry
  else if d = '-' ∧ endsWord next then s.fetchBlockEntry
  else if d = '?' ∧ (s.inFlow ∨ endsWord next) then s.fetchKey
  else if d = ':' ∧ (s.inFlow ∨ endsWord next) then s.fetchValue
  else if d = '*' then s.fetchNode fun c => (anchorName c).map fun (n, c) => (.alias n, c)
  else if d = '&' then s.fetchNode fun c => (anchorName c).map fun (n, c) => (.anchor n, c)
  else if d = '!' then s.fetchNode (tag s.inFlow)
  else if (d = '|' ∨ d = '>') ∧ !s.inFlow then s.fetchBlock
  else if d = '\'' ∨ d = '"' then
    s.fetchNode fun c => (quoted d c).map fun (t, c) => (.scalar (String.ofList t) false, c)
  else if s.startsPlain d then s.fetchPlain
  else none

/-- Reads tokens up to the end of the text; each takes at least one character. -/
def run : Nat → Scanner → Option Scanner
  | 0, _ => none
  | n + 1, s => do
    let s ← (s.skipSpace (s.cursor.rest.length + 1)).dropStaleKeys
    let s := s.closeTo (s.cursor.column + 1)
    match s.cursor.peek with
    | none => (s.closeTo 0).dropKey
    | some d => run n (← s.fetch d)

end Scanner

/-- The tokens of a text, if it is one. -/
def tokens? (cs : List Char) : Option (List Token) :=
  if cs.all isAllowed then
    ((Scanner.start cs).run (cs.length + 2)).map (·.tokens.toList)
  else none

end VaultProjection.Yaml
